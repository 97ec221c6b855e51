import ServiceDocs.Text.Quoted

namespace ServiceDocs.Program

/-!
# Why a program breaks off

* `Fault` — the causes;
* `Fault.kind` — the class of errors that a cause belongs to;
* `Fault.message` — a cause in words;
* `Fault.isExpected` — whether a run reports the cause instead of breaking off itself.

A cause that speaks of an object holds the object as messages show it.
-/

/-- The exception with which a program breaks off. -/
inductive Fault
  -- Importing
  | emptyModuleName
  /-- A name that starts with a dot means nothing outside of a module. -/
  | relativeName (name : String)
  /-- A name that starts with dots is used in a module that has nothing above it. -/
  | noParentModule
  /-- A name starts with more dots than there are modules above. -/
  | beyondTopModule
  | moduleNotFound (name : String)
  /-- The module above the wanted one has no modules below it. -/
  | notPackage (name parent : String)
  /-- The module has nothing of that name. -/
  | notExported (name module : String)
  /-- The module still runs and does not have the wanted name yet. -/
  | notExportedYet (name module : String)
  /-- The module has nothing of that name and does not know where it comes from. -/
  | notExportedAnywhere (name module : String)
  /-- The program itself raises an error; `bases` are the classes of errors that the error is of. -/
  | raised (kind : String) (bases : List String) (message : String)
  -- Names and attributes
  | unknownName (name : String)
  /-- The owner is shown as what it is and what it is called. -/
  | noAttribute (owner name : String)
  /-- The module still runs and has not come to the name yet. -/
  | notYet (module name : String)
  /-- The message is the name alone. -/
  | noMember (name : String)
  -- Types with arguments
  | notSubscriptable (subject : String)
  | notGeneric (subject : String)
  | argumentCount (subject : String) (actual expected : Nat)
  /-- Something has no item under a key. -/
  | noItem (key : String)
  | indexRange (kind : String)
  /-- The items of a text, list or tuple are numbered. -/
  | badIndex (kind index : String)
  /-- A special word stands alone in place of a type. -/
  | plainForm (subject : String)
  /-- A type that may not be used inside another type. -/
  | misplacedType (subject : String)
  /-- Something that is no type stands in place of a type; `rule` says what should stand there. -/
  | notType (rule shown : String)
  | callableShape
  | callableArguments (shown : String)
  | emptyUnion
  | emptyConcatenation
  | openConcatenation
  | annotatedCount
  | noParameters (name : String)
  | notParameters (name : String)
  | sameParameters (name : String)
  | unhashable (kind : String)
  | badOperands (operator left right : String)
  | badOperand (operator kind : String)
  /-- Neither of two objects comes first. -/
  | notComparable (operator left right : String)
  /-- Objects of a class hold no others. -/
  | notContainer (kind : String)
  /-- A text in place of a type is none. -/
  | badForward (text : String)
  | emptyForward
  /-- A text in place of a type holds a character that no program may hold. -/
  | nullByte
  /-- Texts in place of types lead to one another without end. -/
  | tooDeep
  -- Calls
  | notCallable (kind : String)
  | noArgumentsTaken (name : String)
  | tooManyArguments (name : String) (fewest most given : Nat)
  | missingArguments (name : String) (kind : String) (names : List String)
  /-- A marker cannot be put on such an object. -/
  | unmarkable (kind : String)
  /-- Nothing is known about the outcome of a call. -/
  | unknownOutcome
  | notException
  -- Assignments
  | tooFewValues (expected actual : Nat)
  | tooManyValues (expected : Nat)
  | notUnpackable (kind : String)
  | notIterable (kind : String)
  | notMapping (kind : String)
  -- Classes
  | noClassOrder (bases : List String)
  | sameBaseTwice (name : String)
  | finalBase (name : String)
  | metaclassConflict
  | layoutConflict
  | badCall (message : String)
  | sealedBase (subject : String)
  | sealedTyping
  | plainGeneric
  | qualifiedNameNotText (kind : String)
  /-- Instances cannot be restricted to attributes because each has a size of its own. -/
  | slotsOfSized (name : String)
  | slotNotText (kind : String)
  | slotNotName
  | slotTaken (name : String)
  /-- What a class keeps its hints in is no mapping. -/
  | noHintMapping (subject : String)
  /-- Objects of a class have no items that could be replaced. -/
  | notAssignable (kind : String)
  /-- Instances can have any attributes already. -/
  | slotForAll
  /-- Instances can be referred to without being kept already, or never can. -/
  | slotForReferences
  -- Enumerations
  | reservedName (name : String)
  | alreadyDefined (name shown : String)
  | ignoredTooLate (shown : String)
  /-- A body says how to give values to constants after some have been given values. -/
  | lateNumbering
  | badMemberName (shown : String)
  /-- An enumeration with constants cannot be built on; the name is shown as messages show it. -/
  | cannotExtend (name base : String)
  | mixinOrder
  /-- The values of an enumeration would have to be instances of several classes. -/
  | dataTypes (name : String) (types : List String)
  | notText (shown : String)
  | notNumber (target kind : String)
  | badNumber (target shown : String)
  /-- A text says no whole number in a base. -/
  | badWhole (base : Nat) (shown : String)
  /-- A text has more digits than whole numbers are read from. -/
  | tooManyDigits (most count : Nat)
  | memberOrder (members wanted : String)
  /-- The name of a constant is no text. -/
  | noLength (kind : String)
  /-- The values of the enumeration have to be made into instances of some class. -/
  | noDataType
  /-- What makes the instances gives back nothing that could have a value. -/
  | valueNotSet
  /-- No constant of the enumeration has the value. -/
  | noConstant (shown enumeration : String)
  -- Records
  | mutableDefault (kind name : String)
  | defaultOrder (name : String)
  | keywordOnlyTwice (name : String)
  deriving DecidableEq, Repr, Inhabited

namespace Fault

open Text (quoted)

/-- The name of the exception class. -/
def kind : Fault → String
  | raised kind _ _ => kind
  | moduleNotFound _ | notPackage _ _ => "ModuleNotFoundError"
  | noParentModule | beyondTopModule | notExported _ _ | notExportedYet _ _
  | notExportedAnywhere _ _ => "ImportError"
  | unknownName _ => "NameError"
  | noAttribute _ _ | notYet _ _ | noMember _ | unmarkable _ => "AttributeError"
  | noItem _ => "KeyError"
  | indexRange _ | emptyForward => "IndexError"
  | badForward _ => "SyntaxError"
  | tooDeep => "RecursionError"
  | unknownOutcome => "RuntimeError"
  | emptyModuleName | tooFewValues _ _ | tooManyValues _ | reservedName _ | ignoredTooLate _
  | slotTaken _ | noHintMapping _ | badMemberName _ | badNumber _ _ | badWhole _ _
  | tooManyDigits _ _ | noConstant _ _ | mutableDefault _ _ | nullByte =>
    "ValueError"
  | _ => "TypeError"

/-- `a, b, and c`. -/
def andList : List String → String
  | [] => ""
  | [a] => a
  | [a, b] => a ++ " and " ++ b
  | as => String.intercalate ", " as.dropLast ++ ", and " ++ as.getLastD ""

/-- `n positional arguments`, or `from m to n positional arguments` for a function with defaults. -/
def arity (fewest most : Nat) : String :=
  let number := if fewest = most then toString most else "from " ++ toString fewest ++ " to " ++
    toString most
  number ++ " positional argument" ++ if most = 1 && fewest = most then "" else "s"

/-- The text of the exception, one branch for each constructor of `Fault`. -/
def message : Fault → String
  | emptyModuleName => "Empty module name"
  | relativeName name =>
    "the 'package' argument is required to perform a relative import for " ++ quoted name
  | noParentModule => "attempted relative import with no known parent package"
  | beyondTopModule => "attempted relative import beyond top-level package"
  | moduleNotFound name => "No module named " ++ quoted name
  | notPackage name parent =>
    "No module named " ++ quoted name ++ "; " ++ quoted parent ++ " is not a package"
  | notExported name module => "cannot import name " ++ quoted name ++ " from " ++ quoted module
  | notExportedYet name module =>
    "cannot import name " ++ quoted name ++ " from partially initialized module " ++
      quoted module ++ " (most likely due to a circular import)"
  | notExportedAnywhere name module =>
    "cannot import name " ++ quoted name ++ " from " ++ quoted module ++ " (unknown location)"
  | raised _ _ message => message
  | unknownName name => "name " ++ quoted name ++ " is not defined"
  | noAttribute owner name => owner ++ " has no attribute " ++ quoted name
  | notYet module name =>
    "partially initialized module " ++ quoted module ++ " has no attribute " ++ quoted name ++
      " (most likely due to a circular import)"
  | noMember name => name
  | notSubscriptable subject => subject ++ " is not subscriptable"
  | notGeneric subject => subject ++ " is not a generic class"
  | argumentCount subject actual expected =>
    "Too " ++ (if expected < actual then "many" else "few") ++ " arguments for " ++ subject ++
      "; actual " ++ toString actual ++ ", expected " ++ toString expected
  | noItem key => key
  | indexRange kind => kind ++ " index out of range"
  | badIndex kind index =>
    if kind = "string" then "string indices must be integers, not " ++ quoted index
    else kind ++ " indices must be integers or slices, not " ++ index
  | plainForm subject => "Plain " ++ subject ++ " is not valid as type argument"
  | misplacedType subject => subject ++ " is not valid as type argument"
  | notType rule shown => rule ++ " Got " ++ shown ++ "."
  | callableShape => "Callable must be used as Callable[[arg, ...], result]."
  | callableArguments shown =>
    "Expected a list of types, an ellipsis, ParamSpec, or Concatenate. Got " ++ shown
  | emptyUnion => "Cannot take a Union of no types."
  | emptyConcatenation => "Cannot take a Concatenate of no types."
  | openConcatenation =>
    "The last parameter to Concatenate should be a ParamSpec variable or ellipsis."
  | annotatedCount =>
    "Annotated[...] should be used with at least two arguments (a type and an annotation)."
  | noParameters name => "Parameter list to " ++ name ++ "[...] cannot be empty"
  | notParameters name =>
    "Parameters to " ++ name ++ "[...] must all be type variables or parameter specification " ++
      "variables."
  | sameParameters name => "Parameters to " ++ name ++ "[...] must all be unique"
  | unhashable kind => "unhashable type: " ++ quoted kind
  | badOperands operator left right =>
    "unsupported operand type(s) for " ++ operator ++ ": " ++ quoted left ++ " and " ++ quoted right
  | badOperand operator kind => "bad operand type for unary " ++ operator ++ ": " ++ quoted kind
  | notComparable operator left right =>
    quoted operator ++ " not supported between instances of " ++ quoted left ++ " and " ++
      quoted right
  | notContainer kind => "argument of type " ++ quoted kind ++ " is not iterable"
  | badForward text => "Forward reference must be an expression -- got " ++ quoted text
  | emptyForward => "string index out of range"
  | nullByte => "source code string cannot contain null bytes"
  | tooDeep => "maximum recursion depth exceeded"
  | notCallable kind => quoted kind ++ " object is not callable"
  | noArgumentsTaken name => name ++ "() takes no arguments"
  | tooManyArguments name fewest most given =>
    name ++ "() takes " ++ arity fewest most ++ " but " ++ toString given ++
      (if given = 1 then " was" else " were") ++ " given"
  | missingArguments name kind names =>
    name ++ "() missing " ++ toString names.length ++ " required " ++ kind ++ " argument" ++
      (if names.length = 1 then "" else "s") ++ ": " ++ andList (names.map quoted)
  | unmarkable kind => quoted kind ++ " object has no attribute '__dict__'"
  | unknownOutcome => "the outcome of a call is not known"
  | notException => "exceptions must derive from BaseException"
  | tooFewValues expected actual =>
    "not enough values to unpack (expected " ++ toString expected ++ ", got " ++ toString actual ++
      ")"
  | tooManyValues expected => "too many values to unpack (expected " ++ toString expected ++ ")"
  | notUnpackable kind => "cannot unpack non-iterable " ++ kind ++ " object"
  | notMapping kind => quoted kind ++ " object is not a mapping"
  | notIterable kind => quoted kind ++ " object is not iterable"
  | noClassOrder bases =>
    "Cannot create a consistent method resolution\norder (MRO) for bases " ++
      String.intercalate ", " bases
  | sameBaseTwice name => "duplicate base class " ++ name
  | finalBase name => "type " ++ quoted name ++ " is not an acceptable base type"
  | metaclassConflict =>
    "metaclass conflict: the metaclass of a derived class must be a (non-strict) subclass of the "
      ++
      "metaclasses of all its bases"
  | layoutConflict => "multiple bases have instance lay-out conflict"
  | badCall message => message
  | sealedBase subject => "Cannot subclass " ++ subject
  | sealedTyping => "Cannot subclass special typing classes"
  | plainGeneric => "Cannot inherit from plain Generic"
  | qualifiedNameNotText kind => "type __qualname__ must be a str, not " ++ kind
  | slotsOfSized name => "nonempty __slots__ not supported for subtype of " ++ quoted name
  | slotNotText kind => "__slots__ items must be strings, not " ++ quoted kind
  | slotNotName => "__slots__ must be identifiers"
  | slotTaken name => quoted name ++ " in __slots__ conflicts with class variable"
  | noHintMapping subject => subject ++ ".__annotations__ is neither a dict nor None"
  | notAssignable kind => quoted kind ++ " object does not support item assignment"
  | slotForAll => "__dict__ slot disallowed: we already got one"
  | slotForReferences =>
    "__weakref__ slot disallowed: either we already got one, or __itemsize__ != 0"
  | reservedName name =>
    "_sunder_ names, such as " ++ quoted name ++ ", are reserved for future Enum use"
  | alreadyDefined name shown => quoted name ++ " already defined as " ++ shown
  | lateNumbering => "_generate_next_value_ must be defined before members"
  | ignoredTooLate shown => "_ignore_ cannot specify already set names: " ++ shown
  | badMemberName shown => "invalid enum member name(s) " ++ shown
  | cannotExtend name base => "<enum " ++ name ++ "> cannot extend " ++ base
  | mixinOrder =>
    "new enumerations should be created as `EnumName([mixin_type, ...] [data_type,] enum_type)`"
  | dataTypes name types =>
    "too many data types for " ++ quoted name ++ ": \x7b" ++ String.intercalate ", " types ++ "\x7d"
  | notText shown => shown ++ " is not a string"
  | notNumber target kind =>
    target ++ "() argument must be a string" ++
      (if target = "int" then ", a bytes-like object or a real number, not " else
        " or a real number, not ") ++ quoted kind
  | badNumber target shown => "could not convert string to " ++ target ++ ": " ++ shown
  | badWhole base shown => "invalid literal for int() with base " ++ toString base ++ ": " ++ shown
  | tooManyDigits most count =>
    "Exceeds the limit (" ++ toString most ++
      " digits) for integer string conversion: value has " ++ toString count ++
      " digits; use sys.set_int_max_str_digits() to increase the limit"
  | memberOrder members wanted =>
    "member order does not match _order_:\n  " ++ members ++ "\n  " ++ wanted
  | noLength kind => "object of type " ++ quoted kind ++ " has no len()"
  | noDataType =>
    "ReprEnum subclasses must be mixed with a data type (i.e. int, str, float, etc.)"
  | valueNotSet => "_value_ not set in __new__, unable to create it"
  | noConstant shown enumeration => shown ++ " is not a valid " ++ enumeration
  | mutableDefault kind name =>
    "mutable default <class " ++ quoted kind ++ "> for field " ++ name ++
      " is not allowed: use default_factory"
  | defaultOrder name => "non-default argument " ++ quoted name ++ " follows default argument"
  | keywordOnlyTwice name =>
    quoted name ++ " is KW_ONLY, but KW_ONLY has already been specified"

/-- Whether the exception is an `ImportError`. -/
def isExpected : Fault → Bool
  | raised kind bases _ => (kind :: bases).contains "ImportError"
  | e => e.kind == "ImportError" || e.kind == "ModuleNotFoundError"

example : (argumentCount "typing.List" 2 1).message =
    "Too many arguments for typing.List; actual 2, expected 1" := by decide +kernel

end Fault

end ServiceDocs.Program
