import ServiceDocs.Text.WholeNumber

namespace ServiceDocs.CommandLine

/-!
# Options

How a command line is taken apart.  Options have long names, which may be shortened as long as one
option is meant, and one-letter names, which may be written together; a value is the next argument,
or stands in the same one.

* `OptionSpec` — an option with its names;
* `Stop` — the command line is refused, or asks for help;
* `classify`, `classifyAll` — whether each argument is an option;
* `OptionValue` — the value of an option, which may be lost;
* `attached` — what is written in one argument with an option;
* `parse` — the options that are used, in order, and the arguments that are left.

Everything from the first argument that is no option belongs to the command, where one is expected.
Arguments after `--` are no options.
-/

/-- What an option does. -/
inductive OptionKind
  /-- Asks for help. -/
  | help
  /-- Says yes. -/
  | flag
  /-- Has a value. -/
  | value
  deriving DecidableEq, Repr

/-- An option with its names. -/
structure OptionSpec (κ : Type) where
  names : List String
  kind : OptionKind
  key : κ

/-- Why a command line is not carried out. -/
inductive Stop
  | usage
  | help
  deriving DecidableEq, Repr

/-- The exit code. -/
def Stop.code : Stop → Nat
  | .usage => 2
  | .help => 0

/-- What an argument is. -/
inductive ArgumentClass (κ : Type)
  | plain
  /-- The argument `--`. -/
  | separator
  /-- An option, with what stands in the same argument. -/
  | option (spec : OptionSpec κ) (isShort : Bool) (attached : Option (List Char))
  | unknownOption

/-! ### Which arguments are options -/

variable {κ : Type}

/-- The option of a name. -/
def named? (specs : List (OptionSpec κ)) (name : List Char) : Option (OptionSpec κ) :=
  specs.find? fun s => s.names.contains (String.ofList name)

/-- Whether a name is a one-letter name: only one dash is before the letter. -/
def isShortName (name : List Char) : Bool := name.drop 1 |>.head? |>.all (· != '-')

/-- The name before the first `=` and the text after it. -/
def splitEquals (arg : List Char) : List Char × Option (List Char) :=
  if '=' ∈ arg then (arg.takeWhile (· != '='), some ((arg.dropWhile (· != '=')).drop 1))
  else (arg, none)

/-- The options that an argument may be a shorter form of, one for each name that it shortens; of a
    one-letter name, the rest of the argument is what is attached. -/
def abbreviated (specs : List (OptionSpec κ)) (arg : List Char) :
    List (OptionSpec κ × Option (List Char)) :=
  specs.flatMap fun spec => spec.names.filterMap fun name =>
    if isShortName arg then
      if name.toList = arg.take 2 then some (spec, some (arg.drop 2))
      else if arg.isPrefixOf name.toList then some (spec, none)
      else none
    else
      let (start, rest) := splitEquals arg
      if start.isPrefixOf name.toList then some (spec, rest) else none

/-- Whether digits, and nothing else, are left of a text up to a line break at its end. -/
def isDigits (cs : List Char) : Bool :=
  let ds := if cs.getLast? = some '\n' then cs.dropLast else cs
  !ds.isEmpty && ds.all Text.isDigit

/-- Whether an argument is a negative number: digits of any script after a dash, perhaps with a
    point before the last of them. -/
def isNegativeNumber : List Char → Bool
  | '-' :: cs =>
    match cs.dropWhile Text.isDigit with
    | '.' :: fraction => isDigits fraction
    | _ => isDigits cs
  | _ => false

/-- What an argument is.  An argument that could be several options is refused. -/
def classify (specs : List (OptionSpec κ)) (arg : List Char) :
    Except Stop (ArgumentClass κ) :=
  if arg.head? ≠ some '-' then .ok .plain
  else
    match named? specs arg with
    | some spec => .ok (.option spec (isShortName arg) none)
    | none =>
      if arg.length = 1 then .ok .plain
      else
        let (name, rest) := splitEquals arg
        match rest, named? specs name with
        | some a, some spec => .ok (.option spec (isShortName name) (some a))
        | _, _ =>
          match abbreviated specs arg with
          | [(spec, rest)] => .ok (.option spec (isShortName arg) rest)
          | _ :: _ => .error .usage
          | [] => .ok (if isNegativeNumber arg || arg.contains ' ' then .plain else .unknownOption)

/-- Every argument with what it is. -/
def classifyAll (specs : List (OptionSpec κ)) :
    List String → Except Stop (List (String × ArgumentClass κ))
  | [] => .ok []
  | arg :: args =>
    if arg = "--" then .ok ((arg, .separator) :: args.map (·, .plain))
    else do
      let c ← classify specs arg.toList
      let cs ← classifyAll specs args
      .ok ((arg, c) :: cs)

/-! ### What options are used -/

/-- The value of an option. -/
inductive OptionValue
  | text (s : String)
  /-- The value is written as `--`, which is dropped as if it parted arguments. -/
  | lost
  deriving DecidableEq, Repr

/-- The text of a value. -/
def OptionValue.text? : OptionValue → Option String
  | text s => some s
  | lost => none

/-- The value that is attached to an option. -/
def OptionValue.ofAttached (cs : List Char) : OptionValue :=
  if cs = ['-', '-'] then .lost else .text (String.ofList cs)

/-- The use of an option, with its value if it has one. -/
structure Use (κ : Type) where
  kind : OptionKind
  key : κ
  value : Option OptionValue

/-- What an argument with an option comes to. -/
structure Cluster (κ : Type) where
  uses : List (Use κ)
  /-- An option that may take the next argument as its value. -/
  pending : Option (OptionSpec κ)

/-- What an option with something attached comes to.  The attached text is the value of an option
    that has one; after a one-letter option without value, further such options may follow. -/
def attached (specs : List (OptionSpec κ)) (spec : OptionSpec κ) (isShort : Bool) :
    List Char → Except Stop (Cluster κ)
  | [] =>
    match spec.kind with
    | .value => .ok ⟨[⟨.value, spec.key, some (.ofAttached [])⟩], none⟩
    | _ => .error .usage
  | c :: cs =>
    match spec.kind with
    | .value => .ok ⟨[⟨.value, spec.key, some (.ofAttached (c :: cs))⟩], none⟩
    | kind =>
      match named? specs ['-', c] with
      | none => .error .usage
      | some next =>
        if !isShort then .error .usage
        else
          let first : Use κ := ⟨kind, spec.key, none⟩
          match cs with
          | [] => .ok ⟨[first], some next⟩
          | d :: rest =>
            (attached specs next true (d :: rest)).map fun r => { r with uses := first :: r.uses }

/-- What an option comes to before the next argument is looked at. -/
def cluster (specs : List (OptionSpec κ)) (spec : OptionSpec κ) (isShort : Bool) :
    Option (List Char) → Except Stop (Cluster κ)
  | none => .ok ⟨[], some spec⟩
  | some text => attached specs spec isShort text

/-- A command line, taken apart. -/
structure Parsed (κ : Type) where
  uses : List (Use κ)
  /-- The command and all after it. -/
  command : Option (List String)
  /-- Arguments that have no meaning. -/
  unknown : List String

/-- The parts of a command line after the uses of options. -/
def Parsed.afterUses (uses : List (Use κ)) (rest : Except Stop (Parsed κ)) :
    Except Stop (Parsed κ) :=
  if uses.any (·.kind = .help) then .error .help
  else rest.map fun r => { r with uses := uses ++ r.uses }

/-- The parts of a command line after an argument that has no meaning. -/
def Parsed.afterUnknown (arg : String) (rest : Except Stop (Parsed κ)) : Except Stop (Parsed κ) :=
  rest.map fun r => { r with unknown := arg :: r.unknown }

/-- Takes classified arguments apart, one after the other. -/
def consume (specs : List (OptionSpec κ)) (takesCommand : Bool) :
    List (String × ArgumentClass κ) → Except Stop (Parsed κ)
  | [] => .ok ⟨[], none, []⟩
  | (arg, .plain) :: rest =>
    if takesCommand then .ok ⟨[], some (arg :: rest.map Prod.fst), []⟩
    else Parsed.afterUnknown arg (consume specs takesCommand rest)
  | (arg, .separator) :: rest =>
    if takesCommand && !rest.isEmpty then .ok ⟨[], some (arg :: rest.map Prod.fst), []⟩
    else Parsed.afterUnknown arg (consume specs takesCommand rest)
  | (arg, .unknownOption) :: rest => Parsed.afterUnknown arg (consume specs takesCommand rest)
  | (_, .option spec isShort a) :: rest =>
    match cluster specs spec isShort a with
    | .error e => .error e
    | .ok c =>
      match c.pending with
      | none => Parsed.afterUses c.uses (consume specs takesCommand rest)
      | some next =>
        match next.kind, rest with
        | .value, (v, .plain) :: rest =>
          Parsed.afterUses (c.uses ++ [⟨.value, next.key, some (.text v)⟩])
            (consume specs takesCommand rest)
        | .value, _ => .error .usage
        | kind, rest =>
          Parsed.afterUses (c.uses ++ [⟨kind, next.key, none⟩]) (consume specs takesCommand rest)

/-- Takes a command line apart. -/
def parse (specs : List (OptionSpec κ)) (takesCommand : Bool) (args : List String) :
    Except Stop (Parsed κ) := do
  consume specs takesCommand (← classifyAll specs args)

end ServiceDocs.CommandLine
