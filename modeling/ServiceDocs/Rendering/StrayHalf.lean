import ServiceDocs.Markup.Html
import ServiceDocs.Rendering.Endpoints
import ServiceDocs.Text.Utf8

namespace ServiceDocs.Rendering

open Json (isHalf isPair)
open Markup (Node Page)

/-!
# Halves of characters on a page

JSON text may have the escape of half a character without the other half.  In the canonical layout
of an example the half stands for itself, and a page with such a half has no bytes in UTF-8.

* `codePoints` — the code points of a string, halves among them;
* `spreadStrings`, `gather` — two characters in the place of each one, and back again;
* `canonicalPoints` — the code points of JSON text in its canonical layout;
* `StrayHalf` — the first half on its own, and the text before it;
* `exampleHalf?`, `requestHalf?`, `responseHalf?` — the first half of an example;
* `examplesToHalf?`, `sectionsToHalf?` — the part of the page up to the first half;
* `encodeFault?` — why the bytes of a page end early, if they do.

A half of a character comes from examples alone: no other text of a page is unescaped.
-/

/-! ### Strings with halves -/

/-- The code points of a string from its code units: two halves of one character are joined. -/
def codePoints : List Nat → List Nat
  | [] => []
  | n :: ns =>
    match ns with
    | m :: ns' =>
      if isPair n m then (0x10000 + (n - 0xD800) * 0x400 + (m - 0xDC00)) :: codePoints ns'
      else n :: codePoints (m :: ns')
    | [] => [n]

/-- Two characters in the place of a code point.  They stand for themselves in JSON, and compare as
    the code points do. -/
def spread (n : Nat) : List Char :=
  [Char.ofNat (0x100 + n / 0x1000), Char.ofNat (0x1000 + n % 0x1000)]

/-- A JSON text with all its strings spread. -/
def spreadStrings : List Char → List Char
  | [] => []
  | c :: cs =>
    if c = '"' then
      match _h : Json.stringBody cs with
      | .ok (units, rest) => '"' :: (codePoints units).flatMap spread ++ '"' :: spreadStrings rest
      | .error _ => c :: cs
    else c :: spreadStrings cs
termination_by cs => cs.length
decreasing_by
  · have := Json.length_lt_of_stringBody ‹_›
    simp only [List.length_cons]
    omega
  · simp

/-- The code points that stand for a code point in a JSON string. -/
def pointText (n : Nat) : List Nat :=
  if isHalf n then [n] else (Json.stringChar (Char.ofNat n)).map Char.toNat

/-- The code points of a JSON text with all its strings spread. -/
def gather : List Char → List Nat
  | c :: d :: cs =>
    if c.toNat < 0x100 then c.toNat :: gather (d :: cs)
    else pointText ((c.toNat - 0x100) * 0x1000 + (d.toNat - 0x1000)) ++ gather cs
  | [c] => [c.toNat]
  | [] => []

/-- The code points of JSON text in its canonical layout. -/
def canonicalPoints (s : String) : List Nat :=
  match Json.read (String.ofList (spreadStrings s.toList)) with
  | .ok v => gather v.canonical.toList
  | .error _ => []

/-! ### The first half -/

/-- The first half of a character that stands on its own in a text. -/
structure StrayHalf where
  /-- The text before it. -/
  before : String
  half : Nat
  /-- How many halves follow one another. -/
  length : Nat
  deriving DecidableEq, Repr

/-- The first half among some code points. -/
def strayHalf? (points : List Nat) : Option StrayHalf :=
  match points.dropWhile (!isHalf ·) with
  | [] => none
  | half :: rest =>
    some ⟨String.ofList ((points.takeWhile (!isHalf ·)).map Char.ofNat), half,
      (rest.takeWhile isHalf).length + 1⟩

/-- The half with more text before it. -/
def StrayHalf.after (text : String) (h : StrayHalf) : StrayHalf :=
  { h with before := text ++ h.before }

/-- The first half of an example in the layout in which it is shown.  Only JSON is unescaped. -/
def exampleHalf? (mediaType : Option String) (s : String) : Option StrayHalf :=
  if mediaType = some jsonMediaType ∧ Json.hasLoneHalf s = true then strayHalf? (canonicalPoints s)
  else none

example : exampleHalf? (some "application/json") "[\"\\ud83d\\ude00\\ud83d\"]" =
    some ⟨"[\n  \"😀", 0xd83d, 1⟩ := by decide +kernel

/-- The first half of an example request. -/
def requestHalf? (e : Endpoint) (config : RenderConfig) : Option StrayHalf :=
  match e.exampleRequest with
  | none => none
  | some body =>
    if e.method = some "GET" then none
    else
      (exampleHalf? e.consumes body).map
        (.after (String.intercalate "\n" (optionLines e config ++ ["    -d'"])))

/-- The first half of an example response. -/
def responseHalf? (e : Endpoint) : Option StrayHalf :=
  e.exampleResponse.bind (exampleHalf? e.produces)

/-! ### Pages -/

/-- The examples of an endpoint up to the first half. -/
def examplesToHalf? (config : RenderConfig) (e : Endpoint) : Option (List Node × StrayHalf) :=
  if e.exampleResponse.isSome || e.exampleArgs.isSome then
    match exampleRequest e config with
    | .error _ => none
    | .ok request =>
      match requestHalf? e config with
      | some h => some ([exampleParagraph "Example Request:" h.before], h)
      | none =>
        (responseHalf? e).map fun h =>
          ([exampleParagraph "Example Request:" request,
            exampleParagraph "Example Response:" h.before], h)
  else none

/-- The sections of endpoints up to the first half. -/
def sectionsToHalf? (config : RenderConfig) : List Endpoint → Option (List Node × StrayHalf)
  | [] => none
  | e :: es =>
    match examplesToHalf? config e with
    | some (nodes, h) => some (endpointSection config e ++ nodes, h)
    | none =>
      match endpointExamples config e with
      | .error _ => none
      | .ok examples =>
        (sectionsToHalf? config es).map fun (nodes, h) =>
          (endpointSection config e ++ examples ++ nodes, h)

/-- What stands after the half in a page that ends with it. -/
def afterHalf : String := "</pre></p>\n\n</body>\n</html>"

/-- Why the bytes of a page end early: the first half of a character in the examples of its
    endpoints. -/
def encodeFault? (config : RenderConfig) (es : List Endpoint) : Option Text.EncodeFault :=
  (sectionsToHalf? config es).map fun (nodes, h) =>
    let calls := Node.callsAll
      ([.heading 1 "REST Endpoints" none, .contentsHeading, endpointContents config es] ++ nodes)
    let page := ((Page.new config.title).writeAll (calls ++ [.close])).1.output
    ⟨h.half, page.length - afterHalf.length, h.length⟩

end ServiceDocs.Rendering
