import Mathlib.Data.List.Infix
import ServiceDocs.Proofs.Text.ShellWords
import ServiceDocs.Rendering.Examples

namespace ServiceDocs.Rendering

open Text.Shell

/-!
# Example requests as commands

An example request is a command for a shell.  It sends its body as it stands, unless there is an
apostrophe in the body: there the quotation ends too early, and the command sends something else or
nothing.

* `optionWords` — the options of a command before the body, as words;
* `exampleRequest_eq_ok`, `toList_command` — the text of a command that sends a body;
* `reads_optionLines` — the options are read as their words;
* `IsPlainRequest` — a request of which nothing outside of the body means anything to a shell;
* `Sends` — a command whose only word for a body gives this body, and whose last word is an address;
* `words?_of_notMem`, `notMem_of_words?` — the words of a command without and with an apostrophe in
  its body;
* `sends_iff` — a command sends its body exactly when there is no apostrophe in it.
-/

/-! ### Lines and words -/

/-- The words of the option that names the method. -/
def methodWords (method : Option String) : List String :=
  match method with
  | none | some "" | some "GET" | some "POST" => []
  | some m => ["-X" ++ m]

/-- The words of a command before the body. -/
def optionWords (e : Endpoint) (config : RenderConfig) : List String :=
  ["curl"] ++ methodWords e.method ++
    (if config.examplesAreSsl then ["-E", "certinfo", "--cacert", "cacerts_file"] else []) ++
    match e.consumes with
    | none => []
    | some type => ["-H", "Content-Type: " ++ type]

/-- Lines, each with its end. -/
def ended (lines : List String) : List Char := lines.flatMap fun line => line.toList ++ ['\n']

theorem ended_append (lines lines' : List String) :
    ended (lines ++ lines') = ended lines ++ ended lines' :=
  List.flatMap_append

/-- All lines but the last one have an end. -/
theorem toList_intercalate_newline (lines : List String) (last : String) :
    ("\n".intercalate (lines ++ [last])).toList = ended lines ++ last.toList := by
  induction lines with
  | nil => simp [ended]
  | cons line lines ih =>
    obtain ⟨next, rest, hrest⟩ := List.exists_cons_of_ne_nil
      (List.append_ne_nil_of_right_ne_nil lines (List.cons_ne_nil last []))
    rw [List.cons_append, hrest, String.intercalate_cons_cons, ← hrest]
    simp [ended, ih]

/-- A command that sends a body is made of these lines. -/
theorem exampleRequest_eq_ok {e : Endpoint} {config : RenderConfig} {raw text : String}
    (hmethod : e.method ≠ some "GET") (hraw : e.exampleRequest = some raw)
    (htext : exampleRequest e config = .ok text) :
    ∃ body url, exampleText e.consumes raw = .ok body ∧ exampleUrl e config = .ok url ∧
      text = "\n".intercalate
        (optionLines e config ++ ["    -d'" ++ body ++ "' \\"] ++ ["    " ++ url]) := by
  unfold exampleRequest at htext
  simp only [hraw, if_neg hmethod] at htext
  cases hbody : exampleText e.consumes raw with
  | error error =>
    rw [hbody] at htext
    cases htext
  | ok body =>
    rw [hbody] at htext
    cases hurl : exampleUrl e config with
    | error error =>
      rw [hurl] at htext
      cases htext
    | ok url =>
      rw [hurl] at htext
      exact ⟨body, url, rfl, rfl, (Except.ok.inj htext).symm⟩

/-! ### Reading the options -/

/-- A request of which nothing outside of the body means anything to a shell. -/
structure IsPlainRequest (e : Endpoint) (config : RenderConfig) : Prop where
  method : ∀ m, e.method = some m → IsPlain m
  /-- The content type stands between double quotes. -/
  consumes : ∀ type, e.consumes = some type → IsPlainQuoted type
  host : IsPlain config.exampleHostPort
  endpointPrefix : IsPlain config.endpointPrefix
  path : ∀ path, examplePath e = .ok path → IsPlain path

/-- The path is the one that the placeholders make up. -/
theorem IsPlainRequest.of_examplePath {e : Endpoint} {config : RenderConfig} {path : String}
    (hpath : (examplePath e).toOption = some path) (hplain : IsPlain path)
    (hmethod : ∀ m ∈ e.method, IsPlain m) (htype : ∀ type ∈ e.consumes, IsPlainQuoted type)
    (hhost : IsPlain config.exampleHostPort) (hbefore : IsPlain config.endpointPrefix) :
    IsPlainRequest e config where
  method := hmethod
  consumes := htype
  host := hhost
  endpointPrefix := hbefore
  path := by
    intro path' hpath'
    rw [hpath'] at hpath
    cases hpath
    exact hplain

theorem reads_indentation : Reads [' ', ' ', ' ', ' '] [] :=
  reads_separators (List.all_eq_true.1 (by decide))

/-- What stands between an option and the next one, on its line and on the next. -/
def gap : List Char := ['\\', '\n'] ++ [' ', ' ', ' ', ' ']

theorem reads_gap : Reads gap [] := reads_continuation.append reads_indentation

/-- A line with an option is read as the words of the option. -/
theorem reads_optionLine {line : String} {cs : List Char} {words : List String}
    (hline : line.toList = [' ', ' ', ' ', ' '] ++ cs ++ ['\\']) (h : Reads cs words) :
    Reads (ended [line]) words := by
  have hended : ended [line] = [' ', ' ', ' ', ' '] ++ cs ++ ['\\', '\n'] := by
    simp [ended, hline]
  rw [hended]
  have hread := (reads_indentation.append h).append reads_continuation
  rwa [List.nil_append, List.append_nil] at hread

/-- The method has an option of its own, or none. -/
theorem methodLines_cases (method : Option String) :
    (methodLines method = [] ∧ methodWords method = []) ∨
      ∃ m, method = some m ∧ methodLines method = ["    -X" ++ m ++ " \\"] ∧
        methodWords method = ["-X" ++ m] := by
  cases method with
  | none => exact .inl ⟨rfl, rfl⟩
  | some m =>
    by_cases hnone : m = "" ∨ m = "GET" ∨ m = "POST"
    · rcases hnone with rfl | rfl | rfl <;> exact .inl ⟨rfl, rfl⟩
    · rw [not_or, not_or] at hnone
      obtain ⟨hempty, hget, hpost⟩ := hnone
      have hlines : methodLines (some m) = ["    -X" ++ m ++ " \\"] := by
        rw [methodLines] <;> assumption
      have hwords : methodWords (some m) = ["-X" ++ m] := by
        rw [methodWords] <;> assumption
      exact .inr ⟨m, rfl, hlines, hwords⟩

theorem reads_methodLines {method : Option String} (h : ∀ m, method = some m → IsPlain m) :
    Reads (ended (methodLines method)) (methodWords method) := by
  rcases methodLines_cases method with ⟨hlines, hwords⟩ | ⟨m, hm, hlines, hwords⟩
  · rw [hlines, hwords]
    exact .nil
  · have hplain : ∀ c ∈ 'X' :: m.toList, isSpecial c = false :=
      List.forall_mem_cons.2 ⟨by decide, h m hm⟩
    have hword : Spells ('-' :: 'X' :: m.toList) ('-' :: 'X' :: m.toList) :=
      spells_of_plain (by decide) hplain
    have htext : String.ofList ('-' :: 'X' :: m.toList) = "-X" ++ m := by
      apply String.toList_inj.1
      simp
    rw [hlines, hwords, ← htext]
    exact reads_optionLine (by simp) hword.reads

/-- A word without characters that mean anything to a shell is read as it is. -/
theorem reads_plainWord {word : String} {c : Char} {cs : List Char} (hword : word.toList = c :: cs)
    (hc : isSpecialFirst c = false) (h : IsPlain word) : Reads (word.toList ++ [' ']) [word] := by
  have hplain : ∀ d ∈ cs, isSpecial d = false :=
    fun d hd => h d (hword ▸ List.mem_cons_of_mem c hd)
  have hread := (spells_of_plain hc hplain).reads
  rwa [← hword, String.ofList_toList] at hread

/-- The name of an option stands for itself. -/
theorem spells_option {c : Char} (h : isSpecial c = false) : Spells ['-', c] ['-', c] :=
  spells_of_plain (by decide) (List.forall_mem_singleton.2 h)

/-- The options are read as their words, whether they are there or not. -/
theorem reads_optionLines {e : Endpoint} {config : RenderConfig} (h : IsPlainRequest e config) :
    Reads (ended (optionLines e config)) (optionWords e config) := by
  have hcommand : Reads (ended ["curl \\"]) ["curl"] := fun _ => rfl
  have hcertificate : Reads ("-E".toList ++ [' '] ++ ("certinfo".toList ++ [' ']) ++
      ("--cacert".toList ++ [' ']) ++ ("cacerts_file".toList ++ [' ']))
      (["-E"] ++ ["certinfo"] ++ ["--cacert"] ++ ["cacerts_file"]) :=
    (((reads_plainWord rfl (by decide) (by decide)).append
      (reads_plainWord rfl (by decide) (by decide))).append
      (reads_plainWord rfl (by decide) (by decide))).append
      (reads_plainWord rfl (by decide) (by decide))
  unfold optionLines optionWords
  rw [ended_append, ended_append, ended_append]
  refine ((hcommand.append (reads_methodLines h.method)).append ?_).append ?_
  · split_ifs
    · exact reads_optionLine rfl hcertificate
    · exact .nil
  cases htype : e.consumes with
  | none => exact .nil
  | some type =>
    have hheader : Spells ['-', 'H'] ['-', 'H'] := spells_option (by decide)
    -- The type stands between double quotes, where few characters are special.
    have hquoted : ∀ c ∈ ("Content-Type: " ++ type).toList, isSpecialQuoted c = false := by
      intro c hc
      rw [String.toList_append, List.mem_append] at hc
      exact hc.elim ((by decide : IsPlainQuoted "Content-Type: ") c) (h.consumes type htype c)
    have hwords := hheader.reads.append (spells_double hquoted).reads
    rw [String.ofList_toList] at hwords
    exact reads_optionLine (by simp) hwords

/-! ### Commands that send a body -/

/-- Whether a word of a command gives the body of a request. -/
def givesBody (word : String) : Bool := ['-', 'd'].isPrefixOf word.toList

/-- A command whose only word for a body gives this body, and whose last word is an address. -/
def Sends (command body url : String) : Prop :=
  ∃ words, words? command = some words ∧ words.filter givesBody = ["-d" ++ body] ∧
    words.getLast? = some url

theorem givesBody_append (body : String) : givesBody ("-d" ++ body) = true := by
  simp [givesBody]

/-- No other option gives a body. -/
theorem filter_givesBody_optionWords (e : Endpoint) (config : RenderConfig) :
    (optionWords e config).filter givesBody = [] := by
  have hmethod : (methodWords e.method).filter givesBody = [] := by
    unfold methodWords
    split <;> simp [givesBody]
  unfold optionWords
  rw [List.filter_append, List.filter_append, List.filter_append, hmethod]
  split_ifs <;> cases e.consumes <;> simp [givesBody]

/-- The address starts with a letter, and it stands for itself. -/
theorem exists_url {e : Endpoint} {config : RenderConfig} {url : String}
    (h : IsPlainRequest e config) (hurl : exampleUrl e config = .ok url) :
    ∃ rest, url.toList = 'h' :: rest ∧ ∀ c ∈ rest, isSpecial c = false := by
  unfold exampleUrl at hurl
  cases hpath : examplePath e with
  | error error =>
    rw [hpath] at hurl
    cases hurl
  | ok path =>
    rw [hpath] at hurl
    have hplain : IsPlain url := by
      rw [← Except.ok.inj hurl]
      refine (((IsPlain.append ?_ ?_).append h.host).append h.endpointPrefix).append
        (h.path path hpath)
      · split_ifs <;> decide
      · decide
    obtain ⟨rest, hrest⟩ : ∃ rest, url.toList = 'h' :: rest := by
      rw [← Except.ok.inj hurl]
      split_ifs <;> simp
    exact ⟨rest, hrest, fun c hc => hplain c (hrest ▸ List.mem_cons_of_mem 'h' hc)⟩

section Words

variable {e : Endpoint} {config : RenderConfig} {body url : String}

/-- What stands before the option with the body. -/
def beforeBody (e : Endpoint) (config : RenderConfig) : List Char :=
  ended (optionLines e config) ++ [' ', ' ', ' ', ' ']

theorem reads_beforeBody (h : IsPlainRequest e config) :
    Reads (beforeBody e config) (optionWords e config) := by
  have hread := (reads_optionLines h).append reads_indentation
  rwa [List.append_nil] at hread

/-- The text of a command that sends a body. -/
theorem toList_command (e : Endpoint) (config : RenderConfig) (body url : String) :
    ("\n".intercalate (optionLines e config ++ ["    -d'" ++ body ++ "' \\"] ++
      ["    " ++ url])).toList =
      beforeBody e config ++ ['-', 'd', '\''] ++ body.toList ++
        '\'' :: ' ' :: (gap ++ url.toList) := by
  rw [toList_intercalate_newline, ended_append]
  simp [ended, beforeBody, gap]

theorem ofList_body (body : String) : String.ofList (['-', 'd'] ++ body.toList) = "-d" ++ body := by
  apply String.toList_inj.1
  simp

/-- The option with the body is a word up to the first apostrophe. -/
theorem spells_body {cs : List Char} (h : '\'' ∉ cs) :
    Spells (['-', 'd'] ++ ('\'' :: cs ++ ['\''])) (['-', 'd'] ++ cs) :=
  (spells_option (by decide)).append (extends_single h)

/-- The address is the last word of a command, and gives no body. -/
theorem spells_url (h : IsPlainRequest e config) (hurl : exampleUrl e config = .ok url) :
    Spells url.toList url.toList ∧ givesBody url = false := by
  obtain ⟨rest, hrest, hplain⟩ := exists_url h hurl
  rw [givesBody, hrest]
  exact ⟨spells_of_plain (by decide) hplain, rfl⟩

/-- No quotation starts after the body. -/
theorem quote_notMem (h : IsPlainRequest e config) (hurl : exampleUrl e config = .ok url) {c : Char}
    (hc : isSpecial c = true) (hline : c ∉ ' ' :: (gap ++ ['h'])) :
    c ∉ ' ' :: (gap ++ url.toList) := by
  obtain ⟨rest, hrest, hplain⟩ := exists_url h hurl
  rw [hrest, List.append_cons, ← List.cons_append, List.mem_append, not_or]
  refine ⟨hline, fun hmem => ?_⟩
  rw [hplain c hmem] at hc
  cases hc

variable {text : String} (h : IsPlainRequest e config) (hurl : exampleUrl e config = .ok url)
  (htext : text = "\n".intercalate
    (optionLines e config ++ ["    -d'" ++ body ++ "' \\"] ++ ["    " ++ url]))

include h hurl htext

/-- A command is read as its options, its body and its address when there is no apostrophe in the
    body. -/
theorem words?_of_notMem (hbody : '\'' ∉ body.toList) :
    words? text = some (optionWords e config ++ ["-d" ++ body] ++ [url]) := by
  have hread := ((reads_beforeBody h).append (spells_body hbody).reads).append reads_gap
  rw [ofList_body, List.append_nil] at hread
  have hlist := toList_command e config body url
  rw [← htext] at hlist
  rw [words?_of_reads (by simp [hlist]) hread (spells_url h hurl).1, String.ofList_toList]

/-- When there is an apostrophe in the body, the body is none of the words that a command is read
    as, if it is read at all. -/
theorem notMem_of_words? (hbody : '\'' ∈ body.toList) {words : List String}
    (hwords : words? text = some words) : "-d" ++ body ∉ words := by
  rw [words?, Option.bind_eq_some_iff] at hwords
  obtain ⟨u, hu, hwords⟩ := hwords
  split_ifs at hwords with hbare
  -- The quotation ends at the first apostrophe of the body.
  obtain ⟨start, more, hsplit, hstart⟩ := List.eq_append_cons_of_mem hbody
  have hlist : text.toList = beforeBody e config ++ ((['-', 'd'] ++ ('\'' :: start ++ ['\''])) ++
      (more ++ '\'' :: ' ' :: (gap ++ url.toList))) := by
    rw [htext, toList_command, hsplit]
    simp
  rw [hlist, State.run?_append, reads_beforeBody h, Option.bind_some, State.run?_append,
    spells_body hstart, Option.bind_some, List.nil_append] at hu
  obtain ⟨hlast, hshort⟩ := words_of_apostrophe hu hbare reads_gap (spells_url h hurl).1
    (quote_notMem h hurl (by decide) (by decide)) (quote_notMem h hurl (by decide) (by decide))
  obtain rfl : u.words ++ [url] = words := by
    rw [← Option.some.inj hwords, State.endWord, hlast, Option.map_some, String.ofList_toList]
    rfl
  rw [List.mem_append, List.mem_singleton]
  rintro (hmem | haddress)
  · rcases hshort _ hmem with hoption | hlong
    · have hnone := List.filter_eq_nil_iff.1 (filter_givesBody_optionWords e config)
      exact hnone _ hoption (givesBody_append body)
    · -- The words after the options have lost the apostrophe.
      have hlength : ("-d" ++ body).length = start.length + more.length + 3 := by
        rw [← ofList_body, hsplit, String.length_ofList]
        simp only [List.length_append, List.length_cons, List.length_nil]
        omega
      rw [hlength, List.length_append] at hlong
      simp only [List.length_cons, List.length_nil] at hlong
      omega
  · have hgives := givesBody_append body
    rw [haddress, (spells_url h hurl).2] at hgives
    cases hgives

end Words

/-- **Which requests can be run.** A command is made of its options, its body and its address, where
    a body of JSON is laid out and any other one is sent as it stands.  If nothing outside of the
    body means anything to a shell, the command sends exactly this body to this address when there
    is no apostrophe in the body, and then it is read as these words.  When there is one, the body
    is none of the words that the command is read as, if it is read at all. -/
theorem sends_iff (e : Endpoint) (config : RenderConfig) (raw text : String)
    (hmethod : e.method ≠ some "GET") (hraw : e.exampleRequest = some raw)
    (htext : exampleRequest e config = .ok text) (hplain : IsPlainRequest e config) :
    ∃ body url, exampleUrl e config = .ok url ∧
      (e.consumes = some jsonMediaType → ∃ v, Json.read raw = .ok v ∧ body = v.canonical) ∧
      (e.consumes ≠ some jsonMediaType → body = raw) ∧
      (Sends text body url ↔ '\'' ∉ body.toList) ∧
      ('\'' ∉ body.toList →
        words? text = some (optionWords e config ++ ["-d" ++ body] ++ [url])) ∧
      ('\'' ∈ body.toList → ∀ words, words? text = some words → "-d" ++ body ∉ words) := by
  obtain ⟨body, url, hbody, hurl, hlines⟩ := exampleRequest_eq_ok hmethod hraw htext
  have hread (hmem : '\'' ∉ body.toList) :
      words? text = some (optionWords e config ++ ["-d" ++ body] ++ [url]) :=
    words?_of_notMem hplain hurl hlines hmem
  have hnot (hmem : '\'' ∈ body.toList) (words : List String) (hwords : words? text = some words) :
      "-d" ++ body ∉ words := notMem_of_words? hplain hurl hlines hmem hwords
  refine ⟨body, url, hurl, ?_, ?_, ⟨?_, ?_⟩, hread, hnot⟩
  · intro htype
    rw [exampleText, if_pos htype, normalizeJson] at hbody
    split at hbody
    · next v hread => exact ⟨v, hread, (Except.ok.inj hbody).symm⟩
    · next error _ => split at hbody <;> cases hbody
  · intro htype
    rw [exampleText, if_neg htype] at hbody
    exact (Except.ok.inj hbody).symm
  · -- With an apostrophe in it the body is no word, though it would have to be the only one for a
    -- body.
    rintro ⟨words, hwords, hfilter, -⟩ hmem
    have hin : "-d" ++ body ∈ words.filter givesBody := by
      rw [hfilter]
      exact List.mem_singleton_self _
    exact hnot hmem words hwords (List.mem_of_mem_filter hin)
  · intro hmem
    refine ⟨_, hread hmem, ?_, List.getLast?_concat⟩
    rw [List.filter_append, List.filter_append, filter_givesBody_optionWords]
    simp [givesBody_append, (spells_url hplain hurl).2]

/-- An endpoint that is sent JSON. -/
def saveCart : Endpoint :=
  ⟨"save", some "PUT", some "/carts/\x7bid\x7d", none, some "application/json", .of "None" [], [],
    none, none, some "\x7b\"note\": [\"\\\"$5\\\"\", null]\x7d", some (.ofList [("id", "7")])⟩

/-- The command for it sends what is between the single quotes, over several lines. -/
theorem sends_iff_saveCart : ∃ text, saveCart.method ≠ some "GET" ∧
    exampleRequest saveCart {} = .ok text ∧ IsPlainRequest saveCart {} ∧
    Sends text "\x7b\n  \"note\": [\n    \"\\\"$5\\\"\",\n    null\n  ]\n\x7d"
      "https://localhost:8080/carts/7" := by
  have hread : (Json.read "\x7b\"note\": [\"\\\"$5\\\"\", null]\x7d").toOption.map
      Json.Value.canonical =
        some "\x7b\n  \"note\": [\n    \"\\\"$5\\\"\",\n    null\n  ]\n\x7d" := by decide +kernel
  have hurl : (exampleUrl saveCart {}).toOption = some "https://localhost:8080/carts/7" := by
    decide +kernel
  have hpath : (examplePath saveCart).toOption = some "/carts/7" := by decide +kernel
  have hplain : IsPlainRequest saveCart {} :=
    .of_examplePath hpath (by decide) (by decide) (by decide) (by decide) (by decide)
  have hsome : (exampleRequest saveCart {}).toOption.isSome = true := by decide +kernel
  cases htext : exampleRequest saveCart {} with
  | error error =>
    rw [htext] at hsome
    cases hsome
  | ok text =>
    obtain ⟨body, url, hurl', hjson, -, hiff, -⟩ :=
      sends_iff saveCart {} _ text (by decide) rfl htext hplain
    obtain ⟨v, hv, hbody⟩ := hjson rfl
    rw [hv] at hread
    rw [hurl'] at hurl
    obtain rfl := hbody.trans (Option.some.inj hread)
    obtain rfl := Option.some.inj hurl
    exact ⟨text, by decide, rfl, hplain, hiff.2 (by decide)⟩

/-- An endpoint that is sent JSON with an apostrophe in it. -/
def addAuthor : Endpoint :=
  ⟨"add", some "POST", some "/authors", none, some "application/json", .of "None" [], [],
    none, none, some "\x7b\"name\": \"O'Neil\"\x7d", none⟩

/-- Not every command sends its body: this one does not even end. -/
theorem not_all_send : ¬∀ (e : Endpoint) (config : RenderConfig) (raw text : String),
    e.method ≠ some "GET" → e.exampleRequest = some raw → exampleRequest e config = .ok text →
    IsPlainRequest e config → ∃ body url, exampleText e.consumes raw = .ok body ∧
      exampleUrl e config = .ok url ∧ Sends text body url := by
  intro h
  have hpath : (examplePath addAuthor).toOption = some "/authors" := by decide +kernel
  have hplain : IsPlainRequest addAuthor {} :=
    .of_examplePath hpath (by decide) (by decide) (by decide) (by decide) (by decide)
  have hnone : (exampleRequest addAuthor {}).toOption.map words? = some none := by decide +kernel
  cases htext : exampleRequest addAuthor {} with
  | error error =>
    rw [htext] at hnone
    cases hnone
  | ok text =>
    rw [htext] at hnone
    obtain ⟨body, url, -, -, words, hwords, -⟩ :=
      h addAuthor {} _ text (by decide) rfl htext hplain
    rw [Option.some.inj hnone] at hwords
    cases hwords

end ServiceDocs.Rendering
