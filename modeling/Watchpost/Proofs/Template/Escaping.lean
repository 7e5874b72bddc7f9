import Watchpost.Proofs.Json.Form
import Watchpost.Proofs.Template.Run
import Watchpost.Proofs.Text.Encoding

set_option autoImplicit false

/-! # Values escaped in templates

A template may write a body that is meant to be JSON, with values between quotes. What it writes is
a pattern filled with the values that pass through `json_escape`, `Writes.gives`. Each of these
reads back from between its quotes, and as long as all of them stand within literals, none decides
what the body is: this is `jsonEscape_keeps_structure`. -/

namespace Watchpost.Template

open Json (Pattern)
open Run

/-! ## Escaped texts -/

theorem bytes_compact_string (text : String) :
    Text.bytes (Json.string text).compact = 34 :: (Text.bytes (jsonEscape text) ++ [34]) := by
  have hquote : String.utf8EncodeChar '"' = [34] := by decide
  show Text.bytes (String.ofList (Json.quoted text)) = _
  simp [Text.bytes_eq_flatMap, Json.quoted, jsonEscape, hquote]

/-- What is written for a text reads as this text. -/
structure ReadsBack (text : String) : Prop where
  /-- It is what the text as a value is written as, without the first and the last byte. -/
  sliced : let written := Text.bytes (Json.string text).compact
    Text.bytes (jsonEscape text) = (written.take (written.length - 1)).drop 1
  /-- Between quotes it is one literal, which is that of the text. -/
  literal : ∀ rest : List Char,
    Json.readString ((jsonEscape text).toList ++ '"' :: rest) = some (some text.toList, rest)
  /-- Between quotes it is a document, which is the text. -/
  document : Json.read? ("\"" ++ jsonEscape text ++ "\"") = some (.string text)

theorem readsBack (text : String) : ReadsBack text := by
  have hliteral : ∀ rest : List Char,
      Json.readString ((jsonEscape text).toList ++ '"' :: rest)
        = some (some text.toList, rest) := by
    intro rest
    rw [jsonEscape, String.toList_ofList]
    exact Json.readString_escape text.toList rest
  constructor
  case sliced =>
    intro written
    have hwritten : written = 34 :: (Text.bytes (jsonEscape text) ++ [34]) :=
      bytes_compact_string text
    simp [hwritten]
  case literal => exact hliteral
  case document =>
    have htree : Json.Syntax.read? ("\"" ++ jsonEscape text ++ "\"")
        = some (.string (some text)) := by
      refine Json.Syntax.read?_eq_some_iff.2 ⟨1, [], Json.readValue_succ_iff.2 ?_, rfl⟩
      have hstart : Json.StartsWith 0 _ _ [] := .string (hliteral [])
      simpa [Json.skipSpace, Json.isSpace] using hstart
    rw [Json.read?, htree]
    rfl

/-! ## What a template writes -/

section
variable {fuel : Nat} {s : Setting} {m m' : Machine}

theorem shown_eq_self (hs : s.escaping = false) (text : String) (safe : Bool) :
    shown s (.text text safe) = text := by
  unfold shown
  rw [hs]
  exact String.ofList_toList

theorem Run.gives_evalArgs_nil : Gives (evalArgs (fuel + 1) s []) m ⟨[], []⟩ m := by
  rw [evalArgs]
  rfl

theorem Run.Gives.print_jsonEscape (hs : s.escaping = false) {e : Expr} {v : Value}
    (h : Gives (eval (fuel + 1) s e) m v m') :
    Gives (exec (fuel + 3) s (.print (.filter "json_escape" (some e) []))) m (jsonEscape v.toText)
      m' := by
  have hfilter : Gives (eval (fuel + 2) s (.filter "json_escape" (some e) [])) m
      (.text (jsonEscape v.toText) false) m' := by
    rw [eval]
    refine h.bind (gives_evalArgs_nil.bind ?_)
    rfl
  rw [exec]
  refine hfilter.bind ?_
  rw [shown_eq_self hs]
  rfl

theorem Run.Gives.filter_jsonEscape (hs : s.escaping = false) {body : List Stmt} {text : String}
    (h : Gives (execAll (fuel + 2) s body) m text m') :
    Gives (exec (fuel + 3) s (.filterBlock (.filter "json_escape" none []) body)) m
      (jsonEscape text) m' := by
  have hfilter : Gives (applyFilters (fuel + 2) s (.filter "json_escape" none []) (captured s text))
      m' (.text (jsonEscape (captured s text).toText) false) m' := by
    rw [applyFilters, pure_bind]
    refine gives_evalArgs_nil.bind ?_
    rfl
  have htext : (captured s text).toText = text := String.ofList_toList
  rw [exec]
  refine h.bind (hfilter.bind ?_)
  rw [shown_eq_self hs, htext]
  rfl

end

/-- What is run: a statement, statements in a row, or the passes of a loop that are left. -/
inductive Task where
  | statement (stmt : Stmt)
  | statements (stmts : List Stmt)
  | passes (loop : Loop) (items : List (Value × Nat))

/-- Run a task. -/
def Task.run (fuel : Nat) (s : Setting) : Task → Run String
  | .statement stmt => exec fuel s stmt
  | .statements stmts => texts (exec fuel s) stmts
  | .passes loop items => texts (loop.pass (fuel + 1) s) items

variable {ι : Type}

/-- What a task writes: text, and values that pass through `json_escape`, each in a place of its
    own. A statement that runs others writes what these write; nothing is said of how a text comes
    about, or of where the values come from. -/
inductive Writes (σ : ι → String) :
    Nat → Setting → Task → Machine → Pattern ι → Machine → Prop
  | text {fuel s stmt m text m'} (h : Gives (exec fuel s stmt) m text m') :
    Writes σ fuel s (.statement stmt) m (text.toList.map .char) m'
  | value {fuel s e m v m'} (hs : s.escaping = false) (h : Gives (eval (fuel + 1) s e) m v m')
    (i : ι) (hi : σ i = v.toText) :
    Writes σ (fuel + 3) s (.statement (.print (.filter "json_escape" (some e) []))) m [.value i] m'
  | filtered {fuel s body m text m'} (hs : s.escaping = false)
    (h : Gives (execAll (fuel + 2) s body) m text m') (i : ι) (hi : σ i = text) :
    Writes σ (fuel + 3) s (.statement (.filterBlock (.filter "json_escape" none []) body)) m
      [.value i] m'
  | branch {fuel s test yes no m v m₁ p m'} (h : Gives (eval (fuel + 1) s test) m v m₁)
    (side : Writes σ fuel s (.statements (if v.isTrue then yes else no)) m₁ p m') :
    Writes σ (fuel + 2) s (.statement (.branch test yes no)) m p m'
  | bind {fuel s assignments body m m₁ p m'}
    (h : Gives (bindAll (fuel + 1) s assignments) { m with frames := [] :: m.frames } () m₁)
    (inner : Writes σ fuel s (.statements body) m₁ p m') :
    Writes σ (fuel + 2) s (.statement (.bind assignments body)) m p
      { m' with frames := m'.frames.tail }
  | block {fuel s name body m p m'}
    (inner : Writes σ fuel { s with depth := 0 } (.statements body)
      { m with frames := [] :: m.frames } p m') :
    Writes σ (fuel + 2) s (.statement (.block name body)) m p { m' with frames := m'.frames.tail }
  | forEach {fuel s target items condition recursive body otherwise m found again m₁ p m'}
    (h : Gives (openLoop (fuel + 1) s target items condition recursive body otherwise) m
      (found, again) m₁) (hfound : found ≠ [])
    (inner : Writes σ fuel s
      (.passes ⟨target, body, found, m₁.places.length, again⟩ found.zipIdx)
      { m₁ with places := m₁.places ++ [[]], frames := [] :: m₁.frames } p m') :
    Writes σ (fuel + 3) s
      (.statement (.forEach target items condition recursive body otherwise)) m p
      { m' with frames := m'.frames.tail }
  | forNone {fuel s target items condition recursive body otherwise m again m₁ p m'}
    (h : Gives (openLoop (fuel + 1) s target items condition recursive body otherwise) m
      ([], again) m₁)
    (inner : Writes σ fuel s (.statements otherwise) m₁ p m') :
    Writes σ (fuel + 3) s
      (.statement (.forEach target items condition recursive body otherwise)) m p m'
  | nil {fuel s m} : Writes σ fuel s (.statements []) m [] m
  | cons {fuel s stmt stmts m p m₁ q m'} (first : Writes σ fuel s (.statement stmt) m p m₁)
    (rest : Writes σ fuel s (.statements stmts) m₁ q m') :
    Writes σ fuel s (.statements (stmt :: stmts)) m (p ++ q) m'
  | noPass {fuel s loop m} : Writes σ fuel s (.passes loop []) m [] m
  | pass {fuel s loop item items m m₁ p m₂ q m'}
    (h : Gives (loop.enter (fuel + 1) s item) m () m₁)
    (inner : Writes σ fuel { s with depth := s.depth + 1 } (.statements loop.body) m₁ p m₂)
    (rest : Writes σ fuel s (.passes loop items) m₂ q m') :
    Writes σ fuel s (.passes loop (item :: items)) m (p ++ q) m'

/-- **A template writes its pattern, filled with its values.** -/
theorem Writes.gives {σ : ι → String} {fuel : Nat} {s : Setting} {task : Task} {m m' : Machine}
    {p : Pattern ι} (h : Writes σ fuel s task m p m') :
    Gives (task.run fuel s) m (String.ofList (Pattern.fill σ p)) m' := by
  -- Only the two rules for places say anything about escaping; the others put texts together.
  induction h with
  | text h => simpa [Task.run] using h
  | value hs h i hi =>
    simpa [Task.run, Pattern.fill, hi, jsonEscape] using h.print_jsonEscape hs
  | filtered hs h i hi =>
    simpa [Task.run, Pattern.fill, hi, jsonEscape] using h.filter_jsonEscape hs
  | branch h side ih => exact h.branch (execAll_succ _ ▸ ih)
  | bind h inner ih => exact h.bindBlock (execAll_succ _ ▸ ih)
  | @block _ _ name _ _ _ _ inner ih => exact Gives.block name (execAll_succ _ ▸ ih)
  | forEach h hfound inner ih => exact h.forEach hfound ih
  | forNone h inner ih => exact h.forNone (execAll_succ _ ▸ ih)
  | nil => rfl
  | cons first rest ihfirst ihrest =>
    rw [Pattern.fill_append, String.ofList_append]
    exact ihfirst.texts_cons (exec _ _) ihrest
  | noPass => rfl
  | pass h inner rest ihinner ihrest =>
    rw [Pattern.fill_append, String.ofList_append]
    exact Gives.texts_cons (Loop.pass _ _ _) (h.bind (execAll_succ _ ▸ ihinner)) ihrest

/-- The fuel that statements of a template are run with. -/
def spareFuel (source : String) : Nat :=
  (source.length + 8) * maxNesting - 1

theorem Writes.render_eq {σ : ι → String} {environment : String → Option String}
    {bindings : List (String × Value)} {source : String} {stmts : List Stmt} {p : Pattern ι}
    {m : Machine} (hsource : ofText? source = some stmts)
    (h : Writes σ (spareFuel source) ⟨environment, false, 0⟩ (.statements stmts)
      { frames := [[], bindings] } p m) :
    render environment bindings source = (some (String.ofList (Pattern.fill σ p)), m.logs) := by
  have hfuel : (source.length + 8) * maxNesting = spareFuel source + 1 := by
    unfold spareFuel maxNesting
    omega
  have hrun : Gives (execAll (spareFuel source + 1) ⟨environment, false, 0⟩ stmts)
      { frames := [[], bindings] } (String.ofList (Pattern.fill σ p)) m := by
    rw [execAll_succ]
    exact h.gives
  unfold render
  rw [hsource]
  dsimp only
  rw [hfuel, hrun]

/-- **Escaped values do not change the structure of a body.** Every text reads back from between
    quotes. What a template renders is its pattern filled with its values. If all values stand
    within literals, then either the body is no JSON whatever the values are, or for all values it
    has one form, with the values in its strings. -/
theorem jsonEscape_keeps_structure :
    (∀ text, ReadsBack text) ∧
      (∀ {ι : Type} {σ : ι → String} {environment : String → Option String}
        {bindings : List (String × Value)} {source : String} {stmts : List Stmt} {p : Pattern ι}
        {m : Machine}, ofText? source = some stmts →
          Writes σ (spareFuel source) ⟨environment, false, 0⟩ (.statements stmts)
            { frames := [[], bindings] } p m →
          render environment bindings source = (some (String.ofList (Pattern.fill σ p)), m.logs)) ∧
      ∀ {ι : Type} {p : Pattern ι}, Pattern.isQuoted .outside p = true →
        (∀ σ, Json.Syntax.read? (String.ofList (Pattern.fill σ p)) = none) ∨
          ∃ form : Json.Form ι, ∀ σ,
            Json.Syntax.read? (String.ofList (Pattern.fill σ p)) = some (form.fill σ) :=
  ⟨readsBack, fun hsource hwrites => hwrites.render_eq hsource, fun hp => Pattern.read?_fill hp⟩

/-- A body that shows the severity of an alert and, escaped, its message. -/
def messageSource : String :=
  "\x7b\"text\": \"\x7b\x7b alert.severity \x7d\x7d: " ++
    "\x7b\x7b alert.message | json_escape \x7d\x7d\"\x7d"

/-- The statements of this body. -/
def messageStmts : List Stmt :=
  [.data ['{', '"', 't', 'e', 'x', 't', '"', ':', ' ', '"'],
    .print (.attr (.var "alert") "severity"), .data [':', ' '],
    .print (.filter "json_escape" (some (.attr (.var "alert") "message")) []), .data ['"', '}']]

theorem ofText?_messageSource : ofText? messageSource = some messageStmts := by
  have htokens : Token.ofText? messageSource = some
      [.data ['{', '"', 't', 'e', 'x', 't', '"', ':', ' ', '"'], .variableStart, .word "alert",
        .mark ".", .word "severity", .variableEnd, .data [':', ' '], .variableStart, .word "alert",
        .mark ".", .word "message", .mark "|", .word "json_escape", .variableEnd,
        .data ['"', '}']] := by
    decide +kernel
  rw [ofText?, htokens]
  rfl

/-- The names that this body sees. -/
def messageBindings (message : String) : List (String × Value) :=
  [("alert", .map [(.ofString "severity", .ofString "low"),
    (.ofString "message", .ofString message)])]

/-- The text of this body with the place of the message. -/
def messagePattern : Pattern Unit :=
  ['{', '"', 't', 'e', 'x', 't', '"', ':', ' ', '"', 'l', 'o', 'w', ':', ' '].map .char ++
    .value () :: ['"', '}'].map .char

theorem writes_messageStmts (fuel : Nat) (message : String) :
    Writes (fun _ => message) (fuel + 5) ⟨fun _ => none, false, 0⟩ (.statements messageStmts)
      { frames := [[], messageBindings message] } messagePattern
      { frames := [[], messageBindings message] } := by
  have hdata : ∀ (cs : List Char) (m : Machine),
      Gives (exec (fuel + 5) ⟨fun _ => none, false, 0⟩ (.data cs)) m (String.ofList cs) m :=
    fun _ _ => rfl
  have hseverity : Gives (exec (fuel + 5) ⟨fun _ => none, false, 0⟩
      (.print (.attr (.var "alert") "severity"))) { frames := [[], messageBindings message] }
      (String.ofList ['l', 'o', 'w']) { frames := [[], messageBindings message] } := rfl
  have hmessage : Gives (eval (fuel + 3) ⟨fun _ => none, false, 0⟩
      (.attr (.var "alert") "message")) { frames := [[], messageBindings message] }
      (.ofString message) { frames := [[], messageBindings message] } := rfl
  have htext : message = (Value.ofString message).toText := String.ofList_toList.symm
  have h : Writes (fun _ => message) (fuel + 5) ⟨fun _ => none, false, 0⟩
      (.statements messageStmts) { frames := [[], messageBindings message] } _ _ :=
    .cons (.text (hdata _ _)) (.cons (.text hseverity) (.cons (.text (hdata _ _))
      (.cons (.value rfl hmessage () htext) (.cons (.text (hdata _ _)) .nil))))
  simpa [messagePattern] using h

/-- What this body reads as. -/
def messageTree (message : String) : Json.Syntax :=
  .object [(some "text", .string (some ("low: " ++ message)))]

theorem read?_messagePattern (message : String) :
    Json.Syntax.read? (String.ofList (Pattern.fill (fun _ => message) messagePattern))
      = some (messageTree message) := by
  have hfront : Json.escape ("low: " ++ message).toList
      = "low: ".toList ++ Json.escape message.toList := by
    have hplain : Json.escape "low: ".toList = "low: ".toList := by decide
    rw [String.toList_append, Json.escape, List.flatMap_append]
    exact congrArg (· ++ Json.escape message.toList) hplain
  have hfill : Pattern.fill (fun _ => message) messagePattern
      = '{' :: '"' :: ("text".toList ++ '"' :: ':' :: ' ' :: '"' ::
        (Json.escape ("low: " ++ message).toList ++ '"' :: ['}'])) := by
    rw [hfront]
    rfl
  rw [hfill, messageTree]
  generalize "low: " ++ message = line
  have hkey : ∀ rest, Json.readString ("text".toList ++ '"' :: rest)
      = some (some ['t', 'e', 'x', 't'], rest) :=
    fun rest => Json.readString_escape ['t', 'e', 'x', 't'] rest
  have hvalue : Json.readValue 1 (' ' :: '"' :: (Json.escape line.toList ++ '"' :: ['}']))
      = some (.string (some line), ['}']) := by
    have hstart : Json.StartsWith 0 _ _ _ := .string (Json.readString_escape line.toList ['}'])
    rw [Option.map_some, String.ofList_toList] at hstart
    exact Json.readValue_succ_iff.2 hstart
  have hmembers : Json.readMembers 2 ('"' :: ("text".toList ++ '"' :: ':' :: ' ' :: '"' ::
      (Json.escape line.toList ++ '"' :: ['}'])))
        = some ([(some "text", .string (some line))], []) :=
    Json.readMembers_succ_iff.2
      ⟨_, _, _, _, _, _, [], rfl, hkey _, rfl, hvalue, Or.inl ⟨rfl, rfl⟩, rfl⟩
  refine Json.Syntax.read?_eq_some_iff.2 ⟨3, [], ?_, rfl⟩
  rw [String.toList_ofList]
  exact Json.readValue_succ_iff.2 (.object (Or.inr hmembers))

/-- A message that tries to end its literal and to add a member does neither. -/
theorem jsonEscape_keeps_structure_of_forged_message :
    let forged := "ok\",\"id\":\"\n"
    render (fun _ => none) (messageBindings forged) messageSource
      = (some (String.ofList (Pattern.fill (fun _ => forged) messagePattern)), []) ∧
    ∃ form : Json.Form Unit, form.fill (fun _ => forged) = messageTree forged ∧
      form.fill (fun _ => "ok") = messageTree "ok" := by
  intro forged
  obtain ⟨-, hrender, hstructure⟩ := jsonEscape_keeps_structure
  have hfuel : spareFuel messageSource = (spareFuel messageSource - 5) + 5 := by
    unfold spareFuel maxNesting
    omega
  have hwrites := writes_messageStmts (spareFuel messageSource - 5) forged
  rw [← hfuel] at hwrites
  have hquoted : Pattern.isQuoted .outside messagePattern = true := by decide
  refine ⟨hrender ofText?_messageSource hwrites, ?_⟩
  rcases hstructure hquoted with hnone | ⟨form, hform⟩
  · have hread := read?_messagePattern "ok"
    rw [hnone] at hread
    cases hread
  · refine ⟨form, ?_, ?_⟩
    · exact Option.some.inj ((hform _).symm.trans (read?_messagePattern forged))
    · exact Option.some.inj ((hform _).symm.trans (read?_messagePattern "ok"))

end Watchpost.Template
