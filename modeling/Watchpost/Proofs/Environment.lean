import Mathlib.Data.List.TakeWhile
import Watchpost.Delivery.Webhook

set_option autoImplicit false

/-! # Texts with references

A text with references is a literal, or a literal, a reference and such a text again:
`Environment.Parts`. Parts are proper if no literal has the characters in it that open a reference,
and every name is one; a text has proper parts in one way at most. Replacing references comes to a
text exactly if the text has proper parts and all their names are set, and otherwise to the fault of
the first reference that has one: `Environment.replacesReferences`. -/

namespace Watchpost.Environment

/-- What opens a reference. -/
def opening : List Char := ['$', '{']

/-! ## Parts -/

/-- The parts of a text: a literal, or a literal, the name in a reference and the parts after it. -/
inductive Parts where
  | literal (cs : List Char)
  | reference (before name : List Char) (after : Parts)
deriving DecidableEq, Repr

namespace Parts

/-- The text that has these parts. -/
def text : Parts → List Char
  | .literal cs => cs
  | .reference before name after => before ++ opening ++ name ++ '}' :: after.text

/-- No literal opens a reference, and each name is one: not empty, and without a closing brace. -/
def IsProper : Parts → Prop
  | .literal cs => ¬ opening <:+: cs
  | .reference before name after =>
    ¬ opening <:+: before ∧ name ≠ [] ∧ '}' ∉ name ∧ after.IsProper

/-- All names have values. -/
def IsSet (env : Environment) : Parts → Prop
  | .literal _ => True
  | .reference _ name after => (env (String.ofList name)).isSome = true ∧ after.IsSet env

/-- The text with the values of the names in place of the references, each as it stands. -/
def filled (env : Environment) : Parts → List Char
  | .literal cs => cs
  | .reference before name after =>
    before ++ ((env (String.ofList name)).getD "").toList ++ after.filled env

/-- The same parts with one more character in front. -/
def cons (c : Char) : Parts → Parts
  | .literal cs => .literal (c :: cs)
  | .reference before name after => .reference (c :: before) name after

@[simp] theorem text_cons (c : Char) (parts : Parts) : (parts.cons c).text = c :: parts.text := by
  cases parts with
  | literal cs => rfl
  | reference before name after => rfl

@[simp] theorem isSet_cons (env : Environment) (c : Char) (parts : Parts) :
    (parts.cons c).IsSet env ↔ parts.IsSet env := by
  cases parts with
  | literal cs => rfl
  | reference before name after => rfl

@[simp] theorem filled_cons (env : Environment) (c : Char) (parts : Parts) :
    (parts.cons c).filled env = c :: parts.filled env := by
  cases parts with
  | literal cs => rfl
  | reference before name after => rfl

/-- A character in front keeps parts proper if it does not open a reference with what follows. -/
theorem IsProper.cons {parts : Parts} (h : parts.IsProper) {c : Char}
    (hc : ¬ opening <+: c :: parts.text) : (parts.cons c).IsProper := by
  cases parts with
  | literal cs =>
    intro hinfix
    rcases List.infix_cons_iff.1 hinfix with hfirst | hlater
    · exact hc hfirst
    · exact h hlater
  | reference before name after =>
    refine ⟨fun hinfix => ?_, h.2⟩
    rcases List.infix_cons_iff.1 hinfix with hfirst | hlater
    · apply hc
      simp only [text, List.append_assoc, ← List.cons_append]
      exact hfirst.trans (List.prefix_append _ _)
    · exact h.1 hlater

end Parts

/-! ## Names -/

theorem ne_brace_of_not_mem {name : List Char} (h : '}' ∉ name) :
    ∀ c ∈ name, decide (c ≠ '}') = true := by
  intro c hc
  exact decide_eq_true (ne_of_mem_of_not_mem hc h)

theorem takeWhile_append_brace {name : List Char} (h : '}' ∉ name) (rest : List Char) :
    (name ++ '}' :: rest).takeWhile (· ≠ '}') = name := by
  rw [List.takeWhile_append_of_pos (ne_brace_of_not_mem h),
    List.takeWhile_cons_of_neg (by simp), List.append_nil]

theorem dropWhile_append_brace {name : List Char} (h : '}' ∉ name) (rest : List Char) :
    (name ++ '}' :: rest).dropWhile (· ≠ '}') = '}' :: rest := by
  rw [List.dropWhile_append_of_pos (ne_brace_of_not_mem h),
    List.dropWhile_cons_of_neg (by simp)]

theorem brace_not_mem_takeWhile (cs : List Char) : '}' ∉ cs.takeWhile (· ≠ '}') := by
  intro hmem
  simpa using List.mem_takeWhile_imp hmem

/-- A text with a closing brace is a name, the brace and what follows it. -/
theorem eq_append_brace {cs tail : List Char} {c : Char}
    (h : cs.dropWhile (· ≠ '}') = c :: tail) : cs = cs.takeWhile (· ≠ '}') ++ '}' :: tail := by
  have hc : c = '}' := by
    have hfirst := List.head?_dropWhile_not (· ≠ '}') cs
    rw [h] at hfirst
    simpa using hfirst
  have hcs := List.takeWhile_append_dropWhile (p := (· ≠ '}')) (l := cs)
  rw [h, hc] at hcs
  exact hcs.symm

/-! ## One way to take a text apart -/

/-- The first opening of a text is where it is. -/
theorem append_opening_inj {before before' rest rest' : List Char}
    (h : ¬ opening <:+: before) (h' : ¬ opening <:+: before')
    (heq : before ++ opening ++ rest = before' ++ opening ++ rest') :
    before = before' ∧ rest = rest' := by
  -- If one literal went on for longer, the opening after the other would lie in it.
  have longer : ∀ {b b' more r r' : List Char}, ¬ opening <:+: b' → b' = b ++ more →
      opening ++ r = more ++ (opening ++ r') → more = [] := by
    intro b b' more r r' hb' hmore hrest
    match more with
    | [] => rfl
    | [c] =>
      simp [opening] at hrest
    | c :: d :: more =>
      simp only [opening, List.cons_append, List.nil_append, List.cons.injEq] at hrest
      obtain ⟨rfl, rfl, -⟩ := hrest
      exact absurd ⟨b, more, by simp [opening, hmore]⟩ hb'
  rw [List.append_assoc, List.append_assoc] at heq
  rcases List.append_eq_append_iff.1 heq with ⟨more, hmore, hrest⟩ | ⟨more, hmore, hrest⟩
  · obtain rfl := longer h' hmore hrest
    rw [List.append_nil] at hmore
    exact ⟨hmore.symm, List.append_cancel_left hrest⟩
  · obtain rfl := longer h hmore hrest
    rw [List.append_nil] at hmore
    exact ⟨hmore, (List.append_cancel_left hrest).symm⟩

/-- A text has proper parts in one way at most. -/
theorem Parts.eq_of_text_eq {parts parts' : Parts} (h : parts.IsProper) (h' : parts'.IsProper)
    (heq : parts.text = parts'.text) : parts = parts' := by
  induction parts generalizing parts' with
  | literal cs =>
    cases parts' with
    | literal cs' => exact congrArg Parts.literal heq
    | reference before name after =>
      exact absurd ⟨before, name ++ '}' :: after.text, by simpa [text] using heq.symm⟩ h
  | reference before name after ih =>
    obtain ⟨hbefore, -, hname, hafter⟩ := h
    cases parts' with
    | literal cs' =>
      exact absurd ⟨before, name ++ '}' :: after.text, by simpa [text] using heq⟩ h'
    | reference before' name' after' =>
      obtain ⟨hbefore', -, hname', hafter'⟩ := h'
      simp only [text, List.append_assoc] at heq
      simp only [← List.append_assoc before, ← List.append_assoc before'] at heq
      obtain ⟨rfl, hrest⟩ := append_opening_inj hbefore hbefore' heq
      -- Both names end at the first closing brace.
      have hnames : name = name' := by
        rw [← takeWhile_append_brace hname after.text, hrest, takeWhile_append_brace hname']
      subst hnames
      rw [List.append_cancel_left_eq, List.cons.injEq] at hrest
      rw [ih hafter hafter' hrest.2]

/-! ## References with a fault -/

/-- What is wrong with the reference that a text starts with after its opening. -/
inductive IsFaulty (env : Environment) : List Char → ReferenceError → Prop
  | unterminated {tail : List Char} (h : '}' ∉ tail) : IsFaulty env tail .unterminated
  | unnamed (rest : List Char) : IsFaulty env ('}' :: rest) .unnamed
  | unset {name : List Char} (hne : name ≠ []) (hname : '}' ∉ name)
      (hunset : env (String.ofList name) = none) (rest : List Char) :
      IsFaulty env (name ++ '}' :: rest) (.unset (String.ofList name))

variable (env : Environment)

/-! ## What a text comes to -/

theorem expandChars_cons {c : Char} {rest : List Char} (h : ¬ opening <+: c :: rest) :
    expandChars env (c :: rest) = (expandChars env rest).map (c :: ·) := by
  rw [expandChars]
  rintro tail rfl rfl
  exact h ⟨tail, rfl⟩

/-- A literal is copied, unless it ends within an opening. -/
theorem expandChars_append {cs rest : List Char} (h : ¬ opening <:+: cs)
    (hrest : rest.head? ≠ some '{') :
    expandChars env (cs ++ rest) = (expandChars env rest).map (cs ++ ·) := by
  induction cs with
  | nil => cases hvalue : expandChars env rest <;> simp [hvalue, Except.map]
  | cons c cs ih =>
    have hlater : ¬ opening <:+: cs := fun hinfix => h (List.infix_cons_iff.2 (.inr hinfix))
    have hfirst : ¬ opening <+: c :: (cs ++ rest) := by
      rintro ⟨tail, htail⟩
      cases cs with
      | nil =>
        simp only [opening, List.cons_append, List.nil_append, List.cons.injEq] at htail
        exact hrest (by simp [← htail.2])
      | cons d cs =>
        simp only [opening, List.cons_append, List.nil_append, List.cons.injEq] at htail
        obtain ⟨rfl, rfl, -⟩ := htail
        exact h ⟨[], cs, rfl⟩
    rw [List.cons_append, expandChars_cons env hfirst, ih hlater]
    cases expandChars env rest <;> rfl

/-- What a reference comes to that has its closing brace. -/
theorem expandChars_reference {name : List Char} (hname : '}' ∉ name) (rest : List Char) :
    expandChars env (opening ++ (name ++ '}' :: rest)) =
      if name.isEmpty then .error .unnamed
      else
        match env (String.ofList name) with
        | none => .error (.unset (String.ofList name))
        | some value => (expandChars env rest).map (value.toList ++ ·) := by
  have htake := takeWhile_append_brace hname rest
  have hdrop := dropWhile_append_brace hname rest
  show expandChars env ('$' :: '{' :: (name ++ '}' :: rest)) = _
  rw [expandChars]
  split
  · next hnone =>
    rw [hdrop] at hnone
    exact absurd hnone (by simp)
  · next tail hsome =>
    rw [hdrop, List.cons.injEq] at hsome
    obtain ⟨-, rfl⟩ := hsome
    generalize (name ++ '}' :: rest).takeWhile (· ≠ '}') = taken at htake ⊢
    subst htake
    rfl

theorem expandChars_unterminated {tail : List Char} (h : '}' ∉ tail) :
    expandChars env (opening ++ tail) = .error .unterminated := by
  have hdrop : tail.dropWhile (· ≠ '}') = [] :=
    List.dropWhile_eq_nil_iff.2 (ne_brace_of_not_mem h)
  show expandChars env ('$' :: '{' :: tail) = _
  rw [expandChars]
  split
  · rfl
  · next hsome =>
    rw [hdrop] at hsome
    exact absurd hsome (by simp)

theorem expandChars_of_isFaulty {tail : List Char} {e : ReferenceError}
    (h : IsFaulty env tail e) : expandChars env (opening ++ tail) = .error e := by
  cases h with
  | unterminated h => exact expandChars_unterminated env h
  | unnamed rest => exact expandChars_reference env List.not_mem_nil rest
  | unset hne hname hunset rest =>
    rw [expandChars_reference env hname, if_neg (by simpa using hne), hunset]

/-- Proper parts with values are replaced, whatever follows them. -/
theorem expandChars_text_append {parts : Parts} (h : parts.IsProper) (hset : parts.IsSet env)
    {rest : List Char} (hrest : rest.head? ≠ some '{') :
    expandChars env (parts.text ++ rest)
      = (expandChars env rest).map (parts.filled env ++ ·) := by
  induction parts with
  | literal cs => exact expandChars_append env h hrest
  | reference before name after ih =>
    obtain ⟨hbefore, hne, hname, hafter⟩ := h
    obtain ⟨hvalue, hset⟩ := hset
    obtain ⟨value, hvalue⟩ := Option.isSome_iff_exists.1 hvalue
    have hopen : (opening ++ (name ++ '}' :: (after.text ++ rest))).head? ≠ some '{' := by
      simp [opening]
    have htext : (Parts.reference before name after).text ++ rest
        = before ++ (opening ++ (name ++ '}' :: (after.text ++ rest))) := by
      simp [Parts.text]
    rw [htext, expandChars_append env hbefore hopen, expandChars_reference env hname,
      if_neg (by simpa using hne), hvalue, ih hafter hset]
    cases expandChars env rest <;> simp [Except.map, Parts.filled, hvalue]

/-! ## Every text has parts -/

/-- Where the parts of a text stop: at its end, or at a reference with a fault. -/
def Stops (rest : List Char) : Prop :=
  rest = [] ∨ ∃ tail e, rest = opening ++ tail ∧ IsFaulty env tail e

/-- Every text has proper parts with values up to where they stop. -/
theorem exists_parts (cs : List Char) :
    ∃ (parts : Parts) (rest : List Char),
      parts.IsProper ∧ parts.IsSet env ∧ cs = parts.text ++ rest ∧ Stops env rest := by
  have hempty : ¬ opening <:+: [] := by simp [opening]
  -- A fault at the very start leaves nothing before it.
  have faulty : ∀ {tail : List Char} {e : ReferenceError}, IsFaulty env tail e →
      ∃ (parts : Parts) (rest : List Char), parts.IsProper ∧ parts.IsSet env ∧
        '$' :: '{' :: tail = parts.text ++ rest ∧ Stops env rest :=
    fun {tail e} h => ⟨.literal [], opening ++ tail, hempty, trivial, rfl, .inr ⟨tail, e, rfl, h⟩⟩
  fun_induction expandChars env cs with
  | case1 => exact ⟨.literal [], [], hempty, trivial, rfl, .inl rfl⟩
  | case2 rest hdrop =>
    refine faulty (.unterminated fun hmem => ?_)
    simpa using List.dropWhile_eq_nil_iff.1 hdrop _ hmem
  | case3 rest name brace tail hdrop hname =>
    have htext : rest = name ++ '}' :: tail := eq_append_brace hdrop
    rw [htext, List.isEmpty_iff.1 hname, List.nil_append]
    exact faulty (.unnamed tail)
  | case4 rest name brace tail hdrop hname hvalue =>
    have htext : rest = name ++ '}' :: tail := eq_append_brace hdrop
    have hbrace : '}' ∉ name := brace_not_mem_takeWhile rest
    rw [htext]
    exact faulty (.unset (mt List.isEmpty_iff.2 hname) hbrace hvalue tail)
  | case5 rest name brace tail hdrop hname value hvalue ih =>
    have htext : rest = name ++ '}' :: tail := eq_append_brace hdrop
    have hbrace : '}' ∉ name := brace_not_mem_takeWhile rest
    obtain ⟨parts, more, hproper, hset, htail, hstops⟩ := ih
    refine ⟨.reference [] name parts, more, ?_, ?_, ?_, hstops⟩
    · exact ⟨hempty, mt List.isEmpty_iff.2 hname, hbrace, hproper⟩
    · exact ⟨by rw [hvalue, Option.isSome_some], hset⟩
    · rw [htext, htail]
      simp only [Parts.text, opening, List.nil_append, List.cons_append, List.append_assoc]
  | case6 c rest hne ih =>
    obtain ⟨parts, more, hproper, hset, hrest, hstops⟩ := ih
    refine ⟨parts.cons c, more, hproper.cons ?_, (Parts.isSet_cons env c parts).2 hset, ?_, hstops⟩
    · rintro ⟨tail, htail⟩
      simp only [opening, List.cons_append, List.nil_append, List.cons.injEq] at htail
      exact hne (tail ++ more) htail.1.symm (by rw [hrest, ← htail.2, List.cons_append])
    · rw [hrest, Parts.text_cons, List.cons_append]

/-! ## Texts with their references replaced -/

theorem expand_eq_ok_iff (input out : String) :
    Delivery.expand env input = .ok out ↔ expandChars env input.toList = .ok out.toList := by
  unfold Delivery.expand expand
  cases expandChars env input.toList with
  | error e => simp [Except.map]
  | ok cs => simp [Except.map, ← String.toList_inj]

theorem expand_eq_error_iff (input : String) (fault : Delivery.Fault) :
    Delivery.expand env input = .error fault ↔
      ∃ e, expandChars env input.toList = .error e ∧ fault = .reference input e := by
  unfold Delivery.expand expand
  cases expandChars env input.toList with
  | error e => simp [Except.map, eq_comm]
  | ok cs => simp [Except.map]

/-- Replacing the references of a text follows the way in which the text is taken apart. -/
structure ReplacesReferences (env : Environment) (input : String) : Prop where
  accepts : ∀ out, Delivery.expand env input = .ok out ↔
    ∃ parts : Parts, parts.IsProper ∧ parts.IsSet env ∧ parts.text = input.toList ∧
      out.toList = parts.filled env
  unique : ∀ parts parts' : Parts, parts.IsProper → parts'.IsProper →
    parts.text = input.toList → parts'.text = input.toList → parts = parts'
  refuses : ∀ fault, Delivery.expand env input = .error fault ↔
    ∃ (parts : Parts) (tail : List Char) (e : ReferenceError), parts.IsProper ∧ parts.IsSet env ∧
      input.toList = parts.text ++ opening ++ tail ∧ IsFaulty env tail e ∧
        fault = .reference input e

/-- **References are replaced by their grammar.** A text with proper parts whose names are all set
    becomes its literals with the values between them, and these parts are its only ones; any other
    text is refused for its first reference that is not terminated, empty or not set. -/
theorem replacesReferences (env : Environment) (input : String) : ReplacesReferences env input := by
  -- The two ways in which parts can stop decide what the text comes to.
  have filled : ∀ {parts : Parts}, parts.IsProper → parts.IsSet env →
      expandChars env parts.text = .ok (parts.filled env) := by
    intro parts hproper hset
    have hend : ([] : List Char).head? ≠ some '{' := by simp
    have htext := expandChars_text_append env hproper hset hend
    rw [expandChars] at htext
    simpa [Except.map] using htext
  have faulty : ∀ {parts : Parts} {tail : List Char} {e : ReferenceError}, parts.IsProper →
      parts.IsSet env → IsFaulty env tail e →
        expandChars env (parts.text ++ opening ++ tail) = .error e := by
    intro parts tail e hproper hset hfault
    rw [List.append_assoc, expandChars_text_append env hproper hset (by simp [opening]),
      expandChars_of_isFaulty env hfault]
    rfl
  obtain ⟨parts, rest, hproper, hset, htext, hstops⟩ := exists_parts env input.toList
  constructor
  case accepts =>
    intro out
    rw [expand_eq_ok_iff]
    constructor
    · intro h
      rcases hstops with rfl | ⟨tail, e, rfl, hfault⟩
      · rw [List.append_nil] at htext
        rw [htext, filled hproper hset, Except.ok.injEq] at h
        exact ⟨parts, hproper, hset, htext.symm, h.symm⟩
      · rw [htext, ← List.append_assoc, faulty hproper hset hfault] at h
        cases h
    · rintro ⟨parts, hproper, hset, htext, hout⟩
      rw [← htext, hout, filled hproper hset]
  case unique =>
    intro parts parts' h h' htext htext'
    exact Parts.eq_of_text_eq h h' (htext.trans htext'.symm)
  case refuses =>
    intro fault
    rw [expand_eq_error_iff]
    constructor
    · rintro ⟨e, he, rfl⟩
      rcases hstops with rfl | ⟨tail, e', rfl, hfault⟩
      · rw [List.append_nil] at htext
        rw [htext, filled hproper hset] at he
        cases he
      · rw [← List.append_assoc] at htext
        rw [htext, faulty hproper hset hfault, Except.error.injEq] at he
        subst he
        exact ⟨parts, tail, e', hproper, hset, htext, hfault, rfl⟩
    · rintro ⟨parts, tail, e, hproper, hset, htext, hfault, rfl⟩
      exact ⟨e, by rw [htext, faulty hproper hset hfault], rfl⟩

end Watchpost.Environment
