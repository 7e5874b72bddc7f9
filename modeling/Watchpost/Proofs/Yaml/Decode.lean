import Mathlib.Algebra.Group.Nat.Defs
import Watchpost.Proofs.Json.Values
import Watchpost.Yaml.Decode

set_option autoImplicit false

/-! # What is read from YAML documents

An action yields a property when every value that it can come to has it, from whatever document and
after however many aliases. Properties are yielded through the steps of an action, so that a
record's reader yields what the readers of its fields yield. A free-form value is yielded in normal
form. -/

namespace Watchpost.Yaml.Decode

variable {α β : Type}

/-- Every value that an action comes to has a property. -/
def Yields (m : Decode α) (P : α → Prop) : Prop :=
  ∀ document followed a followed', m document followed = some (a, followed') → P a

/-! ## Steps -/

theorem yields_true (m : Decode α) : Yields m fun _ => True :=
  fun _ _ _ _ _ => trivial

theorem yields_refuse (P : α → Prop) : Yields refuse P :=
  fun _ _ _ _ h => nomatch h

theorem yields_pure {P : α → Prop} {a : α} (h : P a) : Yields (pure a) P := by
  intro document followed b followed' hm
  obtain ⟨rfl, -⟩ := Prod.mk.inj (Option.some.inj hm)
  exact h

theorem yields_ofOption {P : α → Prop} {o : Option α} (h : ∀ a ∈ o, P a) :
    Yields (ofOption o) P := by
  intro document followed a followed' hm
  obtain ⟨b, hb, heq⟩ := Option.map_eq_some_iff.1 hm
  obtain ⟨rfl, -⟩ := Prod.mk.inj heq
  exact h b hb

theorem Yields.bind {m : Decode α} {f : α → Decode β} {P : α → Prop} {Q : β → Prop}
    (hm : Yields m P) (hf : ∀ a, P a → Yields (f a) Q) : Yields (m >>= f) Q := by
  intro document followed b followed' h
  obtain ⟨⟨a, between⟩, hfirst, hrest⟩ := Option.bind_eq_some_iff.1 h
  exact hf a (hm document followed a between hfirst) document between b followed' hrest

theorem yields_mapM {f : α → Decode β} {P : β → Prop} (h : ∀ a, Yields (f a) P) (items : List α) :
    Yields (items.mapM f) fun bs => ∀ b ∈ bs, P b := by
  induction items with
  | nil => exact yields_pure fun _ hb => absurd hb List.not_mem_nil
  | cons item rest ih =>
    rw [List.mapM_cons]
    exact (h item).bind fun b hb => ih.bind fun bs hbs =>
      yields_pure (List.forall_mem_cons.2 ⟨hb, hbs⟩)

/-! ## Containers -/

section

variable {item : Reader α} {P : α → Prop} {depth : Nat} {n : Node}

theorem yields_list (h : ∀ depth n, Yields (item depth n) P) :
    Yields (list item depth n) fun as => ∀ a ∈ as, P a := by
  refine (yields_true _).bind fun n _ => ?_
  split
  · exact yields_pure fun _ ha => absurd ha List.not_mem_nil
  · split
    · exact yields_mapM (h _) _
    · exact yields_refuse _

theorem yields_optional (h : ∀ n, Yields (item depth n) P) :
    Yields (optional item depth n) fun o => ∀ a ∈ o, P a := by
  have hnone : Yields (pure none : Decode (Option α)) fun o => ∀ a ∈ o, P a :=
    yields_pure fun _ ha => nomatch ha
  have hsome : ∀ n, Yields (do return some (← item depth n)) fun o => ∀ a ∈ o, P a :=
    fun n => (h n).bind fun a ha => yields_pure fun _ hb => Option.some.inj hb ▸ ha
  refine (yields_true _).bind fun n _ => ?_
  split
  · exact hnone
  · split
    · split
      · exact hnone
      · exact hsome _
    · split
      · split
        · exact hnone
        · exact yields_refuse _
      · exact hsome _
  · exact hsome _

variable {record : List (String × Node) × Nat} {key : String}

theorem yields_required (h : ∀ depth n, Yields (item depth n) P) :
    Yields (required record key item) P := by
  unfold required
  split
  · exact h _ _
  · exact yields_refuse P

theorem yields_orElse {default : α} (hdefault : P default)
    (h : ∀ depth n, Yields (item depth n) P) : Yields (orElse record key default item) P := by
  unfold orElse
  split
  · exact h _ _
  · exact yields_pure hdefault

end

/-! ## Free-form values -/

open Json (IsNormal isNormal_null isNormal_bool isNormal_string isNormal_ofInt isNormal_ofDouble)

theorem isNormal_of_plainValue {s : String} {j : Json} (h : plainValue s = some j) :
    IsNormal j := by
  unfold plainValue at h
  split at h
  · exact Option.some.inj h ▸ isNormal_null
  · split at h
    · exact Option.some.inj h ▸ isNormal_bool _
    · split at h
      · exact Option.some.inj h ▸ isNormal_ofInt _
      · split at h
        · cases h
        · split at h
          · exact Option.some.inj h ▸ isNormal_string _
          · split at h
            · exact Option.some.inj h ▸ isNormal_ofDouble _
            · exact Option.some.inj h ▸ isNormal_string _

theorem isNormal_of_scalarValue {tag : Option String} {style : Style} {s : String} {j : Json}
    (h : scalarValue tag style s = some j) : IsNormal j := by
  unfold scalarValue at h
  split at h
  · split at h
    · exact isNormal_of_plainValue h
    · exact Option.some.inj h ▸ isNormal_string _
  · split at h
    · cases h
    · split at h
      · obtain ⟨b, -, rfl⟩ := Option.map_eq_some_iff.1 h
        exact isNormal_bool b
      · split at h
        · obtain ⟨n, -, rfl⟩ := Option.map_eq_some_iff.1 h
          exact isNormal_ofInt n
        · split at h
          · obtain ⟨x, -, rfl⟩ := Option.map_eq_some_iff.1 h
            exact isNormal_ofDouble x
          · split at h
            · split at h
              · exact Option.some.inj h ▸ isNormal_null
              · cases h
            · exact Option.some.inj h ▸ isNormal_string _

/-- The members of a free-form mapping, each value read one level further in. -/
theorem yields_entries {depth : Nat} (h : ∀ n, Yields (value depth n) IsNormal)
    (entries : List (Node × Node)) :
    Yields (entries.mapM fun (key, item) => do return (← text depth key, ← value depth item))
      fun members => ∀ m ∈ members, IsNormal m.2 :=
  yields_mapM (fun (_, item) => (yields_true _).bind fun _ _ => (h item).bind fun _ hj =>
    yields_pure hj) entries

theorem yields_leafValue (n : Node) : Yields (leafValue n) IsNormal := by
  unfold leafValue
  split
  · exact yields_ofOption fun _ hj => isNormal_of_scalarValue hj
  · exact yields_pure isNormal_null
  · exact yields_refuse _

/-- **A free-form value is normal.** -/
theorem yields_value (depth : Nat) (n : Node) : Yields (value depth n) IsNormal := by
  induction depth generalizing n with
  | zero =>
    rw [value]
    exact (yields_true _).bind fun n _ => yields_leafValue n
  | succ depth ih =>
    rw [value]
    refine (yields_true _).bind fun n _ => ?_
    split
    · split
      · exact yields_refuse _
      · exact (yields_mapM ih _).bind fun _ hitems => yields_pure (.array hitems)
    · split
      · exact yields_refuse _
      · exact (yields_entries ih _).bind fun _ hmembers => yields_pure (.ofMembers hmembers)
    · exact yields_leafValue _

theorem yields_members (depth : Nat) (n : Node) :
    Yields (members depth n) fun ms => IsNormal (.object ms) := by
  refine (yields_true _).bind fun n _ => ?_
  split
  · exact yields_pure Json.isNormal_empty
  · split
    · exact (yields_entries (yields_value _) _).bind fun _ hmembers =>
        yields_pure (.ofMembers hmembers)
    · exact yields_refuse _

/-! ## Words -/

theorem lt_of_unsigned? {limit n : Nat} {cs : List Char} (h : Plain.unsigned? limit cs = some n) :
    n < limit := by
  have hfilter : ∀ o : Option Nat, o.filter (· < limit) = some n → n < limit :=
    fun o ho => of_decide_eq_true (Option.filter_eq_some_iff.1 ho).2
  have hdecimal : ∀ (unread : Bool) (o : Option Nat),
      (if unread then none else o.filter (· < limit)) = some n → n < limit :=
    fun unread o ho => hfilter o (Option.ite_none_left_eq_some.1 ho).2
  unfold Plain.unsigned? at h
  simp only at h
  split at h
  · obtain ⟨-, h⟩ := Option.ite_none_left_eq_some.1 h
    simp only [Option.orElse_eq_orElse, Option.orElse_eq_or, Option.or_eq_some_iff] at h
    rcases h with h | ⟨-, h⟩
    · exact hfilter _ h
    · exact hdecimal _ _ h
  · exact hdecimal _ _ h

theorem yields_word (width depth : Nat) (n : Node) :
    Yields (word width depth n) (· < 2 ^ width) := by
  refine (yields_true _).bind fun n _ => ?_
  split
  · split
    · exact yields_ofOption fun _ hn => lt_of_unsigned? hn
    · exact yields_refuse _
  · exact yields_refuse _

end Watchpost.Yaml.Decode
