import Mathlib.Data.String.Basic
import Watchpost.Proofs.Text.Encoding
import Watchpost.Proofs.Tracker.Run

set_option autoImplicit false

/-! # Snapshots of a tracker

A snapshot holds every bucket once, in the order of the bytes of rules and, within a rule, of those
of values. Keys are compared part by part, so that parts which would give one text if they were
joined make up different keys. The order is strict, because no key has two buckets; so there is only
one snapshot, in whatever order the store lists its buckets. -/

namespace Watchpost.Tracker

/-! ## The order of keys -/

/-- A key comes before another: by the bytes of the rules, then by those of the values. -/
def Key.Before (a b : Key) : Prop :=
  Text.bytes a.ruleId < Text.bytes b.ruleId ∨
    a.ruleId = b.ruleId ∧ Text.bytes a.value < Text.bytes b.value

theorem Key.before_iff (a b : Key) :
    a.Before b ↔ a.ruleId < b.ruleId ∨ a.ruleId = b.ruleId ∧ a.value < b.value := by
  rw [Key.Before, Text.bytes_lt_iff, Text.bytes_lt_iff]

/-- A rule and a value are not joined: both keys would be one text then. -/
example : Key.Before ⟨"a", "bc"⟩ ⟨"ab", "c"⟩ := by
  rw [Key.before_iff]
  decide

theorem Key.atMost_iff (a b : Key) : a.atMost b = true ↔ a.Before b ∨ a = b := by
  obtain ⟨rule, value⟩ := a
  obtain ⟨rule', value'⟩ := b
  rw [Key.before_iff, Key.mk.injEq]
  by_cases hrule : rule = rule'
  · subst hrule
    simp [Key.atMost, le_iff_lt_or_eq]
  · simp [Key.atMost, le_iff_lt_or_eq, hrule]

theorem Key.Before.trans {a b c : Key} (hab : a.Before b) (hbc : b.Before c) : a.Before c := by
  rw [Key.before_iff] at *
  rcases hab with hab | ⟨hab, hab'⟩
  · rcases hbc with hbc | ⟨hbc, -⟩
    · exact Or.inl (hab.trans hbc)
    · exact Or.inl (hbc ▸ hab)
  · rcases hbc with hbc | ⟨hbc, hbc'⟩
    · exact Or.inl (hab ▸ hbc)
    · exact Or.inr ⟨hab.trans hbc, hab'.trans hbc'⟩

theorem Key.Before.irrefl {a : Key} : ¬ a.Before a := by
  rw [Key.before_iff]
  simp

/-- Of two different keys one comes before the other. -/
theorem Key.before_or_before {a b : Key} (h : a ≠ b) : a.Before b ∨ b.Before a := by
  rw [Key.before_iff, Key.before_iff]
  rcases lt_trichotomy a.ruleId b.ruleId with hrule | hrule | hrule
  · exact Or.inl (Or.inl hrule)
  · rcases lt_trichotomy a.value b.value with hvalue | hvalue | hvalue
    · exact Or.inl (Or.inr ⟨hrule, hvalue⟩)
    · refine absurd ?_ h
      cases a
      cases b
      simp only [Key.mk.injEq]
      exact ⟨hrule, hvalue⟩
    · exact Or.inr (Or.inr ⟨hrule.symm, hvalue⟩)
  · exact Or.inr (Or.inl hrule)

theorem Key.atMost_total (a b : Key) : (a.atMost b || b.atMost a) = true := by
  rw [Bool.or_eq_true, Key.atMost_iff, Key.atMost_iff]
  by_cases h : a = b
  · exact Or.inl (Or.inr h)
  · exact (Key.before_or_before h).imp Or.inl Or.inl

theorem Key.atMost_trans (a b c : Key) (hab : a.atMost b = true) (hbc : b.atMost c = true) :
    a.atMost c = true := by
  rw [Key.atMost_iff] at *
  rcases hab with hab | rfl
  · rcases hbc with hbc | rfl
    · exact Or.inl (hab.trans hbc)
    · exact Or.inl hab
  · exact hbc

/-! ## The snapshot -/

theorem snapshot_perm (t : Tracker) : t.snapshot.Perm t.buckets :=
  List.mergeSort_perm t.buckets _

theorem HasUniqueKeys.snapshot {t : Tracker} (h : t.HasUniqueKeys) :
    (t.snapshot.map Prod.fst).Nodup :=
  ((snapshot_perm t).map Prod.fst).nodup_iff.2 h

/-- The entries of a snapshot are in strict order, because no two of them have one key. -/
theorem HasUniqueKeys.pairwise_snapshot {t : Tracker} (h : t.HasUniqueKeys) :
    t.snapshot.Pairwise fun a b => a.1.Before b.1 := by
  have hsorted : t.snapshot.Pairwise fun a b => a.1.atMost b.1 = true :=
    @List.pairwise_mergeSort _ (fun a b => a.1.atMost b.1)
      (fun a b c => Key.atMost_trans a.1 b.1 c.1) (fun a b => Key.atMost_total a.1 b.1) t.buckets
  have hdistinct : t.snapshot.Pairwise fun a b => a.1 ≠ b.1 := List.pairwise_map.1 h.snapshot
  refine (hsorted.and hdistinct).imp ?_
  rintro a b ⟨hle, hne⟩
  rcases (Key.atMost_iff a.1 b.1).1 hle with hbefore | heq
  · exact hbefore
  · exact absurd heq hne

theorem HasUniqueKeys.mem_snapshot_iff {t : Tracker} (h : t.HasUniqueKeys) (key : Key)
    (b : Bucket) : (key, b) ∈ t.snapshot ↔ t.find? key = some b := by
  rw [(snapshot_perm t).mem_iff]
  exact ⟨lookup_of_mem h, mem_of_lookup⟩

/-- Entries in strict order that are those of the store make up its snapshot. -/
theorem HasUniqueKeys.eq_snapshot {t : Tracker} (h : t.HasUniqueKeys) {view : List (Key × Bucket)}
    (hperm : view.Perm t.buckets) (hsorted : view.Pairwise fun a b => a.1.Before b.1) :
    view = t.snapshot := by
  refine (hperm.trans (snapshot_perm t).symm).eq_of_pairwise ?_ hsorted h.pairwise_snapshot
  intro a b _ _ hab hba
  exact absurd (hab.trans hba) Key.Before.irrefl

theorem HasUniqueKeys.perm {t u : Tracker} (h : t.HasUniqueKeys)
    (hperm : u.buckets.Perm t.buckets) : u.HasUniqueKeys :=
  (hperm.map Prod.fst).nodup_iff.2 h

/-- What the views of a store tell of it. -/
structure ShowsStore (t : Tracker) : Prop where
  /-- The snapshot is strictly increasing. -/
  increasing : t.snapshot.Pairwise fun a b => a.1.Before b.1
  /-- It has one entry for each bucket, with the count and the times of the bucket. -/
  entries : t.snapshot.Perm t.buckets
  /-- It is as long as the store is large. -/
  length : t.snapshot.length = t.size
  /-- A count is told for a rule and a value exactly if the snapshot has an entry with it. -/
  counts : ∀ ruleId value count, t.count? ruleId value = some count ↔
    ∃ b, (⟨ruleId, value⟩, b) ∈ t.snapshot ∧ b.count = count
  /-- All views are the same in whatever order the store lists its buckets. -/
  anyOrder : ∀ u : Tracker, u.buckets.Perm t.buckets →
    u.snapshot = t.snapshot ∧ u.size = t.size ∧ u.count? = t.count?

/-- **Snapshots, counts and sizes agree with the store**, after any run. -/
theorem shows_store_after_run (steps : List Step) : ShowsStore (empty.run steps).2 := by
  have hunique : (empty.run steps).2.HasUniqueKeys := hasUniqueKeys_empty.run steps
  generalize (empty.run steps).2 = t at hunique
  constructor
  case increasing => exact hunique.pairwise_snapshot
  case entries => exact snapshot_perm t
  case length => exact (snapshot_perm t).length_eq
  case counts =>
    intro ruleId value count
    simp only [hunique.mem_snapshot_iff]
    exact Option.map_eq_some_iff
  case anyOrder =>
    intro u hperm
    have hunique' := hunique.perm hperm
    refine ⟨?_, hperm.length_eq, ?_⟩
    · exact hunique.eq_snapshot ((snapshot_perm u).trans hperm) hunique'.pairwise_snapshot
    · funext ruleId value
      have hfind : u.find? ⟨ruleId, value⟩ = t.find? ⟨ruleId, value⟩ :=
        lookup_of_perm_of_nodup hperm hunique' _
      rw [count?, count?, hfind]

end Watchpost.Tracker
