import Watchpost.Proofs.Worker.Items

set_option autoImplicit false

/-! # A shutdown at any moment

A shutdown may be asked for before a worker looks at its source, while it waits for an item and
while it deals with one. `Worker.AtWork` is a worker at any of these moments, and `AtWork.after` is
what becomes of it, whatever happens and in whatever order. `Worker.Account` says what holds at a
moment, and `Worker.accounts_at_any_moment` that it holds at all of them, and that the ways in which
work can end are the runs of the worker. -/

namespace Watchpost.Worker

open Delivery (Target)
open EventLines (Item)

/-! ## Moments -/

/-- Why a worker stops. -/
inductive Ending where
  | interrupted
  | exhausted
  | failed
deriving DecidableEq, Repr

/-- What a worker does. -/
inductive Phase where
  | waiting
  | dealing (item : Item)
  | stopped (ending : Ending)

/-- A worker at work on a source: the items it has dealt with, those it has not yet taken, and
    whether a shutdown has been asked for. -/
structure AtWork (τ ω : Type) where
  worker : Worker τ ω
  phase : Phase := .waiting
  done : List Item := []
  rest : List Item
  asked : Bool := false

/-- What may happen: a shutdown is asked for, or the worker goes on if what it waits for is ready,
    be it an item of the source or the end of what it does with one. -/
inductive Happening where
  | ask
  | look (ready : Bool)
deriving DecidableEq, Repr

variable {τ ω : Type} [Target τ ω]

namespace AtWork

/-- A worker that begins with a source. -/
def start (w : Worker τ ω) (source : String) (items : List Item) : AtWork τ ω :=
  { worker := w.begin source, rest := items }

/-- The items that have been taken. -/
def taken (s : AtWork τ ω) : List Item :=
  match s.phase with
  | .dealing item => s.done ++ [item]
  | _ => s.done

/-- Whether the worker has stopped. -/
def isStopped (s : AtWork τ ω) : Bool :=
  match s.phase with
  | .stopped _ => true
  | _ => false

/-- A worker that waits looks whether a shutdown has been asked for, and at the source only if not,
    both in one step; a worker that deals with an item looks at neither. -/
def step (clock : Nat → Nat → Stamp) (source : String) (s : AtWork τ ω) : Happening → AtWork τ ω
  | .ask => { s with asked := true }
  | .look ready =>
    match s.phase with
    | .waiting =>
      if s.asked then { s with worker := s.worker.interrupt, phase := .stopped .interrupted }
      else if ready then
        match s.rest with
        | [] => { s with worker := s.worker.exhaust source, phase := .stopped .exhausted }
        | item :: rest => { s with phase := .dealing item, rest := rest }
      else s
    | .dealing item =>
      if ready then
        { s with
          worker := (s.worker.take (clock s.done.length) source item).1
          phase := if goesOn item then .waiting else .stopped .failed
          done := s.done ++ [item] }
      else s
    | .stopped _ => s

/-- What becomes of a worker at work. -/
def after (clock : Nat → Nat → Stamp) (source : String) (s : AtWork τ ω) (xs : List Happening) :
    AtWork τ ω :=
  xs.foldl (step clock source) s

theorem after_cons (clock : Nat → Nat → Stamp) (source : String) (s : AtWork τ ω) (x : Happening)
    (xs : List Happening) :
    s.after clock source (x :: xs) = (s.step clock source x).after clock source xs :=
  rfl

/-- A worker that waits takes an item that is ready, and deals with it. -/
theorem after_item (clock : Nat → Nat → Stamp) (source : String) (w : Worker τ ω)
    (done rest : List Item) (item : Item) (xs : List Happening) :
    after clock source { worker := w, done, rest := item :: rest } (.look true :: .look true :: xs)
      = after clock source
          { worker := (w.take (clock done.length) source item).1
            phase := if goesOn item then .waiting else .stopped .failed
            done := done ++ [item]
            rest } xs :=
  rfl

/-- Whether a worker has seen enough: it has stopped or will at its next look for an item, for a
    shutdown has been asked for or an item that it has taken ends the source. -/
def IsEnding (s : AtWork τ ω) : Prop :=
  s.isStopped = true ∨ s.asked = true ∨ ∃ item ∈ s.taken, goesOn item = false

/-- How many looks that find ready what the worker waits for are left at most: one for the end, one
    for the item that it deals with, and two for each item that it may still take. -/
def remaining (s : AtWork τ ω) : Nat :=
  let ahead := if s.asked then 0 else 2 * s.rest.length
  match s.phase with
  | .waiting => ahead + 1
  | .dealing _ => ahead + 2
  | .stopped _ => 0

end AtWork

/-! ## What is reached -/

/-- The moments of a worker that begins with a source: it has taken the items that are done one
    after another, and the source went on after each, but for the last where it has failed. -/
inductive Reached (w : Worker τ ω) (clock : Nat → Nat → Stamp) (source : String)
    (items : List Item) : AtWork τ ω → Prop
  | waiting {done rest : List Item} {asked : Bool} (hitems : items = done ++ rest)
      (hgoes : ∀ item ∈ done, goesOn item = true) :
      Reached w clock source items
        { worker := takeEach clock source 0 done (w.begin source), done, rest, asked }
  | dealing {done rest : List Item} {item : Item} {asked : Bool}
      (hitems : items = done ++ item :: rest) (hgoes : ∀ item ∈ done, goesOn item = true) :
      Reached w clock source items
        { worker := takeEach clock source 0 done (w.begin source), phase := .dealing item,
          done, rest, asked }
  | interrupted {done rest : List Item} (hitems : items = done ++ rest)
      (hgoes : ∀ item ∈ done, goesOn item = true) :
      Reached w clock source items
        { worker := (takeEach clock source 0 done (w.begin source)).interrupt,
          phase := .stopped .interrupted, done, rest, asked := true }
  | exhausted {done : List Item} {asked : Bool} (hitems : items = done ++ [])
      (hgoes : ∀ item ∈ done, goesOn item = true) :
      Reached w clock source items
        { worker := (takeEach clock source 0 done (w.begin source)).exhaust source,
          phase := .stopped .exhausted, done, rest := [], asked }
  | failed {done rest : List Item} {item : Item} {asked : Bool}
      (hitems : items = done ++ item :: rest) (hgoes : ∀ item ∈ done, goesOn item = true)
      (hends : goesOn item = false) :
      Reached w clock source items
        { worker := takeEach clock source 0 (done ++ [item]) (w.begin source),
          phase := .stopped .failed, done := done ++ [item], rest, asked }

variable {w : Worker τ ω} {clock : Nat → Nat → Stamp} {source : String} {items : List Item}
  {s : AtWork τ ω}

theorem reached_start (w : Worker τ ω) (clock : Nat → Nat → Stamp) (source : String)
    (items : List Item) : Reached w clock source items (.start w source items) :=
  .waiting rfl (List.forall_mem_nil _)

theorem Reached.step (h : Reached w clock source items s) (x : Happening) :
    Reached w clock source items (s.step clock source x) := by
  cases x with
  | ask =>
    cases h with
    | waiting hitems hgoes => exact .waiting hitems hgoes
    | dealing hitems hgoes => exact .dealing hitems hgoes
    | interrupted hitems hgoes => exact .interrupted hitems hgoes
    | exhausted hitems hgoes => exact .exhausted hitems hgoes
    | failed hitems hgoes hends => exact .failed hitems hgoes hends
  | look ready =>
    cases h with
    | @waiting done rest asked hitems hgoes =>
      cases asked with
      | true => exact .interrupted hitems hgoes
      | false =>
        cases ready with
        | false => exact .waiting hitems hgoes
        | true =>
          cases rest with
          | nil => exact .exhausted hitems hgoes
          | cons item rest => exact .dealing hitems hgoes
    | @dealing done rest item asked hitems hgoes =>
      cases ready with
      | false => exact .dealing hitems hgoes
      | true =>
        simp only [AtWork.step, if_true, ← takeEach_concat]
        cases hitem : goesOn item with
        | true =>
          exact .waiting (by simp [hitems])
            (List.forall_mem_append.2 ⟨hgoes, by simpa using hitem⟩)
        | false => exact .failed hitems hgoes hitem
    | interrupted hitems hgoes => exact .interrupted hitems hgoes
    | exhausted hitems hgoes => exact .exhausted hitems hgoes
    | failed hitems hgoes hends => exact .failed hitems hgoes hends

theorem Reached.after (h : Reached w clock source items s) (xs : List Happening) :
    Reached w clock source items (s.after clock source xs) := by
  induction xs generalizing s with
  | nil => exact h
  | cons x xs ih => exact ih (h.step x)

/-! ## Nothing more is taken -/

theorem Reached.taken_step (h : Reached w clock source items s) (hending : s.IsEnding)
    (x : Happening) :
    (s.step clock source x).taken = s.taken ∧ (s.step clock source x).IsEnding := by
  cases x with
  | ask => exact ⟨rfl, .inr (.inl rfl)⟩
  | look ready =>
    cases h with
    | @waiting done rest asked hitems hgoes =>
      cases asked with
      | true => exact ⟨rfl, .inl rfl⟩
      | false =>
        obtain hstopped | hasked | ⟨item, hitem, hends⟩ := hending
        · exact absurd hstopped (by simp [AtWork.isStopped])
        · exact absurd hasked (by simp)
        · exact absurd (hgoes item hitem) (by simp [hends])
    | @dealing done rest item asked hitems hgoes =>
      cases ready with
      | false => exact ⟨rfl, hending⟩
      | true =>
        cases hitem : goesOn item with
        | false =>
          simp only [AtWork.step, if_true, hitem]
          exact ⟨rfl, .inl rfl⟩
        | true =>
          simp only [AtWork.step, if_true, hitem]
          refine ⟨rfl, .inr ?_⟩
          obtain hstopped | hrest := hending
          · exact absurd hstopped (by simp [AtWork.isStopped])
          · exact hrest
    | interrupted hitems hgoes => exact ⟨rfl, .inl rfl⟩
    | exhausted hitems hgoes => exact ⟨rfl, .inl rfl⟩
    | failed hitems hgoes hends => exact ⟨rfl, .inl rfl⟩

theorem Reached.taken_after (h : Reached w clock source items s) (hending : s.IsEnding)
    (xs : List Happening) : (s.after clock source xs).taken = s.taken := by
  induction xs generalizing s with
  | nil => rfl
  | cons x xs ih =>
    obtain ⟨htaken, hending⟩ := h.taken_step hending x
    exact (ih (h.step x) hending).trans htaken

/-! ## The worker stops -/

namespace AtWork

omit [Target τ ω] in
theorem isStopped_of_remaining_eq_zero (h : s.remaining = 0) : s.isStopped = true := by
  obtain ⟨worker, phase, done, rest, asked⟩ := s
  cases phase with
  | waiting => exact absurd h (Nat.succ_ne_zero _)
  | dealing item => exact absurd h (Nat.succ_ne_zero _)
  | stopped ending => rfl

theorem remaining_ask_le (clock : Nat → Nat → Stamp) (source : String) (s : AtWork τ ω) :
    (s.step clock source .ask).remaining ≤ s.remaining := by
  obtain ⟨worker, phase, done, rest, asked⟩ := s
  cases phase <;> simp only [step, remaining, if_true] <;> omega

theorem remaining_look_le (clock : Nat → Nat → Stamp) (source : String) (s : AtWork τ ω)
    (ready : Bool) :
    (s.step clock source (.look ready)).remaining ≤ s.remaining - ready.toNat := by
  obtain ⟨worker, phase, done, rest, asked⟩ := s
  cases phase with
  | waiting =>
    cases asked with
    | true => exact Nat.zero_le _
    | false =>
      cases ready with
      | false => exact Nat.le_refl _
      | true =>
        cases rest with
        | nil => exact Nat.zero_le _
        | cons item rest =>
          show 2 * rest.length + 2 ≤ 2 * (rest.length + 1) + 1 - 1
          omega
  | dealing item =>
    cases ready with
    | false => exact Nat.le_refl _
    | true =>
      cases hitem : goesOn item with
      | true => simp [step, remaining, hitem]
      | false => simp [step, remaining, hitem]
  | stopped ending => exact Nat.zero_le _

theorem remaining_after_le (clock : Nat → Nat → Stamp) (source : String) (s : AtWork τ ω)
    (xs : List Happening) :
    (s.after clock source xs).remaining ≤ s.remaining - xs.count (.look true) := by
  induction xs generalizing s with
  | nil => exact Nat.le_refl _
  | cons x xs ih =>
    have hrest := ih (s.step clock source x)
    rw [← after_cons] at hrest
    cases x with
    | ask =>
      have hstep := remaining_ask_le clock source s
      rw [List.count_cons_of_ne (by simp)]
      omega
    | look ready =>
      have hstep := remaining_look_le clock source s ready
      cases ready with
      | false =>
        rw [List.count_cons_of_ne (by simp)]
        rw [Bool.toNat_false] at hstep
        omega
      | true =>
        rw [List.count_cons_self]
        rw [Bool.toNat_true] at hstep
        omega

end AtWork

/-! ## How work ends -/

/-- When a shutdown is asked for in a run that ends in some way with some number of items taken. -/
def Ending.shutdown (ending : Ending) (taken n : Nat) : Bool :=
  ending == .interrupted && decide (taken ≤ n)

/-- What holds of a worker that has stopped: the items taken are dealt with, the worker is as a run
    leaves it, and there was a reason. -/
structure Ended (w : Worker τ ω) (clock : Nat → Nat → Stamp) (source : String) (items : List Item)
    (s : AtWork τ ω) (ending : Ending) : Prop where
  taken_eq_done : s.taken = s.done
  worker_eq : s.worker = w.run (ending.shutdown s.done.length) clock source items
  asked_of_interrupted : ending = .interrupted → s.asked = true
  rest_of_exhausted : ending = .exhausted → s.rest = []
  ends_of_failed : ending = .failed → ∃ item ∈ s.done.getLast?, goesOn item = false

theorem Reached.ended (h : Reached w clock source items s) {ending : Ending}
    (hstopped : s.phase = .stopped ending) : Ended w clock source items s ending := by
  cases h with
  | waiting hitems hgoes => cases hstopped
  | dealing hitems hgoes => cases hstopped
  | @interrupted done rest hitems hgoes =>
    cases hstopped
    refine ⟨rfl, ?_, fun _ => rfl, nofun, nofun⟩
    rw [run, hitems, takeAll_append (by simp [Ending.shutdown]) hgoes,
      takeAll_of_shutdown (by simp [Ending.shutdown])]
  | @exhausted done asked hitems hgoes =>
    cases hstopped
    refine ⟨rfl, ?_, nofun, fun _ => rfl, nofun⟩
    rw [run, hitems, takeAll_append (by simp [Ending.shutdown]) hgoes, takeAll_nil rfl]
  | @failed done rest item asked hitems hgoes hends =>
    cases hstopped
    refine ⟨rfl, ?_, nofun, nofun, fun _ => ⟨item, by simp, hends⟩⟩
    rw [run, hitems, takeAll_append (by simp [Ending.shutdown]) hgoes, takeAll_cons rfl,
      if_neg (by simp [hends]), takeEach_concat, Nat.zero_add]

/-- The account of a worker at work on the items of a source. -/
structure Account (w : Worker τ ω) (clock : Nat → Nat → Stamp) (source : String)
    (items : List Item) (s : AtWork τ ω) : Prop where
  /-- What has been taken is a beginning of the items. -/
  taken_append_rest : s.taken ++ s.rest = items
  /-- What has been taken is dealt with, but for an item that the worker is dealing with. -/
  dealtWith_done : DealtWith clock 0 s.done w s.worker
  /-- Nothing is taken after an item that ends the source. -/
  goesOn_of_mem_dropLast : ∀ item ∈ s.taken.dropLast, goesOn item = true
  /-- Once the worker has seen enough, it takes nothing more, whatever happens. -/
  taken_after : s.IsEnding → ∀ xs, (s.after clock source xs).taken = s.taken
  /-- The worker stops, as soon as what it waits for has been ready so many times. -/
  stops : ∀ xs, s.remaining ≤ xs.count (.look true) → (s.after clock source xs).isStopped = true
  ended : ∀ ending, s.phase = .stopped ending → Ended w clock source items s ending

theorem Reached.dealtWith_done (h : Reached w clock source items s) :
    DealtWith clock 0 s.done w s.worker := by
  have hdone : DealtWith clock 0 s.done w (takeEach clock source 0 s.done (w.begin source)) :=
    (dealtWith_takeEach clock source 0 s.done (w.begin source)).of_log
  cases h with
  | waiting hitems hgoes => exact hdone
  | dealing hitems hgoes => exact hdone
  | interrupted hitems hgoes => exact hdone.log _
  | exhausted hitems hgoes => exact hdone.log _
  | failed hitems hgoes hends => exact hdone

theorem Reached.account (h : Reached w clock source items s) : Account w clock source items s where
  taken_append_rest := by
    cases h with
    | waiting hitems hgoes => exact hitems.symm
    | dealing hitems hgoes => rw [hitems, AtWork.taken, List.append_assoc, List.singleton_append]
    | interrupted hitems hgoes => exact hitems.symm
    | exhausted hitems hgoes => exact hitems.symm
    | failed hitems hgoes hends =>
      rw [hitems, AtWork.taken, List.append_assoc, List.singleton_append]
  dealtWith_done := h.dealtWith_done
  goesOn_of_mem_dropLast item hitem := by
    cases h with
    | waiting hitems hgoes => exact hgoes item (List.dropLast_subset _ hitem)
    | dealing hitems hgoes =>
      rw [AtWork.taken, List.dropLast_concat] at hitem
      exact hgoes item hitem
    | interrupted hitems hgoes => exact hgoes item (List.dropLast_subset _ hitem)
    | exhausted hitems hgoes => exact hgoes item (List.dropLast_subset _ hitem)
    | failed hitems hgoes hends =>
      rw [AtWork.taken, List.dropLast_concat] at hitem
      exact hgoes item hitem
  taken_after := h.taken_after
  stops xs hxs := by
    have hremaining := AtWork.remaining_after_le clock source s xs
    exact AtWork.isStopped_of_remaining_eq_zero (by omega)
  ended _ hstopped := h.ended hstopped

/-! ## Every run is one of these -/

/-- A worker at work has ended as a run does, where `shutdown n` says whether a shutdown has been
    asked for when `n` items have been taken. -/
structure EndsRun (shutdown : Nat → Bool) (after : Worker τ ω) (s : AtWork τ ω) : Prop where
  isStopped : s.isStopped = true
  worker_eq : s.worker = after
  shutdown_of_lt : ∀ n < s.done.length, shutdown n = false
  shutdown_of_asked : s.asked = true → shutdown s.done.length = true

theorem exists_endsRun (clock : Nat → Nat → Stamp) (source : String) (shutdown : Nat → Bool)
    (done rest : List Item) (w : Worker τ ω) (hshutdown : ∀ n < done.length, shutdown n = false) :
    ∃ xs, EndsRun shutdown (takeAll shutdown clock source done.length rest w)
      (AtWork.after clock source { worker := w, done, rest } xs) := by
  -- The shutdown is asked for as late as the run sees it: right before the look that ends it.
  induction rest generalizing done w with
  | nil =>
    cases hnow : shutdown done.length with
    | true =>
      rw [takeAll_of_shutdown hnow]
      exact ⟨[.ask, .look true], rfl, rfl, hshutdown, fun _ => hnow⟩
    | false =>
      rw [takeAll_nil hnow]
      exact ⟨[.look true], rfl, rfl, hshutdown, nofun⟩
  | cons item rest ih =>
    cases hnow : shutdown done.length with
    | true =>
      rw [takeAll_of_shutdown hnow]
      exact ⟨[.ask, .look true], rfl, rfl, hshutdown, fun _ => hnow⟩
    | false =>
      have hdone : ∀ n < (done ++ [item]).length, shutdown n = false := by
        intro n hn
        rw [List.length_append, List.length_singleton, Nat.lt_succ_iff_lt_or_eq] at hn
        obtain hn | rfl := hn
        · exact hshutdown n hn
        · exact hnow
      rw [takeAll_cons hnow]
      cases hitem : goesOn item with
      | true =>
        obtain ⟨xs, hxs⟩ := ih (done ++ [item]) (w.take (clock done.length) source item).1 hdone
        rw [List.length_append, List.length_singleton] at hxs
        refine ⟨.look true :: .look true :: xs, ?_⟩
        rw [AtWork.after_item, hitem, if_pos rfl]
        exact hxs
      | false =>
        refine ⟨[.look true, .look true], ?_⟩
        rw [AtWork.after_item, hitem, if_neg (by simp)]
        exact ⟨rfl, rfl, hdone, nofun⟩

/-- **A worker accounts for the items of its source, whenever a shutdown is asked for.** What it has
    taken is a beginning of the items, each dealt with once and in order but for one that it may
    still deal with; the source went on after all but the last; and it takes nothing more once it
    has stopped, a shutdown has been asked for or an item has ended the source. It does stop, as a
    run does, with every item that it has taken dealt with; and every run ends so. -/
theorem accounts_at_any_moment (w : Worker τ ω) (clock : Nat → Nat → Stamp) (source : String)
    (items : List Item) :
    let start := AtWork.start w source items
    (∀ xs, Account w clock source items (start.after clock source xs)) ∧
      ∀ shutdown, ∃ xs,
        EndsRun shutdown (w.run shutdown clock source items) (start.after clock source xs) := by
  intro start
  refine ⟨fun xs => ((reached_start w clock source items).after xs).account, fun shutdown => ?_⟩
  exact exists_endsRun clock source shutdown [] items (w.begin source) nofun

/-- A shutdown that is asked for while the worker deals with the first of two items: it is counted
    all the same, and the second one is not taken. -/
example (w : Worker τ ω) (clock : Nat → Nat → Stamp) :
    let s := AtWork.after clock "lines"
      (.start w "lines" [.error (.malformed 1), .error (.malformed 2)])
      [.look true, .ask, .look true, .look true]
    s.phase = .stopped .interrupted ∧ s.rest = [.error (.malformed 2)] ∧
      s.worker.stats.malformed = w.stats.malformed + 1 :=
  ⟨rfl, rfl, rfl⟩

end Watchpost.Worker
