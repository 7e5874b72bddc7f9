import Watchpost.Worker
import Watchpost.Proofs.Engine.Run

set_option autoImplicit false

/-! # Items one after another

A worker that takes an item processes the event in it, or counts it as malformed, or ends with it.
`Worker.DealtWith` says what some items have come to once each of them has been dealt with, and
`Worker.dealtWith_takeEach` that taking them one after another does so. Taking all items of a source
is that, for as long as no shutdown is asked for and the source goes on: `Worker.takeAll_append`. -/

namespace Watchpost.Worker

open Delivery (Target)
open EventLines (Item)

/-! ## Kinds of items -/

/-- Whether a source goes on after an item. -/
def goesOn : Item → Bool
  | .ok _ => true
  | .error error => error.isRecoverable

/-- Whether an item is counted as malformed. -/
def isMalformed : Item → Bool
  | .ok _ => false
  | .error error => error.isRecoverable

/-- The events among items, in their order. The `n`-th item has the stamps `clock n`. -/
def eventsOf {ω : Type} (clock : Nat → Nat → Stamp) : Nat → List Item → List (Engine.Arrival ω)
  | _, [] => []
  | n, .ok e :: rest => { clock := clock n, event := e } :: eventsOf clock (n + 1) rest
  | n, .error _ :: rest => eventsOf clock (n + 1) rest

variable {τ ω : Type} [Target τ ω]

/-! ## Dealing with items -/

/-- A worker has dealt with some items, from the `n`-th on, each once and in order: its engine has
    processed the events among them, alerts sent and all, and its counts have gone up by what the
    items are. -/
structure DealtWith (clock : Nat → Nat → Stamp) (n : Nat) (items : List Item)
    (w after : Worker τ ω) : Prop where
  engine_eq : after.engine = (w.engine.processEach w.world (eventsOf clock n items)).2.1
  world_eq : after.world = (w.engine.processEach w.world (eventsOf clock n items)).2.2
  processed_eq : after.stats.processed = w.stats.processed + items.countP (·.isOk)
  raised_eq : after.stats.raised = w.stats.raised
    + (w.engine.processEach w.world (eventsOf clock n items)).1.flatten.length
  malformed_eq : after.stats.malformed = w.stats.malformed + items.countP isMalformed

namespace DealtWith

variable {clock : Nat → Nat → Stamp} {n : Nat} {items rest : List Item} {w after : Worker τ ω}

theorem nil (clock : Nat → Nat → Stamp) (n : Nat) (w : Worker τ ω) : DealtWith clock n [] w w where
  engine_eq := rfl
  world_eq := rfl
  processed_eq := rfl
  raised_eq := rfl
  malformed_eq := rfl

/-- A record in the log changes nothing that items come to. -/
theorem of_log {records : List Log.Record} (h : DealtWith clock n items (w.log records) after) :
    DealtWith clock n items w after :=
  ⟨h.engine_eq, h.world_eq, h.processed_eq, h.raised_eq, h.malformed_eq⟩

theorem log (h : DealtWith clock n items w after) (records : List Log.Record) :
    DealtWith clock n items w (after.log records) :=
  ⟨h.engine_eq, h.world_eq, h.processed_eq, h.raised_eq, h.malformed_eq⟩

theorem event {e : Event} (h : DealtWith clock (n + 1) rest (w.takeEvent (clock n) e) after) :
    DealtWith clock n (.ok e :: rest) w after where
  engine_eq := h.engine_eq
  world_eq := h.world_eq
  processed_eq := by
    rw [h.processed_eq, List.countP_cons_of_pos rfl]
    simp only [takeEvent]
    omega
  raised_eq := by
    rw [h.raised_eq]
    simp only [takeEvent, eventsOf, Engine.processEach, List.flatten_cons, List.length_append, id]
    omega
  malformed_eq := by
    rw [h.malformed_eq, List.countP_cons_of_neg (by simp [isMalformed])]
    rfl

theorem malformed {source : String} {error : EventLines.Error} (herror : error.isRecoverable = true)
    (h : DealtWith clock (n + 1) rest (w.takeMalformed source error) after) :
    DealtWith clock n (.error error :: rest) w after where
  engine_eq := h.engine_eq
  world_eq := h.world_eq
  processed_eq := by
    rw [h.processed_eq, List.countP_cons_of_neg (by simp [Except.isOk, Except.toBool])]
    rfl
  raised_eq := h.raised_eq
  malformed_eq := by
    have hmalformed : isMalformed (.error error) = true := herror
    rw [h.malformed_eq, List.countP_cons_of_pos hmalformed]
    simp only [takeMalformed]
    omega

theorem failed {error : EventLines.Error} (herror : error.isRecoverable = false)
    (h : DealtWith clock (n + 1) rest w after) :
    DealtWith clock n (.error error :: rest) w after where
  engine_eq := h.engine_eq
  world_eq := h.world_eq
  processed_eq := by
    rw [h.processed_eq, List.countP_cons_of_neg (by simp [Except.isOk, Except.toBool])]
  raised_eq := h.raised_eq
  malformed_eq := by
    rw [h.malformed_eq, List.countP_cons_of_neg (by simp [isMalformed, herror])]

end DealtWith

/-! ## Taking items -/

/-- The source goes on after an item that is taken or it does not, whatever the worker. -/
theorem take_snd (w : Worker τ ω) (clock : Nat → Stamp) (source : String) (item : Item) :
    (w.take clock source item).2 = goesOn item := by
  cases item with
  | ok e => rfl
  | error error => cases h : error.isRecoverable <;> simp [take, goesOn, h]

/-- Take items one after another, from the `n`-th on. -/
def takeEach (clock : Nat → Nat → Stamp) (source : String) :
    Nat → List Item → Worker τ ω → Worker τ ω
  | _, [], w => w
  | n, item :: rest, w => takeEach clock source (n + 1) rest (w.take (clock n) source item).1

theorem takeEach_append (clock : Nat → Nat → Stamp) (source : String) (n : Nat)
    (items items' : List Item) (w : Worker τ ω) :
    takeEach clock source n (items ++ items') w
      = takeEach clock source (n + items.length) items' (takeEach clock source n items w) := by
  induction items generalizing n w with
  | nil => rfl
  | cons item rest ih =>
    rw [List.cons_append, takeEach, ih, takeEach, List.length_cons, Nat.add_right_comm,
      Nat.add_assoc]

theorem takeEach_concat (clock : Nat → Nat → Stamp) (source : String) (items : List Item)
    (item : Item) (w : Worker τ ω) :
    takeEach clock source 0 (items ++ [item]) w
      = ((takeEach clock source 0 items w).take (clock items.length) source item).1 := by
  rw [takeEach_append, takeEach, takeEach, Nat.zero_add]

/-- Taking items one after another deals with each of them. -/
theorem dealtWith_takeEach (clock : Nat → Nat → Stamp) (source : String) (n : Nat)
    (items : List Item) (w : Worker τ ω) :
    DealtWith clock n items w (takeEach clock source n items w) := by
  induction items generalizing n w with
  | nil => exact .nil clock n w
  | cons item rest ih =>
    rw [takeEach]
    cases item with
    | ok e => exact (ih (n + 1) _).event
    | error error =>
      cases herror : error.isRecoverable with
      | true =>
        rw [take, if_pos herror]
        exact (ih (n + 1) _).malformed herror
      | false =>
        rw [take, if_neg (by simp [herror])]
        exact (ih (n + 1) _).of_log.failed herror

/-! ## Taking all items -/

section takeAll

variable {shutdown : Nat → Bool} {clock : Nat → Nat → Stamp} {source : String} {n : Nat}
  {item : Item} {rest : List Item} {w : Worker τ ω}

theorem takeAll_of_shutdown {items : List Item} (h : shutdown n = true) :
    takeAll shutdown clock source n items w = w.interrupt := by
  cases items <;> rw [takeAll, if_pos h]

theorem takeAll_nil (h : shutdown n = false) :
    takeAll shutdown clock source n [] w = w.exhaust source := by
  rw [takeAll, if_neg (by simp [h])]

theorem takeAll_cons (h : shutdown n = false) :
    takeAll shutdown clock source n (item :: rest) w
      = if goesOn item then
          takeAll shutdown clock source (n + 1) rest (w.take (clock n) source item).1
        else (w.take (clock n) source item).1 := by
  rw [takeAll, if_neg (by simp [h]), ← w.take_snd (clock n) source item]
  obtain ⟨after, goes⟩ := w.take (clock n) source item
  cases goes <;> rfl

/-- Items after which the source goes on are taken one after another, as long as no shutdown is
    asked for, and then the others. -/
theorem takeAll_append {items : List Item} (hshutdown : ∀ k < n + items.length, shutdown k = false)
    (hgoes : ∀ item ∈ items, goesOn item = true) :
    takeAll shutdown clock source n (items ++ rest) w
      = takeAll shutdown clock source (n + items.length) rest
          (takeEach clock source n items w) := by
  induction items generalizing n w with
  | nil => rfl
  | cons item items ih =>
    rw [List.length_cons, Nat.add_comm items.length, ← Nat.add_assoc] at hshutdown ⊢
    rw [List.cons_append, takeAll_cons (hshutdown n (by omega)),
      if_pos (hgoes item List.mem_cons_self),
      ih hshutdown fun other hother => hgoes other (List.mem_cons_of_mem _ hother), takeEach]

end takeAll

end Watchpost.Worker
