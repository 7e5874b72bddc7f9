import Mathlib.Data.List.TakeWhile
import Watchpost.Worker
import Watchpost.Proofs.EventLines
import Watchpost.Proofs.Engine.Isolation

set_option autoImplicit false

/-! # What becomes of each line

A worker that reads lines processes the ones that hold an event and counts the malformed ones, one
after another, until a line is no UTF-8: there it stops, and neither that line nor any line after it
shows in what it has done. `Worker.Takes` says what it is to take lines, and
`Worker.takes_up_to_unreadable` says which lines are taken. -/

namespace Watchpost.Worker

open Delivery (Target)
open EventLines (event? isBlank isText itemsFrom written)

/-- The events that lines hold, in their order. The `n`-th line, which is not blank, has the stamps
    `clock n`. -/
def arrivals {ω : Type} (clock : Nat → Nat → Stamp) :
    Nat → List (List UInt8) → List (Engine.Arrival ω)
  | _, [] => []
  | n, line :: rest =>
    ((event? line).map fun e => { clock := clock n, event := e }).toList
      ++ arrivals clock (n + 1) rest

variable {τ ω : Type} [Target τ ω]

/-- A worker takes each of some lines, from the `n`-th on, once and in order: it has the engine
    process the events that they hold, and counts every other one as malformed. -/
structure Takes (clock : Nat → Nat → Stamp) (n : Nat) (lines : List (List UInt8))
    (w after : Worker τ ω) : Prop where
  engine_eq : after.engine = (w.engine.processEach w.world (arrivals clock n lines)).2.1
  world_eq : after.world = (w.engine.processEach w.world (arrivals clock n lines)).2.2
  processed_eq : after.stats.processed
    = w.stats.processed + lines.countP fun line => (event? line).isSome
  raised_eq : after.stats.raised = w.stats.raised
    + (w.engine.processEach w.world (arrivals clock n lines)).1.flatten.length
  malformed_eq : after.stats.malformed
    = w.stats.malformed + lines.countP fun line => (event? line).isNone

/-! ## Line after line -/

/-- A record in the log takes no line. -/
theorem takes_nil (clock : Nat → Nat → Stamp) (n : Nat) (w : Worker τ ω)
    (records : List Log.Record) : Takes clock n [] w (w.log records) where
  engine_eq := rfl
  world_eq := rfl
  processed_eq := rfl
  raised_eq := rfl
  malformed_eq := rfl

theorem arrivals_of_event {clock : Nat → Nat → Stamp} {n : Nat} {line : List UInt8}
    {rest : List (List UInt8)} {e : Event} (h : event? line = some e) :
    (arrivals clock n (line :: rest) : List (Engine.Arrival ω))
      = { clock := clock n, event := e } :: arrivals clock (n + 1) rest := by
  rw [arrivals, h]
  rfl

theorem arrivals_of_malformed {clock : Nat → Nat → Stamp} {n : Nat} {line : List UInt8}
    {rest : List (List UInt8)} (h : event? line = none) :
    (arrivals clock n (line :: rest) : List (Engine.Arrival ω)) = arrivals clock (n + 1) rest := by
  rw [arrivals, h]
  rfl

theorem Takes.of_event {clock : Nat → Nat → Stamp} {n : Nat} {line : List UInt8}
    {rest : List (List UInt8)} {w after : Worker τ ω} {e : Event} (h : event? line = some e)
    (hrest : Takes clock (n + 1) rest (w.takeEvent (clock n) e) after) :
    Takes clock n (line :: rest) w after where
  engine_eq := by
    rw [arrivals_of_event h]
    exact hrest.engine_eq
  world_eq := by
    rw [arrivals_of_event h]
    exact hrest.world_eq
  processed_eq := by
    rw [hrest.processed_eq, List.countP_cons_of_pos (by rw [h]; rfl)]
    simp only [takeEvent]
    omega
  raised_eq := by
    rw [arrivals_of_event h, hrest.raised_eq]
    simp only [takeEvent, Engine.processEach, List.flatten_cons, List.length_append, id]
    omega
  malformed_eq := by
    rw [hrest.malformed_eq, List.countP_cons_of_neg (by rw [h]; simp)]
    rfl

theorem Takes.of_malformed {clock : Nat → Nat → Stamp} {n : Nat} {line : List UInt8}
    {rest : List (List UInt8)} {w after : Worker τ ω} {source : String}
    {error : EventLines.Error} (h : event? line = none)
    (hrest : Takes clock (n + 1) rest (w.takeMalformed source error) after) :
    Takes clock n (line :: rest) w after where
  engine_eq := by
    rw [arrivals_of_malformed h]
    exact hrest.engine_eq
  world_eq := by
    rw [arrivals_of_malformed h]
    exact hrest.world_eq
  processed_eq := by
    rw [hrest.processed_eq, List.countP_cons_of_neg (by rw [h]; simp)]
    rfl
  raised_eq := by
    rw [arrivals_of_malformed h]
    exact hrest.raised_eq
  malformed_eq := by
    rw [hrest.malformed_eq, List.countP_cons_of_pos (by rw [h]; rfl)]
    simp only [takeMalformed]
    omega

/-! ## All lines -/

/-- The worker takes the lines before the first one that is no UTF-8. -/
theorem takes_takeAll (clock : Nat → Nat → Stamp) (source : String) (number n : Nat)
    (lines : List (List UInt8)) (w : Worker τ ω) :
    Takes clock n ((lines.filter fun line => !isBlank line).takeWhile isText) w
      (takeAll (fun _ => false) clock source n (itemsFrom number lines) w) := by
  -- A blank line gives no item: it is counted in `number`, which shows in messages alone, and not
  -- in `n`.
  induction lines generalizing number n w with
  | nil => exact takes_nil clock n w _
  | cons line rest ih =>
    rw [itemsFrom]
    cases hblank : isBlank line with
    | true =>
      rw [List.filter_cons_of_neg (by simp [hblank]), EventLines.item?_of_isBlank hblank]
      exact ih (EventLines.readWith number line) n w
    | false =>
      rw [List.filter_cons_of_pos (by simp [hblank])]
      cases htext : isText line with
      | false =>
        rw [List.takeWhile_cons_of_neg (by simp [htext]), EventLines.item?_of_not_isText htext]
        exact takes_nil clock n w _
      | true =>
        rw [List.takeWhile_cons_of_pos htext]
        cases hevent : event? line with
        | some e =>
          rw [EventLines.item?_of_event hevent]
          exact Takes.of_event hevent (ih _ (n + 1) _)
        | none =>
          rw [EventLines.item?_of_malformed htext hblank hevent]
          exact Takes.of_malformed hevent (ih _ (n + 1) _)

/-- If the lines before the first one that is no UTF-8 are taken and are all lines, every line is
    UTF-8: the first one that is not would be missing among the malformed ones. -/
theorem Takes.all_isText {clock : Nat → Nat → Stamp} {n : Nat} {lines : List (List UInt8)}
    {w after : Worker τ ω} (hreadable : Takes clock n (lines.takeWhile isText) w after)
    (hall : Takes clock n lines w after) : ∀ line ∈ lines, isText line = true := by
  rw [← List.dropWhile_eq_nil_iff]
  cases hdrop : lines.dropWhile isText with
  | nil => rfl
  | cons line rest =>
    have htext : isText line = false := by
      have hhead := List.head?_dropWhile_not isText lines
      rwa [hdrop] at hhead
    have hcount : lines.countP (fun line => (event? line).isNone)
        = (lines.takeWhile isText).countP (fun line => (event? line).isNone)
          + (lines.dropWhile isText).countP fun line => (event? line).isNone := by
      rw [← List.countP_append, List.takeWhile_append_dropWhile]
    have hmalformed := hall.malformed_eq
    rw [hreadable.malformed_eq, hcount, hdrop,
      List.countP_cons_of_pos (by rw [EventLines.event?_of_not_isText htext]; rfl)] at hmalformed
    omega

/-- **A worker takes the lines that are not blank, up to one that is no UTF-8.** Whatever the bytes,
    each line before it that holds an event is processed, once and in order, and every other one is
    counted as malformed. So all lines are taken if and only if all of them are UTF-8. -/
theorem takes_up_to_unreadable (w : Worker τ ω) (clock : Nat → Nat → Stamp) (source : String)
    (bytes : ByteArray) :
    let after := w.run (fun _ => false) clock source (EventLines.ofBytes bytes).items
    Takes clock 0 ((written bytes).takeWhile isText) w after ∧
      (Takes clock 0 (written bytes) w after ↔
        ∀ line ∈ bytes.toList.splitOn 10, isText line = true) := by
  intro after
  have hreadable : Takes clock 0 ((written bytes).takeWhile isText) w after := by
    rw [EventLines.written_eq_filter_split]
    obtain ⟨hengine, hworld, hprocessed, hraised, hmalformed⟩ :=
      takes_takeAll clock source 0 0 (EventLines.split bytes.toList) (w.begin source)
    exact ⟨hengine, hworld, hprocessed, hraised, hmalformed⟩
  refine ⟨hreadable, fun hall line hline => ?_, fun hall => ?_⟩
  · cases hblank : isBlank line with
    | true => exact EventLines.isText_of_isBlank hblank
    | false =>
      exact hreadable.all_isText hall line (List.mem_filter.2 ⟨hline, by simp [hblank]⟩)
  · have hself : (written bytes).takeWhile isText = written bytes :=
      List.takeWhile_eq_self_iff.2 fun line hline => hall line (List.mem_filter.1 hline).1
    rwa [hself] at hreadable

/-- A line of one byte that is no UTF-8, and a line that holds an event. -/
def unreadableFirst : ByteArray :=
  ⟨#[0xff, 10]⟩ ++ ("\x7b\"id\": \"s1\", \"timestamp\": \"2025-06-14T10:00:00Z\", " ++
    "\"event_type\": \"file\", \"event_action\": \"read\"\x7d").toUTF8

/-- The event after a line that is no UTF-8 is lost, and that line is not counted. -/
theorem not_takes_unreadableFirst :
    let clock := fun n : Nat => Engine.stampAt n
    let w : Worker Delivery.Notifier Delivery.Surroundings :=
      { engine := Engine.engineOver [], world := {} }
    let after := w.run (fun _ => false) clock "lines" (EventLines.ofBytes unreadableFirst).items
    (written unreadableFirst).countP (fun line => (event? line).isSome) = 1 ∧
      after.stats = {} ∧ ¬ Takes clock 0 (written unreadableFirst) w after := by
  intro clock w after
  have hevents : (written unreadableFirst).countP (fun line => (event? line).isSome) = 1 := by
    decide +kernel
  have hstats : after.stats = {} := by
    decide +kernel
  refine ⟨hevents, hstats, fun h => ?_⟩
  have hprocessed := h.processed_eq
  rw [hevents, hstats] at hprocessed
  exact absurd hprocessed (by decide)

end Watchpost.Worker
