/-
This file develops the greedy thinning of timed events: an event is kept when it
is due, and then the next one is due an interval later. What is kept is a
subsequence whose times are an interval apart, and the last event is kept exactly
when it does not come before the time that is due after the others.
-/

import Mathlib.Order.Lattice
import Mathlib.Data.List.Chain

namespace Pacing

variable {Time Value : Type*} [LinearOrder Time] [Add Time]

/-- Keep every event that is due; the next one is due an interval after it. -/
def thin (interval : Time) : Time → List (Time × Value) → List (Time × Value)
  | _, [] => []
  | due, event :: rest =>
    if event.1 < due then thin interval due rest
    else event :: thin interval (event.1 + interval) rest

/-- When the next event is due after a list of times. -/
def dueAfter (interval : Time) : Time → List Time → Time
  | due, [] => due
  | due, time :: rest =>
    if time < due then dueAfter interval due rest else dueAfter interval (time + interval) rest

/-- The last of the times is due after those before it. -/
def LastKept (interval due : Time) (times : List Time) : Prop :=
  ∀ last ∈ times.getLast?, dueAfter interval due times.dropLast ≤ last

instance (interval due : Time) (times : List Time) : Decidable (LastKept interval due times) :=
  inferInstanceAs (Decidable (∀ last ∈ times.getLast?, _))

/-- The second event comes at least an interval after the first. -/
def Apart (interval : Time) (first second : Time × Value) : Prop :=
  first.1 + interval ≤ second.1

variable {interval due : Time} {events : List (Time × Value)}

theorem thin_sublist : (thin interval due events).Sublist events := by
  induction events generalizing due with
  | nil => exact List.Sublist.refl []
  | cons event rest ih =>
    rw [thin]
    split
    · exact ih.cons event
    · exact ih.cons_cons event

/-- Nothing is kept before it is due. -/
theorem due_le_of_mem_head? {event : Time × Value}
    (first : event ∈ (thin interval due events).head?) : due ≤ event.1 := by
  induction events with
  | nil => exact absurd first (Option.not_mem_none event)
  | cons head rest ih =>
    rw [thin] at first
    split at first
    case isTrue early => exact ih first
    case isFalse onTime =>
      obtain rfl := Option.some_inj.mp first
      exact not_lt.mp onTime

/-- What is kept is an interval apart. -/
theorem thin_apart : (thin interval due events).IsChain (Apart interval) := by
  induction events generalizing due with
  | nil => exact List.isChain_nil
  | cons event rest ih =>
    rw [thin]
    split
    · exact ih
    · exact ih.cons fun next first => due_le_of_mem_head? first

theorem thin_append (later : List (Time × Value)) :
    thin interval due (events ++ later) =
      thin interval due events ++
        thin interval (dueAfter interval due (events.map Prod.fst)) later := by
  induction events generalizing due with
  | nil => rfl
  | cons event rest ih =>
    rw [List.cons_append, thin, thin, List.map_cons, dueAfter]
    split
    · exact ih
    · rw [ih, List.cons_append]

/-- When the times increase, the last event that is kept is the last event exactly when that one
is due after the others. -/
theorem getLast?_thin_iff (increasing : (events.map Prod.fst).Pairwise (· < ·)) :
    (thin interval due events).getLast? = events.getLast? ↔
      LastKept interval due (events.map Prod.fst) := by
  rcases events.eq_nil_or_concat with rfl | ⟨earlier, last, rfl⟩
  · exact iff_of_true rfl fun last absent => absurd absent (Option.not_mem_none last)
  rw [List.concat_eq_append] at increasing ⊢
  rw [LastKept, thin_append, List.map_append, List.map_singleton, List.dropLast_concat,
    List.getLast?_concat, List.getLast?_concat]
  simp only [Option.mem_some_iff, forall_eq']
  rw [thin, thin]
  split
  case isTrue early =>
    refine iff_of_false (fun same => ?_) (not_le.mpr early)
    rw [List.append_nil] at same
    -- an event with the last time would come before itself
    have among := thin_sublist.subset (List.mem_of_getLast? same)
    rw [List.map_append, List.map_singleton, List.pairwise_append] at increasing
    exact lt_irrefl _ (increasing.2.2 _ (List.mem_map_of_mem among) _ List.mem_cons_self)
  case isFalse onTime => exact iff_of_true List.getLast?_concat (not_lt.mp onTime)

end Pacing
