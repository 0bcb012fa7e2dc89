import Mathlib.Algebra.Order.Group.Multiset
import Mathlib.Tactic.Abel

/-! A queue that hands items over and gets them back. They are taken in the
order they were submitted, finished in any order, and returned in the order
they were finished. -/

/-- Items that wait, are taken and are finished, each under its identifier. -/
structure Handover (ι χ υ : Type) where
  waiting : List (ι × χ)
  taken : List (ι × χ)
  finished : List ((ι × χ) × υ)

namespace Handover
variable {ι χ δ υ : Type}

def empty : Handover ι χ υ := ⟨[], [], []⟩

/-- The items that were submitted and did not come back. -/
def held (q : Handover ι χ υ) : List (ι × χ) := q.waiting ++ q.taken ++ q.finished.map Prod.fst

/-- What the two sides see of one operation. The one that takes an item may
see only a part of it. -/
inductive Event (ι χ δ υ : Type) where
  | quiet
  | submitted (id : ι) (item : χ)
  | took (id : ι) (seen : δ)
  | drained
  | finished (id : ι) (result : υ)
  | returned (id : ι) (item : χ) (result : υ)
  | unfinished
  | reclaimed (items : List (ι × χ))
  | dropped

/-- What may happen next. -/
inductive Step (view : χ → δ) : Handover ι χ υ → Event ι χ δ υ → Handover ι χ υ → Prop where
  | quiet {q} : Step view q .quiet q
  | submitted {q id item} (fresh : id ∉ q.held.map Prod.fst) :
    Step view q (.submitted id item) { q with waiting := q.waiting ++ [(id, item)] }
  | took {taken finished id item rest} :
    Step view ⟨(id, item) :: rest, taken, finished⟩ (.took id (view item)) ⟨rest, taken ++ [(id, item)], finished⟩
  | drained {taken finished} : Step view ⟨[], taken, finished⟩ .drained ⟨[], taken, finished⟩
  | finished {waiting before after finished id item result} :
    Step view ⟨waiting, before ++ (id, item) :: after, finished⟩ (.finished id result)
      ⟨waiting, before ++ after, finished ++ [((id, item), result)]⟩
  | returned {waiting taken id item result rest} :
    Step view ⟨waiting, taken, ((id, item), result) :: rest⟩ (.returned id item result) ⟨waiting, taken, rest⟩
  | unfinished {waiting taken} : Step view ⟨waiting, taken, []⟩ .unfinished ⟨waiting, taken, []⟩
  | reclaimed {q items} (all : items.Perm q.held) : Step view q (.reclaimed items) empty
  | dropped {q} : Step view q .dropped empty

/-- The runs from the empty queue, with what was seen of them. -/
inductive Run (view : χ → δ) : List (Event ι χ δ υ) → Handover ι χ υ → Prop where
  | start : Run view [] empty
  | step {events q event q'} (run : Run view events q) (next : Step view q event q') : Run view (events ++
      [event]) q'

namespace Event

def clears : Event ι χ δ υ → Bool
  | .reclaimed _ | .dropped => true
  | _ => false

def asSubmitted : Event ι χ δ υ → Option (ι × χ)
  | .submitted id item => some (id, item)
  | _ => none

def asTaken : Event ι χ δ υ → Option (ι × δ)
  | .took id seen => some (id, seen)
  | _ => none

def asFinished : Event ι χ δ υ → Option (ι × υ)
  | .finished id result => some (id, result)
  | _ => none

def asReturned : Event ι χ δ υ → Option ((ι × χ) × υ)
  | .returned id item result => some ((id, item), result)
  | _ => none

/-- The events since the queue was last emptied at once. -/
def recent (events : List (Event ι χ δ υ)) : List (Event ι χ δ υ) :=
  events.foldl (fun recent event => if event.clears then [] else recent ++ [event]) []

theorem recent_concat (events : List (Event ι χ δ υ)) (event : Event ι χ δ υ) :
    recent (events ++ [event]) = if event.clears then [] else recent events ++ [event] := by
  simp [recent]

end Event

/-- An event of the taking side moves an item on, and neither in nor out. -/
def Event.inside : Event ι χ δ υ → Bool
  | .quiet | .took .. | .drained | .finished .. => true
  | _ => false

theorem Step.held_perm {view : χ → δ} {q q' : Handover ι χ υ} {event : Event ι χ δ υ} (next : Step view q event q')
    (inside : event.inside = true) : q'.held.Perm q.held := by
  cases next with
  | quiet | drained => exact .refl _
  | took =>
    simp only [held, List.append_assoc]
    exact (List.perm_middle.append_left _).trans List.perm_middle
  | finished =>
    simp only [held, List.map_append, List.append_assoc]
    refine .append_left _ (.append_left _ ?_)
    rw [← List.append_assoc]
    exact List.perm_append_singleton _ _
  | _ => cases inside

/-- The books of a queue: nothing is lost, doubled or out of turn. -/
structure Account (view : χ → δ) (events : List (Event ι χ δ υ)) (q : Handover ι χ υ) : Prop where
  order : (events.filterMap Event.asSubmitted).map (fun x => (x.1, view x.2)) =
    events.filterMap Event.asTaken ++ q.waiting.map (fun x => (x.1, view x.2))
  results : events.filterMap Event.asFinished =
    (events.filterMap Event.asReturned ++ q.finished).map (fun x => (x.1.1, x.2))
  conserved : (events.filterMap Event.asSubmitted).Perm (q.held ++ (events.filterMap Event.asReturned).map Prod.fst)

namespace Account
variable {view : χ → δ} {events : List (Event ι χ δ υ)} {q q' : Handover ι χ υ} {event : Event ι χ δ υ}

theorem nothing : Account view ([] : List (Event ι χ δ υ)) empty := ⟨rfl, rfl, .refl _⟩

theorem step (books : Account view events q) (next : Step view q event q') (kept : event.clears = false) :
    Account view (events ++ [event]) q' := by
  obtain ⟨order, results, conserved⟩ := books
  rw [← Multiset.coe_eq_coe] at conserved
  cases next with
  | reclaimed | dropped => cases kept
  | _ =>
    refine ⟨?_, ?_, ?_⟩
    · simp [Event.asSubmitted, Event.asTaken, List.filterMap_cons, order]
    · simp [Event.asFinished, Event.asReturned, List.filterMap_cons, results]
    rw [← Multiset.coe_eq_coe]
    simp only [List.filterMap_append, ← Multiset.coe_add, conserved]
    simp only [held, Event.asReturned, List.filterMap_cons, List.map_append,
      List.map_cons, ← Multiset.coe_add, ← Multiset.cons_coe, ← Multiset.singleton_add]
    abel

end Account

theorem Run.account {view : χ → δ} {events : List (Event ι χ δ υ)} {q : Handover ι χ υ} (run : Run view events q) :
    Account view (Event.recent events) q := by
  induction run with
  | start => exact .nothing
  | @step events q event q' run next books =>
    rw [Event.recent_concat]
    cases clears : event.clears with
    | false => exact books.step next clears
    | true =>
      cases next with
      | reclaimed | dropped => exact .nothing
      | _ => cases clears

end Handover
