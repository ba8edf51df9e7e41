import Mathlib.Data.List.ReduceOption

namespace Handoff

/-!
# Handing over items through a queue of owning pointers

Producers put pointers to items at the back of a queue.  One consumer looks whether
the queue is empty, moves the front pointer out, which leaves a null pointer in its
place, removes that one, and hands the item on.  Producers may come in between any
two of these steps.

The invariant compares what has been put in with what has been handed on, what the
consumer holds in between and what is still waiting.  It also says where null
pointers are, so that the consumer never finds one.
-/

universe u

variable {Item : Type u}

/-- What the consumer is about to do. -/
inductive Phase (Item : Type u)
  | idle
  | front
  | pop (pointer : Option Item)
  | hand (pointer : Option Item)

namespace Phase

/-- What the consumer holds. -/
def held : Phase Item -> List Item
  | pop pointer => pointer.toList
  | hand pointer => pointer.toList
  | _ => []

/-- Where the null pointers are. -/
def Shape (queue : List (Option Item)) : Phase Item -> Prop
  | idle => none ∉ queue
  | front => queue ≠ [] ∧ none ∉ queue
  | pop pointer => pointer ≠ none ∧ Exists fun rest => queue = none :: rest ∧ none ∉ rest
  | hand pointer => pointer ≠ none ∧ none ∉ queue

end Phase

structure Kept (phase : Phase Item) (put handed : List Item) (queue : List (Option Item)) :
    Prop where
  balanced : put = handed ++ phase.held ++ queue.reduceOption
  shape : phase.Shape queue

namespace Kept

variable {phase : Phase Item} {put handed : List Item} {queue : List (Option Item)}

theorem initially : Kept (.idle : Phase Item) [] [] [] where
  balanced := rfl
  shape := List.not_mem_nil

theorem handed_first (kept : Kept phase put handed queue) : List.IsPrefix handed put :=
  ⟨phase.held ++ queue.reduceOption, by rw [kept.balanced, List.append_assoc]⟩

theorem none_not_mem_put {item : Item} (full : none ∉ queue) : none ∉ queue ++ [some item] := by
  intro member
  rcases List.mem_append.mp member with here | last
  · exact full here
  · cases List.mem_singleton.mp last

/-- A producer puts in an item. -/
theorem produce (kept : Kept phase put handed queue) (item : Item) :
    Kept phase (put ++ [item]) handed (queue ++ [some item]) where
  balanced := by
    have waiting : (queue ++ [some item]).reduceOption = queue.reduceOption ++ [item] := by
      rw [List.reduceOption_append]
      rfl
    rw [waiting, ← List.append_assoc, ← kept.balanced]
  shape := by
    have shape := kept.shape
    cases phase with
    | idle => exact none_not_mem_put shape
    | front =>
        refine ⟨?_, none_not_mem_put shape.2⟩
        intro empty
        cases (List.append_eq_nil_iff.mp empty).2
    | pop pointer =>
        rcases shape with ⟨full, rest, rfl, others⟩
        exact ⟨full, rest ++ [some item], rfl, none_not_mem_put others⟩
    | hand pointer => exact ⟨shape.1, none_not_mem_put shape.2⟩

/-- The consumer has seen that the queue is not empty. -/
theorem seen (kept : Kept .idle put handed queue) (some : queue ≠ []) :
    Kept .front put handed queue where
  balanced := kept.balanced
  shape := ⟨some, kept.shape⟩

/-- The front pointer is moved out. -/
theorem front {pointer : Option Item} {rest : List (Option Item)}
    (kept : Kept .front put handed (pointer :: rest)) :
    Kept (.pop pointer) put handed (none :: rest) := by
  rcases kept with ⟨balanced, _, full⟩
  cases pointer with
  | none => exact absurd List.mem_cons_self full
  | some item =>
      refine ⟨?_, Option.some_ne_none item, rest, rfl, fun member => ?_⟩
      · rw [balanced, List.reduceOption_cons_of_none, List.reduceOption_cons_of_some]
        simp only [Phase.held, Option.toList_some, List.append_nil, List.append_assoc,
          List.singleton_append]
      · exact full (List.mem_cons_of_mem _ member)

/-- The null pointer that it left is removed. -/
theorem pop {pointer head : Option Item} {rest : List (Option Item)}
    (kept : Kept (.pop pointer) put handed (head :: rest)) :
    Kept (.hand pointer) put handed rest := by
  rcases kept with ⟨balanced, full, others, same, rest'⟩
  rcases List.cons.inj same with ⟨rfl, rfl⟩
  exact ⟨balanced, full, rest'⟩

/-- The item is handed on. -/
theorem hand {item : Item} (kept : Kept (.hand (some item)) put handed queue) :
    Kept .idle put (handed ++ [item]) queue where
  balanced := by
    rw [kept.balanced]
    simp only [Phase.held, Option.toList_some, List.append_nil]
  shape := kept.shape.2

end Kept

end Handoff
