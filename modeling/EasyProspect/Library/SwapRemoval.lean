import Mathlib.Data.List.Perm.Basic

namespace SwapRemoval

/-!
# Removing from an array by a swap with its last element

An element is removed in constant time by swapping it with the last one and cutting the
last one off.  Nothing is lost or doubled, but the element that was last is then found at
the position of the removed one.
-/

universe u

variable {Item : Type u}

/-- Exchange the elements at two positions; a position outside of the array is undefined. -/
def swap (items : List Item) (first second : Nat) : Option (List Item) :=
  match items[first]?, items[second]? with
  | some early, some late => some ((items.set first late).set second early)
  | _, _ => none

/-- Swap an element with the last one, unless it is the last one, and cut that off. -/
def remove (items : List Item) (index : Nat) : Option (List Item) :=
  let last := items.length - 1
  let swapped := if index ≠ last then swap items index last else some items
  swapped.map fun moved => moved.take last

theorem swap_last {items : List Item} {last item : Item} {index : Nat}
    (found : (items ++ [last])[index]? = some item) (inner : index < items.length) :
    swap (items ++ [last]) index items.length = some (items.set index last ++ [item]) := by
  have atEnd : (items ++ [last])[items.length]? = some last := List.getElem?_concat_length
  unfold swap
  rw [found, atEnd]
  have early : (items ++ [last]).set index last = items.set index last ++ [last] :=
    List.set_append_left _ _ inner
  have late : (items.set index last ++ [last]).set items.length item =
      items.set index last ++ [item] := by
    rw [List.set_append_right _ _ (Nat.le_of_eq List.length_set)]
    simp only [List.length_set, Nat.sub_self, List.set_cons_zero]
  exact congrArg some (by rw [early, late])

theorem remove_last (items : List Item) (last : Item) :
    remove (items ++ [last]) items.length = some items := by
  simp only [remove, List.length_append, List.length_cons, List.length_nil, Nat.add_sub_cancel,
    Nat.zero_add, ne_eq, not_true_eq_false, if_false, Option.map_some, List.take_left]

theorem remove_inner {items : List Item} {last item : Item} {index : Nat}
    (found : (items ++ [last])[index]? = some item) (inner : index < items.length) :
    remove (items ++ [last]) index = some (items.set index last) := by
  have other : index ≠ items.length := Nat.ne_of_lt inner
  have kept : (items.set index last).length = items.length := List.length_set
  simp only [remove, List.length_append, List.length_cons, List.length_nil, Nat.add_sub_cancel,
    Nat.zero_add, ne_eq, other, not_false_eq_true, if_true, swap_last found inner, Option.map_some]
  rw [← kept, List.take_left]

/-- What is removed is the element at the position, and all others stay. -/
theorem remove_perm {items : List Item} {index : Nat} {item : Item}
    (found : items[index]? = some item) :
    Exists fun rest => remove items index = some rest ∧ (item :: rest).Perm items := by
  rcases List.eq_nil_or_concat items with rfl | ⟨others, last, rfl⟩
  · cases found
  · rw [List.concat_eq_append] at found ⊢
    rcases List.getElem?_eq_some_iff.mp found with ⟨within, _⟩
    rw [List.length_append, List.length_singleton] at within
    rcases Nat.lt_succ_iff_lt_or_eq.mp within with inner | rfl
    · refine ⟨others.set index last, remove_inner found inner, ?_⟩
      have here : others[index]? = some item := by
        rw [← found, List.getElem?_append_left inner]
      rcases List.getElem?_eq_some_iff.mp here with ⟨_, rfl⟩
      exact ((List.set_perm_cons_eraseIdx inner last).cons _).trans
        ((List.Perm.swap _ _ _).trans
          (((List.getElem_cons_eraseIdx_perm inner).cons last).trans
            (List.perm_append_singleton last others).symm))
    · have same : last = item := by
        rw [List.getElem?_concat_length] at found
        exact Option.some.inj found
      refine ⟨others, remove_last others last, ?_⟩
      rw [← same]
      exact (List.perm_append_singleton last others).symm

end SwapRemoval
