import Mathlib.Data.List.Basic

namespace EasyProspect

/-!
# The last value in a list

Some of the elements of a list give a value, and the last of these counts.  So the elements that
give none can be left out, and elements of which at most one gives a value can change places.
-/

namespace LastValue

universe u v

variable {Element : Type u} {Value : Type v}
variable {give : Element -> Option Value} {elements more : List Element}

/-- The value of the last element that gives one. -/
def lastOf (give : Element -> Option Value) (elements : List Element) : Option Value :=
  (elements.filterMap give).getLast?

theorem lastOf_eq_some_iff {value : Value} : lastOf give elements = some value <->
    Exists fun before => Exists fun element => Exists fun after =>
      elements = before ++ element :: after ∧ give element = some value ∧
        forall later, later ∈ after -> give later = none := by
  rw [lastOf, List.getLast?_filterMap, List.findSome?_eq_some_iff]
  constructor
  · rintro ⟨later, element, earlier, reversed, gives, silent⟩
    refine ⟨earlier.reverse, element, later.reverse, ?_, gives, fun other member => ?_⟩
    · rw [← List.reverse_reverse elements, reversed, List.reverse_append, List.reverse_cons,
        List.append_assoc]
      rfl
    · exact silent other (List.mem_reverse.mp member)
  · rintro ⟨before, element, after, rfl, gives, silent⟩
    refine ⟨after.reverse, element, before.reverse, ?_, gives, fun other member => ?_⟩
    · rw [List.reverse_append, List.reverse_cons, List.append_assoc]
      rfl
    · exact silent other (List.mem_reverse.mp member)

theorem lastOf_eq_none_iff : lastOf give elements = none <->
    forall element, element ∈ elements -> give element = none := by
  rw [lastOf, List.getLast?_eq_none_iff, List.filterMap_eq_nil_iff]

/-! ## Elements that change places -/

/-- At most one of the elements gives a value. -/
def Exclusive (give : Element -> Option Value) (elements : List Element) : Prop :=
  elements.Pairwise fun first second => give first = none ∨ give second = none

/-- There are at most the values of one element, so that they have only one order. -/
theorem Exclusive.filterMap_perm (exclusive : Exclusive give elements)
    (perm : elements.Perm more) : more.filterMap give = elements.filterMap give := by
  have values := perm.filterMap give
  have few : (elements.filterMap give).length ≤ 1 := by
    clear perm values
    induction elements with
    | nil => exact Nat.zero_le 1
    | cons element elements inductionHypothesis =>
        rcases List.pairwise_cons.mp exclusive with ⟨alone, rest⟩
        cases gives : give element with
        | none =>
            rw [List.filterMap_cons_none gives]
            exact inductionHypothesis rest
        | some value =>
            have silent : elements.filterMap give = [] := by
              apply List.filterMap_eq_nil_iff.mpr
              intro other member
              apply (alone other member).resolve_left
              intro none
              cases gives.symm.trans none
            rw [List.filterMap_cons_some gives, silent]
            exact Nat.le_refl 1
  cases listed : elements.filterMap give with
  | nil =>
      rw [listed] at values
      exact List.nil_perm.mp values
  | cons value others =>
      cases others with
      | nil =>
          rw [listed] at values
          exact (List.singleton_perm.mp values).symm
      | cons other rest =>
          rw [listed, List.length_cons, List.length_cons] at few
          omega

theorem Exclusive.lastOf_perm {shuffled : List Element} (exclusive : Exclusive give elements)
    (perm : elements.Perm shuffled) (before after : List Element) :
    lastOf give (before ++ shuffled ++ after) = lastOf give (before ++ elements ++ after) := by
  rw [lastOf, lastOf]
  simp only [List.filterMap_append, exclusive.filterMap_perm perm]

/-! ## Elements that are added -/

/-- The second list has the elements of the first one, and some more that are idle. -/
inductive Padded (idle : Element -> Prop) : List Element -> List Element -> Prop
  | nil : Padded idle [] []
  | keep {elements more : List Element} (element : Element) (rest : Padded idle elements more) :
      Padded idle (element :: elements) (element :: more)
  | add {elements more : List Element} {element : Element} (useless : idle element)
      (rest : Padded idle elements more) : Padded idle elements (element :: more)

variable {idle : Element -> Prop}

theorem Padded.length_le (padded : Padded idle elements more) : elements.length ≤ more.length := by
  induction padded with
  | nil => exact Nat.le_refl 0
  | keep element rest inductionHypothesis => exact Nat.succ_le_succ inductionHypothesis
  | add useless rest inductionHypothesis => exact Nat.le_succ_of_le inductionHypothesis

theorem Padded.lastOf_eq (padded : Padded idle elements more)
    (silent : forall element, idle element -> give element = none) :
    lastOf give more = lastOf give elements := by
  have values : more.filterMap give = elements.filterMap give := by
    induction padded with
    | nil => rfl
    | keep element rest inductionHypothesis =>
        rw [List.filterMap_cons, List.filterMap_cons, inductionHypothesis]
    | add useless rest inductionHypothesis =>
        rw [List.filterMap_cons_none (silent _ useless), inductionHypothesis]
  rw [lastOf, lastOf, values]

end LastValue

end EasyProspect
