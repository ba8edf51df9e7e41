import Mathlib.Data.List.Basic

namespace Cells

/-!
# Cells addressed by position

A component that makes new objects and never removes one keeps them in a list
and refers to each by its position.  `Extends relation before after` says that
every object of `before` is still at its position in `after`, related to what it
was.  Making an object and changing one are the two ways to extend the cells.
-/

universe u

variable {Cell : Type u} {relation : Cell -> Cell -> Prop}

/-- Every cell is still there, and related to what it was. -/
def Extends (relation : Cell -> Cell -> Prop) (before after : List Cell) : Prop :=
  forall (position : Nat) (cell : Cell), before[position]? = some cell ->
    Exists fun next => after[position]? = some next ∧ relation cell next

theorem Extends.refl (reflexive : forall cell, relation cell cell) (cells : List Cell) :
    Extends relation cells cells :=
  fun _ cell found => ⟨cell, found, reflexive cell⟩

theorem Extends.trans
    (transitive : forall first middle last, relation first middle -> relation middle last ->
      relation first last)
    {before middle after : List Cell} (early : Extends relation before middle)
    (late : Extends relation middle after) : Extends relation before after := by
  intro position cell found
  rcases early position cell found with ⟨between, foundBetween, related⟩
  rcases late position between foundBetween with ⟨next, foundNext, relatedNext⟩
  exact ⟨next, foundNext, transitive cell between next related relatedNext⟩

theorem getElem?_append_of_some {cells more : List Cell} {position : Nat} {cell : Cell}
    (found : cells[position]? = some cell) : (cells ++ more)[position]? = some cell := by
  rcases List.getElem?_eq_some_iff.mp found with ⟨within, _⟩
  rw [List.getElem?_append_left within, found]

/-- An appended list holds old cells and, behind them, new ones. -/
theorem getElem?_append_cases {cells more : List Cell} {position : Nat} {cell : Cell}
    (found : (cells ++ more)[position]? = some cell) :
    cells[position]? = some cell ∨ cells.length ≤ position ∧ cell ∈ more := by
  by_cases within : position < cells.length
  · exact Or.inl ((List.getElem?_append_left within).symm.trans found)
  · have outside : cells.length ≤ position := Nat.le_of_not_lt within
    rw [List.getElem?_append_right outside] at found
    exact Or.inr ⟨outside, List.mem_of_getElem? found⟩

theorem Extends.append (reflexive : forall cell, relation cell cell) (cells more : List Cell) :
    Extends relation cells (cells ++ more) :=
  fun _ cell found => ⟨cell, getElem?_append_of_some found, reflexive cell⟩

theorem getElem?_modify_self {cells : List Cell} {position : Nat} {cell : Cell}
    (found : cells[position]? = some cell) (change : Cell -> Cell) :
    (cells.modify position change)[position]? = some (change cell) := by
  rw [List.getElem?_modify_eq, found]
  rfl

/-- A change that keeps what is read of a cell is not seen. -/
theorem bind_getElem?_modify {Image : Type u} {project : Cell -> Option Image}
    {change : Cell -> Cell} (kept : forall cell, project (change cell) = project cell)
    (cells : List Cell) (position other : Nat) :
    (cells.modify position change)[other]?.bind project = cells[other]?.bind project := by
  rw [List.getElem?_modify]
  cases cells[other]? with
  | none => rfl
  | some cell =>
      by_cases same : position = other
      · simp only [if_pos same]
        exact kept cell
      · simp only [if_neg same]
        rfl

/-- A new cell in which nothing can be read is not seen. -/
theorem bind_getElem?_concat {Image : Type u} {project : Cell -> Option Image} {cell : Cell}
    (unseen : project cell = none) (cells : List Cell) (other : Nat) :
    (cells ++ [cell])[other]?.bind project = cells[other]?.bind project := by
  by_cases within : other < cells.length
  · rw [List.getElem?_append_left within]
  · have outside : cells.length ≤ other := Nat.le_of_not_lt within
    rw [List.getElem?_append_right outside, List.getElem?_eq_none outside]
    cases other - cells.length with
    | zero => exact unseen
    | succ position => rfl

theorem Extends.modify (reflexive : forall cell, relation cell cell) {cells : List Cell}
    {position : Nat} {change : Cell -> Cell}
    (changed : forall cell, cells[position]? = some cell -> relation cell (change cell)) :
    Extends relation cells (cells.modify position change) := by
  intro other cell found
  by_cases same : position = other
  · subst same
    exact ⟨change cell, getElem?_modify_self found change, changed cell found⟩
  · refine ⟨cell, ?_, reflexive cell⟩
    rw [List.getElem?_modify_ne change cells same]
    exact found

theorem getElem?_set_self {cells : List Cell} {position : Nat} {cell : Cell}
    (found : cells[position]? = some cell) (value : Cell) :
    (cells.set position value)[position]? = some value := by
  rcases List.getElem?_eq_some_iff.mp found with ⟨within, _⟩
  exact List.getElem?_set_self within

/-- Putting in a cell of which the same is read is not seen. -/
theorem bind_getElem?_set {Image : Type u} {project : Cell -> Option Image} {cells : List Cell}
    {position : Nat} {cell value : Cell} (found : cells[position]? = some cell)
    (kept : project value = project cell) (other : Nat) :
    (cells.set position value)[other]?.bind project = cells[other]?.bind project := by
  by_cases same : position = other
  · subst same
    rw [getElem?_set_self found, found]
    exact kept
  · rw [List.getElem?_set_ne same]

theorem Extends.set (reflexive : forall cell, relation cell cell) {cells : List Cell}
    {position : Nat} {cell value : Cell} (found : cells[position]? = some cell)
    (changed : relation cell value) : Extends relation cells (cells.set position value) := by
  intro other found_cell foundOther
  by_cases same : position = other
  · subst same
    rw [found] at foundOther
    cases foundOther
    exact ⟨value, getElem?_set_self found value, changed⟩
  · refine ⟨found_cell, ?_, reflexive found_cell⟩
    rw [List.getElem?_set_ne same]
    exact foundOther

end Cells
