import Mathlib.Data.List.Basic
import Mathlib.Data.List.Pairwise

namespace FieldList

/-!
# Ordered field lists with a replacing assignment

An ordered list of named values in which names are compared through a token,
for instance the lower-case form of the name.  `set` removes every field of the
same name and appends the new one, and `setAll` assigns a list of fields one
after the other.

Two facts describe `setAll` completely.  The fields of any one name that it
leaves are the last assignment to that name, or the old fields when there was
none.  And assigning a list into an empty one returns that list exactly when no
name is repeated in it.
-/

universe u v w

variable {Name : Type u} {Value : Type v} {Token : Type w} [DecidableEq Token]
variable (token : Name -> Token)

/-- Replace every field of this name by one field at the end. -/
def set (fields : List (Name × Value)) (name : Name) (value : Value) : List (Name × Value) :=
  fields.filter (fun field => token field.1 ≠ token name) ++ [(name, value)]

/-- Assign a list of fields, in order. -/
def setAll (fields entries : List (Name × Value)) : List (Name × Value) :=
  entries.foldl (fun result entry => set token result entry.1 entry.2) fields

/-- The fields of one name, in order. -/
def select (name : Token) (fields : List (Name × Value)) : List (Name × Value) :=
  fields.filter (fun field => token field.1 = name)

/-- The fields of every other name, in order. -/
def without (name : Token) (fields : List (Name × Value)) : List (Name × Value) :=
  fields.filter (fun field => token field.1 ≠ name)

/-- No name occurs twice. -/
def Distinct (fields : List (Name × Value)) : Prop :=
  fields.Pairwise (fun left right => token left.1 ≠ token right.1)

instance (fields : List (Name × Value)) : Decidable (Distinct token fields) :=
  inferInstanceAs (Decidable (fields.Pairwise _))

variable {token}

@[simp] theorem setAll_nil (fields : List (Name × Value)) : setAll token fields [] = fields := rfl

@[simp] theorem setAll_cons (fields entries : List (Name × Value)) (entry : Name × Value) :
    setAll token fields (entry :: entries) =
      setAll token (set token fields entry.1 entry.2) entries := rfl

/-! ## The fields of one name -/

theorem select_set_same (fields : List (Name × Value)) (name : Name) (value : Value) :
    select token (token name) (set token fields name value) = [(name, value)] := by
  have removed : (fields.filter (fun field => token field.1 ≠ token name)).filter
      (fun field => token field.1 = token name) = [] := by
    rw [List.filter_filter, List.filter_eq_nil_iff]
    intro field _ both
    simp only [ne_eq, decide_not, Bool.and_eq_true, decide_eq_true_eq, Bool.not_eq_true',
      decide_eq_false_iff_not] at both
    exact both.2 both.1
  unfold select set
  rw [List.filter_append, removed]
  simp only [List.nil_append, List.filter_cons, decide_true, if_true, List.filter_nil]

theorem select_set_other (fields : List (Name × Value)) {name : Name} {value : Value}
    {other : Token} (different : token name ≠ other) :
    select token other (set token fields name value) = select token other fields := by
  unfold select set
  rw [List.filter_append, List.filter_filter]
  have kept : forall field, field ∈ fields ->
      (decide (token field.1 = other) && decide (token field.1 ≠ token name)) =
        decide (token field.1 = other) := by
    intro field _
    by_cases same : token field.1 = other
    · simp only [same, ne_eq, Ne.symm different, not_false_eq_true, decide_true, Bool.and_self]
    · simp only [same, decide_false, Bool.false_and]
  rw [List.filter_congr kept]
  simp only [List.filter_cons, different, decide_false, Bool.false_eq_true, if_false,
    List.filter_nil, List.append_nil]

/-- Assigning a list leaves, under one name, the last assignment to it. -/
theorem select_setAll (name : Token) (fields entries : List (Name × Value)) :
    select token name (setAll token fields entries) =
      match (select token name entries).getLast? with
      | some entry => [entry]
      | none => select token name fields := by
  induction entries generalizing fields with
  | nil => rfl
  | cons entry entries inductionHypothesis =>
      rw [setAll_cons, inductionHypothesis]
      by_cases same : token entry.1 = name
      · have first : select token name (entry :: entries) = entry :: select token name entries := by
          simp only [select, List.filter_cons, same, decide_true, if_true]
        rw [first, List.getLast?_cons]
        cases last : (select token name entries).getLast? with
        | some later => rfl
        | none =>
            subst same
            exact select_set_same fields entry.1 entry.2
      · have first : select token name (entry :: entries) = select token name entries := by
          simp only [select, List.filter_cons, same, decide_false, Bool.false_eq_true, if_false]
        rw [first, select_set_other fields same]

/-! ## The fields of every other name -/

theorem without_set_same (fields : List (Name × Value)) (name : Name) (value : Value) :
    without token (token name) (set token fields name value) =
      without token (token name) fields := by
  simp only [without, set, ne_eq, decide_not, List.filter_append, List.filter_filter,
    Bool.and_self, List.filter_cons, decide_true, Bool.not_true, Bool.false_eq_true, if_false,
    List.filter_nil, List.append_nil]

theorem without_set_other (fields : List (Name × Value)) {name : Name} {value : Value}
    {other : Token} (different : token name ≠ other) :
    without token other (set token fields name value) =
      set token (without token other fields) name value := by
  simp only [without, set, ne_eq, decide_not, List.filter_append, List.filter_filter,
    List.filter_cons, different, decide_false, Bool.not_false, if_true, List.filter_nil]
  rw [List.filter_congr (fun field _ => Bool.and_comm _ _)]

/-- Leaving one name out commutes with assigning a list. -/
theorem without_setAll (name : Token) (fields entries : List (Name × Value)) :
    without token name (setAll token fields entries) =
      setAll token (without token name fields) (without token name entries) := by
  induction entries generalizing fields with
  | nil => rfl
  | cons entry entries inductionHypothesis =>
      rw [setAll_cons, inductionHypothesis]
      by_cases same : token entry.1 = name
      · have first : without token name (entry :: entries) = without token name entries := by
          simp only [without, ne_eq, List.filter_cons, same, not_true_eq_false, decide_false,
            Bool.false_eq_true, if_false]
        rw [first, ← same, without_set_same]
      · have first : without token name (entry :: entries) =
            entry :: without token name entries := by
          simp only [without, ne_eq, List.filter_cons, same, not_false_eq_true, decide_true, if_true]
        rw [first, without_set_other fields same, setAll_cons]

/-! ## Assigning a list with no repeated name -/

theorem set_of_fresh (fields : List (Name × Value)) (name : Name) (value : Value)
    (fresh : forall field, field ∈ fields -> token field.1 ≠ token name) :
    set token fields name value = fields ++ [(name, value)] := by
  have kept : fields.filter (fun field => token field.1 ≠ token name) = fields :=
    List.filter_eq_self.mpr fun field member => decide_eq_true (fresh field member)
  rw [set, kept]

theorem distinct_set (fields : List (Name × Value)) (name : Name) (value : Value)
    (distinct : Distinct token fields) : Distinct token (set token fields name value) := by
  apply List.pairwise_append.mpr
  refine ⟨List.Pairwise.filter _ distinct, List.pairwise_singleton _ _, ?_⟩
  intro field member added same
  have different := of_decide_eq_true (List.mem_filter.mp member).2
  rw [List.mem_singleton.mp same]
  exact different

theorem distinct_setAll (fields entries : List (Name × Value))
    (distinct : Distinct token fields) : Distinct token (setAll token fields entries) := by
  induction entries generalizing fields with
  | nil => exact distinct
  | cons entry entries inductionHypothesis =>
      exact inductionHypothesis _ (distinct_set fields entry.1 entry.2 distinct)

/-- Fields whose names are new and pairwise different are simply appended. -/
theorem setAll_of_distinct (fields entries : List (Name × Value))
    (distinct : Distinct token (fields ++ entries)) :
    setAll token fields entries = fields ++ entries := by
  induction entries generalizing fields with
  | nil => rw [setAll_nil, List.append_nil]
  | cons entry entries inductionHypothesis =>
      have parts := List.pairwise_append.mp distinct
      have appended := set_of_fresh fields entry.1 entry.2
        (fun field member => parts.2.2 field member entry List.mem_cons_self)
      rw [setAll_cons, appended]
      have regrouped : fields ++ [(entry.1, entry.2)] ++ entries = fields ++ entry :: entries := by
        rw [List.append_assoc]
        rfl
      rw [inductionHypothesis _ (regrouped ▸ distinct), regrouped]

/-- A list survives being assigned to an empty one iff it repeats no name. -/
theorem setAll_nil_eq_iff (entries : List (Name × Value)) :
    setAll token [] entries = entries <-> Distinct token entries := by
  constructor
  · intro survived
    rw [← survived]
    exact distinct_setAll [] entries List.Pairwise.nil
  · intro distinct
    exact setAll_of_distinct [] entries distinct

end FieldList
