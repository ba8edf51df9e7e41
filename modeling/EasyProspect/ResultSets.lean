import EasyProspect.Library.Results
import EasyProspect.SqliteCursor

namespace EasyProspect

/-!
# Result sets

`get_rows` reads the rows of a prepared query.  It makes a new result set for them, and the
pointer that it assigns is its own; the types of the columns are written into an empty vector.
-/

namespace ResultSets

open SqlScripts (ColumnType StepCode flattened)
open SqliteCursor
open StaticFiles (cStr)

/-- `ep_sqlite_resultset_col_type`. -/
inductive ResultCol
  | int (value : Int32)
  | double (value : Rat)
  | string (value : List Char)
  | bool (value : Bool)
  | bytes (value : Octets)
deriving DecidableEq

/-- `ep_sqlite_resultset_type`. -/
abbrev ResultSet := List (List ResultCol)

/-- Where `get_rows` is: the result sets in memory, with the place that `res` points to, and the
statement with its last return code. -/
structure Loading where
  sets : List ResultSet
  res : Nat
  statement : Cursor
  lastRc : StepCode

/-- A computation that may throw, or have no defined behaviour. -/
abbrev Fallible := Except SqlScripts.Exception

variable (conversions : Conversions)

/-- What is appended to `result_row` for a column.  A string is not made from a null pointer. -/
def resultCol (statement : Cursor) (type : ColumnType) (index : Nat) :
    Fallible (List ResultCol) :=
  match type with
  | .integer => .ok [.int (conversions.columnInt (statement.column index))]
  | .float => .ok []
  | .blob => .ok []
  | .null => .ok [.bool false]
  | .text =>
      match conversions.columnText (statement.column index) with
      | some text => .ok [.string (cStr text)]
      | none => .error .undefined

def resultRow (statement : Cursor) (header : List ColumnType) : Fallible (List ResultCol) :=
  do
    let cols <- header.zipIdx.mapM fun column => resultCol conversions statement column.1 column.2
    .ok cols.flatten

/-- `col_header[i]` is written for every column, and the vector is empty. -/
def readHeader (statement : Cursor) : Fallible (List ColumnType) :=
  match (List.range statement.columnCount).map statement.columnType with
  | [] => .ok []
  | _ :: _ => .error .undefined

/-- The body of the inner loop and `res->push_back(result_row)`. -/
def pushRow (header : List ColumnType) (loading : Loading) : Fallible Loading := do
  let row <- resultRow conversions loading.statement header
  .ok { loading with sets := loading.sets.modify loading.res fun set => set ++ [row] }

theorem pushRow_statement {header : List ColumnType} {loading pushed : Loading}
    (added : pushRow conversions header loading = .ok pushed) :
    pushed.statement = loading.statement := by
  rcases Results.ok_of_bind added with ⟨row, _, after⟩
  cases after
  rfl

/-- The loop over the rows. -/
def readRows (header : List ColumnType) (loading : Loading) : Fallible Loading :=
  match _ : pushRow conversions header loading with
  | .error exception => .error exception
  | .ok pushed =>
      match _ : pushed.statement.step with
      | (.row, statement) =>
          readRows header { pushed with statement := statement, lastRc := .row }
      | (code, statement) => .ok { pushed with statement := statement, lastRc := code }
termination_by loading.statement.remaining.length
decreasing_by
  rw [← pushRow_statement conversions ‹pushRow conversions header loading = .ok pushed›]
  exact Cursor.step_shorter ‹_›

/-- `get_rows`.  Nobody looks at the text that it trims. -/
def getRows (sql : List Char) (loading : Loading) : Fallible (Int32 × Loading) :=
  let _sql := flattened sql
  let (code, statement) := loading.statement.step
  let loading := { loading with statement := statement, lastRc := code }
  match code with
  | .row => do
      let sets := loading.sets ++ [[]]
      let header <- readHeader loading.statement
      let loading <- readRows conversions header
        { loading with sets := sets, res := loading.sets.length }
      .ok (0, loading)
  | _ => .ok (0, loading)

/-- `load`. -/
def load (sql : List Char) (loading : Loading) : Fallible (Int32 × Loading) := do
  let (_, loading) <- getRows conversions sql loading
  .ok (0, loading)

/-! ## What the caller gets -/

/-- A cell has the value of a column; a NULL is told by `false`. -/
inductive Shows : ResultCol -> SqlValue -> Prop
  | integer {number : Int32} {value : Int64} (same : number.toInt = value.toInt) :
      Shows (.int number) (.integer value)
  | text (value : List Char) : Shows (.string value) (.text value)
  | null : Shows (.bool false) .null

/-- A call for a prepared query, with the result set that the caller has. -/
def start (table : Table) (passed : ResultSet) : Loading :=
  ⟨[passed], 0, Cursor.prepared table, .done⟩

/-- The call returns, and the result set of the caller has each cell of each row, in order. -/
def Loads (table : Table) (done : Fallible (Int32 × Loading)) : Prop :=
  Exists fun value => Exists fun last => done = .ok (value, last) ∧
    Exists fun set => last.sets[0]? = some set ∧
      List.Forall₂ (List.Forall₂ Shows) set table.rows

/-- Loading a query loses nothing. -/
structure Lossless (sql : List Char) (table : Table) (passed : ResultSet) : Prop where
  read : Loads table (getRows conversions sql (start table passed))
  loaded : Loads table (load conversions sql (start table passed))

variable {conversions} {loading last : Loading} {table : Table} {passed : ResultSet}
  {sql : List Char}

/-- A row goes to the set that `res` points to. -/
theorem pushRow_kept {header : List ColumnType} {place : Nat} (other : place ≠ loading.res)
    (added : pushRow conversions header loading = .ok last) :
    last.sets[place]? = loading.sets[place]? ∧ last.res = loading.res := by
  rcases Results.ok_of_bind added with ⟨row, _, after⟩
  cases after
  exact ⟨List.getElem?_modify_ne _ _ (Ne.symm other), rfl⟩

theorem readRows_row {header : List ColumnType} {pushed : Loading} {statement : Cursor}
    (added : pushRow conversions header loading = .ok pushed)
    (stepped : pushed.statement.step = (.row, statement)) :
    readRows conversions header loading =
      readRows conversions header { pushed with statement := statement, lastRc := .row } := by
  rw [readRows]
  split
  · rename_i failed
    cases added.symm.trans failed
  · rename_i again
    cases added.symm.trans again
    split
    · rename_i other
      cases stepped.symm.trans other
      rfl
    · rename_i ended other
      cases stepped.symm.trans other
      exact absurd rfl ended

theorem readRows_end {header : List ColumnType} {pushed : Loading} {code : StepCode}
    {statement : Cursor} (added : pushRow conversions header loading = .ok pushed)
    (stepped : pushed.statement.step = (code, statement)) (ended : code = .row -> False) :
    readRows conversions header loading =
      .ok { pushed with statement := statement, lastRc := code } := by
  rw [readRows]
  split
  · rename_i failed
    cases added.symm.trans failed
  · rename_i again
    cases added.symm.trans again
    split
    · rename_i other
      cases stepped.symm.trans other
      exact absurd rfl ended
    · rename_i other
      cases stepped.symm.trans other
      rfl

/-- The loop leaves every other set as it is. -/
theorem readRows_kept {header : List ColumnType} {place : Nat} (other : place ≠ loading.res)
    (succeeds : readRows conversions header loading = .ok last) :
    last.sets[place]? = loading.sets[place]? := by
  induction loading using readRows.induct conversions header with
  | case1 loading exception failed =>
      rw [readRows] at succeeds
      split at succeeds
      · cases succeeds
      · rename_i added
        cases failed.symm.trans added
  | case2 loading pushed added statement stepped inductionHypothesis =>
      have kept := pushRow_kept other added
      rw [readRows_row added stepped] at succeeds
      exact (inductionHypothesis (kept.2 ▸ other) succeeds).trans kept.1
  | case3 loading pushed added code statement ended stepped =>
      rw [readRows_end added stepped ended] at succeeds
      cases succeeds
      exact (pushRow_kept other added).1

/-- Rows without columns are added one after the other. -/
theorem readRows_empty (conversions : Conversions) (loading : Loading) :
    Exists fun last => readRows conversions [] loading = .ok last := by
  induction loading using readRows.induct conversions [] with
  | case1 loading exception failed => cases failed
  | case2 loading pushed added statement stepped inductionHypothesis =>
      rw [readRows_row added stepped]
      exact inductionHypothesis
  | case3 loading pushed added code statement ended stepped =>
      exact ⟨_, readRows_end added stepped ended⟩

theorem readHeader_of_zero (statement : Cursor) (without : statement.columnCount = 0) :
    readHeader statement = .ok [] := by
  rw [readHeader, without]
  rfl

theorem readHeader_of_pos (statement : Cursor) (columns : 0 < statement.columnCount) :
    readHeader statement = .error .undefined := by
  rcases Nat.exists_eq_add_one.mpr columns with ⟨more, count⟩
  rw [readHeader, count, List.range_succ_eq_map]
  rfl

/-! ## Queries without cells -/

theorem getRows_of_nil (empty : table.rows = []) :
    getRows conversions sql (start table passed) = .ok (0, start table passed) := by
  have stepped : (Cursor.prepared table).step = (.done, Cursor.prepared table) :=
    Cursor.step_of_nil empty
  simp only [getRows, start, stepped]

theorem getRows_of_cons {row : List SqlValue} {rest : List (List SqlValue)}
    (listed : table.rows = row :: rest) :
    getRows conversions sql (start table passed) =
      (readHeader ⟨table, some row, rest⟩ >>= fun header =>
        readRows conversions header ⟨[passed, []], 1, ⟨table, some row, rest⟩, .row⟩ >>=
          fun last => .ok (0, last)) := by
  have stepped : (Cursor.prepared table).step = (.row, ⟨table, some row, rest⟩) :=
    Cursor.step_of_cons listed
  simp only [getRows, start, stepped]
  rfl

/-- A query without a cell leaves the set of the caller as it was. -/
theorem getRows_without_cells (sql : List Char) (passed : ResultSet)
    (without : table.rows = [] ∨ table.columns = 0) :
    Exists fun last => getRows conversions sql (start table passed) = .ok (0, last) ∧
      last.sets[0]? = some passed := by
  cases listed : table.rows with
  | nil => exact ⟨start table passed, getRows_of_nil listed, rfl⟩
  | cons row rest =>
      have narrow := without.resolve_left (listed ▸ List.cons_ne_nil row rest)
      have header := readHeader_of_zero ⟨table, some row, rest⟩ narrow
      rcases readRows_empty conversions
        ⟨[passed, []], 1, ⟨table, some row, rest⟩, .row⟩ with ⟨last, read⟩
      refine ⟨last, ?_, readRows_kept Nat.zero_ne_one read⟩
      rw [getRows_of_cons listed, header]
      change (readRows conversions [] _ >>= _) = _
      rw [read]
      rfl

/-- A query with a cell is not read at all. -/
theorem getRows_with_cells (filled : table.rows ≠ []) (columns : 0 < table.columns) :
    getRows conversions sql (start table passed) = .error .undefined := by
  rcases List.exists_cons_of_ne_nil filled with ⟨row, rest, listed⟩
  have header := readHeader_of_pos ⟨table, some row, rest⟩ columns
  rw [getRows_of_cons listed, header]
  rfl

theorem loads_iff {value : Int32} (done : Fallible (Int32 × Loading))
    (without : table.rows = [] ∨ table.columns = 0 -> Exists fun last =>
      done = .ok (value, last) ∧ last.sets[0]? = some passed)
    (cells : table.rows ≠ [] -> 0 < table.columns -> done = .error .undefined) :
    Loads table done <-> (table.rows = [] ∨ table.columns = 0) ∧
      List.Forall₂ (List.Forall₂ Shows) passed table.rows := by
  constructor
  · rintro ⟨result, last, returned, set, held, shown⟩
    have none : table.rows = [] ∨ table.columns = 0 := by
      by_contra both
      rcases not_or.mp both with ⟨filled, wide⟩
      cases returned.symm.trans (cells filled (Nat.pos_of_ne_zero wide))
    rcases without none with ⟨same, ended, kept⟩
    cases returned.symm.trans ended
    cases held.symm.trans kept
    exact ⟨none, shown⟩
  · rintro ⟨none, shown⟩
    rcases without none with ⟨last, ended, kept⟩
    exact ⟨value, last, ended, passed, kept, shown⟩

/-- A query has no cell when it has no row, or no column. -/
theorem cellless_iff (table : Table) :
    (forall row, row ∈ table.rows -> row = []) <-> table.rows = [] ∨ table.columns = 0 := by
  constructor
  · intro empty
    cases listed : table.rows with
    | nil => exact Or.inl rfl
    | cons row rest =>
        have member : row ∈ table.rows := listed ▸ List.mem_cons_self
        have width := table.width row member
        rw [empty row member] at width
        exact Or.inr width.symm
  · rintro (none | narrow) row member
    · rw [none] at member
      cases member
    · exact List.eq_nil_of_length_eq_zero ((table.width row member).trans narrow)

/-- Empty rows are shown by empty rows. -/
theorem shows_empty_iff {rows : List (List SqlValue)}
    (empty : forall row, row ∈ rows -> row = []) :
    List.Forall₂ (List.Forall₂ Shows) passed rows <-> passed = rows.map fun _ => [] := by
  induction rows generalizing passed with
  | nil => exact List.forall₂_nil_right_iff
  | cons row rows inductionHypothesis =>
      have rest : forall passed : ResultSet,
          List.Forall₂ (List.Forall₂ Shows) passed rows <-> passed = rows.map fun _ => [] :=
        fun _ => inductionHypothesis
          fun other member => empty other (List.mem_cons_of_mem row member)
      cases empty row List.mem_cons_self
      constructor
      · rintro (_ | ⟨first, others⟩)
        cases first
        rw [(rest _).mp others]
        rfl
      · rintro rfl
        exact .cons .nil ((rest _).mpr rfl)

/-- When a query is loaded without a loss. -/
theorem lossless_iff (sql : List Char) (table : Table) (passed : ResultSet) :
    Lossless conversions sql table passed <->
      (forall row, row ∈ table.rows -> row = []) ∧ passed = table.rows.map fun _ => [] := by
  have without : table.rows = [] ∨ table.columns = 0 -> Exists fun last =>
      load conversions sql (start table passed) = .ok (0, last) ∧
        last.sets[0]? = some passed := by
    intro none
    rcases getRows_without_cells sql passed none with ⟨last, returned, kept⟩
    refine ⟨last, ?_, kept⟩
    rw [load, returned]
    rfl
  have cells : table.rows ≠ [] -> 0 < table.columns ->
      load conversions sql (start table passed) = .error .undefined := by
    intro filled columns
    rw [load, getRows_with_cells filled columns]
    rfl
  have read := loads_iff (getRows conversions sql (start table passed))
    (getRows_without_cells sql passed) getRows_with_cells
  have loaded := loads_iff (load conversions sql (start table passed)) without cells
  have both : Lossless conversions sql table passed <->
      (table.rows = [] ∨ table.columns = 0) ∧
        List.Forall₂ (List.Forall₂ Shows) passed table.rows :=
    ⟨fun lossless => read.mp lossless.read, fun met => ⟨read.mpr met, loaded.mpr met⟩⟩
  rw [both, ← cellless_iff]
  exact and_congr_right shows_empty_iff

/-- A query for a number does not even return. -/
theorem oneCell_not_lossless :
    ¬forall (conversions : Conversions) (sql : List Char) (table : Table) (passed : ResultSet),
      Lossless conversions sql table passed := by
  intro always
  rcases (always integerOnly [] oneCell []).read with ⟨value, last, returned, _⟩
  have undefined : getRows integerOnly [] (start oneCell []) = .error .undefined :=
    getRows_with_cells (by decide) (by decide)
  cases undefined.symm.trans returned

end ResultSets
end EasyProspect
