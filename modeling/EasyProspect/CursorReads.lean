import EasyProspect.SqliteCursor

namespace EasyProspect

/-!
# Reads of a prepared query

`get_int` and `get_text` step the statement and read a column of the row, if the return code is
`SQLITE_OK`.  `sqlite3_step` returns other codes, so no column is ever read.
-/

namespace CursorReads

open SqliteCursor
open StaticFiles (cStr)

/-- A call for a column of a query with so many columns. -/
inductive ReadCall (columns : Nat)
  | getInt (idx : Fin columns)
  | getText (idx : Fin columns)
deriving DecidableEq

/-- What a call returns: an `int` that may not be initialised, or a string, which is not made from
a null pointer. -/
inductive Returned
  | int (value : Option Int32)
  | text (value : Option (List Char))
deriving DecidableEq

variable (conversions : Conversions)

/-- `get_int`. -/
def getInt (statement : Cursor) (idx : Nat) : Option Int32 × Cursor :=
  let (code, statement) := statement.step
  let value :=
    if codeValue code = sqliteOk then some (conversions.columnInt (statement.column idx))
    else none
  (value, statement)

/-- `get_text`. -/
def getText (statement : Cursor) (idx : Nat) : Option (List Char) × Cursor :=
  let (code, statement) := statement.step
  let value :=
    if codeValue code = sqliteOk then
      (conversions.columnText (statement.column idx)).map cStr
    else some []
  (value, statement)

def read {columns : Nat} (statement : Cursor) (call : ReadCall columns) : Returned × Cursor :=
  match call with
  | .getInt idx =>
      let (value, statement) := getInt conversions statement idx
      (.int value, statement)
  | .getText idx =>
      let (value, statement) := getText conversions statement idx
      (.text value, statement)

/-- A sequence of calls. -/
def reads {columns : Nat} (statement : Cursor) : List (ReadCall columns) -> List Returned
  | [] => []
  | call :: calls =>
      let (value, statement) := read conversions statement call
      value :: reads statement calls

/-! ## The rows of the query -/

/-- What a call ought to return for the row that it is made for: the value of the column, NULL as
the empty text; and anything defined where there is no row. -/
def Delivers {columns : Nat} (row : Option (List SqlValue)) : ReadCall columns -> Returned -> Prop
  | .getInt idx, returned =>
      match row with
      | some values => returned = .int (some (conversions.columnInt ((values[idx.1]?).getD .null)))
      | none => Exists fun value => returned = .int (some value)
  | .getText idx, returned =>
      match row with
      | some values =>
          returned = .text (some ((conversions.columnText ((values[idx.1]?).getD .null)).getD []))
      | none => Exists fun value => returned = .text (some value)

/-- The calls return the rows of the query, one after the other. -/
def RowsReturned (table : Table) (calls : List (ReadCall table.columns)) : Prop :=
  forall (place : Nat) (call : ReadCall table.columns), calls[place]? = some call ->
    Exists fun returned =>
      (reads conversions (Cursor.prepared table) calls)[place]? = some returned ∧
        Delivers conversions table.rows[place]? call returned

/-- A call for a text that is empty, or NULL, or not there. -/
def AsksForNothing {columns : Nat} (row : Option (List SqlValue)) : ReadCall columns -> Prop
  | .getInt _ => False
  | .getText idx => forall values, row = some values ->
      (conversions.columnText ((values[idx.1]?).getD .null)).getD [] = []

/-! ## What the calls return -/

/-- What a call returns that reads no column. -/
def unread {columns : Nat} : ReadCall columns -> Returned
  | .getInt _ => .int none
  | .getText _ => .text (some [])

variable {conversions} {columns : Nat}

theorem read_unread (conversions : Conversions) (statement : Cursor) (call : ReadCall columns) :
    (read conversions statement call).1 = unread call := by
  have other := step_ne_ok statement
  cases call with
  | getInt idx => simp only [read, getInt, if_neg other, unread]
  | getText idx => simp only [read, getText, if_neg other, unread]

/-- No call of a sequence reads a column, wherever the statement stands. -/
theorem reads_unread (statement : Cursor) (calls : List (ReadCall columns)) :
    reads conversions statement calls = calls.map unread := by
  induction calls generalizing statement with
  | nil => rfl
  | cons call calls inductionHypothesis =>
      rw [reads, List.map_cons, ← inductionHypothesis (read conversions statement call).2,
        ← read_unread conversions statement call]

theorem delivers_unread_iff (row : Option (List SqlValue)) (call : ReadCall columns) :
    Delivers conversions row call (unread call) <-> AsksForNothing conversions row call := by
  cases call with
  | getInt idx =>
      refine ⟨fun delivered => ?_, fun asked => asked.elim⟩
      cases row with
      | some values => cases delivered
      | none =>
          rcases delivered with ⟨value, returned⟩
          cases returned
  | getText idx =>
      cases row with
      | some values =>
          constructor
          · rintro delivered other ⟨⟩
            exact (Option.some.inj (Returned.text.inj delivered)).symm
          · intro asked
            exact congrArg (fun text => Returned.text (some text)) (asked values rfl).symm
      | none =>
          refine ⟨fun _ values absent => ?_, fun _ => ⟨[], rfl⟩⟩
          cases absent

/-- When a sequence of calls returns the rows of a query. -/
theorem rows_returned_iff (conversions : Conversions) (table : Table)
    (calls : List (ReadCall table.columns)) :
    RowsReturned conversions table calls <->
      forall (place : Nat) (call : ReadCall table.columns), calls[place]? = some call ->
        AsksForNothing conversions table.rows[place]? call := by
  refine forall_congr' fun place => forall_congr' fun call => imp_congr_right fun made => ?_
  have returned : (reads conversions (Cursor.prepared table) calls)[place]? =
      some (unread call) := by
    rw [reads_unread, List.getElem?_map, made]
    rfl
  rw [returned, ← delivers_unread_iff]
  constructor
  · rintro ⟨value, same, delivered⟩
    exact Option.some.inj same ▸ delivered
  · intro delivered
    exact ⟨unread call, rfl, delivered⟩

/-- A number is returned uninitialised. -/
theorem oneCell_not_returned :
    ¬forall (conversions : Conversions) (table : Table) (calls : List (ReadCall table.columns)),
      RowsReturned conversions table calls := by
  intro always
  rcases always integerOnly oneCell [.getInt ⟨0, Nat.one_pos⟩] 0 _ rfl with
    ⟨returned, read, delivered⟩
  cases read
  cases delivered

end CursorReads
end EasyProspect
