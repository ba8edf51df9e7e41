import EasyProspect.SqlScripts

namespace EasyProspect

/-!
# The rows of a prepared query

`sqlite3_step` returns `SQLITE_ROW` for each row of the result and `SQLITE_DONE` at the end, and
starts anew after that.  The column functions read the row that the last step returned, and NULL
where there is none.
-/

namespace SqliteCursor

open SqlScripts (ColumnType StepCode)

/-- A value of SQLite. -/
inductive SqlValue
  | null
  | integer (value : Int64)
  | float (value : Rat)
  | text (value : List Char)
  | blob (value : Octets)
deriving DecidableEq

def SqlValue.columnType : SqlValue -> ColumnType
  | .null => .null
  | .integer _ => .integer
  | .float _ => .float
  | .text _ => .text
  | .blob _ => .blob

/-- How SQLite converts numbers, texts and blobs that are asked for under another type. -/
structure Conversions where
  floatInt : Rat -> Int32
  textInt : List Char -> Int32
  blobInt : Octets -> Int32
  floatText : Rat -> List Char
  blobText : Octets -> Option (List Char)

/-- For queries whose values are asked for under their own types. -/
def integerOnly : Conversions :=
  ⟨fun _ => 0, fun _ => 0, fun _ => 0, fun _ => [], fun _ => none⟩

namespace Conversions

variable (conversions : Conversions)

/-- `sqlite3_column_int`: the lower half of a larger integer. -/
def columnInt : SqlValue -> Int32
  | .null => 0
  | .integer value => value.toInt32
  | .float value => conversions.floatInt value
  | .text value => conversions.textInt value
  | .blob value => conversions.blobInt value

/-- `sqlite3_column_text`, which is a null pointer for NULL. -/
def columnText : SqlValue -> Option (List Char)
  | .null => none
  | .integer value => some (toString value.toInt).toList
  | .float value => some (conversions.floatText value)
  | .text value => some value
  | .blob value => conversions.blobText value

end Conversions

/-- The result of a query. -/
structure Table where
  columns : Nat
  rows : List (List SqlValue)
  width : forall row, row ∈ rows -> row.length = columns

/-- `SELECT 1`. -/
def oneCell : Table :=
  ⟨1, [[.integer 1]], by decide⟩

/-- A prepared statement. -/
structure Cursor where
  table : Table
  current : Option (List SqlValue)
  remaining : List (List SqlValue)

namespace Cursor

/-- The statement as `sqlite3_prepare_v2` makes it. -/
def prepared (table : Table) : Cursor :=
  ⟨table, none, table.rows⟩

variable (cursor : Cursor)

/-- `sqlite3_step`. -/
def step : StepCode × Cursor :=
  match cursor.remaining with
  | row :: rest => (.row, { cursor with current := some row, remaining := rest })
  | [] => (.done, prepared cursor.table)

/-- `sqlite3_column_count`. -/
def columnCount : Nat :=
  cursor.table.columns

/-- The value that the column functions read. -/
def column (index : Nat) : SqlValue :=
  ((cursor.current.getD [])[index]?).getD .null

/-- `sqlite3_column_type`. -/
def columnType (index : Nat) : ColumnType :=
  (cursor.column index).columnType

variable {cursor : Cursor}

theorem step_of_cons {row : List SqlValue} {rest : List (List SqlValue)}
    (left : cursor.remaining = row :: rest) :
    cursor.step = (.row, { cursor with current := some row, remaining := rest }) := by
  rw [step, left]

theorem step_of_nil (left : cursor.remaining = []) :
    cursor.step = (.done, prepared cursor.table) := by
  rw [step, left]

theorem step_shorter {next : Cursor} (stepped : cursor.step = (.row, next)) :
    next.remaining.length < cursor.remaining.length := by
  rw [step] at stepped
  split at stepped
  · rename_i row rest listed
    cases stepped
    rw [listed]
    exact Nat.lt_succ_self _
  · cases stepped

end Cursor

/-- `SQLITE_OK`, `SQLITE_ROW`, `SQLITE_DONE` and so on. -/
def codeValue : StepCode -> Nat
  | .done => 101
  | .row => 100
  | .misuse => 21
  | .error code => code

/-- `SQLITE_OK`. -/
def sqliteOk : Nat := 0

theorem step_code (cursor : Cursor) : cursor.step.1 = .row ∨ cursor.step.1 = .done := by
  rw [Cursor.step]
  split
  · exact Or.inl rfl
  · exact Or.inr rfl

/-- A step of a query never comes to `SQLITE_OK`. -/
theorem step_ne_ok (cursor : Cursor) : codeValue cursor.step.1 ≠ sqliteOk := by
  rcases step_code cursor with row | done
  · rw [row]
    decide
  · rw [done]
    decide

end SqliteCursor
end EasyProspect
