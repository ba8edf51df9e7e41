import EasyProspect.StaticFiles
import Mathlib.Data.List.DropRight
import Mathlib.Data.List.ReduceOption

namespace EasyProspect

/-!
# Scripts of SQL statements

`runnow2` runs a script by a loop that steps the statement it has and then prepares the next one
from the rest of the script.  On a fresh `ep_sqlite_statement` there is no statement at first, and
the loop ends as soon as nothing is left to prepare, so the statement prepared last is not stepped.
Before the loop all carriage returns, line feeds and tabs are taken out of the script.
-/

namespace SqlScripts

open StaticFiles

/-! ## SQLite -/

inductive ColumnType
  | integer
  | float
  | text
  | blob
  | null
deriving DecidableEq

/-- What `sqlite3_step` returns. -/
inductive StepCode
  | done
  | row
  | misuse
  | error (code : Nat)
deriving DecidableEq

/-- A statement stepped until `sqlite3_step` returns no more rows. -/
structure Execution (Database : Type) where
  /-- The columns of the first row. -/
  columns : List ColumnType
  /-- The rows, with what `sqlite3_column_int` gives for a column. -/
  rows : List (Nat -> Int32)
  /-- The code after the last row. -/
  code : StepCode
  database : Database

/-- SQLite, as far as `runnow2` uses it.  A statement is known by its tokens. -/
structure Sqlite (Token Database : Type) where
  /-- `sqlite3_prepare_v2`: the first statement of a text, if that is not blank. -/
  compile : List Char -> Option (List Token)
  /-- The number of characters before the tail. -/
  firstLength : List Char -> Nat
  /-- `sqlite3_step`, called until it returns no more rows. -/
  execute : Database -> List Token -> Execution Database
  /-- The tail begins after the first statement. -/
  firstLength_pos : forall text, text ≠ [] -> 0 < firstLength text
  /-- The greatest value of `SQLITE_MAX_SQL_LENGTH`. -/
  firstLength_le : forall text, firstLength text ≤ 1073741824

/-! ## Texts -/

def isspace (character : Char) : Bool :=
  character = ' ' || character = '\t' || character = '\n' || character = '\x0b' ||
    character = '\x0c' || character = '\r'

/-- `boost::trim`. -/
def trim (text : List Char) : List Char :=
  (text.dropWhile isspace).rdropWhile isspace

/-- `sql.erase(std::remove(sql.begin(), sql.end(), character), sql.end())`. -/
def erase (character : Char) (text : List Char) : List Char :=
  text.filter fun other => other ≠ character

/-- The first lines of `runnow2`. -/
def flattened (sql : List Char) : List Char :=
  erase '\t' (erase '\n' (erase '\r' (trim sql)))

/-! ## Running a script -/

inductive Exception
  | logicError (what : String)
  /-- Not an exception: the behaviour is undefined. -/
  | undefined
deriving DecidableEq

/-- An `ep_sqlite_statement` with its database, the variable `res` of `runnow2`, and, as a history,
the statements that were stepped. -/
structure State (Token Database : Type) where
  database : Database
  stmt : Option (List Token)
  lastRc : StepCode
  res : Option (List (List Int32))
  stepped : List (List Token × StepCode)

def fresh {Token Database : Type} (database : Database) : State Token Database where
  database := database
  stmt := none
  lastRc := .done
  res := none
  stepped := []

variable {Token Database : Type}

/-- `col_header[i]` is written for every column, and the vector is empty. -/
def readHeader (columns : List ColumnType) : Except Exception (List ColumnType) :=
  match columns with
  | [] => .ok []
  | _ :: _ => .error .undefined

/-- The integer columns of a row. -/
def resultRow (header : List ColumnType) (row : Nat -> Int32) : List Int32 :=
  header.zipIdx.filterMap fun column => if column.1 = .integer then some (row column.2) else none

/-- A statement has been stepped. -/
def State.record (state : State Token Database) (statement : List Token)
    (execution : Execution Database) : State Token Database :=
  { state with
    database := execution.database
    lastRc := execution.code
    stepped := state.stepped ++ [(statement, execution.code)] }

/-- The body of the loop. -/
def stepStatement (sqlite : Sqlite Token Database) (state : State Token Database) :
    Except Exception (State Token Database) :=
  match state.stmt with
  | none => .ok { state with lastRc := .misuse }
  | some statement =>
      let execution := sqlite.execute state.database statement
      match execution.rows with
      | [] => .ok (state.record statement execution)
      | rows => do
          let header <- readHeader execution.columns
          .ok { state.record statement execution with
            res := some (rows.map (resultRow header)) }

/-- `prepare`, with the new value of `stmt_` and the remainder that it returns. -/
def prepare (sqlite : Sqlite Token Database) (sql : List Char) :
    Except Exception (Option (List Token) × List Char) :=
  let sql := trim sql
  if sql = [] then .error (.logicError "Invalid empty SQL")
  else
    let tail := (cStr sql).drop (sqlite.firstLength (cStr sql))
    let count := (Int32.ofNat (sql.length - tail.length)).toInt
    .ok (sqlite.compile (cStr sql),
      if tail ≠ [] ∧ 0 < count then sql.drop count.toNat else [])

theorem length_trim_le (sql : List Char) : (trim sql).length ≤ sql.length :=
  (List.rdropWhile_prefix isspace _).length_le.trans (List.dropWhile_suffix isspace).length_le

/-- What is left to prepare gets shorter. -/
theorem prepare_shorter {sqlite : Sqlite Token Database} {sql remainder : List Char}
    {stmt : Option (List Token)} (prepared : prepare sqlite sql = .ok (stmt, remainder)) :
    remainder.length < sql.length := by
  have trimmed := length_trim_le sql
  simp only [prepare] at prepared
  split at prepared
  · cases prepared
  · rename_i filled
    have positive := List.length_pos_iff.mpr filled
    cases prepared
    split
    · rename_i going
      rw [List.length_drop]
      omega
    · exact positive.trans_le trimmed

/-- The loop of `runnow2`. -/
def runRemainder (sqlite : Sqlite Token Database) (state : State Token Database)
    (remainder : List Char) : Except Exception (State Token Database) :=
  if remainder = [] then .ok state
  else
    match stepStatement sqlite state with
    | .error exception => .error exception
    | .ok state =>
        match _ : prepare sqlite remainder with
        | .error exception => .error exception
        | .ok (stmt, rest) => runRemainder sqlite { state with stmt := stmt } rest
termination_by remainder.length
decreasing_by exact prepare_shorter ‹_›

def runnow2 (sqlite : Sqlite Token Database) (state : State Token Database) (sql : List Char) :
    Except Exception (State Token Database) :=
  runRemainder sqlite { state with res := none } (flattened sql)

/-! ## The statements of a script -/

theorem rest_shorter (sqlite : Sqlite Token Database) {text : List Char}
    (filled : text.dropWhile isspace ≠ []) :
    ((text.dropWhile isspace).drop (sqlite.firstLength (text.dropWhile isspace))).length <
      text.length := by
  have positive := List.length_pos_iff.mpr filled
  have advanced := sqlite.firstLength_pos _ filled
  have shorter := (List.dropWhile_suffix isspace (l := text)).length_le
  rw [List.length_drop]
  omega

/-- What the parts of a text compile to, one after the other; blanks between them belong to none. -/
def compiled (sqlite : Sqlite Token Database) (text : List Char) : List (Option (List Token)) :=
  let rest := text.dropWhile isspace
  if _ : rest = [] then []
  else sqlite.compile rest :: compiled sqlite (rest.drop (sqlite.firstLength rest))
termination_by text.length
decreasing_by exact rest_shorter sqlite ‹_›

/-- The statements of a text. -/
def statements (sqlite : Sqlite Token Database) (text : List Char) : List (List Token) :=
  (compiled sqlite text).reduceOption

/-- The statements of a text after which the text goes on. -/
def followed (sqlite : Sqlite Token Database) (text : List Char) : List (List Token) :=
  (compiled sqlite text).dropLast.reduceOption

/-- The statements, one after the other, come to their end without an error and without a row of
columns. -/
def CompletesInOrder (sqlite : Sqlite Token Database) : Database -> List (List Token) -> Prop
  | _, [] => True
  | database, statement :: rest =>
      let execution := sqlite.execute database statement
      (execution.rows = [] ∨ execution.columns = []) ∧ execution.code = .done ∧
        CompletesInOrder sqlite execution.database rest

/-- The loop returns, and has stepped these statements to completion. -/
def Runs (sqlite : Sqlite Token Database) (state : State Token Database) (remainder : List Char)
    (script : List (List Token)) : Prop :=
  Exists fun final => runRemainder sqlite state remainder = .ok final ∧
    final.stepped = state.stepped ++ script.map fun statement => (statement, StepCode.done)

/-- A script runs completely and in order on a fresh `ep_sqlite_statement`. -/
def RunsCompletely (sqlite : Sqlite Token Database) (database : Database) (script : CText) : Prop :=
  Exists fun final => runnow2 sqlite (fresh database) script.1 = .ok final ∧
    final.stepped = (statements sqlite script.1).map fun statement => (statement, StepCode.done)

/-! ## The remainder -/

/-- What the loop still has to prepare: no NUL, and no blank at the end. -/
structure Remainder (text : List Char) : Prop where
  terminated : '\x00' ∉ text
  ended : forall filled : text ≠ [], isspace (text.getLast filled) = false

theorem Remainder.suffix {text rest : List Char} (kept : Remainder text) (suffix : rest <:+ text) :
    Remainder rest where
  terminated := fun member => kept.terminated (suffix.subset member)
  ended := fun filled => by
    rw [suffix.getLast filled]
    exact kept.ended _

theorem trim_of_ended {text : List Char} (kept : Remainder text) :
    trim text = text.dropWhile isspace := by
  have rest := kept.suffix (List.dropWhile_suffix isspace)
  exact List.rdropWhile_eq_self_iff.mpr fun filled => Bool.eq_false_iff.mp (rest.ended filled)

/-- A remainder is not blank, so `prepare` does not throw. -/
theorem dropWhile_ne_nil {text : List Char} (kept : Remainder text) (filled : text ≠ []) :
    text.dropWhile isspace ≠ [] := by
  intro blank
  have space := List.dropWhile_eq_nil_iff.mp blank _ (List.getLast_mem filled)
  exact Bool.eq_false_iff.mp (kept.ended filled) space

theorem prepare_eq (sqlite : Sqlite Token Database) {text : List Char} (kept : Remainder text)
    (filled : text ≠ []) :
    prepare sqlite text = .ok (sqlite.compile (text.dropWhile isspace),
      (text.dropWhile isspace).drop (sqlite.firstLength (text.dropWhile isspace))) := by
  have more := dropWhile_ne_nil kept filled
  have rest := kept.suffix (List.dropWhile_suffix isspace)
  have positive := sqlite.firstLength_pos _ more
  have bounded := sqlite.firstLength_le (text.dropWhile isspace)
  simp only [prepare, trim_of_ended kept, if_neg more, cStr_of_terminated rest.terminated]
  congr 2
  by_cases ends : (text.dropWhile isspace).drop (sqlite.firstLength (text.dropWhile isspace)) = []
  · rw [if_neg fun going => going.1 ends, ends]
  · have inside := List.length_lt_of_drop_ne_nil ends
    have count : (text.dropWhile isspace).length - ((text.dropWhile isspace).drop
        (sqlite.firstLength (text.dropWhile isspace))).length =
        sqlite.firstLength (text.dropWhile isspace) := by
      rw [List.length_drop]
      omega
    have small : sqlite.firstLength (text.dropWhile isspace) < 2 ^ 31 := by omega
    rw [count, Int32.toInt_ofNat_of_lt small, if_pos ⟨ends, by omega⟩, Int.toNat_natCast]

theorem compiled_nil (sqlite : Sqlite Token Database) : compiled sqlite [] = [] := by
  rw [compiled]
  rfl

theorem compiled_eq (sqlite : Sqlite Token Database) {text : List Char}
    (filled : text.dropWhile isspace ≠ []) :
    compiled sqlite text = sqlite.compile (text.dropWhile isspace) :: compiled sqlite
      ((text.dropWhile isspace).drop (sqlite.firstLength (text.dropWhile isspace))) := by
  rw [compiled]
  exact dif_neg filled

/-! ## The loop -/

theorem stepStatement_none {sqlite : Sqlite Token Database} {state : State Token Database}
    (absent : state.stmt = none) :
    stepStatement sqlite state = .ok { state with lastRc := .misuse } := by
  rw [stepStatement, absent]

/-- A statement that returns a row of columns has no defined behaviour. -/
theorem stepStatement_undefined {sqlite : Sqlite Token Database} {state : State Token Database}
    {statement : List Token} (present : state.stmt = some statement)
    (rows : (sqlite.execute state.database statement).rows ≠ [])
    (columns : (sqlite.execute state.database statement).columns ≠ []) :
    stepStatement sqlite state = .error .undefined := by
  rcases List.exists_cons_of_ne_nil rows with ⟨row, more, listed⟩
  rcases List.exists_cons_of_ne_nil columns with ⟨column, others, header⟩
  simp only [stepStatement, present, listed, header]
  rfl

theorem stepStatement_some {sqlite : Sqlite Token Database} {state : State Token Database}
    {statement : List Token} (present : state.stmt = some statement)
    (plain : (sqlite.execute state.database statement).rows = [] ∨
      (sqlite.execute state.database statement).columns = []) :
    Exists fun res => stepStatement sqlite state =
      .ok { state.record statement (sqlite.execute state.database statement) with res := res } := by
  cases listed : (sqlite.execute state.database statement).rows with
  | nil =>
      refine ⟨state.res, ?_⟩
      simp only [stepStatement, present, listed]
      rfl
  | cons row more =>
      have header := plain.resolve_left (listed ▸ List.cons_ne_nil row more)
      refine ⟨some ((row :: more).map (resultRow [])), ?_⟩
      simp only [stepStatement, present, listed, header]
      rfl

theorem runRemainder_nil (sqlite : Sqlite Token Database) (state : State Token Database) :
    runRemainder sqlite state [] = .ok state := by
  rw [runRemainder, if_pos rfl]

/-- A turn of the loop. -/
theorem runRemainder_eq (sqlite : Sqlite Token Database) (state : State Token Database)
    {text : List Char} (kept : Remainder text) (filled : text ≠ []) :
    runRemainder sqlite state text = (stepStatement sqlite state).bind fun next =>
      runRemainder sqlite { next with stmt := sqlite.compile (text.dropWhile isspace) }
        ((text.dropWhile isspace).drop (sqlite.firstLength (text.dropWhile isspace))) := by
  rw [runRemainder, if_neg filled]
  cases stepStatement sqlite state with
  | error exception => rfl
  | ok next =>
      dsimp only
      split
      · rename_i failed
        rw [prepare_eq sqlite kept filled] at failed
        cases failed
      · rename_i prepared
        rw [prepare_eq sqlite kept filled] at prepared
        cases prepared
        rfl

theorem nil_of_blank {text : List Char} (kept : Remainder text)
    (blank : text.dropWhile isspace = []) : text = [] :=
  Classical.byContradiction fun filled => dropWhile_ne_nil kept filled blank

theorem ne_nil_of_dropWhile {text : List Char} (filled : text.dropWhile isspace ≠ []) :
    text ≠ [] := by
  rintro rfl
  exact filled rfl

theorem Remainder.rest (sqlite : Sqlite Token Database) {text : List Char} (kept : Remainder text) :
    Remainder
      ((text.dropWhile isspace).drop (sqlite.firstLength (text.dropWhile isspace))) :=
  kept.suffix ((List.drop_suffix _ _).trans (List.dropWhile_suffix isspace))

/-- A turn without a statement. -/
theorem turn_none {sqlite : Sqlite Token Database} {state : State Token Database}
    {text : List Char} (kept : Remainder text) (filled : text ≠ []) (absent : state.stmt = none) :
    runRemainder sqlite state text = runRemainder sqlite
      { state with lastRc := .misuse, stmt := sqlite.compile (text.dropWhile isspace) }
      ((text.dropWhile isspace).drop (sqlite.firstLength (text.dropWhile isspace))) := by
  rw [runRemainder_eq sqlite state kept filled, stepStatement_none absent]
  rfl

/-- A turn that steps a statement to its end. -/
theorem turn_some {sqlite : Sqlite Token Database} {state : State Token Database}
    {text : List Char} {statement : List Token} (kept : Remainder text) (filled : text ≠ [])
    (present : state.stmt = some statement)
    (plain : (sqlite.execute state.database statement).rows = [] ∨
      (sqlite.execute state.database statement).columns = []) :
    Exists fun next => next.stmt = sqlite.compile (text.dropWhile isspace) ∧
      next.database = (sqlite.execute state.database statement).database ∧
      next.stepped =
        state.stepped ++ [(statement, (sqlite.execute state.database statement).code)] ∧
      runRemainder sqlite state text = runRemainder sqlite next
        ((text.dropWhile isspace).drop (sqlite.firstLength (text.dropWhile isspace))) := by
  rcases stepStatement_some present plain with ⟨res, stepped⟩
  refine ⟨{ state.record statement (sqlite.execute state.database statement) with
    res := res, stmt := sqlite.compile (text.dropWhile isspace) }, rfl, rfl, rfl, ?_⟩
  rw [runRemainder_eq sqlite state kept filled, stepped]
  rfl

theorem turn_undefined {sqlite : Sqlite Token Database} {state : State Token Database}
    {text : List Char} {statement : List Token} (kept : Remainder text) (filled : text ≠ [])
    (present : state.stmt = some statement)
    (fetches : ¬((sqlite.execute state.database statement).rows = [] ∨
      (sqlite.execute state.database statement).columns = [])) :
    runRemainder sqlite state text = .error .undefined := by
  rcases not_or.mp fetches with ⟨rows, columns⟩
  rw [runRemainder_eq sqlite state kept filled, stepStatement_undefined present rows columns]
  rfl

/-- What was stepped stays in the history. -/
theorem stepped_prefix (sqlite : Sqlite Token Database) {state final : State Token Database}
    {text : List Char} (kept : Remainder text)
    (returns : runRemainder sqlite state text = .ok final) : state.stepped <+: final.stepped := by
  induction text using compiled.induct sqlite generalizing state with
  | case1 text rest =>
      rename_i blank
      rw [nil_of_blank kept blank, runRemainder_nil] at returns
      cases returns
      exact List.prefix_rfl
  | case2 text rest filled =>
      rename_i inductionHypothesis
      have more := ne_nil_of_dropWhile filled
      cases present : state.stmt with
      | none =>
          rw [turn_none kept more present] at returns
          have later := inductionHypothesis (kept.rest sqlite) returns
          exact later
      | some statement =>
          by_cases plain : (sqlite.execute state.database statement).rows = [] ∨
              (sqlite.execute state.database statement).columns = []
          · rcases turn_some kept more present plain with ⟨next, _, _, stepped, turn⟩
            rw [turn] at returns
            have later := inductionHypothesis (kept.rest sqlite) returns
            rw [stepped] at later
            exact (List.prefix_append _ _).trans later
          · rw [turn_undefined kept more present plain] at returns
            cases returns

/-- The loop runs the statement it has and those that the text compiles to, but for the last part
of the text. -/
theorem runs_iff (sqlite : Sqlite Token Database) (state : State Token Database)
    {text : List Char} (kept : Remainder text) (script : List (List Token)) :
    Runs sqlite state text script <->
      (state.stmt :: compiled sqlite text).dropLast.reduceOption = script ∧
        CompletesInOrder sqlite state.database script := by
  induction text using compiled.induct sqlite generalizing state script with
  | case1 text rest =>
      rename_i blank
      rw [nil_of_blank kept blank, compiled_nil, Runs, runRemainder_nil]
      constructor
      · rintro ⟨final, ⟨⟩, history⟩
        have none := List.map_eq_nil_iff.mp (List.self_eq_append_right.mp history)
        exact ⟨none.symm, none ▸ trivial⟩
      · rintro ⟨rfl, _⟩
        exact ⟨state, rfl, (List.append_nil _).symm⟩
  | case2 text rest filled =>
      rename_i inductionHypothesis
      have more := ne_nil_of_dropWhile filled
      rw [compiled_eq sqlite filled, List.dropLast_cons_cons]
      cases present : state.stmt with
      | none =>
          rw [Runs, turn_none kept more present, List.reduceOption_cons_of_none]
          exact inductionHypothesis _ (kept.rest sqlite) script
      | some statement =>
          rw [List.reduceOption_cons_of_some]
          by_cases plain : (sqlite.execute state.database statement).rows = [] ∨
              (sqlite.execute state.database statement).columns = []
          · rcases turn_some kept more present plain with ⟨next, stmt, database, stepped, turn⟩
            have remaining := inductionHypothesis next (kept.rest sqlite)
            rw [stmt, database] at remaining
            rw [Runs, turn]
            constructor
            · rintro ⟨final, returns, history⟩
              rcases stepped_prefix sqlite (kept.rest sqlite) returns with ⟨later, extended⟩
              rw [stepped, history, List.append_assoc] at extended
              cases script with
              | nil => cases List.append_cancel_left extended
              | cons head script =>
                  rcases List.cons.inj (List.append_cancel_left extended) with ⟨first, _⟩
                  rcases Prod.mk.inj first with ⟨rfl, finished⟩
                  have others := (remaining script).mp ⟨final, returns, by
                    rw [history, stepped, finished, List.append_assoc]
                    rfl⟩
                  exact ⟨congrArg (List.cons statement) others.1, plain, finished, others.2⟩
            · rintro ⟨rfl, _, finished, completes⟩
              rcases (remaining _).mpr ⟨rfl, completes⟩ with ⟨final, returns, history⟩
              refine ⟨final, returns, ?_⟩
              rw [history, stepped, finished, List.append_assoc]
              rfl
          · constructor
            · rintro ⟨final, returns, _⟩
              rw [turn_undefined kept more present plain] at returns
              cases returns
            · rintro ⟨rfl, completes, _⟩
              exact absurd completes plain

/-! ## Scripts -/

theorem remainder_trim {text : List Char} (terminated : '\x00' ∉ text) :
    Remainder (trim text) where
  terminated := fun member => terminated
    ((List.dropWhile_suffix isspace).subset ((List.rdropWhile_prefix isspace _).subset member))
  ended := fun filled => Bool.eq_false_iff.mpr (List.rdropWhile_last_not isspace _ filled)

/-- Blanks are taken out before the last character, which is none. -/
theorem Remainder.erase {text : List Char} {character : Char} (kept : Remainder text)
    (space : isspace character = true) : Remainder (erase character text) where
  terminated := fun member => kept.terminated (List.mem_of_mem_filter member)
  ended := by
    intro filled
    rcases List.eq_nil_or_concat text with rfl | ⟨init, last, whole⟩
    · exact absurd rfl filled
    · rw [List.concat_eq_append] at whole
      subst whole
      have ended := kept.ended (by simp)
      rw [List.getLast_append_singleton] at ended
      have other : last ≠ character := by
        rintro rfl
        exact Bool.eq_false_iff.mp ended space
      have erased : SqlScripts.erase character (init ++ [last]) =
          SqlScripts.erase character init ++ [last] := by
        rw [SqlScripts.erase, List.filter_append]
        exact congrArg _ (List.filter_cons_of_pos (decide_eq_true other))
      simp only [erased, List.getLast_append_singleton]
      exact ended

theorem remainder_flattened (script : CText) : Remainder (flattened script.1) :=
  (((remainder_trim script.2).erase rfl).erase rfl).erase rfl

theorem followed_eq (sqlite : Sqlite Token Database) (database : Database) (text : List Char) :
    ((fresh database : State Token Database).stmt :: compiled sqlite text).dropLast.reduceOption =
      followed sqlite text := by
  rw [followed, fresh]
  cases compiled sqlite text with
  | nil => rfl
  | cons part parts => rfl

/-- With carriage returns, line feeds and tabs taken out, the statements after which the script
goes on have to be, token for token, the statements of the script. -/
theorem runs_completely_iff (sqlite : Sqlite Token Database) (database : Database)
    (script : CText) :
    RunsCompletely sqlite database script <->
      followed sqlite (flattened script.1) = statements sqlite script.1 ∧
        CompletesInOrder sqlite database (statements sqlite script.1) := by
  have loop := runs_iff sqlite (fresh database) (remainder_flattened script)
    (statements sqlite script.1)
  rw [followed_eq] at loop
  exact loop

theorem reduceOption_dropLast_iff {Part : Type} (parts : List (Option Part)) :
    parts.dropLast.reduceOption = parts.reduceOption <->
      forall part, parts.getLast? ≠ some (some part) := by
  rcases List.eq_nil_or_concat parts with rfl | ⟨init, last, whole⟩
  · exact iff_of_true rfl fun _ => Option.some_ne_none _ ∘ Eq.symm
  · rw [whole, List.concat_eq_append, List.dropLast_concat, List.getLast?_concat,
      List.reduceOption_append]
    cases last with
    | none => exact iff_of_true (List.append_nil _).symm fun _ => by simp
    | some part =>
        refine iff_of_false (fun same => ?_) fun none => none part rfl
        have lengths := congrArg List.length same
        simp at lengths

/-- A script whose statements survive the deletion must not end with one. -/
theorem runs_completely_of_kept (sqlite : Sqlite Token Database) (database : Database)
    (script : CText)
    (kept : statements sqlite (flattened script.1) = statements sqlite script.1) :
    RunsCompletely sqlite database script <->
      (forall statement,
        (compiled sqlite (flattened script.1)).getLast? ≠ some (some statement)) ∧
        CompletesInOrder sqlite database (statements sqlite script.1) := by
  have loop := runs_iff sqlite (fresh database) (remainder_flattened script)
    (statements sqlite script.1)
  rw [followed_eq, ← kept, followed, statements, reduceOption_dropLast_iff] at loop
  rw [RunsCompletely, ← kept]
  exact loop

/-! ## Scripts of one statement -/

/-- SQLite for statements of plain words, which a comment may follow. -/
def wordSqlite : Sqlite (List Char) Nat where
  compile := fun text =>
    let words := ((text.takeWhile fun character => character ≠ ';').splitOnP isspace).filter
      fun word => word ≠ []
    let tokens := words.takeWhile fun word => ¬['-', '-'].isPrefixOf word
    if tokens = [] then none else some tokens
  firstLength := fun text =>
    min ((text.takeWhile fun character => character ≠ ';').length + 1) 1073741824
  execute := fun executed _ =>
    { columns := [], rows := [], code := .done, database := executed + 1 }
  firstLength_pos := fun text _ => by omega
  firstLength_le := fun text => by omega

/-- The last part of a script. -/
theorem compiled_last (sqlite : Sqlite Token Database) {text shown : List Char}
    (same : text.dropWhile isspace = shown) (filled : shown ≠ [])
    (whole : shown.length ≤ sqlite.firstLength shown) :
    compiled sqlite text = [sqlite.compile shown] := by
  subst same
  rw [compiled_eq sqlite filled, List.drop_eq_nil_of_le whole, compiled_nil]

/-- A statement, and a comment on the next line. -/
def commentedScript : CText :=
  ⟨"BEGIN;\n-- done".toList, by decide⟩

theorem compiled_commentedScript (text : List Char)
    (either : text = commentedScript.1 ∨ text = flattened commentedScript.1) :
    compiled wordSqlite text = [some ["BEGIN".toList], none] := by
  have filled : text.dropWhile isspace ≠ [] := by
    rcases either with rfl | rfl <;> decide
  have tail : ((text.dropWhile isspace).drop
      (wordSqlite.firstLength (text.dropWhile isspace))).dropWhile isspace =
        "-- done".toList := by
    rcases either with rfl | rfl <;> decide
  rw [compiled_eq wordSqlite filled, compiled_last wordSqlite tail (by decide) (by decide)]
  rcases either with rfl | rfl <;> decide

/-- The comment is prepared last, so that the statement before it is stepped. -/
theorem commented_run : RunsCompletely wordSqlite 0 commentedScript := by
  refine (runs_completely_iff wordSqlite 0 commentedScript).mpr ?_
  rw [followed, statements, compiled_commentedScript _ (Or.inl rfl),
    compiled_commentedScript _ (Or.inr rfl)]
  exact ⟨rfl, Or.inl rfl, rfl, trivial⟩

def beginScript : CText :=
  ⟨"BEGIN".toList, by decide⟩

theorem compiled_beginScript (text : List Char) (whole : text = "BEGIN".toList) :
    compiled wordSqlite text = [some [text]] := by
  subst whole
  have shown : "BEGIN".toList.dropWhile isspace = "BEGIN".toList := by decide
  rw [compiled_last wordSqlite shown (by decide) (by decide)]
  decide

/-- The only statement of a script is prepared and never stepped. -/
theorem begin_not_run : ¬forall database script, RunsCompletely wordSqlite database script := by
  intro always
  have loop := (runs_iff wordSqlite (fresh 0) (remainder_flattened beginScript)
    (statements wordSqlite beginScript.1)).mp (always 0 beginScript)
  rw [followed_eq, followed, statements,
    compiled_beginScript (flattened beginScript.1) (by decide),
    compiled_beginScript beginScript.1 rfl] at loop
  cases loop.1

end SqlScripts
end EasyProspect
