import EasyProspect.Library.SqlText
import EasyProspect.StaticFiles

namespace EasyProspect

/-!
# Labels of imports

`insert_new_import` puts a label between the marks of a literal, and `runnow` gives the text to
`sqlite3_exec` as a C string.  The label is not escaped.
-/

namespace ImportLabels

open StaticFiles SqlText

/-- The text before the label, without the mark of the literal. -/
def importHead : List Char :=
  "INSERT INTO ep_sf_obj_import (label, timestamp) VALUES (".toList

/-- The text after the label, without the mark of the literal. -/
def importTail : List Char :=
  ", CURRENT_TIMESTAMP)".toList

/-- The text that `insert_new_import` puts together. -/
def importSql (label : List Char) : List Char :=
  importHead ++ Quotation.literal.mark :: label ++ Quotation.literal.mark :: importTail

/-- `runnow`, where `exec` is `sqlite3_exec`; its message is thrown as a `std::logic_error`. -/
def runnow {Database Message : Type} (exec : Database -> List Char -> Except Message Database)
    (database : Database) (sql : List Char) : Except Message Database :=
  exec database (cStr sql)

/-- `insert_new_import`, with the row id that it returns. -/
def insertNewImport {Database Message : Type}
    (exec : Database -> List Char -> Except Message Database)
    (lastInsertRowid : Database -> Int64) (database : Database) (label : List Char) :
    Except Message (Database × Int64) := do
  let inserted <- runnow exec database (importSql label)
  return (inserted, lastInsertRowid inserted)

/-- The text that SQLite executes for a label. -/
def executedText (label : List Char) : List Char :=
  cStr (importSql label)

/-- The value of a literal. -/
def literal : Piece -> Option (List Char)
  | .quoted .literal value => some value
  | _ => none

/-- A piece without the value of a literal. -/
def outside : Piece -> Piece
  | .quoted .literal _ => .quoted .literal []
  | piece => piece

/-- The insert with a place for one literal. -/
def insertOutside : List Piece :=
  importHead.map .code ++ .quoted .literal [] :: importTail.map .code

/-- The executed text is one statement, the insert whatever the label is, and its literal is the
label. -/
def LabelIsData (label : List Char) : Prop :=
  Exists fun statement => statements (executedText label) = [statement] ∧
    statement.filterMap literal = [label] ∧ statement.map outside = insertOutside

/-- The statement that is meant for a label. -/
def insertStatement (label : List Char) : List Piece :=
  importHead.map .code ++ .quoted .literal label :: importTail.map .code

theorem outside_eq_code {piece : Piece} {character : Char}
    (same : outside piece = .code character) : piece = .code character := by
  unfold outside at same
  split at same
  · cases same
  · exact same

theorem outside_eq_literal {piece : Piece}
    (same : outside piece = .quoted .literal []) :
    Exists fun value => piece = .quoted .literal value := by
  unfold outside at same
  split at same
  · exact ⟨_, rfl⟩
  · exact ⟨[], same⟩

theorem outside_eq_map_code {characters : List Char} {pieces : List Piece}
    (same : pieces.map outside = characters.map .code) : pieces = characters.map .code := by
  induction characters generalizing pieces with
  | nil => exact List.map_eq_nil_iff.mp same
  | cons character characters inductionHypothesis =>
      rcases List.map_eq_cons_iff.mp same with ⟨piece, rest, rfl, first, remaining⟩
      rw [outside_eq_code first, inductionHypothesis remaining]
      rfl

theorem literals_map_code (characters : List Char) :
    (characters.map Piece.code).filterMap literal = [] := by
  refine List.filterMap_eq_nil_iff.mpr fun piece member => ?_
  rcases List.mem_map.mp member with ⟨character, _, rfl⟩
  rfl

theorem outside_map_code (characters : List Char) :
    (characters.map Piece.code).map outside = characters.map Piece.code := by
  rw [List.map_map]
  rfl

theorem literals_insertStatement (label : List Char) :
    (insertStatement label).filterMap literal = [label] := by
  have tailed : (Piece.quoted .literal label :: importTail.map .code).filterMap literal =
      [label] := congrArg (List.cons label) (literals_map_code importTail)
  rw [insertStatement, List.filterMap_append, literals_map_code, tailed]
  rfl

theorem outside_insertStatement (label : List Char) :
    (insertStatement label).map outside = insertOutside := by
  rw [insertStatement, List.map_append, List.map_cons, outside_map_code, outside_map_code]
  rfl

/-- The statement is known from its literal and from what is outside of it. -/
theorem statement_of_outside {statement : List Piece} {label : List Char}
    (literals : statement.filterMap literal = [label])
    (structured : statement.map outside = insertOutside) : statement = insertStatement label := by
  rcases List.map_eq_append_iff.mp structured with ⟨head, rest, rfl, headed, remaining⟩
  rcases List.map_eq_cons_iff.mp remaining with ⟨piece, tail, rfl, hole, tailed⟩
  rcases outside_eq_literal hole with ⟨value, rfl⟩
  rw [outside_eq_map_code headed, outside_eq_map_code tailed] at literals ⊢
  have same := (literals_insertStatement value).symm.trans literals
  rw [(List.cons.inj same).1]
  rfl

theorem plain_of_all {text : List Char}
    (all : text.all (fun character => decide (Plain character)) = true) :
    forall character, character ∈ text -> Plain character :=
  fun character member => of_decide_eq_true (List.all_eq_true.mp all character member)

theorem importHead_plain : forall character, character ∈ importHead -> Plain character :=
  plain_of_all (by decide +kernel)

theorem importTail_plain : forall character, character ∈ importTail -> Plain character :=
  plain_of_all (by decide +kernel)

theorem not_mem_cStr (text : List Char) : '\x00' ∉ cStr text := by
  intro member
  have kept := List.all_eq_true.mp List.all_takeWhile '\x00' member
  exact of_decide_eq_true kept rfl

/-- The head has no NUL, so a C string of the text begins with it. -/
theorem executedText_eq (label : List Char) :
    executedText label = importHead ++ Quotation.literal.mark ::
      cStr (label ++ Quotation.literal.mark :: importTail) := by
  have headed : forall character, character ∈ importHead ++ [Quotation.literal.mark] ->
      decide (character ≠ '\x00') = true :=
    List.all_eq_true.mp (by decide +kernel)
  have split : importSql label = (importHead ++ [Quotation.literal.mark]) ++
      (label ++ Quotation.literal.mark :: importTail) := by
    simp only [importSql, List.append_assoc, List.cons_append, List.nil_append]
  rw [executedText, split, cStr, List.takeWhile_append_of_pos headed, List.append_assoc]
  rfl

/-- The pieces of the executed text: the head, and what is read from the mark on. -/
theorem pieces_executedText (label : List Char) :
    pieces .code (executedText label) = importHead.map .code ++
      pieces (.quoted .literal []) (cStr (label ++ Quotation.literal.mark :: importTail)) := by
  rw [executedText_eq, pieces_plain_append importHead_plain]
  rfl

theorem pieces_of_plain {label : List Char} (unmarked : Quotation.literal.mark ∉ label)
    (terminated : '\x00' ∉ label) : pieces .code (executedText label) = insertStatement label := by
  have tailed : '\x00' ∉ Quotation.literal.mark :: importTail := by decide +kernel
  have whole : cStr (label ++ Quotation.literal.mark :: importTail) =
      label ++ Quotation.literal.mark :: importTail :=
    cStr_of_terminated fun member => (List.mem_append.mp member).elim terminated tailed
  have single : importTail.head? ≠ some Quotation.literal.mark := by decide +kernel
  have read := pieces_doubled .literal [] label single
  rw [doubled_of_not_mem unmarked, pieces_plain importTail_plain, List.nil_append] at read
  rw [pieces_executedText, whole, read]
  rfl

theorem not_mem_insertStatement (label : List Char) :
    Piece.code ';' ∉ insertStatement label := by
  have headed : Piece.code ';' ∉ importHead.map Piece.code := by decide +kernel
  have tailed : Piece.code ';' ∉ importTail.map Piece.code := by decide +kernel
  intro member
  rcases List.mem_append.mp member with inside | inside
  · exact headed inside
  · rcases List.mem_cons.mp inside with same | inside
    · cases same
    · exact tailed inside

/-- Every quote in the label that is read back has taken a second one from the text, and there is
none to spare. -/
theorem plain_of_read {label rest : List Char}
    (text : cStr (label ++ Quotation.literal.mark :: importTail) =
      doubled .literal label ++ Quotation.literal.mark :: rest)
    (tailed : pieces .code rest = importTail.map .code) :
    Quotation.literal.mark ∉ label ∧ '\x00' ∉ label := by
  constructor
  · have cut : (cStr (label ++ Quotation.literal.mark :: importTail)).length ≤
        (label ++ Quotation.literal.mark :: importTail).length :=
      (List.takeWhile_sublist _).length_le
    have pieced := length_pieces_le .code rest
    rw [tailed, List.length_map, show (finish .code).length = 0 from rfl] at pieced
    rw [text] at cut
    simp only [List.length_append, List.length_cons, length_doubled] at cut
    exact List.count_eq_zero.mp (by omega)
  · intro member
    have executed : '\x00' ∈ cStr (label ++ Quotation.literal.mark :: importTail) := by
      rw [text]
      exact List.mem_append_left _ (mem_doubled member)
    exact not_mem_cStr _ executed

/-- A label is data in the executed text exactly when it has no single quote and no NUL. -/
theorem label_is_data_iff (label : List Char) :
    LabelIsData label <-> Quotation.literal.mark ∉ label ∧ '\x00' ∉ label := by
  constructor
  · rintro ⟨statement, single, literals, structured⟩
    have known := statement_of_outside literals structured
    have read := (pieces_executedText label).symm.trans (pieces_of_statements single)
    rw [known] at read
    have quoted := List.append_cancel_left read
    rcases pieces_quoted_cases .literal []
        (cStr (label ++ Quotation.literal.mark :: importTail)) with
      ⟨value, rest, text, result⟩ | ⟨value, result⟩
    · rcases List.cons.inj (result.symm.trans quoted) with ⟨literal, tailed⟩
      cases literal
      exact plain_of_read text tailed
    · cases (List.cons.inj (result.symm.trans quoted)).1
  · rintro ⟨unmarked, terminated⟩
    have read := pieces_of_plain unmarked terminated
    have closed : Piece.code ';' ∉ pieces .code (executedText label) :=
      read ▸ not_mem_insertStatement label
    refine ⟨insertStatement label, ?_, literals_insertStatement label,
      outside_insertStatement label⟩
    rw [statements_of_not_mem closed, read]

/-- A label that ends the literal and begins a statement of its own. -/
def dropLabel : List Char :=
  Quotation.literal.mark :: ", 0); DROP TABLE ep_sf_obj_import; --".toList

theorem dropLabel_not_data : ¬forall label, LabelIsData label := by
  intro always
  have several : (statements (executedText dropLabel)).length = 3 := by decide +kernel
  rcases always dropLabel with ⟨statement, single, _, _⟩
  rw [single] at several
  cases several

end ImportLabels
end EasyProspect
