import Mathlib.Data.List.Basic
import Mathlib.Tactic.SplitIfs

namespace SqlText

/-!
# The pieces of an SQL text

An SQL text is read from left to right as code, comments and quoted pieces.  A quoted piece ends at
the first mark that is not doubled, and a doubled mark stands for one.  A reader is always in one of
finitely many modes, and a step takes one character and gives the pieces that it completes.
-/

inductive Quotation
  | literal
  | identifier
  | grave
deriving DecidableEq, Repr

/-- The character that begins and ends a quoted piece. -/
def Quotation.mark : Quotation -> Char
  | .literal => Char.ofNat 39
  | .identifier => '"'
  | .grave => Char.ofNat 96

def quotation (character : Char) : Option Quotation :=
  if character = Quotation.literal.mark then some .literal
  else if character = Quotation.identifier.mark then some .identifier
  else if character = Quotation.grave.mark then some .grave
  else none

inductive Piece
  | code (character : Char)
  | quoted (quotation : Quotation) (value : List Char)
  | bracketed (name : List Char)
  /-- A quoted piece, or a name in brackets, that the text ends in. -/
  | unfinished (read : List Char)
deriving DecidableEq, Repr

inductive Mode
  | code
  | dash
  | slash
  | lineComment
  | blockComment
  | star
  | quoted (quotation : Quotation) (read : List Char)
  /-- After a mark that ends the piece, unless another one follows. -/
  | closing (quotation : Quotation) (read : List Char)
  | bracket (read : List Char)

/-- A character of the code. -/
def enter (character : Char) : Mode × List Piece :=
  match quotation character with
  | some quotation => (.quoted quotation [], [])
  | none =>
      if character = '-' then (.dash, [])
      else if character = '/' then (.slash, [])
      else if character = '[' then (.bracket [], [])
      else (.code, [.code character])

def after (piece : Piece) (next : Mode × List Piece) : Mode × List Piece :=
  (next.1, piece :: next.2)

def step : Mode -> Char -> Mode × List Piece
  | .code, character => enter character
  | .dash, character =>
      if character = '-' then (.lineComment, []) else after (.code '-') (enter character)
  | .slash, character =>
      if character = '*' then (.blockComment, []) else after (.code '/') (enter character)
  | .lineComment, character => (if character = '\n' then .code else .lineComment, [])
  | .blockComment, character => (if character = '*' then .star else .blockComment, [])
  | .star, character =>
      (if character = '/' then .code else if character = '*' then .star else .blockComment, [])
  | .quoted quotation read, character =>
      (if character = quotation.mark then .closing quotation read
        else .quoted quotation (read ++ [character]), [])
  | .closing quotation read, character =>
      if character = quotation.mark then (.quoted quotation (read ++ [character]), [])
      else after (.quoted quotation read) (enter character)
  | .bracket read, character =>
      if character = ']' then (.code, [.bracketed read])
      else (.bracket (read ++ [character]), [])

/-- What is left at the end of the text. -/
def finish : Mode -> List Piece
  | .code | .lineComment | .blockComment | .star => []
  | .dash => [.code '-']
  | .slash => [.code '/']
  | .quoted _ read => [.unfinished read]
  | .closing quotation read => [.quoted quotation read]
  | .bracket read => [.unfinished read]

def pieces (mode : Mode) : List Char -> List Piece
  | [] => finish mode
  | character :: text => (step mode character).2 ++ pieces (step mode character).1 text

/-- The statements of a text: the pieces between semicolons. -/
def statements (text : List Char) : List (List Piece) :=
  (pieces .code text).splitOn (.code ';')

/-! ## Code -/

/-- A character that stays in the code. -/
def Plain (character : Char) : Prop :=
  quotation character = none ∧ character ≠ '-' ∧ character ≠ '/' ∧ character ≠ '['

instance : DecidablePred Plain := fun _ => inferInstanceAs (Decidable (_ ∧ _))

theorem Plain.enter {character : Char} (plain : Plain character) :
    enter character = (.code, [.code character]) := by
  rcases plain with ⟨unquoted, noDash, noSlash, noBracket⟩
  rw [SqlText.enter, unquoted]
  simp only [if_neg noDash, if_neg noSlash, if_neg noBracket]

theorem pieces_plain_append {text : List Char}
    (plain : forall character, character ∈ text -> Plain character) (rest : List Char) :
    pieces .code (text ++ rest) = text.map .code ++ pieces .code rest := by
  induction text with
  | nil => rfl
  | cons head text inductionHypothesis =>
      have entered : step .code head = (.code, [.code head]) := (plain head (by simp)).enter
      have remaining := inductionHypothesis fun character member =>
        plain character (List.mem_cons_of_mem head member)
      rw [List.cons_append, pieces, entered, remaining]
      rfl

theorem pieces_plain {text : List Char}
    (plain : forall character, character ∈ text -> Plain character) :
    pieces .code text = text.map .code := by
  have read := pieces_plain_append plain []
  rwa [List.append_nil, show pieces .code [] = [] from rfl, List.append_nil] at read

/-! ## Quoted pieces -/

/-- The text that stands between the marks for a value. -/
def doubled (quotation : Quotation) (value : List Char) : List Char :=
  value.flatMap fun character =>
    if character = quotation.mark then [character, character] else [character]

theorem doubled_cons_mark (quotation : Quotation) (value : List Char) :
    doubled quotation (quotation.mark :: value) =
      quotation.mark :: quotation.mark :: doubled quotation value := by
  rw [doubled, List.flatMap_cons, if_pos rfl]
  rfl

theorem doubled_cons_of_ne {quotation : Quotation} {character : Char}
    (other : character ≠ quotation.mark) (value : List Char) :
    doubled quotation (character :: value) = character :: doubled quotation value := by
  rw [doubled, List.flatMap_cons, if_neg other]
  rfl

/-- Every mark of the value costs a character more. -/
theorem length_doubled (quotation : Quotation) (value : List Char) :
    (doubled quotation value).length = value.length + value.count quotation.mark := by
  induction value with
  | nil => rfl
  | cons character value inductionHypothesis =>
      by_cases marks : character = quotation.mark
      · subst marks
        rw [doubled_cons_mark, List.count_cons_self]
        simp only [List.length_cons, inductionHypothesis]
        omega
      · rw [doubled_cons_of_ne marks, List.count_cons_of_ne marks]
        simp only [List.length_cons, inductionHypothesis]
        omega

theorem mem_doubled {quotation : Quotation} {value : List Char} {character : Char}
    (member : character ∈ value) : character ∈ doubled quotation value := by
  refine List.mem_flatMap.mpr ⟨character, member, ?_⟩
  split <;> exact List.mem_cons_self

/-- A value without marks stands for itself. -/
theorem doubled_of_not_mem {quotation : Quotation} {value : List Char}
    (unmarked : quotation.mark ∉ value) : doubled quotation value = value := by
  induction value with
  | nil => rfl
  | cons character value inductionHypothesis =>
      have parts := not_or.mp (mt List.mem_cons.mpr unmarked)
      rw [doubled_cons_of_ne (Ne.symm parts.1), inductionHypothesis parts.2]

theorem pieces_quoted_cons {quotation : Quotation} {character : Char}
    (other : character ≠ quotation.mark) (read text : List Char) :
    pieces (.quoted quotation read) (character :: text) =
      pieces (.quoted quotation (read ++ [character])) text := by
  rw [pieces, step, if_neg other]
  rfl

theorem pieces_quoted_doubled (quotation : Quotation) (read text : List Char) :
    pieces (.quoted quotation read) (quotation.mark :: quotation.mark :: text) =
      pieces (.quoted quotation (read ++ [quotation.mark])) text := by
  rw [pieces, step, if_pos rfl, pieces, step, if_pos rfl]
  rfl

/-- A mark that is not doubled ends the piece. -/
theorem pieces_quoted_mark (quotation : Quotation) (read : List Char) {text : List Char}
    (single : text.head? ≠ some quotation.mark) :
    pieces (.quoted quotation read) (quotation.mark :: text) =
      .quoted quotation read :: pieces .code text := by
  rw [pieces, step, if_pos rfl]
  cases text with
  | nil => rfl
  | cons character text =>
      have other : character ≠ quotation.mark := fun same => single (congrArg some same)
      rw [pieces, step, if_neg other]
      rfl

/-- The text between the marks is read back as the value. -/
theorem pieces_doubled (quotation : Quotation) (read value : List Char) {rest : List Char}
    (single : rest.head? ≠ some quotation.mark) :
    pieces (.quoted quotation read) (doubled quotation value ++ quotation.mark :: rest) =
      .quoted quotation (read ++ value) :: pieces .code rest := by
  induction value generalizing read with
  | nil => rw [List.append_nil]; exact pieces_quoted_mark quotation read single
  | cons character value inductionHypothesis =>
      have remaining := inductionHypothesis (read ++ [character])
      rw [List.append_assoc, List.singleton_append] at remaining
      by_cases marks : character = quotation.mark
      · subst marks
        rw [doubled_cons_mark, List.cons_append, List.cons_append, pieces_quoted_doubled,
          remaining]
      · rw [doubled_cons_of_ne marks, List.cons_append, pieces_quoted_cons marks, remaining]

/-- A quoted piece comes from the text that stands for its value, up to a mark, or the text ends
inside of it. -/
theorem pieces_quoted_cases (quotation : Quotation) (read : List Char) : forall text : List Char,
    (Exists fun value => Exists fun rest =>
      text = doubled quotation value ++ quotation.mark :: rest ∧
      pieces (.quoted quotation read) text =
        .quoted quotation (read ++ value) :: pieces .code rest) ∨
    Exists fun value => pieces (.quoted quotation read) text = [.unfinished value]
  | [] => Or.inr ⟨read, rfl⟩
  | character :: text => by
      by_cases marks : character = quotation.mark
      · subst marks
        cases text with
        | nil =>
            refine Or.inl ⟨[], [], rfl, ?_⟩
            rw [List.append_nil]
            exact pieces_quoted_mark quotation read (Option.some_ne_none _).symm
        | cons second text =>
            by_cases again : second = quotation.mark
            · -- A doubled mark belongs to the value.
              subst again
              rw [pieces_quoted_doubled]
              rcases pieces_quoted_cases quotation (read ++ [quotation.mark]) text with
                ⟨value, rest, rfl, result⟩ | unfinished
              · refine Or.inl ⟨quotation.mark :: value, rest, ?_, ?_⟩
                · rw [doubled_cons_mark, List.cons_append, List.cons_append]
                · rw [result, List.append_assoc, List.singleton_append]
              · exact Or.inr unfinished
            · refine Or.inl ⟨[], second :: text, rfl, ?_⟩
              rw [List.append_nil]
              exact pieces_quoted_mark quotation read fun same => again (Option.some.inj same)
      · rw [pieces_quoted_cons marks]
        rcases pieces_quoted_cases quotation (read ++ [character]) text with
          ⟨value, rest, rfl, result⟩ | unfinished
        · refine Or.inl ⟨character :: value, rest, ?_, ?_⟩
          · rw [doubled_cons_of_ne marks, List.cons_append]
          · rw [result, List.append_assoc, List.singleton_append]
        · exact Or.inr unfinished

/-! ## Every piece takes a character -/

theorem length_enter (character : Char) :
    (enter character).2.length + (finish (enter character).1).length = 1 := by
  unfold enter
  cases quotation character with
  | some quotation => rfl
  | none =>
      dsimp only
      split_ifs <;> rfl

theorem length_after (piece : Piece) (character : Char) :
    (after piece (enter character)).2.length +
      (finish (after piece (enter character)).1).length = 2 := by
  have entered := length_enter character
  simp only [after, List.length_cons]
  omega

theorem length_step_le (mode : Mode) (character : Char) :
    (step mode character).2.length + (finish (step mode character).1).length ≤
      (finish mode).length + 1 := by
  have entered := length_enter character
  cases mode with
  | code => exact Nat.le_of_eq (entered.trans rfl)
  | dash | slash | closing =>
      rw [step]
      split_ifs
      · simp [finish]
      · rw [length_after]
        exact Nat.le_refl _
  | lineComment | blockComment | star | quoted | bracket =>
      rw [step]
      split_ifs <;> simp [finish]

theorem length_pieces_le (mode : Mode) (text : List Char) :
    (pieces mode text).length ≤ (finish mode).length + text.length := by
  induction text generalizing mode with
  | nil => exact Nat.le_refl _
  | cons character text inductionHypothesis =>
      have stepped := length_step_le mode character
      have remaining := inductionHypothesis (step mode character).1
      rw [pieces, List.length_append, List.length_cons]
      omega

/-! ## A text of one statement -/

theorem pieces_of_statements {text : List Char} {statement : List Piece}
    (single : statements text = [statement]) : pieces .code text = statement := by
  have joined : [Piece.code ';'].intercalate (statements text) = pieces .code text :=
    List.intercalate_splitOn (Piece.code ';')
  rw [single] at joined
  simpa using joined.symm

theorem statements_of_not_mem {text : List Char}
    (closed : Piece.code ';' ∉ pieces .code text) : statements text = [pieces .code text] :=
  List.splitOn_eq_singleton closed

end SqlText
