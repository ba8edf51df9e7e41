import Mathlib.Data.List.Basic
import Mathlib.Tactic.IntervalCases

namespace EasyProspect

/-!
# Numbers in a table of text

A hexadecimal numeral is padded with zeros to a width.  A row of a table has a column for each
of a list of indices, with blanks before it; a column is empty or has an octet in two digits.
Each of them can be read back.
-/

namespace HexText

/-! ## Numerals -/

def digit? (char : Char) : Option Nat :=
  (List.range 16).find? fun value => value.digitChar = char

theorem digit?_digitChar {value : Nat} (digit : value < 16) :
    digit? value.digitChar = some value := by
  interval_cases value <;> rfl

/-- The digits of a number, with zeros before them up to the width. -/
def numeral (width value : Nat) : List Char :=
  (Nat.toDigits 16 value).leftpad width '0'

def readDigit (value : Nat) (char : Char) : Option Nat :=
  (digit? char).map fun digit => 16 * value + digit

def value? (text : List Char) : Option Nat :=
  if text = [] then none else text.foldlM readDigit 0

theorem foldlM_toDigits (value : Nat) :
    (Nat.toDigits 16 value).foldlM readDigit 0 = some value := by
  induction value using Nat.strongRecOn with
  | ind value before =>
      by_cases small : value < 16
      · rw [Nat.toDigits_of_lt_base small, List.foldlM_cons, readDigit, digit?_digitChar small]
        exact congrArg some (Nat.zero_add value)
      · have last : value % 16 < 16 := Nat.mod_lt value (by decide)
        have shorter := before (value / 16) (by omega)
        rw [Nat.toDigits_of_base_le (by decide) (by omega), List.foldlM_append, shorter]
        change readDigit (value / 16) (value % 16).digitChar >>= _ = _
        rw [readDigit, digit?_digitChar last]
        exact congrArg some (Nat.div_add_mod value 16)

theorem foldlM_zeros (count : Nat) (text : List Char) :
    (List.replicate count '0' ++ text).foldlM readDigit 0 = text.foldlM readDigit 0 := by
  induction count with
  | zero => rfl
  | succ count rest => exact rest

theorem foldlM_numeral (width value : Nat) :
    (numeral width value).foldlM readDigit 0 = some value := by
  rw [numeral, List.leftpad, foldlM_zeros, foldlM_toDigits]

theorem value?_numeral (width value : Nat) : value? (numeral width value) = some value := by
  have some : numeral width value ≠ [] := by
    intro none
    exact Nat.toDigits_ne_nil (List.append_eq_nil_iff.mp none).2
  rw [value?, if_neg some, foldlM_numeral]

/-- Only digits are read. -/
theorem digits_of_foldlM {text : List Char} :
    forall {start value : Nat}, text.foldlM readDigit start = some value ->
      forall char, char ∈ text -> digit? char ≠ none := by
  induction text with
  | nil =>
      intro start value _ char member
      cases member
  | cons first rest before =>
      intro start value read char member
      rcases Option.bind_eq_some_iff.mp read with ⟨next, digit, later⟩
      rcases List.mem_cons.mp member with same | inRest
      · subst same
        intro none
        rw [readDigit, none] at digit
        cases digit
      · exact before later char inRest

theorem not_mem_numeral {char : Char} (none : digit? char = none) (width value : Nat) :
    char ∉ numeral width value := by
  intro member
  exact digits_of_foldlM (foldlM_numeral width value) char member none

theorem numeral_length {width value : Nat} (some : 0 < width) (fits : value < 16 ^ width) :
    (numeral width value).length = width := by
  have short := (Nat.length_toDigits_le_iff (by decide) some).mpr fits
  rw [numeral, List.length_leftpad]
  omega

/-! ## Rows -/

section Rows

-- How many blanks stand before a column.
variable (gap : Nat -> Nat)

/-- A column of a row: an octet in two digits, or as many blanks. -/
def column (index : Nat) (cell : Option UInt8) : List Char :=
  List.replicate (gap index) ' ' ++
    match cell with
    | some octet => numeral 2 octet.toNat
    | none => [' ', ' ']

def row (cells : Nat -> Option UInt8) (indices : List Nat) : List Char :=
  indices.flatMap fun index => column gap index (cells index)

def readRow : List Nat -> List Char -> List UInt8
  | [], _ => []
  | index :: indices, text =>
      let cell := text.drop (gap index)
      ((value? (cell.take 2)).map UInt8.ofNat).toList ++ readRow indices (cell.drop 2)

theorem column_cell (cell : Option UInt8) :
    Exists fun text : List Char => (forall index, column gap index cell =
      List.replicate (gap index) ' ' ++ text) ∧ text.length = 2 ∧
        (value? text).map UInt8.ofNat = cell := by
  cases cell with
  | none => exact ⟨_, fun _ => rfl, rfl, rfl⟩
  | some octet =>
      refine ⟨_, fun _ => rfl, numeral_length (by decide) octet.toNat_lt, ?_⟩
      rw [value?_numeral, Option.map_some, UInt8.ofNat_toNat]

/-- A row reads back as its octets, whatever follows it. -/
theorem readRow_row (cells : Nat -> Option UInt8) (indices : List Nat) (rest : List Char) :
    readRow gap indices (row gap cells indices ++ rest) = indices.filterMap cells := by
  induction indices with
  | nil => rfl
  | cons index indices before =>
      rcases column_cell gap (cells index) with ⟨text, shown, length, read⟩
      have split : row gap cells (index :: indices) ++ rest =
          List.replicate (gap index) ' ' ++ (text ++ (row gap cells indices ++ rest)) := by
        simp only [row, List.flatMap_cons, shown, List.append_assoc]
      rw [readRow, split, List.drop_left' (List.length_replicate ..), List.take_left' length,
        List.drop_left' length, before, read]
      cases given : cells index with
      | none => rw [List.filterMap_cons_none given]; rfl
      | some octet => rw [List.filterMap_cons_some given]; rfl

theorem newline_not_mem_row (cells : Nat -> Option UInt8) (indices : List Nat) :
    '\n' ∉ row gap cells indices := by
  intro member
  rcases List.mem_flatMap.mp member with ⟨index, _, inColumn⟩
  rcases List.mem_append.mp inColumn with blank | inCell
  · cases List.eq_of_mem_replicate blank
  · cases given : cells index with
    | none =>
        rw [given] at inCell
        revert inCell
        decide
    | some octet =>
        rw [given] at inCell
        exact not_mem_numeral rfl 2 octet.toNat inCell

end Rows

/-! ## Lines -/

def unlines (lines : List (List Char)) : List Char :=
  lines.flatMap fun line => line ++ ['\n']

theorem splitOn_unlines {lines : List (List Char)}
    (whole : forall line, line ∈ lines -> '\n' ∉ line) :
    (unlines lines).splitOn '\n' = lines ++ [[]] := by
  induction lines with
  | nil => rfl
  | cons line lines before =>
      have first := whole line List.mem_cons_self
      have later := before fun other member => whole other (List.mem_cons_of_mem line member)
      have split : unlines (line :: lines) = line ++ '\n' :: unlines lines := by
        simp only [unlines, List.flatMap_cons, List.append_assoc, List.singleton_append]
      rw [split, List.splitOn_append_cons_self_of_not_mem first, later, List.cons_append]

end HexText

end EasyProspect
