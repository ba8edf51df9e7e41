import Mathlib.Data.List.Basic

namespace EasyProspect

/-!
# Escaped lists

The fields of an escaped list are separated by commas.  A field may be spelled in many ways:
between quotes a comma is part of the field, and after a backslash a comma, a quote or a
backslash is, while `n` stands for a newline.  Whatever the spelling, splitting the list gives
the fields.
-/

namespace EscapedList

inductive Failure
  | endsWithEscape
  | unknownEscape
deriving DecidableEq, Repr

/-- What a character stands for after a backslash. -/
def escape (char : Char) : Option Char :=
  if char = 'n' then some '\n'
  else if char ∈ ['\\', ',', '"'] then some char
  else none

/-! ## Spellings -/

/-- A text, from inside a field on, spells the rest of the field; the first index tells whether
a quote is open. -/
inductive Spelled : Bool -> List Char -> List Char -> Prop
  | done : Spelled false [] []
  | plain {quoted : Bool} {char : Char} {text field : List Char} (noEscape : char ≠ '\\')
      (noQuote : char ≠ '"') (inside : char = ',' -> quoted = true)
      (rest : Spelled quoted text field) : Spelled quoted (char :: text) (char :: field)
  | escaped {quoted : Bool} {char meant : Char} {text field : List Char}
      (known : escape char = some meant) (rest : Spelled quoted text field) :
      Spelled quoted ('\\' :: char :: text) (meant :: field)
  | quote {quoted : Bool} {text field : List Char} (rest : Spelled (!quoted) text field) :
      Spelled quoted ('"' :: text) field

/-- A text spells a list of fields.  The empty text spells none, rather than one empty field. -/
structure Spells (fields : List (List Char)) (text : List Char) : Prop where
  some : text ≠ []
  spelled : Exists fun texts : List (List Char) =>
    List.Forall₂ (Spelled false) texts fields ∧ List.intercalate [','] texts = text

/-- A text has no special characters. -/
def Plain (text : List Char) : Prop :=
  forall char, char ∈ text -> char ≠ '\\' ∧ char ≠ '"' ∧ char ≠ ','

instance (text : List Char) : Decidable (Plain text) :=
  List.decidableBAll (fun char : Char => char ≠ '\\' ∧ char ≠ '"' ∧ char ≠ ',') text

/-- A plain text spells itself. -/
theorem spelled_plain {text : List Char} : Plain text -> Spelled false text text := by
  induction text with
  | nil => exact fun _ => .done
  | cons char text rest =>
      intro plain
      rcases plain char List.mem_cons_self with ⟨noEscape, noQuote, noComma⟩
      exact .plain noEscape noQuote (fun comma => absurd comma noComma)
        (rest fun other member => plain other (List.mem_cons_of_mem char member))

/-! ## Splitting -/

/-- Goes on from inside a field, of which `field` has been read. -/
def scan : Bool -> List Char -> List Char -> Except Failure (List (List Char))
  | _, field, [] => .ok [field]
  | quoted, field, char :: text =>
      if char = '\\' then
        match text with
        | [] => .error .endsWithEscape
        | next :: text =>
            match escape next with
            | some meant => scan quoted (field ++ [meant]) text
            | none => .error .unknownEscape
      else if char = ',' then
        if quoted then scan quoted (field ++ [char]) text
        else (scan false [] text).map (List.cons field)
      else if char = '"' then scan (!quoted) field text
      else scan quoted (field ++ [char]) text
termination_by structural _ _ text => text

def split (text : List Char) : Except Failure (List (List Char)) :=
  if text = [] then .ok [] else scan false [] text

theorem scan_escaped {char meant : Char} (known : escape char = some meant) (quoted : Bool)
    (field text : List Char) :
    scan quoted field ('\\' :: char :: text) = scan quoted (field ++ [meant]) text := by
  rw [scan.eq_def]
  change (match escape char with
    | some meant => scan quoted (field ++ [meant]) text
    | none => .error .unknownEscape) = _
  rw [known]

theorem scan_other {char : Char} (noEscape : char ≠ '\\') (quoted : Bool)
    (field text : List Char) :
    scan quoted field (char :: text) =
      if char = ',' then
        if quoted then scan quoted (field ++ [char]) text
        else (scan false [] text).map (List.cons field)
      else if char = '"' then scan (!quoted) field text
      else scan quoted (field ++ [char]) text := by
  rw [scan.eq_def]
  exact if_neg noEscape

/-- The rest of a field is read as it is spelled, up to the end or to a comma. -/
theorem scan_spelled {quoted : Bool} {text field : List Char}
    (spelled : Spelled quoted text field) :
    forall front, scan quoted front text = .ok [front ++ field] ∧
      forall later, scan quoted front (text ++ ',' :: later) =
        (scan false [] later).map (List.cons (front ++ field)) := by
  induction spelled with
  | done =>
      intro front
      rw [List.append_nil]
      refine ⟨rfl, fun later => ?_⟩
      rw [List.nil_append, scan_other (by decide), if_pos rfl, if_neg Bool.false_ne_true]
  | @plain quoted char text field noEscape noQuote inside _ rest =>
      intro front
      have step : forall more, scan quoted front (char :: more) =
          scan quoted (front ++ [char]) more := by
        intro more
        by_cases comma : char = ','
        · rw [scan_other noEscape, if_pos comma, if_pos (inside comma)]
        · rw [scan_other noEscape, if_neg comma, if_neg noQuote]
      have onward := rest (front ++ [char])
      rw [List.append_assoc, List.singleton_append] at onward
      rw [step]
      refine ⟨onward.1, fun later => ?_⟩
      rw [List.cons_append, step]
      exact onward.2 later
  | @escaped quoted char meant text field known _ rest =>
      intro front
      have onward := rest (front ++ [meant])
      rw [List.append_assoc, List.singleton_append] at onward
      rw [scan_escaped known]
      refine ⟨onward.1, fun later => ?_⟩
      rw [List.cons_append, List.cons_append, scan_escaped known]
      exact onward.2 later
  | @quote quoted text field _ rest =>
      intro front
      have step : forall more, scan quoted front ('"' :: more) = scan (!quoted) front more := by
        intro more
        rw [scan_other (by decide), if_neg (by decide), if_pos rfl]
      rw [step]
      refine ⟨(rest front).1, fun later => ?_⟩
      rw [List.cons_append, step]
      exact (rest front).2 later

theorem scan_intercalate {texts fields : List (List Char)}
    (spelled : List.Forall₂ (Spelled false) texts fields) (some : texts ≠ []) :
    scan false [] (List.intercalate [','] texts) = .ok fields := by
  induction spelled with
  | nil => exact absurd rfl some
  | cons first later rest =>
      rename_i text field texts fields
      cases texts with
      | nil =>
          cases later
          rw [List.intercalate_singleton]
          exact (scan_spelled first []).1
      | cons next texts =>
          have onward := rest (List.cons_ne_nil next texts)
          rw [List.intercalate_cons_cons, List.append_assoc, List.singleton_append,
            (scan_spelled first []).2, onward]
          rfl

/-- Splitting a list gives the fields that it spells. -/
theorem split_of_spells {fields : List (List Char)} {text : List Char}
    (spells : Spells fields text) : split text = .ok fields := by
  rcases spells.spelled with ⟨texts, spelled, joined⟩
  have some : texts ≠ [] := by
    intro none
    rw [none] at joined
    exact spells.some joined.symm
  rw [split, if_neg spells.some, ← joined]
  exact scan_intercalate spelled some

end EscapedList

end EasyProspect
