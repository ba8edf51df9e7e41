import Mathlib.Data.List.TakeWhile

namespace CString

/-!
# Strings that end at their terminator

A string of C lies in memory up to its first zero, and a copy of it is made up to that zero
and with it.  The array that it is copied into is a list of a fixed length; to write or to
read behind its end has no result.
-/

/-- The text is not cut short by a zero of its own. -/
def Terminated (text : List UInt8) : Prop :=
  0 ∉ text

/-- What a copy of the string takes up. -/
def copied (text : List UInt8) : List UInt8 :=
  (text.takeWhile fun octet => octet ≠ 0) ++ [0]

/-- `strcpy` into an array. -/
def strcpy (array text : List UInt8) : Option (List UInt8) :=
  if (copied text).length ≤ array.length then
    some (copied text ++ array.drop (copied text).length)
  else none

/-- The first octets of an array. -/
def view (array : List UInt8) (size : Nat) : Option (List UInt8) :=
  if size ≤ array.length then some (array.take size) else none

variable {array text : List UInt8}

theorem copied_of_terminated (terminated : Terminated text) : copied text = text ++ [0] := by
  rw [copied, List.takeWhile_eq_self_iff.mpr]
  intro octet member
  exact decide_eq_true fun zero => terminated (zero ▸ member)

/-- A text without a zero comes back whole from every array that has room for its terminator,
and from no other array. -/
theorem strcpy_view (terminated : Terminated text) :
    ((strcpy array text).bind fun written => view written text.length) =
      if text.length < array.length then some text else none := by
  rw [strcpy, copied_of_terminated terminated, List.length_append, List.length_singleton]
  by_cases fits : text.length < array.length
  · rw [if_pos (Nat.succ_le_of_lt fits), if_pos fits, Option.bind_some, view, if_pos]
    · rw [List.append_assoc, List.take_left]
    · rw [List.append_assoc, List.length_append]
      exact Nat.le_add_right _ _
  · rw [if_neg (fun room => fits (Nat.lt_of_succ_le room)), if_neg fits, Option.bind_none]

end CString
