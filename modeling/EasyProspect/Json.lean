import EasyProspect.Beast
import Mathlib.Data.Nat.Digits.Defs

namespace EasyProspect

/-!
# JSON values

`nlohmann::json` is not part of the repository.  Its values and the accessors that
the sources call are defined here as documented; the parser is a parameter, and so
are the conversions of floating-point numbers and `std::stof`.

An object is a `std::map`.  Its members are listed with their keys; objects that
the sources build are listed in the order of the keys, which is the order in
which they are serialised.
-/

inductive Json
  | null
  | boolean (value : Bool)
  | integer (value : Int64)
  | unsigned (value : UInt64)
  | float (value : Rat)
  | string (value : String)
  | array (elements : List Json)
  | object (members : List (String × Json))

inductive JsonException
  | parseError
  | outOfRange
  | typeError
  deriving DecidableEq

inductive StofException
  | invalidArgument
  | outOfRange
  deriving DecidableEq

/-- What is taken from outside.  `stof` gives `none` for a number that is not
finite; the conversions of a float truncate, and are the platform's own where
the result does not fit. -/
structure Platform where
  parse : Octets -> Except JsonException Json
  floatToInt : Rat -> Int32
  floatToSize : Rat -> UInt64
  floatText : Rat -> String
  stof : String -> Except StofException (Option Rat)

namespace Json

def isObject : Json -> Bool
  | object _ => true
  | _ => false

def isArray : Json -> Bool
  | array _ => true
  | _ => false

/-- The value of an `int`. -/
def ofInt (value : Int32) : Json :=
  .integer value.toInt64

/-! ## Members -/

/-- `find` on an object. -/
def find (members : List (String × Json)) (key : String) : Option Json :=
  members.lookup key

/-- `operator[]` on an object, which inserts null for a missing key. -/
def subscript (members : List (String × Json)) (key : String) : List (String × Json) × Json :=
  match find members key with
  | some value => (members, value)
  | none => ((key, null) :: members, null)

/-- A member, or null where there is none. -/
def member (members : List (String × Json)) (key : String) : Json :=
  (find members key).getD .null

theorem subscript_value (members : List (String × Json)) (key : String) :
    (subscript members key).2 = member members key := by
  rw [subscript, member]
  cases find members key with
  | some value => rfl
  | none => rfl

/-- The null that `operator[]` inserts is not seen under another key. -/
theorem find_subscript (members : List (String × Json)) {key other : String}
    (different : other ≠ key) :
    find (subscript members key).1 other = find members other := by
  rw [subscript]
  cases find members key with
  | some value => rfl
  | none =>
      rw [find, List.lookup_cons]
      have no : (other == key) = false := beq_false_of_ne different
      rw [no]
      rfl

theorem member_subscript (members : List (String × Json)) {key other : String}
    (different : other ≠ key) :
    member (subscript members key).1 other = member members other := by
  rw [member, find_subscript members different, member]

/-! ## Conversions -/

section Conversions

variable (platform : Platform)

/-- `get<int>()`. -/
def getInt : Json -> Except JsonException Int32
  | unsigned value => .ok value.toUInt32.toInt32
  | integer value => .ok value.toInt32
  | float value => .ok (platform.floatToInt value)
  | boolean value => .ok (if value then 1 else 0)
  | _ => .error .typeError

/-- `get<size_t>()`.  A boolean is not converted, since `size_t` is the type in
which unsigned numbers are stored. -/
def getSize : Json -> Except JsonException UInt64
  | unsigned value => .ok value
  | integer value => .ok value.toUInt64
  | float value => .ok (platform.floatToSize value)
  | _ => .error .typeError

/-- `get<std::string>()`. -/
def getString : Json -> Except JsonException String
  | string value => .ok value
  | _ => .error .typeError

end Conversions

/-! ## Serialisation -/

/-- `dump_escaped` for one character, without `ensure_ascii`. -/
def escapeChar (character : Char) : String :=
  match character.toNat with
  | 8 => "\\b"
  | 9 => "\\t"
  | 10 => "\\n"
  | 12 => "\\f"
  | 13 => "\\r"
  | 34 => "\\\""
  | 92 => "\\\\"
  | value =>
      if value < 32 then
        String.ofList ['\\', 'u', '0', '0', hexDigit (value / 16), hexDigit (value % 16)]
      else
        String.ofList [character]

def escape (text : String) : String :=
  String.join (text.toList.map escapeChar)

def quote (text : String) : String :=
  "\"" ++ escape text ++ "\""

mutual

/-- `dump()`. -/
def dump (platform : Platform) : Json -> String
  | null => "null"
  | boolean true => "true"
  | boolean false => "false"
  | integer value => toString value.toInt
  | unsigned value => toString value.toNat
  | float value => platform.floatText value
  | string value => quote value
  | array elements => "[" ++ dumpElements platform elements ++ "]"
  | object members => "\x7b" ++ dumpMembers platform members ++ "\x7d"

def dumpElements (platform : Platform) : List Json -> String
  | [] => ""
  | [element] => dump platform element
  | element :: next :: rest =>
      dump platform element ++ "," ++ dumpElements platform (next :: rest)

def dumpMembers (platform : Platform) : List (String × Json) -> String
  | [] => ""
  | [(key, value)] => quote key ++ ":" ++ dump platform value
  | (key, value) :: next :: rest =>
      quote key ++ ":" ++ dump platform value ++ "," ++ dumpMembers platform (next :: rest)

end

/-! ## Sizes -/

theorem size_escapeChar (character : Char) :
    (escapeChar character).utf8ByteSize ≤ 6 * character.utf8Size := by
  have positive := character.utf8Size_pos
  have short : forall {text : String}, text.utf8ByteSize ≤ 6 ->
      text.utf8ByteSize ≤ 6 * character.utf8Size := fun bound => by omega
  have control : forall value, value < 32 ->
      (String.ofList ['\\', 'u', '0', '0', hexDigit (value / 16),
        hexDigit (value % 16)]).utf8ByteSize ≤ 6 := by
    decide
  rw [escapeChar]
  split
  · exact short (by decide)
  · exact short (by decide)
  · exact short (by decide)
  · exact short (by decide)
  · exact short (by decide)
  · exact short (by decide)
  · exact short (by decide)
  · split
    · rename_i below
      exact short (control _ below)
    · have single : (String.ofList [character]).utf8ByteSize = character.utf8Size :=
        String.utf8ByteSize_singleton
      omega

/-- Escaping makes a text at most six times as long. -/
theorem size_escape (text : String) : (escape text).utf8ByteSize ≤ 6 * text.utf8ByteSize := by
  induction text using String.push_induction with
  | empty => decide
  | push text character inductionHypothesis =>
      have one := size_escapeChar character
      rw [escape, String.toList_push, List.map_append, String.join_append, List.map_singleton,
        String.join_cons, String.join_nil, String.append_empty, String.utf8ByteSize_append,
        String.utf8ByteSize_push, Nat.mul_add]
      exact Nat.add_le_add inductionHypothesis one

theorem size_quote (text : String) : (quote text).utf8ByteSize ≤ 6 * text.utf8ByteSize + 2 := by
  have inner := size_escape text
  have mark : ("\"" : String).utf8ByteSize = 1 := by decide
  rw [quote, String.utf8ByteSize_append, String.utf8ByteSize_append, mark]
  omega

theorem utf8ByteSize_le_length (text : String) : text.utf8ByteSize ≤ 4 * text.length := by
  induction text using String.push_induction with
  | empty => decide
  | push text character inductionHypothesis =>
      have one := character.utf8Size_le_four
      rw [String.utf8ByteSize_push, String.length_push]
      omega

theorem size_integerText (value : Int64) : (toString value.toInt).utf8ByteSize ≤ 80 := by
  have low := value.le_toInt
  have high := value.toInt_lt
  have digits : forall count : Nat, count < 10 ^ 19 -> (toString count).length ≤ 19 :=
    fun count within => Nat.repr_length count 19 (by decide) within
  cases text : value.toInt with
  | ofNat count =>
      rw [text, Int.ofNat_eq_natCast] at high
      have length := digits count (by omega)
      exact (utf8ByteSize_le_length (toString count)).trans (by omega)
  | negSucc count =>
      have length := digits (count + 1) (by omega)
      have sign : toString (Int.negSucc count) = "-" ++ toString (count + 1) := rfl
      have one : ("-" : String).utf8ByteSize = 1 := by decide
      have rest := utf8ByteSize_le_length (toString (count + 1))
      rw [sign, String.utf8ByteSize_append]
      omega

end Json

end EasyProspect
