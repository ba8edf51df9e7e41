import EasyProspect.ChannelHandlers
import EasyProspect.Library.CString

namespace EasyProspect

/-!
# The bytes of a message

`makeMessage` gives the serialised text, or nothing that is defined.  Here the bytes of the
text go through the local array of `make_message`.  What the serialiser writes has no NUL,
except in the text of a float, which is the platform's own.
-/

/-- The bytes of a `std::string`. -/
def utf8Octets (text : String) : Octets :=
  text.toList.flatMap String.utf8EncodeChar

theorem length_utf8Octets (text : String) : (utf8Octets text).length = text.utf8ByteSize := by
  rw [String.utf8ByteSize, ← String.utf8Encode_toList]
  exact List.size_toByteArray.symm

theorem utf8EncodeChar_zero {character : Char} (zero : 0 ∈ String.utf8EncodeChar character) :
    character = '\x00' := by
  have lead : forall value : Nat, 128 ≤ value -> value < 256 -> (0 : UInt8) ≠ .ofNat value := by
    intro value low high same
    have number := congrArg UInt8.toNat same
    rw [UInt8.toNat_ofNat_of_lt' high] at number
    exact absurd number (by simp only [UInt8.toNat_zero]; omega)
  have number : character.val.toNat = 0 := by
    simp only [String.utf8EncodeChar] at zero
    split at zero
    · rename_i ascii
      have same := congrArg UInt8.toNat (List.mem_singleton.mp zero)
      rw [UInt8.toNat_ofNat_of_lt' (show _ < 256 by omega)] at same
      exact same.symm
    · exfalso
      split at zero
      · simp only [List.mem_cons, List.not_mem_nil, or_false] at zero
        rcases zero with octet | octet
        · exact lead _ (by omega) (by omega) octet
        · exact lead _ (by omega) (by omega) octet
      · split at zero
        · simp only [List.mem_cons, List.not_mem_nil, or_false] at zero
          rcases zero with octet | octet | octet
          · exact lead _ (by omega) (by omega) octet
          · exact lead _ (by omega) (by omega) octet
          · exact lead _ (by omega) (by omega) octet
        · simp only [List.mem_cons, List.not_mem_nil, or_false] at zero
          rcases zero with octet | octet | octet | octet
          · exact lead _ (by omega) (by omega) octet
          · exact lead _ (by omega) (by omega) octet
          · exact lead _ (by omega) (by omega) octet
          · exact lead _ (by omega) (by omega) octet
  exact Char.ext (UInt32.toNat_inj.mp number)

theorem terminated_utf8Octets {text : String} (clean : '\x00' ∉ text.toList) :
    CString.Terminated (utf8Octets text) := by
  intro zero
  rcases List.mem_flatMap.mp zero with ⟨character, inside, octet⟩
  exact clean (utf8EncodeChar_zero octet ▸ inside)

/-- `make_message`, with what the array holds before. -/
def messageOctets (platform : Platform) (buf : Octets) (jv : Json) : Option Octets :=
  let jvBuf := utf8Octets (jv.dump platform)
  (CString.strcpy buf jvBuf).bind fun buf => CString.view buf jvBuf.length

/-- The text and its terminator fit, and the message has the bytes of the text. -/
structure Whole (platform : Platform) (jv : Json) : Prop where
  fits : Fits platform jv
  octets : forall buf : Octets, buf.length = messageBuffer ->
    messageOctets platform buf jv = some (utf8Octets (jv.dump platform))

/-! ## Texts without NUL -/

/-- A text that `strcpy` copies to its end. -/
def Clean (text : String) : Prop :=
  '\x00' ∉ text.toList

instance (text : String) : Decidable (Clean text) :=
  inferInstanceAs (Decidable ('\x00' ∉ text.toList))

theorem clean_empty : Clean "" := by
  decide

theorem clean_append {first second : String} :
    Clean (first ++ second) <-> Clean first ∧ Clean second := by
  rw [Clean, String.toList_append, List.mem_append, not_or]
  rfl

theorem clean_toString_nat (count : Nat) : Clean (toString count) := by
  have text : (toString count).toList = Nat.toDigits 10 count := Nat.toList_repr
  intro member
  rw [text] at member
  exact absurd (Nat.isDigit_of_mem_toDigits (by decide) (by decide) member) (by decide)

theorem clean_toString (value : Int) : Clean (toString value) := by
  cases value with
  | ofNat count => exact clean_toString_nat count
  | negSucc count =>
      have text : toString (Int.negSucc count) = "-" ++ toString (count + 1) := rfl
      rw [text]
      exact clean_append.mpr ⟨by decide, clean_toString_nat (count + 1)⟩

namespace Json

/-- A NUL is written as an escape sequence. -/
theorem clean_escapeChar (character : Char) : Clean (escapeChar character) := by
  have control : forall value, value < 32 -> Clean (String.ofList ['\\', 'u', '0', '0',
      hexDigit (value / 16), hexDigit (value % 16)]) := by
    decide
  rw [escapeChar]
  split
  · decide
  · decide
  · decide
  · decide
  · decide
  · decide
  · decide
  · split
    · rename_i below
      exact control _ below
    · rename_i above
      intro member
      rw [String.toList_ofList] at member
      rw [← List.mem_singleton.mp member] at above
      exact above (by decide)

theorem clean_quote (text : String) : Clean (quote text) := by
  have inner : Clean (escape text) := by
    intro member
    rw [escape, String.toList_join] at member
    rcases List.mem_flatMap.mp member with ⟨part, inside, nul⟩
    rcases List.mem_map.mp inside with ⟨character, _, rfl⟩
    exact clean_escapeChar character nul
  exact clean_append.mpr ⟨clean_append.mpr ⟨by decide, inner⟩, by decide⟩

/-- A value in which there is no float. -/
inductive Floatless : Json -> Prop
  | null : Floatless .null
  | boolean (value : Bool) : Floatless (.boolean value)
  | integer (value : Int64) : Floatless (.integer value)
  | unsigned (value : UInt64) : Floatless (.unsigned value)
  | string (value : String) : Floatless (.string value)
  | array (elements : List Json) (each : forall element, element ∈ elements -> Floatless element) :
      Floatless (.array elements)
  | object (members : List (String × Json))
      (each : forall member, member ∈ members -> Floatless member.2) : Floatless (.object members)

theorem floatless_ofInt (value : Int32) : Floatless (.ofInt value) :=
  .integer value.toInt64

theorem floatless_nil : Floatless (.object []) :=
  .object [] fun _ none => absurd none List.not_mem_nil

theorem Floatless.cons {key : String} {value : Json} {members : List (String × Json)}
    (first : Floatless value) (rest : Floatless (.object members)) :
    Floatless (.object ((key, value) :: members)) := by
  cases rest with
  | object _ each =>
      refine .object _ fun member inside => ?_
      rcases List.mem_cons.mp inside with rfl | later
      · exact first
      · exact each member later

section Dump

variable {platform : Platform}

theorem clean_dumpElements {elements : List Json}
    (each : forall element, element ∈ elements -> Clean (element.dump platform)) :
    Clean (dumpElements platform elements) := by
  induction elements with
  | nil => exact clean_empty
  | cons element rest inductionHypothesis =>
      rcases List.forall_mem_cons.mp each with ⟨first, others⟩
      have later := inductionHypothesis others
      cases rest with
      | nil => exact first
      | cons next rest =>
          exact clean_append.mpr ⟨clean_append.mpr ⟨first, by decide⟩, later⟩

theorem clean_dumpMembers {members : List (String × Json)}
    (each : forall member, member ∈ members -> Clean (member.2.dump platform)) :
    Clean (dumpMembers platform members) := by
  induction members with
  | nil => exact clean_empty
  | cons member rest inductionHypothesis =>
      rcases member with ⟨key, value⟩
      rcases List.forall_mem_cons.mp each with ⟨written, others⟩
      have named : Clean (quote key ++ ":") := clean_append.mpr ⟨clean_quote key, by decide⟩
      have first : Clean (quote key ++ ":" ++ value.dump platform) :=
        clean_append.mpr ⟨named, written⟩
      have later := inductionHypothesis others
      cases rest with
      | nil => exact first
      | cons next rest =>
          exact clean_append.mpr ⟨clean_append.mpr ⟨first, by decide⟩, later⟩

theorem clean_dump {jv : Json} (floatless : Floatless jv) : Clean (jv.dump platform) := by
  induction floatless with
  | null => exact (by decide : Clean "null")
  | boolean value =>
      cases value with
      | false => exact (by decide : Clean "false")
      | true => exact (by decide : Clean "true")
  | integer value => exact clean_toString value.toInt
  | unsigned value => exact clean_toString_nat value.toNat
  | string value => exact clean_quote value
  | array elements each inductionHypothesis =>
      rw [dump]
      have inner := clean_dumpElements inductionHypothesis
      exact clean_append.mpr ⟨clean_append.mpr ⟨by decide, inner⟩, by decide⟩
  | object members each inductionHypothesis =>
      rw [dump]
      have inner := clean_dumpMembers inductionHypothesis
      exact clean_append.mpr ⟨clean_append.mpr ⟨by decide, inner⟩, by decide⟩

end Dump

end Json

/-- A message without floats arrives whole exactly when it fits. -/
theorem whole_iff_fits {platform : Platform} {jv : Json} (floatless : Json.Floatless jv) :
    Whole platform jv <-> Fits platform jv := by
  refine ⟨Whole.fits, fun fits => ⟨fits, fun buf size => ?_⟩⟩
  have clean : Clean (jv.dump platform) := Json.clean_dump floatless
  have terminated := terminated_utf8Octets clean
  rw [messageOctets, CString.strcpy_view terminated, if_pos]
  rw [length_utf8Octets, size]
  exact fits

/-! ## Sizes -/

/-- A value without floats whose text has at most so many bytes. -/
structure Json.Within (platform : Platform) (bound : Nat) (jv : Json) : Prop where
  floatless : Floatless jv
  size : (jv.dump platform).utf8ByteSize ≤ bound

namespace Json

variable {platform : Platform} {bound : Nat} {jv : Json}

theorem Within.whole (within : Within platform bound jv) (fits : bound < messageBuffer) :
    Whole platform jv :=
  (whole_iff_fits within.floatless).mpr (within.size.trans_lt fits)

theorem size_unsignedText (value : UInt64) : (toString value.toNat).utf8ByteSize ≤ 80 := by
  have length : (toString value.toNat).length ≤ 20 :=
    Nat.repr_length value.toNat 20 (by decide) (value.toNat_lt.trans (by decide))
  exact (utf8ByteSize_le_length _).trans (Nat.mul_le_mul_left 4 length)

theorem size_dumpElements {elements : List Json}
    (each : forall element, element ∈ elements ->
      (element.dump platform).utf8ByteSize ≤ bound) :
    (dumpElements platform elements).utf8ByteSize ≤ elements.length * (bound + 1) := by
  induction elements with
  | nil => exact Nat.zero_le _
  | cons element rest inductionHypothesis =>
      rcases List.forall_mem_cons.mp each with ⟨first, others⟩
      have later := inductionHypothesis others
      rw [List.length_cons, Nat.succ_mul]
      cases rest with
      | nil =>
          rw [dumpElements]
          omega
      | cons next rest =>
          have comma : ("," : String).utf8ByteSize = 1 := by decide
          rw [dumpElements, String.utf8ByteSize_append, String.utf8ByteSize_append, comma]
          omega

theorem within_array {elements : List Json} {count : Nat} (few : elements.length ≤ count)
    (each : forall element, element ∈ elements -> Within platform bound element) :
    Within platform (count * (bound + 1) + 2) (.array elements) := by
  have inner := size_dumpElements fun element inside => (each element inside).size
  have more : elements.length * (bound + 1) ≤ count * (bound + 1) := Nat.mul_le_mul_right _ few
  have marks : ("[" : String).utf8ByteSize + ("]" : String).utf8ByteSize = 2 := by decide
  refine ⟨.array elements fun element inside => (each element inside).floatless, ?_⟩
  rw [dump, String.utf8ByteSize_append, String.utf8ByteSize_append]
  omega

end Json

/-! ## Responses -/

theorem whole_error (platform : Platform) {error : RpcError} (short : Short error.msg)
    (id : Int32) : Whole platform (error.toJson id) := by
  refine (whole_iff_fits ?_).mpr (fits_error platform short id)
  have inner : Json.Floatless
      (.object [("code", .ofInt error.code), ("message", .string error.msg)]) :=
    .cons (Json.floatless_ofInt _) (.cons (.string _) Json.floatless_nil)
  rw [RpcError.toJson]
  split
  · exact .cons inner (.cons (Json.floatless_ofInt _) (.cons (.string _) Json.floatless_nil))
  · exact .cons inner (.cons (.string _) Json.floatless_nil)

theorem whole_result (platform : Platform) {call : RpcCall} (empty : call.result = .null)
    {response : Json} (completes : call.complete = some response) : Whole platform response := by
  refine (whole_iff_fits ?_).mpr (fits_result platform empty completes)
  rcases Option.map_eq_some_iff.mp completes with ⟨id, _, rfl⟩
  rw [empty]
  exact .cons (Json.floatless_ofInt _) (.cons .null Json.floatless_nil)

end EasyProspect
