import Mathlib.Data.List.Basic
import Mathlib.Tactic.Ring

namespace MessagePack

/-!
# The MessagePack format

Objects, their shortest encoding and a decoder for every encoding the format
knows.  The first octet of an encoding is its lead: it says what kind of object
follows, and either holds a small value or count itself or announces how many
octets of a big-endian one come next.  The decoder reads the lead as a value of
its own, so the table of the format stands in one place.

An object is encodable when its integers, lengths and counts are within the
format's limits.  What is encoded is read back, whatever follows it.
-/

abbrev Octets := List UInt8

inductive Object
  | nil
  | boolean (value : Bool)
  | positiveInteger (value : Nat)
  | negativeInteger (value : Int)
  | float32 (bits : BitVec 32)
  | float64 (bits : BitVec 64)
  | str (octets : Octets)
  | bin (octets : Octets)
  | array (items : List Object)
  | map (entries : List (Object × Object))
  | ext (kind : UInt8) (octets : Octets)

/-- An integer as the format divides them. -/
def Object.integer (value : Int) : Object :=
  if 0 ≤ value then .positiveInteger value.toNat else .negativeInteger value

/-! ## Big-endian numbers -/

def bigEndian : Nat -> Nat -> Octets
  | 0, _ => []
  | width + 1, value => UInt8.ofNat (value / 256 ^ width) :: bigEndian width value

def ofBigEndian (octets : Octets) : Nat :=
  octets.foldl (fun total octet => total * 256 + octet.toNat) 0

@[simp] theorem length_bigEndian (width value : Nat) : (bigEndian width value).length = width := by
  induction width with
  | zero => rfl
  | succ width inductionHypothesis => rw [bigEndian, List.length_cons, inductionHypothesis]

theorem foldl_bigEndian (width value total : Nat) :
    (bigEndian width value).foldl (fun total octet => total * 256 + octet.toNat) total =
      total * 256 ^ width + value % 256 ^ width := by
  induction width generalizing total with
  | zero => simp [bigEndian, Nat.mod_one]
  | succ width inductionHypothesis =>
      have digit : (UInt8.ofNat (value / 256 ^ width)).toNat = value / 256 ^ width % 256 := rfl
      have split : value % 256 ^ (width + 1) =
          value % 256 ^ width + 256 ^ width * (value / 256 ^ width % 256) := by
        rw [Nat.pow_succ, Nat.mod_mul]
      rw [bigEndian, List.foldl_cons, inductionHypothesis, digit, split, Nat.pow_succ]
      ring

theorem ofBigEndian_bigEndian {width value : Nat} (fits : value < 256 ^ width) :
    ofBigEndian (bigEndian width value) = value := by
  rw [ofBigEndian, foldl_bigEndian, Nat.zero_mul, Nat.zero_add, Nat.mod_eq_of_lt fits]

/-! ## Leads -/

/-- A count that the lead holds, or the number of octets it is written in. -/
inductive Size
  | fixed (count : Nat)
  | counted (width : Nat)
  deriving DecidableEq

inductive Lead
  | nil
  | reserved
  | boolean (value : Bool)
  | positive (value : Nat)
  | negative (value : Int)
  | unsigned (width : Nat)
  | signed (width : Nat)
  | float32
  | float64
  | str (size : Size)
  | bin (size : Size)
  | array (size : Size)
  | map (size : Size)
  | ext (size : Size)
  deriving DecidableEq

/-- The table of first octets. -/
def lead (octet : UInt8) : Lead :=
  let code := octet.toNat
  if code < 0x80 then .positive code
  else if code < 0x90 then .map (.fixed (code - 0x80))
  else if code < 0xa0 then .array (.fixed (code - 0x90))
  else if code < 0xc0 then .str (.fixed (code - 0xa0))
  else if 0xe0 ≤ code then .negative ((code : Int) - 256)
  else
    match code with
    | 0xc0 => .nil
    | 0xc2 => .boolean false
    | 0xc3 => .boolean true
    | 0xc4 => .bin (.counted 1)
    | 0xc5 => .bin (.counted 2)
    | 0xc6 => .bin (.counted 4)
    | 0xc7 => .ext (.counted 1)
    | 0xc8 => .ext (.counted 2)
    | 0xc9 => .ext (.counted 4)
    | 0xca => .float32
    | 0xcb => .float64
    | 0xcc => .unsigned 1
    | 0xcd => .unsigned 2
    | 0xce => .unsigned 4
    | 0xcf => .unsigned 8
    | 0xd0 => .signed 1
    | 0xd1 => .signed 2
    | 0xd2 => .signed 4
    | 0xd3 => .signed 8
    | 0xd4 => .ext (.fixed 1)
    | 0xd5 => .ext (.fixed 2)
    | 0xd6 => .ext (.fixed 4)
    | 0xd7 => .ext (.fixed 8)
    | 0xd8 => .ext (.fixed 16)
    | 0xd9 => .str (.counted 1)
    | 0xda => .str (.counted 2)
    | 0xdb => .str (.counted 4)
    | 0xdc => .array (.counted 2)
    | 0xdd => .array (.counted 4)
    | 0xde => .map (.counted 2)
    | 0xdf => .map (.counted 4)
    | _ => .reserved

/-! ## The decoder -/

def takeOctets (count : Nat) (octets : Octets) : Option (Octets × Octets) :=
  if count ≤ octets.length then some (octets.take count, octets.drop count) else none

def readNatural (width : Nat) (octets : Octets) : Option (Nat × Octets) :=
  (takeOctets width octets).map fun (number, rest) => (ofBigEndian number, rest)

/-- Two's complement in `width` octets. -/
def readInteger (width : Nat) (octets : Octets) : Option (Int × Octets) :=
  (readNatural width octets).map fun (number, rest) =>
    (if 2 * number < 256 ^ width then number else (number : Int) - 256 ^ width, rest)

def readSize : Size -> Octets -> Option (Nat × Octets)
  | .fixed count, octets => some (count, octets)
  | .counted width, octets => readNatural width octets

def readOctets (size : Size) (octets : Octets) : Option (Octets × Octets) :=
  (readSize size octets).bind fun (count, rest) => takeOctets count rest

/-- So many items, one after the other. -/
def readMany {Item : Type} (read : Octets -> Option (Item × Octets)) :
    Nat -> Octets -> Option (List Item × Octets)
  | 0, octets => some ([], octets)
  | count + 1, octets =>
      (read octets).bind fun (item, rest) =>
        (readMany read count rest).map fun (items, last) => (item :: items, last)

def readPair {Item : Type} (read : Octets -> Option (Item × Octets)) (octets : Octets) :
    Option ((Item × Item) × Octets) :=
  (read octets).bind fun (key, rest) => (read rest).map fun (value, last) => ((key, value), last)

/-- `depth` bounds how deeply arrays and maps are nested. -/
def decode : Nat -> Octets -> Option (Object × Octets)
  | 0, _ => none
  | _ + 1, [] => none
  | depth + 1, octet :: rest =>
      match lead octet with
      | .nil => some (.nil, rest)
      | .reserved => none
      | .boolean value => some (.boolean value, rest)
      | .positive value => some (.positiveInteger value, rest)
      | .negative value => some (.negativeInteger value, rest)
      | .unsigned width =>
          (readNatural width rest).map fun (value, last) => (.positiveInteger value, last)
      | .signed width => (readInteger width rest).map fun (value, last) => (.integer value, last)
      | .float32 =>
          (readNatural 4 rest).map fun (bits, last) => (.float32 (BitVec.ofNat 32 bits), last)
      | .float64 =>
          (readNatural 8 rest).map fun (bits, last) => (.float64 (BitVec.ofNat 64 bits), last)
      | .str size => (readOctets size rest).map fun (octets, last) => (.str octets, last)
      | .bin size => (readOctets size rest).map fun (octets, last) => (.bin octets, last)
      | .array size =>
          (readSize size rest).bind fun (count, rest) =>
            (readMany (decode depth) count rest).map fun (items, last) => (.array items, last)
      | .map size =>
          (readSize size rest).bind fun (count, rest) =>
            (readMany (readPair (decode depth)) count rest).map fun (entries, last) =>
              (.map entries, last)
      | .ext size =>
          (readSize size rest).bind fun (count, rest) =>
            (takeOctets (count + 1) rest).bind fun (octets, last) =>
              match octets with
              | kind :: octets => some (.ext kind octets, last)
              | [] => none

/-- The first object of some octets. -/
def unpack (octets : Octets) : Option Object :=
  (decode octets.length octets).map Prod.fst

/-! ## The encoder -/

/-- A lead followed by a big-endian number. -/
def counted (code : UInt8) (width value : Nat) : Octets :=
  code :: bigEndian width value

def encodeNatural (value : Nat) : Octets :=
  if value < 0x80 then [UInt8.ofNat value]
  else if value < 0x100 then counted 0xcc 1 value
  else if value < 0x10000 then counted 0xcd 2 value
  else if value < 0x100000000 then counted 0xce 4 value
  else counted 0xcf 8 value

/-- `magnitude` is the negative of the integer. -/
def encodeNegative (magnitude : Nat) : Octets :=
  if magnitude ≤ 0x20 then [UInt8.ofNat (0x100 - magnitude)]
  else if magnitude ≤ 0x80 then counted 0xd0 1 (256 ^ 1 - magnitude)
  else if magnitude ≤ 0x8000 then counted 0xd1 2 (256 ^ 2 - magnitude)
  else if magnitude ≤ 0x80000000 then counted 0xd2 4 (256 ^ 4 - magnitude)
  else counted 0xd3 8 (256 ^ 8 - magnitude)

def strHeader (count : Nat) : Octets :=
  if count < 0x20 then [UInt8.ofNat (0xa0 + count)]
  else if count < 0x100 then counted 0xd9 1 count
  else if count < 0x10000 then counted 0xda 2 count
  else counted 0xdb 4 count

def binHeader (count : Nat) : Octets :=
  if count < 0x100 then counted 0xc4 1 count
  else if count < 0x10000 then counted 0xc5 2 count
  else counted 0xc6 4 count

def arrayHeader (count : Nat) : Octets :=
  if count < 0x10 then [UInt8.ofNat (0x90 + count)]
  else if count < 0x10000 then counted 0xdc 2 count
  else counted 0xdd 4 count

def mapHeader (count : Nat) : Octets :=
  if count < 0x10 then [UInt8.ofNat (0x80 + count)]
  else if count < 0x10000 then counted 0xde 2 count
  else counted 0xdf 4 count

def extHeader (count : Nat) : Octets :=
  if count = 1 then [0xd4]
  else if count = 2 then [0xd5]
  else if count = 4 then [0xd6]
  else if count = 8 then [0xd7]
  else if count = 16 then [0xd8]
  else if count < 0x100 then counted 0xc7 1 count
  else if count < 0x10000 then counted 0xc8 2 count
  else counted 0xc9 4 count

mutual

def encode : Object -> Octets
  | .nil => [0xc0]
  | .boolean value => [if value then 0xc3 else 0xc2]
  | .positiveInteger value => encodeNatural value
  | .negativeInteger value => encodeNegative value.natAbs
  | .float32 bits => counted 0xca 4 bits.toNat
  | .float64 bits => counted 0xcb 8 bits.toNat
  | .str octets => strHeader octets.length ++ octets
  | .bin octets => binHeader octets.length ++ octets
  | .array items => arrayHeader items.length ++ encodeItems items
  | .map entries => mapHeader entries.length ++ encodeEntries entries
  | .ext kind octets => extHeader octets.length ++ kind :: octets

def encodeItems : List Object -> Octets
  | [] => []
  | item :: items => encode item ++ encodeItems items

def encodeEntries : List (Object × Object) -> Octets
  | [] => []
  | (key, value) :: entries => encode key ++ encode value ++ encodeEntries entries

end

/-! ## What a header announces -/

theorem takeOctets_append {count : Nat} {octets : Octets} (length : octets.length = count)
    (rest : Octets) : takeOctets count (octets ++ rest) = some (octets, rest) := by
  have within : count ≤ (octets ++ rest).length := by
    rw [List.length_append, length]
    exact Nat.le_add_right count rest.length
  rw [takeOctets, if_pos within, ← length, List.take_left, List.drop_left]

theorem readNatural_bigEndian {width value : Nat} (fits : value < 256 ^ width) (rest : Octets) :
    readNatural width (bigEndian width value ++ rest) = some (value, rest) := by
  simp only [readNatural, takeOctets_append (length_bigEndian width value), Option.map_some,
    ofBigEndian_bigEndian fits]

/-- A negative number is written as its complement. -/
theorem readInteger_complement {width magnitude : Nat} (positive : 0 < magnitude)
    (fits : 2 * magnitude ≤ 256 ^ width) (rest : Octets) :
    readInteger width (bigEndian width (256 ^ width - magnitude) ++ rest) =
      some (-(magnitude : Int), rest) := by
  have below : 256 ^ width - magnitude < 256 ^ width := by omega
  have upper : ¬2 * (256 ^ width - magnitude) < 256 ^ width := by omega
  have value : ((256 ^ width - magnitude : Nat) : Int) - 256 ^ width = -(magnitude : Int) := by
    rw [Nat.cast_sub (by omega)]
    push_cast
    ring
  simp only [readInteger, readNatural_bigEndian below, Option.map_some, if_neg upper, value]

/-- The header's lead has this form, and its count is read back. -/
def Announces (header : Octets) (form : Size -> Lead) (count : Nat) : Prop :=
  Exists fun octet => Exists fun tail => Exists fun size =>
    header = octet :: tail ∧ lead octet = form size ∧
      forall rest, readSize size (tail ++ rest) = some (count, rest)

theorem announces_fixed {octet : UInt8} {form : Size -> Lead} {count : Nat}
    (known : lead octet = form (.fixed count)) : Announces [octet] form count :=
  ⟨octet, [], .fixed count, rfl, known, fun _ => rfl⟩

theorem announces_counted {code : UInt8} {form : Size -> Lead} {width count : Nat}
    (known : lead code = form (.counted width)) (fits : count < 256 ^ width) :
    Announces (counted code width count) form count :=
  ⟨code, bigEndian width count, .counted width, rfl, known, readNatural_bigEndian fits⟩

theorem lead_fixstr : forall count, count < 0x20 ->
    lead (UInt8.ofNat (0xa0 + count)) = .str (.fixed count) := by
  decide

theorem lead_fixarray : forall count, count < 0x10 ->
    lead (UInt8.ofNat (0x90 + count)) = .array (.fixed count) := by
  decide

theorem lead_fixmap : forall count, count < 0x10 ->
    lead (UInt8.ofNat (0x80 + count)) = .map (.fixed count) := by
  decide

theorem lead_fixint : forall value, value < 0x80 ->
    lead (UInt8.ofNat value) = .positive value := by
  decide

theorem lead_negative_fixint : forall magnitude, magnitude ≤ 0x20 -> 0 < magnitude ->
    lead (UInt8.ofNat (0x100 - magnitude)) = .negative (-(magnitude : Int)) := by
  decide

theorem strHeader_announces {count : Nat} (fits : count < 0x100000000) :
    Announces (strHeader count) .str count := by
  unfold strHeader
  split
  · exact announces_fixed (lead_fixstr count (by assumption))
  · split
    · exact announces_counted rfl (by assumption)
    · split
      · exact announces_counted rfl (by assumption)
      · exact announces_counted rfl fits

theorem binHeader_announces {count : Nat} (fits : count < 0x100000000) :
    Announces (binHeader count) .bin count := by
  unfold binHeader
  split
  · exact announces_counted rfl (by assumption)
  · split
    · exact announces_counted rfl (by assumption)
    · exact announces_counted rfl fits

theorem arrayHeader_announces {count : Nat} (fits : count < 0x100000000) :
    Announces (arrayHeader count) .array count := by
  unfold arrayHeader
  split
  · exact announces_fixed (lead_fixarray count (by assumption))
  · split
    · exact announces_counted rfl (by assumption)
    · exact announces_counted rfl fits

theorem mapHeader_announces {count : Nat} (fits : count < 0x100000000) :
    Announces (mapHeader count) .map count := by
  unfold mapHeader
  split
  · exact announces_fixed (lead_fixmap count (by assumption))
  · split
    · exact announces_counted rfl (by assumption)
    · exact announces_counted rfl fits

theorem extHeader_announces {count : Nat} (fits : count < 0x100000000) :
    Announces (extHeader count) .ext count := by
  unfold extHeader
  split
  · subst count
    exact announces_fixed rfl
  · split
    · subst count
      exact announces_fixed rfl
    · split
      · subst count
        exact announces_fixed rfl
      · split
        · subst count
          exact announces_fixed rfl
        · split
          · subst count
            exact announces_fixed rfl
          · split
            · exact announces_counted rfl (by assumption)
            · split
              · exact announces_counted rfl (by assumption)
              · exact announces_counted rfl fits

/-! ## Reading back what was encoded -/

/-- The limits of the format. -/
inductive Encodable : Object -> Prop
  | nil : Encodable .nil
  | boolean (value : Bool) : Encodable (.boolean value)
  | positiveInteger {value : Nat} (fits : value < 2 ^ 64) : Encodable (.positiveInteger value)
  | negativeInteger {value : Int} (negative : value < 0) (fits : -2 ^ 63 ≤ value) :
      Encodable (.negativeInteger value)
  | float32 (bits : BitVec 32) : Encodable (.float32 bits)
  | float64 (bits : BitVec 64) : Encodable (.float64 bits)
  | str {octets : Octets} (fits : octets.length < 2 ^ 32) : Encodable (.str octets)
  | bin {octets : Octets} (fits : octets.length < 2 ^ 32) : Encodable (.bin octets)
  | array {items : List Object} (fits : items.length < 2 ^ 32)
      (each : forall item, item ∈ items -> Encodable item) : Encodable (.array items)
  | map {entries : List (Object × Object)} (fits : entries.length < 2 ^ 32)
      (keys : forall entry, entry ∈ entries -> Encodable entry.1)
      (values : forall entry, entry ∈ entries -> Encodable entry.2) : Encodable (.map entries)
  | ext (kind : UInt8) {octets : Octets} (fits : octets.length < 2 ^ 32) :
      Encodable (.ext kind octets)

/-- The octets are read as one object, whatever follows, once there is depth for it. -/
def ReadsBack (octets : Octets) (object : Object) : Prop :=
  forall depth, octets.length ≤ depth ->
    forall rest, decode depth (octets ++ rest) = some (object, rest)

theorem depth_of_announces {header body : Octets} {form : Size -> Lead} {count depth : Nat}
    (announces : Announces header form count) (within : (header ++ body).length ≤ depth) :
    Exists fun below => depth = below + 1 ∧ body.length ≤ below := by
  rcases announces with ⟨octet, tail, size, same, _⟩
  rw [same, List.cons_append, List.length_cons, List.length_append] at within
  exact ⟨depth - 1, by omega, by omega⟩

/-- Reading a lead with a count and then as many octets. -/
theorem readOctets_announced {tail octets : Octets} {size : Size}
    (sized : forall rest, readSize size (tail ++ rest) = some (octets.length, rest))
    (rest : Octets) : readOctets size (tail ++ (octets ++ rest)) = some (octets, rest) := by
  simp only [readOctets, sized, Option.bind_some, takeOctets_append]

theorem readsBack_natural {value : Nat} (fits : value < 2 ^ 64) :
    ReadsBack (encodeNatural value) (.positiveInteger value) := by
  intro depth within rest
  have wide : forall code width, lead code = .unsigned width -> value < 256 ^ width ->
      (counted code width value).length ≤ depth ->
        decode depth (counted code width value ++ rest) = some (.positiveInteger value, rest) := by
    intro code width known fits within
    cases depth with
    | zero => cases within
    | succ depth =>
        rw [counted, List.cons_append, decode, known]
        simp only [readNatural_bigEndian fits, Option.map_some]
  revert within
  unfold encodeNatural
  split
  · intro within
    cases depth with
    | zero => cases within
    | succ depth =>
        rw [List.singleton_append, decode, lead_fixint value (by assumption)]
  · split
    · exact wide 0xcc 1 rfl (by assumption)
    · split
      · exact wide 0xcd 2 rfl (by assumption)
      · split
        · exact wide 0xce 4 rfl (by assumption)
        · exact wide 0xcf 8 rfl fits

theorem readsBack_negative {magnitude : Nat} (positive : 0 < magnitude)
    (fits : magnitude ≤ 2 ^ 63) :
    ReadsBack (encodeNegative magnitude) (.negativeInteger (-(magnitude : Int))) := by
  intro depth within rest
  have integer : Object.integer (-(magnitude : Int)) = .negativeInteger (-(magnitude : Int)) :=
    if_neg (by omega)
  have wide : forall code width, lead code = .signed width -> 2 * magnitude ≤ 256 ^ width ->
      (counted code width (256 ^ width - magnitude)).length ≤ depth ->
        decode depth (counted code width (256 ^ width - magnitude) ++ rest) =
          some (.negativeInteger (-(magnitude : Int)), rest) := by
    intro code width known fits within
    cases depth with
    | zero => cases within
    | succ depth =>
        rw [counted, List.cons_append, decode, known]
        simp only [readInteger_complement positive fits, Option.map_some, integer]
  revert within
  unfold encodeNegative
  split
  · intro within
    cases depth with
    | zero => cases within
    | succ depth =>
        rw [List.singleton_append, decode,
          lead_negative_fixint magnitude (by assumption) positive]
  · split
    · exact wide 0xd0 1 rfl (by omega)
    · split
      · exact wide 0xd1 2 rfl (by omega)
      · split
        · exact wide 0xd2 4 rfl (by omega)
        · exact wide 0xd3 8 rfl (by omega)

/-- Items that are read back one by one are read back as a whole. -/
theorem readMany_items {items : List Object} {depth : Nat}
    (each : forall item, item ∈ items -> forall rest,
      decode depth (encode item ++ rest) = some (item, rest)) (rest : Octets) :
    readMany (decode depth) items.length (encodeItems items ++ rest) = some (items, rest) := by
  induction items with
  | nil => rfl
  | cons item items inductionHypothesis =>
      have others := inductionHypothesis fun other member => each other (List.mem_cons_of_mem _ member)
      rw [encodeItems, List.append_assoc, List.length_cons, readMany, each item List.mem_cons_self]
      simp only [Option.bind_some, others, Option.map_some]

theorem readMany_entries {entries : List (Object × Object)} {depth : Nat}
    (each : forall entry, entry ∈ entries -> forall rest,
      decode depth (encode entry.1 ++ rest) = some (entry.1, rest) ∧
        decode depth (encode entry.2 ++ rest) = some (entry.2, rest)) (rest : Octets) :
    readMany (readPair (decode depth)) entries.length (encodeEntries entries ++ rest) =
      some (entries, rest) := by
  induction entries with
  | nil => rfl
  | cons entry entries inductionHypothesis =>
      rcases entry with ⟨key, value⟩
      have others := inductionHypothesis fun other member => each other (List.mem_cons_of_mem _ member)
      have keyRead := fun rest => (each (key, value) List.mem_cons_self rest).1
      have valueRead := fun rest => (each (key, value) List.mem_cons_self rest).2
      rw [encodeEntries, List.append_assoc, List.append_assoc, List.length_cons, readMany,
        readPair, keyRead]
      simp only [Option.bind_some, valueRead, others, Option.map_some]

theorem length_encode_item {items : List Object} {item : Object} (member : item ∈ items) :
    (encode item).length ≤ (encodeItems items).length := by
  induction items with
  | nil => cases member
  | cons first items inductionHypothesis =>
      rw [encodeItems, List.length_append]
      rcases List.mem_cons.mp member with rfl | later
      · exact Nat.le_add_right _ _
      · exact Nat.le_add_left_of_le (inductionHypothesis later)

theorem length_encode_entry {entries : List (Object × Object)} {entry : Object × Object}
    (member : entry ∈ entries) :
    (encode entry.1).length ≤ (encodeEntries entries).length ∧
      (encode entry.2).length ≤ (encodeEntries entries).length := by
  induction entries with
  | nil => cases member
  | cons first entries inductionHypothesis =>
      rcases first with ⟨key, value⟩
      rw [encodeEntries, List.length_append, List.length_append]
      rcases List.mem_cons.mp member with rfl | later
      · exact ⟨by simp only; omega, by simp only; omega⟩
      · rcases inductionHypothesis later with ⟨keyFits, valueFits⟩
        exact ⟨by omega, by omega⟩

/-- Every encodable object is read back. -/
theorem readsBack_encode {object : Object} (encodable : Encodable object) :
    ReadsBack (encode object) object := by
  induction encodable with
  | nil =>
      intro depth within rest
      cases depth with
      | zero => cases within
      | succ depth => rfl
  | boolean value =>
      intro depth within rest
      cases depth with
      | zero => cases within
      | succ depth => cases value <;> rfl
  | positiveInteger fits => exact readsBack_natural fits
  | @negativeInteger value negative fits =>
      have magnitude : -(value.natAbs : Int) = value := by omega
      have positive : 0 < value.natAbs := by omega
      have back := readsBack_negative positive (by omega)
      rwa [magnitude] at back
  | float32 bits =>
      intro depth within rest
      cases depth with
      | zero => cases within
      | succ depth =>
          have known : lead 0xca = .float32 := rfl
          have fits : bits.toNat < 256 ^ 4 := bits.isLt
          rw [encode, counted, List.cons_append, decode, known]
          simp only [readNatural_bigEndian fits, Option.map_some,
            BitVec.ofNat_toNat, BitVec.setWidth_eq]
  | float64 bits =>
      intro depth within rest
      cases depth with
      | zero => cases within
      | succ depth =>
          have known : lead 0xcb = .float64 := rfl
          have fits : bits.toNat < 256 ^ 8 := bits.isLt
          rw [encode, counted, List.cons_append, decode, known]
          simp only [readNatural_bigEndian fits, Option.map_some,
            BitVec.ofNat_toNat, BitVec.setWidth_eq]
  | @str octets fits =>
      intro depth within rest
      have announces := strHeader_announces fits
      rcases depth_of_announces announces within with ⟨below, rfl, _⟩
      rcases announces with ⟨octet, tail, size, same, known, sized⟩
      rw [encode, same, List.append_assoc, List.cons_append, decode, known]
      simp only [readOctets_announced sized, Option.map_some]
  | @bin octets fits =>
      intro depth within rest
      have announces := binHeader_announces fits
      rcases depth_of_announces announces within with ⟨below, rfl, _⟩
      rcases announces with ⟨octet, tail, size, same, known, sized⟩
      rw [encode, same, List.append_assoc, List.cons_append, decode, known]
      simp only [readOctets_announced sized, Option.map_some]
  | @array items fits _ inductionHypothesis =>
      intro depth within rest
      have announces := arrayHeader_announces fits
      rcases depth_of_announces announces within with ⟨below, rfl, inside⟩
      rcases announces with ⟨octet, tail, size, same, known, sized⟩
      have each : forall item, item ∈ items -> forall rest,
          decode below (encode item ++ rest) = some (item, rest) :=
        fun item member =>
          inductionHypothesis item member below ((length_encode_item member).trans inside)
      rw [encode, same, List.append_assoc, List.cons_append, decode, known]
      simp only [sized, Option.bind_some, readMany_items each, Option.map_some]
  | @map entries fits _ _ keys values =>
      intro depth within rest
      have announces := mapHeader_announces fits
      rcases depth_of_announces announces within with ⟨below, rfl, inside⟩
      rcases announces with ⟨octet, tail, size, same, known, sized⟩
      have each : forall entry, entry ∈ entries -> forall rest,
          decode below (encode entry.1 ++ rest) = some (entry.1, rest) ∧
            decode below (encode entry.2 ++ rest) = some (entry.2, rest) := by
        intro entry member rest
        rcases length_encode_entry member with ⟨keyFits, valueFits⟩
        exact ⟨keys entry member below (keyFits.trans inside) rest,
          values entry member below (valueFits.trans inside) rest⟩
      rw [encode, same, List.append_assoc, List.cons_append, decode, known]
      simp only [sized, Option.bind_some, readMany_entries each, Option.map_some]
  | @ext kind octets fits =>
      intro depth within rest
      have announces := extHeader_announces fits
      rcases depth_of_announces announces within with ⟨below, rfl, _⟩
      rcases announces with ⟨octet, tail, size, same, known, sized⟩
      have taken : takeOctets (octets.length + 1) (kind :: octets ++ rest) =
          some (kind :: octets, rest) := takeOctets_append List.length_cons rest
      rw [encode, same, List.append_assoc, List.cons_append, decode, known]
      simp only [sized, Option.bind_some, taken]

theorem unpack_encode {object : Object} (encodable : Encodable object) (rest : Octets) :
    unpack (encode object ++ rest) = some object := by
  have within : (encode object).length ≤ (encode object ++ rest).length := by
    rw [List.length_append]
    exact Nat.le_add_right _ _
  rw [unpack, readsBack_encode encodable _ within, Option.map_some]

/-- Every encoding has a lead. -/
theorem encode_ne_nil {object : Object} (encodable : Encodable object) : encode object ≠ [] := by
  intro empty
  have back := unpack_encode encodable []
  rw [empty] at back
  cases back

end MessagePack
