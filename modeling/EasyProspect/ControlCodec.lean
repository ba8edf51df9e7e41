import EasyProspect.ControlMessage
import Mathlib.Data.List.Nodup

namespace EasyProspect

/-!
# Packing and reading control messages

Startup and stop messages are packed as one flat map, a command result as a map
whose first entry is the map of its base.  In both the first key carries the tag,
so the loop of `process_input` chooses the class by its first iteration, and the
conversion of the whole map then restores every member.

On octets that were not packed here the same loop is not safe.  The class comes
from the first tag it meets, the member `type` from whatever the whole map says,
and no check is made that there is a map or a tag at all.
-/

open MessagePack (Object)

namespace ControlPlatform

variable {platform : ControlPlatform}

/-! ## Members by name -/

/-- No name occurs twice. -/
def Distinct (members : List (String × Object)) : Prop :=
  (members.map fun member => octetsOf member.1).Nodup

theorem member_namedEntries {members : List (String × Object)} {name : String} {value : Object}
    (distinct : Distinct members) (here : (name, value) ∈ members) :
    platform.member (namedEntries members) (octetsOf name) = some value := by
  have listed : (Object.str (octetsOf name), value) ∈ namedEntries members :=
    List.mem_map.mpr ⟨(name, value), here, rfl⟩
  cases found : platform.member (namedEntries members) (octetsOf name) with
  | none =>
      have some := platform.member_isSome _ (octetsOf name) value listed
      rw [found] at some
      cases some
  | some other =>
      rcases List.mem_map.mp (platform.member_mem _ (octetsOf name) other found) with
        ⟨⟨otherName, otherValue⟩, member, same⟩
      have names : octetsOf otherName = octetsOf name := Object.str.inj (congrArg Prod.fst same)
      have once : (otherName, otherValue) = (name, value) :=
        List.inj_on_of_nodup_map distinct member here names
      have values : otherValue = other := congrArg Prod.snd same
      rw [← values, (Prod.mk.inj once).2]

theorem asMember_namedEntries {members : List (String × Object)} {name : String} {value : Object}
    {Value : Type} {convert : Object -> Except ControlException Value} {current : Value}
    (distinct : Distinct members) (here : (name, value) ∈ members) :
    platform.asMember (namedEntries members) name convert current = convert value := by
  rw [asMember, member_namedEntries distinct here]

theorem asEntries_namedEntries (members : List (String × Object)) :
    asEntries (.map (namedEntries members)) = .ok (namedEntries members) := by
  apply if_pos
  rw [namedEntries, List.all_map, List.all_eq_true]
  intro member _
  rfl

/-! ## Integers -/

theorem asInteger_integer {lower upper value : Int} (above : lower ≤ value)
    (below : value ≤ upper) : asInteger lower upper (.integer value) = .ok value := by
  unfold Object.integer
  split
  · rename_i natural
    rw [asInteger, Int.toNat_of_nonneg natural, if_pos below]
  · rw [asInteger, if_pos above]

theorem asSigned_integer {bits : Nat} (value : BitVec bits) :
    asSigned bits (.integer value.toInt) = .ok value := by
  have above : -2 ^ (bits - 1) ≤ value.toInt := BitVec.le_toInt value
  have below : value.toInt ≤ 2 ^ (bits - 1) - 1 := Int.le_sub_one_of_lt BitVec.toInt_lt
  rw [asSigned, asInteger_integer above below, Except.map, BitVec.ofInt_toInt]

theorem asUnsigned_natural {bits : Nat} (value : BitVec bits) :
    asUnsigned bits (.positiveInteger value.toNat) = .ok value := by
  have below : (value.toNat : Int) ≤ 2 ^ bits - 1 := by
    have bound := value.isLt
    have cast : ((2 ^ bits : Nat) : Int) = 2 ^ bits := by push_cast; rfl
    omega
  rw [asUnsigned, asInteger, if_pos below, Except.map, BitVec.ofInt_natCast, BitVec.ofNat_toNat,
    BitVec.setWidth_eq]

theorem asType_integer (type : ProcessMessageType) :
    asType (.integer type.value.toInt) = .ok type := by
  rw [asType, asSigned_integer, Except.map, ProcessMessageType.ofValue_value]

/-! ## Whole messages -/

theorem baseMembers_distinct {longBits : Nat} (members : ProcessMessageBase longBits) :
    Distinct (baseMembers members) := by
  have names : (["type", "pid", "port", "id1", "id2", "current_time"].map octetsOf).Nodup := by
    decide
  exact names

theorem cmdResultMembers_distinct {longBits : Nat} (members : ProcessMessageBase longBits)
    (typeCmd : ProcessMessageType) (result : BitVec 32) :
    Distinct (cmdResultMembers members typeCmd result) := by
  have names : (["process_message_base", "type_cmd", "result"].map octetsOf).Nodup := by decide
  exact names

theorem convertBase_packBase (members current : ProcessMessageBase platform.longBits) :
    platform.convertBase (packBase members) current = .ok members := by
  have distinct := baseMembers_distinct members
  have type : ("type", Object.integer members.type.value.toInt) ∈ baseMembers members := by
    simp [baseMembers]
  have pid : ("pid", Object.integer members.pid.toInt) ∈ baseMembers members := by
    simp [baseMembers]
  have port : ("port", Object.integer members.port.toInt) ∈ baseMembers members := by
    simp [baseMembers]
  have id1 : ("id1", Object.positiveInteger members.id1.toNat) ∈ baseMembers members := by
    simp [baseMembers]
  have id2 : ("id2", Object.positiveInteger members.id2.toNat) ∈ baseMembers members := by
    simp [baseMembers]
  have currentTime : ("current_time", Object.integer members.currentTime.toInt) ∈
      baseMembers members := by
    simp [baseMembers]
  simp only [convertBase, packBase, bind, Except.bind, asEntries_namedEntries,
    asMember_namedEntries distinct type, asMember_namedEntries distinct pid, asMember_namedEntries distinct port,
    asMember_namedEntries distinct id1, asMember_namedEntries distinct id2,
    asMember_namedEntries distinct currentTime, asType_integer, asSigned_integer,
    asUnsigned_natural]
  rfl

theorem convertCmdResult_packCmdResult (members current : ProcessMessageBase platform.longBits)
    (typeCmd currentCmd : ProcessMessageType) (result currentResult : BitVec 32) :
    platform.convertCmdResult (packCmdResult members typeCmd result) current currentCmd
      currentResult = .ok (.cmdResult members typeCmd result) := by
  have distinct := cmdResultMembers_distinct members typeCmd result
  have base : ("process_message_base", packBase members) ∈
      cmdResultMembers members typeCmd result := by
    simp [cmdResultMembers]
  have command : ("type_cmd", Object.integer typeCmd.value.toInt) ∈
      cmdResultMembers members typeCmd result := by
    simp [cmdResultMembers]
  have outcome : ("result", Object.integer result.toInt) ∈
      cmdResultMembers members typeCmd result := by
    simp [cmdResultMembers]
  simp only [convertCmdResult, packCmdResult, bind, Except.bind, asEntries_namedEntries,
    asMember_namedEntries distinct base, asMember_namedEntries distinct command,
    asMember_namedEntries distinct outcome, convertBase_packBase, asType_integer,
    asSigned_integer]
  rfl

/-! ## What is packed is encodable -/

theorem encodable_integer {bits : Nat} (within : bits ≤ 64) (value : BitVec bits) :
    MessagePack.Encodable (.integer value.toInt) := by
  have lower := BitVec.le_toInt value
  have upper := BitVec.toInt_lt (x := value)
  have wide : (2 : Int) ^ (bits - 1) ≤ 2 ^ 63 := by
    exact_mod_cast Nat.pow_le_pow_right (by decide : 0 < 2) (by omega : bits - 1 ≤ 63)
  unfold Object.integer
  split
  · exact .positiveInteger (by omega)
  · exact .negativeInteger (by omega) (by omega)

theorem encodable_namedEntries {members : List (String × Object)} (few : members.length < 2 ^ 32)
    (names : forall name, name ∈ members.map Prod.fst -> (octetsOf name).length < 2 ^ 32)
    (values : forall value, value ∈ members.map Prod.snd -> MessagePack.Encodable value) :
    MessagePack.Encodable (.map (namedEntries members)) := by
  apply MessagePack.Encodable.map
  · rw [namedEntries, List.length_map]
    exact few
  · intro entry listed
    rcases List.mem_map.mp listed with ⟨member, present, rfl⟩
    exact .str (names member.1 (List.mem_map_of_mem present))
  · intro entry listed
    rcases List.mem_map.mp listed with ⟨member, present, rfl⟩
    exact values member.2 (List.mem_map_of_mem present)

theorem encodable_packBase (members : ProcessMessageBase platform.longBits) :
    MessagePack.Encodable (packBase members) := by
  have few : 6 < 2 ^ 32 := by decide
  have names : forall name, name ∈ ["type", "pid", "port", "id1", "id2", "current_time"] ->
      (octetsOf name).length < 2 ^ 32 := by
    decide
  refine encodable_namedEntries few names ?_
  intro value present
  simp only [baseMembers, List.map_cons, List.map_nil, List.mem_cons, List.not_mem_nil,
    or_false] at present
  rcases present with rfl | rfl | rfl | rfl | rfl | rfl
  · exact encodable_integer (by decide) _
  · exact encodable_integer platform.longBits_le _
  · exact encodable_integer (by decide) _
  · exact .positiveInteger members.id1.isLt
  · exact .positiveInteger members.id2.isLt
  · exact encodable_integer (by decide) _

theorem encodable_packCmdResult (members : ProcessMessageBase platform.longBits)
    (typeCmd : ProcessMessageType) (result : BitVec 32) :
    MessagePack.Encodable (packCmdResult members typeCmd result) := by
  have few : 3 < 2 ^ 32 := by decide
  have names : forall name, name ∈ ["process_message_base", "type_cmd", "result"] ->
      (octetsOf name).length < 2 ^ 32 := by
    decide
  refine encodable_namedEntries few names ?_
  intro value present
  simp only [cmdResultMembers, List.map_cons, List.map_nil, List.mem_cons, List.not_mem_nil,
    or_false] at present
  rcases present with rfl | rfl | rfl
  · exact encodable_packBase members
  · exact encodable_integer (by decide) _
  · exact encodable_integer (by decide) _

/-! ## The round trip -/

/-- The octets of a packed map are unpacked, whatever stands behind them. -/
theorem processInput_packed {entries : List (Object × Object)}
    (encodable : MessagePack.Encodable (.map entries))
    (constructed : Constructed platform.longBits) (rest : Octets) :
    platform.processInput constructed (platform.pack (.map entries) ++ rest)
        (platform.pack (.map entries)).length =
      platform.scan constructed (.map entries) entries := by
  have some : ¬(platform.pack (.map entries)).length < 1 := by
    have length := List.length_pos_iff.mpr (platform.pack_ne_nil _ encodable)
    omega
  have cut : (if (platform.pack (.map entries)).length <
        (platform.pack (.map entries) ++ rest).length then
      (platform.pack (.map entries) ++ rest).take (platform.pack (.map entries)).length
      else platform.pack (.map entries) ++ rest) = platform.pack (.map entries) := by
    split
    · exact List.take_left
    · rename_i whole
      rw [List.length_append] at whole
      rw [List.length_eq_zero_iff.mp (by omega : rest.length = 0), List.append_nil]
  rw [processInput, if_neg some]
  simp only [cut, platform.unpack_pack _ encodable]

theorem currType_type {constructed : Constructed platform.longBits} {value : Object}
    {type : ProcessMessageType} (tag : asType value = .ok type) :
    platform.currType constructed (.str (octetsOf "type"), value) = .ok (some type) := by
  simp only [currType, asString, bind, Except.bind, if_true, tag]
  rfl

theorem currType_base {constructed : Constructed platform.longBits} {value : Object}
    {base : ProcessMessageBase platform.longBits}
    (converts : platform.convertBase value (constructed.members .base) = .ok base) :
    platform.currType constructed (.str (octetsOf "process_message_base"), value) =
      .ok (some base.type) := by
  have other : octetsOf "process_message_base" ≠ octetsOf "type" := by decide
  simp only [currType, asString, bind, Except.bind, if_neg other, if_true, converts]
  rfl

/-- The first key decides. -/
theorem scan_first {constructed : Constructed platform.longBits} {deserialized : Object}
    {entry : Object × Object} {type : ProcessMessageType}
    {message : ProcessMessage platform.longBits}
    (tag : platform.currType constructed entry = .ok (some type))
    (converts : platform.convertAs constructed deserialized type = some (.ok message))
    (entries : List (Object × Object)) :
    platform.scan constructed deserialized (entry :: entries) = .returned (some message) := by
  rw [scan, tag]
  simp only [converts]

theorem scan_packBase (members : ProcessMessageBase platform.longBits)
    (constructed : Constructed platform.longBits) {message : ProcessMessage platform.longBits}
    (converts : platform.convertAs constructed (packBase members) members.type =
      some (.ok message)) :
    platform.scan constructed (packBase members) (namedEntries (baseMembers members)) =
      .returned (some message) :=
  scan_first (currType_type (asType_integer members.type)) converts _

theorem scan_packCmdResult (members : ProcessMessageBase platform.longBits)
    (typeCmd : ProcessMessageType) (result : BitVec 32)
    (constructed : Constructed platform.longBits) {message : ProcessMessage platform.longBits}
    (converts : platform.convertAs constructed (packCmdResult members typeCmd result)
      members.type = some (.ok message)) :
    platform.scan constructed (packCmdResult members typeCmd result)
        (namedEntries (cmdResultMembers members typeCmd result)) =
      .returned (some message) :=
  scan_first (currType_base (convertBase_packBase members _)) converts _

theorem processInput_stop {members : ProcessMessageBase platform.longBits}
    (tag : members.type = .cmdStop) (constructed : Constructed platform.longBits)
    (rest : Octets) :
    platform.processInput constructed (platform.pack (packBase members) ++ rest)
        (platform.pack (packBase members)).length = .returned (some (.stop members)) := by
  apply (processInput_packed (encodable_packBase members) constructed rest).trans
  apply scan_packBase
  rw [tag, convertAs, convertBase_packBase]
  rfl

/-- Every message with its class's tag is read back from its packed octets. -/
theorem processInput_packMessage (platform : ControlPlatform)
    (message : ProcessMessage platform.longBits) (tagged : message.Tagged) :
    Exists fun octets => platform.packMessage message = .returned octets ∧
      forall constructed rest,
        platform.processInput constructed (octets ++ rest) octets.length =
          .returned (some message) := by
  cases message with
  | base members => exact False.elim tagged
  | ping members => exact False.elim tagged
  | startup members =>
      have tag : members.type = .start := tagged
      refine ⟨platform.pack (packBase members), ?_, fun constructed rest => ?_⟩
      · simp only [packMessage, ProcessMessage.type, ProcessMessage.members, tag]
      · apply (processInput_packed (encodable_packBase members) constructed rest).trans
        apply scan_packBase
        rw [tag, convertAs, convertBase_packBase]
        rfl
  | stop members =>
      have tag : members.type = .cmdStop := tagged
      refine ⟨platform.pack (packBase members), ?_, processInput_stop tag⟩
      simp only [packMessage, ProcessMessage.type, ProcessMessage.members, tag]
  | cmdResult members typeCmd result =>
      have tag : members.type = .cmdResult := tagged
      refine ⟨platform.pack (packCmdResult members typeCmd result), ?_,
        fun constructed rest => ?_⟩
      · simp only [packMessage, ProcessMessage.type, ProcessMessage.members, tag]
      · apply (processInput_packed (encodable_packCmdResult members typeCmd result) constructed
          rest).trans
        apply scan_packCmdResult
        rw [tag, convertAs, convertCmdResult_packCmdResult]

/-! ## A platform to evaluate with -/

/-- The value of the first entry with this name. -/
def firstMember : List (Object × Object) -> Octets -> Option Object
  | [], _ => none
  | (.str key, value) :: entries, name =>
      if key = name then some value else firstMember entries name
  | _ :: entries, name => firstMember entries name

theorem firstMember_mem {entries : List (Object × Object)} {name : Octets} {value : Object}
    (found : firstMember entries name = some value) : (Object.str name, value) ∈ entries := by
  fun_induction firstMember entries name with
  | case1 => cases found
  | case2 => exact Option.some.inj found ▸ List.mem_cons_self
  | case3 _ _ _ _ _ inductionHypothesis => exact List.mem_cons_of_mem _ (inductionHypothesis found)
  | case4 _ _ _ _ inductionHypothesis => exact List.mem_cons_of_mem _ (inductionHypothesis found)

theorem firstMember_isSome {entries : List (Object × Object)} {name : Octets} {value : Object}
    (listed : (Object.str name, value) ∈ entries) : (firstMember entries name).isSome = true := by
  fun_induction firstMember entries name with
  | case1 => cases listed
  | case2 => rfl
  | case3 _ _ _ _ other inductionHypothesis =>
      rcases List.mem_cons.mp listed with same | later
      · exact absurd (Object.str.inj (Prod.mk.inj same).1).symm other
      · exact inductionHypothesis later
  | case4 head _ _ other inductionHypothesis =>
      rcases List.mem_cons.mp listed with same | later
      · exact absurd same.symm (other _ _)
      · exact inductionHypothesis later

/-- The format itself, a `long` of 32 bits and a calendar of one second. -/
def formatPlatform : ControlPlatform where
  longBits := 32
  pack := MessagePack.encode
  unpack := fun octets => (MessagePack.unpack octets).elim (.error .unpackError) .ok
  member := firstMember
  putTime := fun time =>
    if 0 ≤ time ∧ time < 1000 then some "UTC 1970-01-01 00:00:00" else none
  longBits_le := by decide
  unpack_pack := by
    intro object encodable
    have back := MessagePack.unpack_encode encodable []
    rw [List.append_nil] at back
    rw [back]
    rfl
  pack_ne_nil := fun _ encodable => MessagePack.encode_ne_nil encodable
  member_mem := fun _ _ _ found => firstMember_mem found
  member_isSome := fun _ _ _ listed => firstMember_isSome listed

/-- A startup message of process 1 for port 80. -/
def startupMessage : ProcessMessage formatPlatform.longBits :=
  .startup ⟨.start, 1, 80, 1, 1, 0⟩

/-- A stop message of process 1. -/
def stopMessage : ProcessMessage formatPlatform.longBits :=
  .stop ⟨.cmdStop, 1, 0, 1, 1, 0⟩

/-- The answer of process 1 to its startup message. -/
def resultMessage : ProcessMessage formatPlatform.longBits :=
  .cmdResult ⟨.cmdResult, 1, 80, 2, 3, 4⟩ .start 5

theorem processInput_packMessage_result :
    Exists fun octets => formatPlatform.packMessage resultMessage = .returned octets ∧
      forall constructed rest,
        formatPlatform.processInput constructed (octets ++ rest) octets.length =
          .returned (some resultMessage) :=
  processInput_packMessage formatPlatform resultMessage rfl

/-! ## Octets from anywhere -/

/-- The result is an object whose class its tag denotes, or there is none. -/
def Sound : Outcome (Option (ProcessMessage platform.longBits)) -> Prop
  | .threw _ => True
  | .undefined => False
  | .returned none => False
  | .returned (some message) => message.Tagged ∧ message.CastsValid

/-- The loop goes on to the next entry. -/
def Passes (constructed : Constructed platform.longBits) (entry : Object × Object) : Prop :=
  Exists fun tag => platform.currType constructed entry = .ok tag ∧
    forall type, tag = some type -> ProcessMessage.castTo type = none

/-- The tag that the whole map gives to an object of the class that `type` asks
for. -/
def mapTag (platform : ControlPlatform) (entries : List (Object × Object)) :
    ProcessMessageType -> Except ControlException ProcessMessageType
  | .cmdResult =>
      platform.asMember entries "process_message_base"
        (fun base => (asEntries base).bind fun inner =>
          platform.asMember inner "type" asType .cmdResult) .cmdResult
  | type => platform.asMember entries "type" asType type

/-- The map can be converted to the class that `type` asks for. -/
def Converts (constructed : Constructed platform.longBits) (entries : List (Object × Object))
    (type : ProcessMessageType) : Prop :=
  Exists fun message => platform.convertAs constructed (.map entries) type = some (.ok message)

/-- The entry is ill-typed, or it has a tag that the whole map, if it can be
converted at all, gives again. -/
def Decides (constructed : Constructed platform.longBits) (entries : List (Object × Object))
    (entry : Object × Object) : Prop :=
  match platform.currType constructed entry with
  | .error _ => True
  | .ok none => False
  | .ok (some type) =>
      ProcessMessage.castTo type ≠ none ∧
        (Converts constructed entries type -> platform.mapTag entries type = .ok type)

/-- The octets are no object at all, or a map with an entry that decides. -/
def Settled (constructed : Constructed platform.longBits) (octets : Octets) : Prop :=
  match platform.unpack octets with
  | .error _ => True
  | .ok (.map entries) =>
      Exists fun before => Exists fun entry => Exists fun after =>
        entries = before ++ entry :: after ∧
          (forall other, other ∈ before -> Passes constructed other) ∧
            Decides constructed entries entry
  | .ok _ => False

theorem asEntries_map {entries others : List (Object × Object)}
    (listed : asEntries (.map entries) = .ok others) : others = entries := by
  simp only [asEntries] at listed
  split at listed
  · exact (Except.ok.inj listed).symm
  · cases listed

theorem castsValid_of_tagged {longBits : Nat} {message : ProcessMessage longBits}
    (tagged : message.Tagged) : message.CastsValid := by
  intro target asked
  cases message with
  | base members => exact False.elim tagged
  | ping members => exact False.elim tagged
  | startup members =>
      have tag : members.type = .start := tagged
      rw [ProcessMessage.type, ProcessMessage.members, tag] at asked
      exact Option.some.inj asked
  | stop members =>
      have tag : members.type = .cmdStop := tagged
      rw [ProcessMessage.type, ProcessMessage.members, tag] at asked
      exact Option.some.inj asked
  | cmdResult members typeCmd result =>
      have tag : members.type = .cmdResult := tagged
      rw [ProcessMessage.type, ProcessMessage.members, tag] at asked
      exact Option.some.inj asked

/-- A split of a list at an entry with a property, behind entries with another. -/
theorem exists_split_cons {Entry : Type} {passes decides : Entry -> Prop} {head : Entry}
    {tail : List Entry} :
    (Exists fun before => Exists fun entry => Exists fun after =>
      head :: tail = before ++ entry :: after ∧
        (forall other, other ∈ before -> passes other) ∧ decides entry) <->
      decides head ∨ (passes head ∧ Exists fun before => Exists fun entry =>
        Exists fun after => tail = before ++ entry :: after ∧
          (forall other, other ∈ before -> passes other) ∧ decides entry) := by
  constructor
  · rintro ⟨before, entry, after, split, passed, decided⟩
    cases before with
    | nil =>
        rw [List.nil_append] at split
        exact Or.inl ((List.cons.inj split).1 ▸ decided)
    | cons first before =>
        rw [List.cons_append] at split
        rcases List.cons.inj split with ⟨rfl, rest⟩
        exact Or.inr ⟨passed _ List.mem_cons_self, before, entry, after, rest,
          fun other member => passed other (List.mem_cons_of_mem _ member), decided⟩
  · rintro (decided | ⟨passed, before, entry, after, rfl, others, decided⟩)
    · exact ⟨[], head, tail, rfl, fun other member => absurd member List.not_mem_nil, decided⟩
    · refine ⟨head :: before, entry, after, rfl, ?_, decided⟩
      intro other member
      rcases List.mem_cons.mp member with rfl | later
      · exact passed
      · exact others other later

/-- The tag after a conversion is the one the map gives. -/
theorem type_of_convertBase {object : Object}
    {current members : ProcessMessageBase platform.longBits}
    (converts : platform.convertBase object current = .ok members) :
    Exists fun entries => asEntries object = .ok entries ∧
      platform.asMember entries "type" asType current.type = .ok members.type := by
  simp only [convertBase, bind, Except.bind] at converts
  split at converts
  · cases converts
  · rename_i entries listed
    refine ⟨entries, listed, ?_⟩
    split at converts
    · cases converts
    · rename_i type tag
      repeat (split at converts; · cases converts)
      cases converts
      exact tag

theorem type_of_convertCmdResult {entries : List (Object × Object)}
    {current : ProcessMessageBase platform.longBits} {typeCmd : ProcessMessageType}
    {result : BitVec 32} {message : ProcessMessage platform.longBits}
    (converts : platform.convertCmdResult (.map entries) current typeCmd result = .ok message) :
    Exists fun members => Exists fun typeCmd => Exists fun result =>
      message = .cmdResult members typeCmd result ∧
        platform.asMember entries "process_message_base"
          (fun base => platform.convertBase base current) current = .ok members := by
  simp only [convertCmdResult, bind, Except.bind] at converts
  split at converts
  · cases converts
  · rename_i listed
    have same := asEntries_map listed
    subst same
    split at converts
    · cases converts
    · rename_i members base
      repeat (split at converts; · cases converts)
      cases converts
      exact ⟨members, _, _, rfl, base⟩

theorem eq_ok_of_map {Value Result : Type} {f : Value -> Result}
    {outcome : Except ControlException Value} {result : Result}
    (mapped : outcome.map f = .ok result) :
    Exists fun value => outcome = .ok value ∧ f value = result := by
  cases outcome with
  | error exception => cases mapped
  | ok value => exact ⟨value, rfl, Except.ok.inj mapped⟩

theorem convertAs_eq_none_iff {constructed : Constructed platform.longBits} {object : Object}
    {type : ProcessMessageType} :
    platform.convertAs constructed object type = none <->
      ProcessMessage.castTo type = none := by
  cases type <;> simp only [convertAs, ProcessMessage.castTo, reduceCtorEq]

/-- A converted object has the tag that chose its class exactly when the whole map
gives that tag again. -/
theorem tagged_iff_mapTag {constructed : Constructed platform.longBits}
    {entries : List (Object × Object)} {type : ProcessMessageType}
    {message : ProcessMessage platform.longBits}
    (converts : platform.convertAs constructed (.map entries) type = some (.ok message)) :
    message.Tagged <-> platform.mapTag entries type = .ok type := by
  have flat : forall {class_ : ProcessMessageType}
      {members : ProcessMessageBase platform.longBits},
      platform.convertBase (.map entries) (constructed.members class_) = .ok members ->
        platform.asMember entries "type" asType class_ = .ok members.type := by
    intro class_ members converted
    rcases type_of_convertBase converted with ⟨others, listed, tag⟩
    rw [asEntries_map listed] at tag
    exact tag
  cases type with
  | start =>
      rcases eq_ok_of_map (Option.some.inj converts) with ⟨members, converted, rfl⟩
      have tag : platform.mapTag entries .start = .ok members.type := flat converted
      rw [tag, Except.ok.injEq]
      exact Iff.rfl
  | cmdStop =>
      rcases eq_ok_of_map (Option.some.inj converts) with ⟨members, converted, rfl⟩
      have tag : platform.mapTag entries .cmdStop = .ok members.type := flat converted
      rw [tag, Except.ok.injEq]
      exact Iff.rfl
  | cmdResult =>
      rcases type_of_convertCmdResult (Option.some.inj converts) with
        ⟨members, typeCmd, result, rfl, base⟩
      have tag : platform.mapTag entries .cmdResult = .ok members.type := by
        rw [mapTag, asMember]
        rw [asMember] at base
        cases found : platform.member entries (octetsOf "process_message_base") with
        | none =>
            rw [found] at base
            rw [← Except.ok.inj base]
            rfl
        | some object =>
            rw [found] at base
            rcases type_of_convertBase base with ⟨inner, listed, tag⟩
            simp only [listed, Except.bind]
            exact tag
      rw [tag, Except.ok.injEq]
      exact Iff.rfl
  | _ => cases converts

theorem scan_of_passes {constructed : Constructed platform.longBits} {deserialized : Object}
    {entry : Object × Object} (passed : platform.Passes constructed entry)
    (entries : List (Object × Object)) :
    platform.scan constructed deserialized (entry :: entries) =
      platform.scan constructed deserialized entries := by
  rcases passed with ⟨tag, found, other⟩
  rw [scan, found]
  cases tag with
  | none => rfl
  | some type => simp only [convertAs_eq_none_iff.mpr (other type rfl)]

/-- What becomes of the first entry. -/
theorem sound_scan_cons (constructed : Constructed platform.longBits)
    (entries : List (Object × Object)) (head : Object × Object)
    (tail : List (Object × Object)) :
    platform.Sound (platform.scan constructed (.map entries) (head :: tail)) <->
      platform.Decides constructed entries head ∨
        (platform.Passes constructed head ∧
          platform.Sound (platform.scan constructed (.map entries) tail)) := by
  by_cases passed : platform.Passes constructed head
  · have undecided : ¬platform.Decides constructed entries head := by
      rcases passed with ⟨tag, found, other⟩
      intro decided
      rw [Decides, found] at decided
      cases tag with
      | none => exact decided
      | some type => exact decided.1 (other type rfl)
    rw [scan_of_passes passed, or_iff_right undecided, and_iff_right passed]
  · rw [or_iff_left fun later => passed later.1, scan, Decides]
    cases found : platform.currType constructed head with
    | error exception => exact Iff.rfl
    | ok tag =>
        cases tag with
        | none => exact absurd ⟨none, found, fun type same => by cases same⟩ passed
        | some type =>
            have listed : ProcessMessage.castTo type ≠ none := by
              intro other
              exact passed ⟨some type, found, fun _ same => Option.some.inj same ▸ other⟩
            cases asked : platform.convertAs constructed (.map entries) type with
            | none => exact absurd (convertAs_eq_none_iff.mp asked) listed
            | some outcome =>
                simp only [asked, Converts, listed, ne_eq, not_false_eq_true, true_and,
                  Option.some.injEq]
                cases outcome with
                | error exception =>
                    exact iff_of_true trivial fun ⟨message, converted⟩ => by cases converted
                | ok message =>
                    have tagged := tagged_iff_mapTag asked
                    constructor
                    · intro sound _
                      exact tagged.mp sound.1
                    · intro same
                      have own := tagged.mpr (same ⟨message, rfl⟩)
                      exact ⟨own, castsValid_of_tagged own⟩

/-- The loop over the keys ends well exactly when an entry decides. -/
theorem sound_scan_iff (constructed : Constructed platform.longBits)
    (entries rest : List (Object × Object)) :
    platform.Sound (platform.scan constructed (.map entries) rest) <->
      Exists fun before => Exists fun entry => Exists fun after =>
        rest = before ++ entry :: after ∧
          (forall other, other ∈ before -> platform.Passes constructed other) ∧
            platform.Decides constructed entries entry := by
  induction rest with
  | nil =>
      constructor
      · exact False.elim
      · rintro ⟨before, entry, after, split, _⟩
        cases before <;> cases split
  | cons head tail inductionHypothesis =>
      rw [exists_split_cons, ← inductionHypothesis, sound_scan_cons]

theorem ite_take_eq_take (input : Octets) (bytes : Nat) :
    (if bytes < input.length then input.take bytes else input) = input.take bytes := by
  split
  · rfl
  · rename_i whole
    exact (List.take_of_length_le (Nat.le_of_not_lt whole)).symm

/-- The result is sound exactly for a length of zero, for octets that are no
object and for a map with an entry that decides. -/
theorem sound_processInput_iff (platform : ControlPlatform)
    (constructed : Constructed platform.longBits) (input : Octets) (bytes : Nat) :
    platform.Sound (platform.processInput constructed input bytes) <->
      bytes < 1 ∨ platform.Settled constructed (input.take bytes) := by
  rw [processInput]
  by_cases none : bytes < 1
  · rw [if_pos none]
    exact iff_of_true trivial (Or.inl none)
  · rw [if_neg none, or_iff_right none, Settled]
    simp only [ite_take_eq_take]
    cases platform.unpack (input.take bytes) with
    | error exception => exact Iff.rfl
    | ok object =>
        cases object with
        | map entries => exact sound_scan_iff constructed entries entries
        | _ => exact Iff.rfl

/-- The octets of a packed stop message. -/
def stopOctets : Octets :=
  MessagePack.encode (packBase stopMessage.members)

/-- A default constructor's values when the clock and the random device give
zero. -/
def zeroConstructed : Constructed formatPlatform.longBits :=
  ⟨0, 0, 0, 0, .none, 0⟩

theorem receive_stopOctets :
    formatPlatform.receive zeroConstructed stopOctets stopOctets.length =
      .returned stopMessage := by
  decide +kernel

/-- The octets of a map without entries give a null pointer, which both listen
loops follow. -/
theorem emptyMap_not_sound :
    formatPlatform.processInput zeroConstructed [0x80] 1 = .returned none ∧
      formatPlatform.receive zeroConstructed [0x80] 1 = .undefined ∧
        ¬formatPlatform.Sound (formatPlatform.processInput zeroConstructed [0x80] 1) := by
  have null : formatPlatform.processInput zeroConstructed [0x80] 1 = .returned none := by
    decide +kernel
  refine ⟨null, ?_, ?_⟩
  · rw [receive, null]
  · rw [null]
    exact id

/-- The listen loops read nothing behind the octets of the message. -/
theorem receive_take (platform : ControlPlatform) (constructed : Constructed platform.longBits)
    (input : Octets) (bytes : Nat) :
    platform.receive constructed input bytes =
      platform.receive constructed (input.take bytes) bytes := by
  have same : platform.processInput constructed input bytes =
      platform.processInput constructed (input.take bytes) bytes := by
    simp only [processInput, ite_take_eq_take]
    rw [List.take_take, Nat.min_self]
  rw [receive, receive, same]

end ControlPlatform

end EasyProspect
