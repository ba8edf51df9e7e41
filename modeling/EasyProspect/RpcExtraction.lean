import EasyProspect.Library.Results
import EasyProspect.Rpc

namespace EasyProspect

/-!
# What extraction reads

`extract` looks up four members of the object that it is given.  `operator[]` inserts null where
a member is missing; that is not seen under the keys that are looked up later, and the accessors
refuse it.
-/

/-- A number, of whatever kind. -/
def Json.isNumber : Json -> Bool
  | .integer _ => true
  | .unsigned _ => true
  | .float _ => true
  | _ => false

def Json.isBoolean : Json -> Bool
  | .boolean _ => true
  | _ => false

theorem Json.getInt_ok {platform : Platform} {value : Json} {number : Int32}
    (read : value.getInt platform = .ok number) :
    value.isNumber = true ∨ value.isBoolean = true := by
  cases value with
  | unsigned | integer | float => exact Or.inl rfl
  | boolean => exact Or.inr rfl
  | null | string | array | object => cases read

theorem Json.getString_ok {value : Json} {text : String} (read : value.getString = .ok text) :
    value = .string text := by
  cases value with
  | string value =>
      cases read
      rfl
  | null | boolean | integer | unsigned | float | array | object => cases read

/-- A member that is not null is there. -/
theorem Json.find_of_member {members : List (String × Json)} {key : String} {value : Json}
    (held : Json.member members key = value) (present : value ≠ .null) :
    Json.find members key = some value := by
  rw [Json.member] at held
  cases found : Json.find members key with
  | none =>
      rw [found] at held
      exact absurd held.symm present
  | some other =>
      rw [found] at held
      rw [← held]
      rfl

theorem Json.find_string {members : List (String × Json)} {key text : String}
    (held : Json.member members key = .string text) :
    Json.find members key = some (.string text) := by
  refine Json.find_of_member held ?_
  rintro ⟨⟩

namespace RpcCall

/-! ## What is left behind, with an error or without -/

variable {platform : Platform} {call extracted : RpcCall} {ec : Option RpcCode}

/-- Without an error the id is valid for the version, and before version 2 the parameters are
an array. -/
structure Extracted (id : Option Int32) (call : RpcCall) (ec : Option RpcCode) : Prop where
  id : call.id = id
  result : call.result = .null
  valid : ec = none -> call.checkId = none
  params : ec = none -> call.version ≠ 2 -> call.params.isArray = true

theorem extracted_request {members : List (String × Json)} (empty : call.result = .null)
    (taken : call.extractRequest members = .ok (extracted, ec)) :
    Extracted call.id extracted ec := by
  rw [extractRequest] at taken
  split at taken
  · cases taken
    exact ⟨rfl, empty, by rintro ⟨⟩, by rintro ⟨⟩⟩
  · rename_i valid
    split at taken
    · cases taken
    · cases taken
      exact ⟨rfl, empty, by rintro ⟨⟩, by rintro ⟨⟩⟩
    · rename_i method _
      simp only at taken
      split at taken
      · cases taken
        exact ⟨rfl, empty, by rintro ⟨⟩, by rintro ⟨⟩⟩
      · rename_i params structured
        cases taken
        refine ⟨rfl, empty, fun _ => valid, fun _ old => ?_⟩
        have other : ¬call.version = 2 := old
        unfold extractParams at structured
        simp only [other, if_false] at structured
        split at structured
        · rename_i found
          split at structured
          · cases structured
          · rename_i array
            cases structured
            simpa only [Bool.not_eq_true, Bool.not_eq_false'] using array
        · cases structured

theorem extracted_object {members : List (String × Json)} {id : Int32}
    (given : (Json.member members "id").getInt platform = .ok id)
    (taken : RpcCall.create.extract platform (.object members) = .ok (extracted, ec)) :
    Extracted (some id) extracted ec := by
  simp only [extract, Json.subscript_value, given] at taken
  simp only [extractVersion] at taken
  split at taken
  · cases taken
  · split at taken
    · cases taken
    · split at taken
      · cases taken
        exact ⟨rfl, rfl, by rintro ⟨⟩, by rintro ⟨⟩⟩
      · exact extracted_request rfl taken

/-- A negative id is only valid where the parameters are an array. -/
theorem Extracted.array {id : Int32} (given : Extracted (some id) call none) (negative : id < 0) :
    call.params.isArray = true := by
  refine given.params rfl fun new => ?_
  have valid := given.valid rfl
  rw [checkId, if_pos new, given.id, Option.any_some, decide_eq_true negative, if_pos rfl] at valid
  cases valid

/-! ## What a request holds -/

/-- The id that a call holds is that of the object. -/
def HoldsId (platform : Platform) (members : List (String × Json)) (call : RpcCall) : Prop :=
  Exists fun value => Exists fun id => Json.find members "id" = some value ∧
    (value.isNumber = true ∨ value.isBoolean = true) ∧ value.getInt platform = .ok id ∧
      call.id = some id

/-- The version that a call holds is the number in the text of the object. -/
def HoldsVersion (platform : Platform) (members : List (String × Json)) (call : RpcCall) : Prop :=
  (call.version = 1 ∨ call.version = 2) ∧ Exists fun text =>
    Json.find members "jsonrpc" = some (.string text) ∧
      platform.stof text = .ok (some (call.version : Rat))

/-- The parameters that a call holds are those of the object, and of the kind that the version
asks for. -/
def HoldsParams (members : List (String × Json)) (call : RpcCall) : Prop :=
  (call.params = .null <-> call.version = 2 ∧ Json.find members "params" = none) ∧
    (¬(call.version = 2 ∧ Json.find members "params" = none) -> Exists fun value =>
      Json.find members "params" = some value ∧ call.params = value ∧
        (call.version = 2 -> value.isObject = true ∨ value.isArray = true) ∧
          (call.version = 1 -> value.isArray = true))

/-- A call holds the request that the object is. -/
structure Sound (platform : Platform) (members : List (String × Json)) (call : RpcCall) :
    Prop where
  id : call.HoldsId platform members
  nonnegative : call.version = 2 -> forall id, call.id = some id -> 0 ≤ id
  version : call.HoldsVersion platform members
  method : Json.find members "method" = some (.string call.method)
  params : call.HoldsParams members

/-! ## Extraction without an error -/

/-- The parameters of a fresh call. -/
theorem params_of_extractParams {found : Option Json} {params : Json}
    (version : call.version = 1 ∨ call.version = 2) (fresh : call.params = .null)
    (structured : call.extractParams found = .ok params) :
    (params = .null <-> call.version = 2 ∧ found = none) ∧
      (¬(call.version = 2 ∧ found = none) -> Exists fun value => found = some value ∧
        params = value ∧ (call.version = 2 -> value.isObject = true ∨ value.isArray = true) ∧
          (call.version = 1 -> value.isArray = true)) := by
  cases found with
  | none =>
      have new : call.version = 2 := by
        by_contra old
        rw [extractParams, if_neg old] at structured
        cases structured
      rw [extractParams, if_pos new, fresh] at structured
      cases structured
      exact ⟨⟨fun _ => ⟨new, rfl⟩, fun _ => rfl⟩, fun absent => absurd ⟨new, rfl⟩ absent⟩
  | some value =>
      have kinds : params = value ∧ (call.version = 2 -> value.isObject = true ∨
          value.isArray = true) ∧ (call.version = 1 -> value.isArray = true) := by
        rw [extractParams] at structured
        rcases version with old | new
        · rw [old, if_neg (by decide)] at structured
          split at structured
          · cases structured
          · rename_i array
            cases structured
            have array : params.isArray = true := by
              simpa only [Bool.not_eq_true, Bool.not_eq_false'] using array
            exact ⟨rfl, fun _ => Or.inr array, fun _ => array⟩
        · rw [if_pos new] at structured
          split at structured
          · cases structured
          · rename_i kind
            cases structured
            have kind : params.isObject = true ∨ params.isArray = true := by
              rw [Bool.and_eq_true, not_and_or] at kind
              simpa only [Bool.not_eq_true', Bool.not_eq_false] using kind
            refine ⟨rfl, fun _ => kind, fun old => ?_⟩
            cases new.symm.trans old
      have present : params ≠ .null := by
        rintro rfl
        rcases kinds with ⟨null, new, old⟩
        rw [← null] at new old
        rcases version with one | two
        · cases old one
        · rcases new two with object | array
          · cases object
          · cases array
      refine ⟨⟨fun null => absurd null present, ?_⟩, fun _ => ⟨value, rfl, kinds⟩⟩
      rintro ⟨_, none⟩
      cases none

/-- A request of a known version, with its method and its parameters. -/
theorem request_of_extractRequest {members : List (String × Json)}
    (taken : call.extractRequest members = .ok (extracted, none)) :
    call.checkId = none ∧ Exists fun method => Exists fun params =>
      Json.find members "method" = some (.string method) ∧
        { call with method := method }.extractParams (Json.find members "params") = .ok params ∧
          extracted = { call with method := method, params := params } := by
  rw [extractRequest] at taken
  split at taken
  · cases taken
  · rename_i valid
    split at taken
    · cases taken
    · cases taken
    · rename_i method read
      simp only at taken
      split at taken
      · cases taken
      · rename_i params structured
        cases taken
        rw [extractMethod, Json.subscript_value] at read
        rw [Json.find_subscript members (by decide)] at structured
        have text : (Json.member members "method").getString = .ok method := by
          cases got : (Json.member members "method").getString with
          | ok other =>
              rw [got] at read
              cases read
              rfl
          | error exception =>
              rw [got] at read
              cases exception with
              | outOfRange | parseError | typeError => cases read
        exact ⟨valid, method, params, Json.find_string (Json.getString_ok text), structured, rfl⟩

/-- The version is the number in the text. -/
theorem versionOf_some {number : Option Rat} {version : Int}
    (known : versionOf number = some version) :
    (version = 1 ∨ version = 2) ∧ number = some (version : Rat) := by
  rw [versionOf] at known
  split at known
  · rename_i two
    cases known
    exact ⟨Or.inr rfl, two⟩
  · split at known
    · rename_i one
      cases known
      exact ⟨Or.inl rfl, one⟩
    · cases known

theorem version_of_extractVersion {members : List (String × Json)}
    (taken : call.extractVersion platform members = .ok (extracted, none)) :
    Exists fun text => Exists fun version : Int =>
      Json.find members "jsonrpc" = some (.string text) ∧ (version = 1 ∨ version = 2) ∧
        platform.stof text = .ok (some (version : Rat)) ∧
          { call with version := version }.extractRequest (Json.subscript members "jsonrpc").1 =
            .ok (extracted, none) := by
  simp only [extractVersion, Json.subscript_value] at taken
  split at taken
  · cases taken
  · rename_i text read
    split at taken
    · cases taken
    · rename_i number converted
      split at taken
      · cases taken
      · rename_i version known
        rcases versionOf_some known with ⟨proper, rfl⟩
        exact ⟨text, version, Json.find_string (Json.getString_ok read), proper, converted, taken⟩

/-- The id is read before anything else can fail. -/
theorem holdsId_of_extract {members : List (String × Json)}
    (taken : create.extract platform (.object members) = .ok (extracted, ec)) :
    extracted.HoldsId platform members := by
  cases given : (Json.member members "id").getInt platform with
  | error exception =>
      simp only [extract, Json.subscript_value, given] at taken
      cases taken
  | ok id =>
      have kind := Json.getInt_ok given
      refine ⟨Json.member members "id", id, Json.find_of_member rfl ?_, kind, given,
        (extracted_object given taken).id⟩
      intro null
      rw [null] at given
      cases given

/-- A call that is extracted without an error holds the request. -/
theorem sound_of_extract {members : List (String × Json)}
    (taken : create.extract platform (.object members) = .ok (extracted, none)) :
    extracted.Sound platform members := by
  have held := holdsId_of_extract taken
  rcases held with ⟨value, id, found, kind, given, same⟩
  have member : Json.member members "id" = value := by
    rw [Json.member, found]
    rfl
  simp only [extract, Json.subscript_value, member, given] at taken
  rcases version_of_extractVersion taken with ⟨text, version, jsonrpc, proper, number, request⟩
  rcases request_of_extractRequest request with ⟨valid, method, params, named, structured, rfl⟩
  have others : forall key, key ≠ "id" -> key ≠ "jsonrpc" -> Json.find
      (Json.subscript (Json.subscript members "id").1 "jsonrpc").1 key = Json.find members key := by
    intro key notId notVersion
    rw [Json.find_subscript _ notVersion, Json.find_subscript _ notId]
  rw [Json.find_subscript _ (by decide)] at jsonrpc
  rw [others "method" (by decide) (by decide)] at named
  rw [others "params" (by decide) (by decide)] at structured
  have shape := fun known fresh => params_of_extractParams known fresh structured
  refine ⟨⟨value, id, found, kind, given, same⟩, ?_, ⟨proper, text, jsonrpc, number⟩, named,
    shape proper rfl⟩
  rintro new other ⟨⟩
  by_contra negative
  have below : id < 0 := Int32.not_le.mp negative
  rw [checkId, if_pos new, Option.any_some, decide_eq_true below, if_pos rfl] at valid
  cases valid

/-- What `extract` leaves behind when it returns: the request that the object is, or an error
with the id. -/
theorem extract_sound {jv : Json} (taken : create.extract platform jv = .ok (extracted, ec)) :
    (ec = none -> Exists fun members => jv = .object members ∧
      extracted.Sound platform members) ∧
        forall members, jv = .object members -> extracted.HoldsId platform members := by
  constructor
  · rintro rfl
    cases jv with
    | object members => exact ⟨members, rfl, sound_of_extract taken⟩
    | null | boolean | integer | unsigned | float | string | array => cases taken
  · rintro members rfl
    exact holdsId_of_extract taken

/-- A parser is not asked here; the only text with a number is that of version 2. -/
def secondVersion : Platform where
  parse := fun _ => .error .parseError
  floatToInt := fun _ => 0
  floatToSize := fun _ => 0
  floatText := fun _ => "0.0"
  stof := fun text => if text = "2.0" then .ok (some 2) else .error .invalidArgument

/-- A request without parameters. -/
def pingMembers : List (String × Json) :=
  [("id", .unsigned 7), ("jsonrpc", .string "2.0"), ("method", .string "ping")]

theorem ping_sound : Exists fun call =>
    create.extract secondVersion (.object pingMembers) = .ok (call, none) ∧
      call.Sound secondVersion pingMembers := by
  have taken : create.extract secondVersion (.object pingMembers) =
      .ok (⟨some 7, 2, "ping", .null, .null⟩, none) := rfl
  rcases (extract_sound taken).1 rfl with ⟨members, same, sound⟩
  cases same
  exact ⟨_, taken, sound⟩

end RpcCall

end EasyProspect
