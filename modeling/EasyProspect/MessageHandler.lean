import EasyProspect.ChannelHandlers
import EasyProspect.ScriptedBeast

namespace EasyProspect

/-!
# The read loop of a WebSocket session

`ws_session_base::operator()` handles one text message at a time.  Its two `try`
blocks catch one type of exception each: the parser's `parse_error` ends the
session, an `rpc_error` of the dispatch is answered.  Everything else leaves
`operator()`.

This module says exactly for which messages, in which states of the worker,
`operator()` is left only by its own exits.
-/

/-- How a call of `operator()` ends. -/
inductive Passed
  | failed
  | nextRead
  deriving DecidableEq

/-- The completion that a call of `operator()` reports. -/
inductive WsCompletion
  | accepted (ec : ErrorCode)
  | read (ec : ErrorCode) (text : Octets)

namespace WebWorker

variable (platform : Platform) (worker : WebWorker)

/-- The second `try` block. -/
def process (session : Nat) (call : RpcCall) (ec : Option RpcCode) : Except Fault WebWorker :=
  match ec with
  | some ec => .error (.rpcError (.ofCodeText .invalidRequest ec.message))
  | none =>
      match (worker.sessions[session]?).bind WsSession.primaryUser with
      | none => .error .undefined
      | some user => worker.dispatch platform call user session

/-- The answer to an `rpc_error`. -/
def respond (session : Nat) (response : Option Json) : Except Fault WebWorker :=
  match response with
  | none => .ok worker
  | some res => worker.sendOwn platform session res

/-- The `catch` of the second block. -/
def answer (session : Nat) (call : RpcCall) (result : Except Fault WebWorker) :
    Except Fault (WebWorker × Passed) :=
  match result with
  | .ok after => .ok (after, .nextRead)
  | .error (.rpcError error) => do
      let after <- worker.respond platform session (call.completeError error)
      .ok (after, .nextRead)
  | .error fault => .error fault

/-- From a message that has been read to the next read. -/
def receive (session : Nat) (text : Octets) : Except Fault (WebWorker × Passed) :=
  match platform.parse text with
  | .error .parseError => .ok (worker, .failed)
  | .error exception => .error (.json exception)
  | .ok jv =>
      match RpcCall.create.extract platform jv with
      | .error fault => .error fault
      | .ok (call, ec) =>
          worker.answer platform session call (worker.process platform session call ec)

/-- `operator()`. -/
def resume (session : Nat) : WsCompletion -> Except Fault (WebWorker × Passed)
  | .accepted ec => .ok (worker, if ec.isSome then .failed else .nextRead)
  | .read ec text =>
      if ec.isSome then .ok (worker, .failed) else worker.receive platform session text

end WebWorker

/-- Neither an exception nor undefined behaviour. -/
def Contained {Result : Type} (result : Except Fault Result) : Prop :=
  Exists fun value => result = .ok value

namespace WebWorker

/-! ## The messages that are contained -/

section Conditions

variable (platform : Platform) (worker : WebWorker) (session : Nat)

/-- The session has a user; a `cid` is a number; and every broadcast that the
channel of this number makes is deliverable. -/
def AcceptsDispatch (call : RpcCall) : Prop :=
  Exists fun user => (worker.sessions[session]?).bind WsSession.primaryUser = some user ∧
    forall value, checkedValue call.params "cid" = .ok value ->
      Exists fun cid => value.getSize platform = .ok cid ∧
        forall channel, worker.channelAt cid = some channel ->
          Speaks platform worker channel call user session

/-- With a valid id, the method is a string, and what comes after it with
structured parameters is accepted. -/
def AcceptsRequest (call : RpcCall) (members : List (String × Json)) : Prop :=
  call.checkId = none ->
    Exists fun method => Json.member members "method" = .string method ∧
      forall params,
        { call with method := method }.extractParams (Json.find members "params") = .ok params ->
          worker.AcceptsDispatch platform session { call with method := method, params := params }

/-- The version is a string that `stof` converts. -/
def AcceptsVersion (call : RpcCall) (members : List (String × Json)) : Prop :=
  Exists fun text => Json.member members "jsonrpc" = .string text ∧
    Exists fun number => platform.stof text = .ok number ∧
      forall version, RpcCall.versionOf number = some version ->
        worker.AcceptsRequest platform session { call with version := version } members

/-- The id is a number or a boolean. -/
def AcceptsObject (members : List (String × Json)) : Prop :=
  Exists fun id => (Json.member members "id").getInt platform = .ok id ∧
    worker.AcceptsVersion platform session { RpcCall.create with id := some id } members

/-- The text is rejected by the parser with a `parse_error`, is not an object, or
is an object with members of the right types. -/
def Accepts (text : Octets) : Prop :=
  match platform.parse text with
  | .error exception => exception = .parseError
  | .ok (.object members) => worker.AcceptsObject platform session members
  | .ok _ => True

end Conditions

variable {platform : Platform} {worker : WebWorker} {session : Nat} {call : RpcCall}
variable {members : List (String × Json)}

theorem handled_dispatch {wrapper : WsSession} {user : User}
    (found : worker.sessions[session]? = some wrapper) (empty : call.result = .null) :
    Handled (worker.dispatch platform call user session) <->
      forall value, checkedValue call.params "cid" = .ok value ->
        Exists fun cid => value.getSize platform = .ok cid ∧
          forall channel, worker.channelAt cid = some channel ->
            Speaks platform worker channel call user session := by
  apply (handled_bind (handled_checkedValue (by decide) call.params)).trans
  refine forall_congr' fun value => imp_congr_right fun _ => ?_
  cases converted : value.getSize platform with
  | error exception =>
      exact ⟨False.elim, fun ⟨cid, same, _⟩ => (nomatch same)⟩
  | ok cid =>
      simp only
      cases registered : worker.channelAt cid with
      | none =>
          have unknown : Short "Unknown cid" := by decide
          exact ⟨fun _ => ⟨cid, rfl, fun channel same => nomatch registered.symm.trans same⟩,
            fun _ => unknown⟩
      | some channel =>
          refine (handled_dispatchTo found empty).trans ⟨?_, ?_⟩
          · intro speaks
            refine ⟨cid, rfl, ?_⟩
            intro other same
            cases registered.symm.trans same
            exact speaks
          · rintro ⟨other, same, speaks⟩
            cases same
            exact speaks channel registered

theorem brief_process (ec : Option RpcCode) :
    Brief (worker.process platform session call ec) := by
  cases ec with
  | some ec => exact brief_of_handled (short_message ec)
  | none =>
      rw [process]
      split
      · exact fun _ same => nomatch same
      · have cid : Brief (checkedValue call.params "cid") :=
          brief_of_handled (handled_checkedValue (by decide) call.params)
        refine brief_bind cid fun value => ?_
        cases value.getSize platform with
        | error exception => exact fun _ same => nomatch same
        | ok cid =>
            simp only
            split
            · have unknown : Short "Unknown cid" := by decide
              exact brief_of_handled unknown
            · exact brief_dispatchTo

/-- The catch block answers every short error. -/
theorem contained_answer {result : Except Fault WebWorker} (brief : Brief result) :
    Contained (worker.answer platform session call result) <-> Handled result := by
  cases result with
  | ok after => exact ⟨fun _ => trivial, fun _ => ⟨_, rfl⟩⟩
  | error fault =>
      cases fault with
      | rpcError error =>
          have short := brief error rfl
          refine ⟨fun _ => short, fun _ => ?_⟩
          rw [answer, RpcCall.completeError]
          cases call.id with
          | none => exact ⟨(worker, .nextRead), rfl⟩
          | some id =>
              rw [Option.map_some, respond, sendOwn, makeMessage, if_pos (fits_error platform short id)]
              exact ⟨(worker.hand session ((error.toJson id).dump platform), .nextRead), rfl⟩
      | _ =>
          refine ⟨?_, False.elim⟩
          rintro ⟨_, ⟨⟩⟩

/-! ## Extraction -/

/-- The request is extracted, and its processing is handled. -/
def Proceeds (platform : Platform) (worker : WebWorker) (session : Nat)
    (extracted : Except Fault (RpcCall × Option RpcCode)) : Prop :=
  Exists fun call => Exists fun ec => extracted = .ok (call, ec) ∧
    Handled (worker.process platform session call ec)

theorem proceeds_ok {ec : Option RpcCode} :
    Proceeds platform worker session (.ok (call, ec)) <->
      Handled (worker.process platform session call ec) := by
  constructor
  · rintro ⟨call, ec, same, handled⟩
    cases same
    exact handled
  · exact fun handled => ⟨call, ec, rfl, handled⟩

theorem proceeds_some (code : RpcCode) :
    Proceeds platform worker session (.ok (call, some code)) :=
  proceeds_ok.mpr (short_message code)

theorem not_proceeds_error (fault : Fault) :
    ¬Proceeds platform worker session (.error fault) :=
  fun ⟨_, _, same, _⟩ => nomatch same

theorem handled_process {wrapper : WsSession} (found : worker.sessions[session]? = some wrapper)
    (empty : call.result = .null) :
    Handled (worker.process platform session call none) <->
      worker.AcceptsDispatch platform session call := by
  rw [process, AcceptsDispatch]
  cases primary : (worker.sessions[session]?).bind WsSession.primaryUser with
  | none => exact ⟨False.elim, fun ⟨_, same, _⟩ => (nomatch same)⟩
  | some user =>
      refine (handled_dispatch found empty).trans ⟨fun accepted => ⟨user, rfl, accepted⟩, ?_⟩
      rintro ⟨other, same, accepted⟩
      cases same
      exact accepted

theorem proceeds_request {wrapper : WsSession}
    (found : worker.sessions[session]? = some wrapper) (empty : call.result = .null) :
    Proceeds platform worker session (call.extractRequest members) <->
      worker.AcceptsRequest platform session call members := by
  have behind : Json.find (Json.subscript members "method").1 "params" =
      Json.find members "params" := Json.find_subscript members (by decide)
  rw [RpcCall.extractRequest, AcceptsRequest, RpcCall.extractMethod, Json.subscript_value]
  cases call.checkId with
  | some ec => exact ⟨fun _ same => (nomatch same), fun _ => proceeds_some ec⟩
  | none =>
      cases method : Json.member members "method" with
      | string text =>
          simp only [Json.getString, behind]
          cases structured : { call with method := text }.extractParams
              (Json.find members "params") with
          | error ec =>
              refine ⟨fun _ _ => ⟨text, rfl, ?_⟩, fun _ => proceeds_some ec⟩
              intro params same
              cases structured.symm.trans same
          | ok params =>
              have processed :
                  Handled (worker.process platform session
                      { call with method := text, params := params } none) <->
                    worker.AcceptsDispatch platform session
                      { call with method := text, params := params } :=
                handled_process found empty
              refine proceeds_ok.trans (processed.trans ⟨?_, ?_⟩)
              · intro accepted _
                refine ⟨text, rfl, ?_⟩
                intro other same
                cases structured.symm.trans same
                exact accepted
              · intro all
                rcases all trivial with ⟨other, same, accepted⟩
                cases same
                exact accepted params structured
      | _ =>
          refine ⟨fun proceeds => absurd proceeds (not_proceeds_error _), ?_⟩
          intro all
          rcases all rfl with ⟨text, same, _⟩
          cases same

theorem acceptsRequest_subscript (key : String) (method : "method" ≠ key)
    (params : "params" ≠ key) :
    worker.AcceptsRequest platform session call (Json.subscript members key).1 <->
      worker.AcceptsRequest platform session call members := by
  rw [AcceptsRequest, Json.member_subscript members method, Json.find_subscript members params,
    AcceptsRequest]

theorem proceeds_version {wrapper : WsSession}
    (found : worker.sessions[session]? = some wrapper) (empty : call.result = .null) :
    Proceeds platform worker session (call.extractVersion platform members) <->
      worker.AcceptsVersion platform session call members := by
  rw [RpcCall.extractVersion, AcceptsVersion]
  simp only [Json.subscript_value]
  cases Json.member members "jsonrpc" with
  | string text =>
      simp only [Json.getString]
      cases converted : platform.stof text with
      | error exception =>
          refine ⟨fun proceeds => absurd proceeds (not_proceeds_error _), ?_⟩
          rintro ⟨other, same, number, okay, _⟩
          cases same
          cases converted.symm.trans okay
      | ok number =>
          simp only
          cases known : RpcCall.versionOf number with
          | none =>
              refine ⟨fun _ => ⟨text, rfl, number, converted, ?_⟩, fun _ => proceeds_some _⟩
              intro version same
              cases known.symm.trans same
          | some version =>
              have requested :
                  Proceeds platform worker session
                      ({ call with version := version }.extractRequest
                        (Json.subscript members "jsonrpc").1) <->
                    worker.AcceptsRequest platform session { call with version := version }
                      (Json.subscript members "jsonrpc").1 :=
                proceeds_request found empty
              refine requested.trans
                ((acceptsRequest_subscript "jsonrpc" (by decide) (by decide)).trans ⟨?_, ?_⟩)
              · intro accepted
                refine ⟨text, rfl, number, converted, ?_⟩
                intro other same
                cases known.symm.trans same
                exact accepted
              · rintro ⟨other, same, value, okay, accepted⟩
                cases same
                cases converted.symm.trans okay
                exact accepted version known
  | _ =>
      refine ⟨fun proceeds => absurd proceeds (not_proceeds_error _), ?_⟩
      rintro ⟨text, same, _⟩
      cases same

theorem acceptsVersion_subscript (key : String) (jsonrpc : "jsonrpc" ≠ key)
    (method : "method" ≠ key) (params : "params" ≠ key) :
    worker.AcceptsVersion platform session call (Json.subscript members key).1 <->
      worker.AcceptsVersion platform session call members := by
  unfold AcceptsVersion
  simp only [Json.member_subscript members jsonrpc, acceptsRequest_subscript key method params]

theorem proceeds_object {wrapper : WsSession}
    (found : worker.sessions[session]? = some wrapper) :
    Proceeds platform worker session (RpcCall.create.extract platform (.object members)) <->
      worker.AcceptsObject platform session members := by
  rw [RpcCall.extract, AcceptsObject]
  simp only [Json.subscript_value]
  cases converted : (Json.member members "id").getInt platform with
  | error exception =>
      exact ⟨fun proceeds => absurd proceeds (not_proceeds_error _),
        fun ⟨_, same, _⟩ => (nomatch same)⟩
  | ok id =>
      refine (proceeds_version found rfl).trans ((acceptsVersion_subscript "id" (by decide)
        (by decide) (by decide)).trans ⟨fun accepted => ⟨id, rfl, accepted⟩, ?_⟩)
      rintro ⟨other, same, accepted⟩
      cases same
      exact accepted

/-- A text message is contained exactly when it is accepted. -/
theorem contained_iff (platform : Platform) (worker : WebWorker) (session : Nat)
    (wrapper : WsSession) (found : worker.sessions[session]? = some wrapper) (text : Octets) :
    Contained (worker.resume platform session (.read none text)) <->
      worker.Accepts platform session text := by
  change Contained (worker.receive platform session text) <-> _
  rw [receive, Accepts]
  cases parsed : platform.parse text with
  | error exception =>
      cases exception with
      | parseError => exact ⟨fun _ => rfl, fun _ => ⟨_, rfl⟩⟩
      | _ => exact ⟨fun ⟨_, same⟩ => (nomatch same), fun same => (nomatch same)⟩
  | ok jv =>
      have answered : Contained (match RpcCall.create.extract platform jv with
          | .error fault => .error fault
          | .ok (call, ec) =>
              worker.answer platform session call (worker.process platform session call ec)) <->
          Proceeds platform worker session (RpcCall.create.extract platform jv) := by
        cases RpcCall.create.extract platform jv with
        | error fault =>
            exact ⟨fun ⟨_, same⟩ => (nomatch same),
              fun proceeds => absurd proceeds (not_proceeds_error fault)⟩
        | ok extracted =>
            exact (contained_answer (brief_process extracted.2)).trans proceeds_ok.symm
      apply answered.trans
      cases jv with
      | object members => exact proceeds_object found
      | _ => exact ⟨fun _ => trivial, fun _ => proceeds_some .expectedObject⟩

/-! ## Two messages -/

/-- A new session, as `run_ws_session` makes it. -/
def connect (worker : WebWorker) : WebWorker :=
  { worker with sessions := worker.sessions ++ [⟨true, some ⟨""⟩, true⟩] }

def emptyText : Octets := octetsOf "\x7b\x7d"

def identifyText : Octets :=
  octetsOf ("\x7b\"jsonrpc\":\"2.0\",\"id\":1,\"method\":\"identify\"," ++
    "\"params\":\x7b\"cid\":1,\"name\":\"ann\"\x7d\x7d")

/-- A parser and a conversion that know what is needed for the two messages. -/
def scriptedPlatform : Platform where
  parse := fun text =>
    if text = emptyText then .ok (.object [])
    else if text = identifyText then
      .ok (.object [("id", .unsigned 1), ("jsonrpc", .string "2.0"), ("method", .string "identify"),
        ("params", .object [("cid", .unsigned 1), ("name", .string "ann")])])
    else .error .parseError
  floatToInt := fun _ => 0
  floatToSize := fun _ => 0
  floatText := fun _ => "0.0"
  stof := fun text => if text = "2.0" then .ok (some 2) else .error .invalidArgument

theorem parse_identify : scriptedPlatform.parse identifyText = .ok (.object
    [("id", .unsigned 1), ("jsonrpc", .string "2.0"), ("method", .string "identify"),
      ("params", .object [("cid", .unsigned 1), ("name", .string "ann")])]) := by
  have other : identifyText ≠ emptyText := by decide +kernel
  simp only [scriptedPlatform, if_neg other, if_true]

theorem contained_iff_identify :
    Contained ((create.connect).resume scriptedPlatform 0 (.read none identifyText)) <->
      (create.connect).Accepts scriptedPlatform 0 identifyText :=
  contained_iff scriptedPlatform create.connect 0 ⟨true, some ⟨""⟩, true⟩ rfl identifyText

/-- The id of an empty object is null, and `get<int>()` throws. -/
theorem empty_escapes :
    ¬ forall text, Contained ((create.connect).resume scriptedPlatform 0 (.read none text)) := by
  intro contained
  rcases contained emptyText with ⟨value, same⟩
  have escapes : (create.connect).resume scriptedPlatform 0 (.read none emptyText) =
      .error (.json .typeError) := rfl
  cases escapes.symm.trans same

end WebWorker

end EasyProspect
