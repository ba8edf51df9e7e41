import EasyProspect.Library.Results
import EasyProspect.Library.Transition
import EasyProspect.MessageHandler
import EasyProspect.RpcExtraction

namespace EasyProspect

/-!
# Answers to requests

A request that has been given an id is answered by a response that carries it.  The
handlers of the channels hand the result to the wrapper of the session; the second
`try` block answers with an error; the table leaves the answer to a posted closure,
into which it moves the request, the user and the wrapper.

What posted work sends is left open here: it hands any messages to any sessions.  No
request becomes well handled by that: the table takes the wrapper along with the
request, so that a request that is left to posted work has lost its session's pointers
when its handler returns.
-/

/-- The text of a response with the id, a result or an error. -/
def Carries (platform : Platform) (id : Int32) (text : String) : Prop :=
  (Exists fun result =>
    text = (Json.object [("id", .ofInt id), ("result", result)]).dump platform) ∨
  Exists fun error =>
    text = (Json.object [("error", error), ("id", .ofInt id),
      ("jsonrpc", .string "2.0")]).dump platform

/-- The text of no response. -/
def Unasked (platform : Platform) (text : String) : Prop :=
  forall id, ¬Carries platform id text

/-! ## Telling responses apart -/

namespace Json

/-- The text of an object begins with its first key. -/
theorem initial_object (platform : Platform) (key : String) (value : Json)
    (rest : List (String × Json)) (long : 2 < ("\x7b" ++ quote key ++ ":").toList.length) :
    ((object ((key, value) :: rest)).dump platform).toList[2]? =
      ("\x7b" ++ quote key ++ ":").toList[2]? := by
  have starts : Exists fun later => (object ((key, value) :: rest)).dump platform =
      "\x7b" ++ quote key ++ ":" ++ later := by
    cases rest with
    | nil =>
        exact ⟨value.dump platform ++ "\x7d", by simp only [dump, dumpMembers, String.append_assoc]⟩
    | cons next rest =>
        exact ⟨value.dump platform ++ "," ++ dumpMembers platform (next :: rest) ++ "\x7d",
          by simp only [dump, dumpMembers, String.append_assoc]⟩
  rcases starts with ⟨later, same⟩
  rw [same, String.toList_append, List.getElem?_append_left long]

theorem digits_toString (count : Nat) :
    (toString count).toList ≠ [] ∧ '\x7d' ∉ (toString count).toList := by
  have text : (toString count).toList = Nat.toDigits 10 count := Nat.toList_repr
  rw [text]
  refine ⟨Nat.toDigits_ne_nil, fun brace => ?_⟩
  have digit := Nat.isDigit_of_mem_toDigits (by decide) (by decide) brace
  exact absurd digit (by decide)

/-- The text of a number has an end, and that is no brace. -/
theorem integerText_ends (value : Int) :
    (toString value).toList ≠ [] ∧ '\x7d' ∉ (toString value).toList := by
  cases value with
  | ofNat count => exact digits_toString count
  | negSucc count =>
      have text : toString (Int.negSucc count) = "-" ++ toString (count + 1) := rfl
      rcases digits_toString (count + 1) with ⟨some, none⟩
      rw [text, String.toList_append]
      refine ⟨fun empty => some (List.append_eq_nil_iff.mp empty).2, fun brace => ?_⟩
      rcases List.mem_append.mp brace with sign | digit
      · exact absurd sign (by decide)
      · exact none digit

theorem brace_ne_number (first second : String) (value : Int) :
    first ++ "\x7d" ≠ second ++ toString value := by
  intro same
  rcases integerText_ends value with ⟨some, none⟩
  have last := congrArg (fun text => text.toList.getLast?) same
  simp only [String.toList_append] at last
  rw [List.getLast?_append_of_ne_nil _ some, List.getLast?_append_of_ne_nil _ (by decide)] at last
  exact none (List.mem_of_getLast? (last.symm.trans (by decide)))

end Json

theorem initial_of_carries {platform : Platform} {id : Int32} {text : String}
    (carries : Carries platform id text) :
    text.toList[2]? = some 'i' ∨ text.toList[2]? = some 'e' := by
  rcases carries with ⟨result, rfl⟩ | ⟨error, rfl⟩
  · exact Or.inl ((Json.initial_object platform "id" _ _ (by decide)).trans (by decide))
  · exact Or.inr ((Json.initial_object platform "error" _ _ (by decide)).trans (by decide))

/-- What begins with a number of a channel is no response. -/
theorem unasked_notice (platform : Platform) (cid : Json) (rest : List (String × Json)) :
    Unasked platform ((Json.object (("cid", cid) :: rest)).dump platform) := by
  intro id carries
  have third : ((Json.object (("cid", cid) :: rest)).dump platform).toList[2]? = some 'c' :=
    (Json.initial_object platform "cid" cid rest (by decide)).trans (by decide)
  rcases initial_of_carries carries with same | same
  · exact absurd (third.symm.trans same) (by decide)
  · exact absurd (third.symm.trans same) (by decide)

/-- An error without an id carries none. -/
theorem unasked_anonymous (platform : Platform) (members : List (String × Json)) :
    Unasked platform ((Json.object [("error", .object members),
      ("jsonrpc", .string "2.0")]).dump platform) := by
  intro id carries
  rcases carries with ⟨result, same⟩ | ⟨error, same⟩
  · have third := congrArg (fun text => text.toList[2]?) same
    simp only [Json.initial_object platform "error" _ _ (show _ by decide),
      Json.initial_object platform "id" _ _ (show _ by decide)] at third
    exact absurd third (by decide)
  · have left : (Json.object [("error", .object members), ("jsonrpc", .string "2.0")]).dump
          platform =
        (("\x7b" ++ Json.quote "error" ++ ":\x7b" ++ Json.dumpMembers platform members) ++ "\x7d") ++
          ("," ++ Json.quote "jsonrpc" ++ ":" ++ Json.quote "2.0" ++ "\x7d") := by
      have marks : (":\x7b" : String) = ":" ++ "\x7b" := by decide
      simp only [Json.dump, Json.dumpMembers, marks, String.append_assoc]
    have right : (Json.object [("error", error), ("id", .ofInt id),
          ("jsonrpc", .string "2.0")]).dump platform =
        (("\x7b" ++ Json.quote "error" ++ ":" ++ error.dump platform ++ "," ++
            Json.quote "id" ++ ":") ++ toString id.toInt64.toInt) ++
          ("," ++ Json.quote "jsonrpc" ++ ":" ++ Json.quote "2.0" ++ "\x7d") := by
      simp only [Json.dump, Json.dumpMembers, Json.ofInt, String.append_assoc]
    rw [left, right, String.append_left_inj] at same
    exact Json.brace_ne_number _ _ _ same

namespace WebWorker

variable {platform : Platform} {worker after : WebWorker} {session : Nat} {jv : Json}

/-! ## What is sent -/

/-- Messages have been handed out, and the sessions are as before. -/
structure Sends (worker after : WebWorker) (messages : List (Nat × String)) : Prop where
  sent : after.sent = worker.sent ++ messages
  sessions : after.sessions = worker.sessions

/-- None of the messages is a response. -/
def Notices (platform : Platform) (messages : List (Nat × String)) : Prop :=
  forall message, message ∈ messages -> Unasked platform message.2

theorem Sends.nothing (worker : WebWorker) : Sends worker worker [] where
  sent := (List.append_nil _).symm
  sessions := rfl

theorem Sends.trans {middle : WebWorker} {first second : List (Nat × String)}
    (early : Sends worker middle first) (late : Sends middle after second) :
    Sends worker after (first ++ second) where
  sent := by rw [late.sent, early.sent, List.append_assoc]
  sessions := late.sessions.trans early.sessions

theorem Sends.hand (worker : WebWorker) (session : Nat) (message : String) :
    Sends worker (worker.hand session message) [(session, message)] where
  sent := rfl
  sessions := rfl

theorem Notices.append {first second : List (Nat × String)} (early : Notices platform first)
    (late : Notices platform second) : Notices platform (first ++ second) := by
  intro message among
  rcases List.mem_append.mp among with here | there
  · exact early message here
  · exact late message there

/-- The computation succeeds with notices only. -/
def Announced (platform : Platform) (worker after : WebWorker) : Prop :=
  Exists fun messages => Sends worker after messages ∧ Notices platform messages

theorem Announced.trans {middle : WebWorker} (early : Announced platform worker middle)
    (late : Announced platform middle after) : Announced platform worker after := by
  rcases early with ⟨first, sent, notices⟩
  rcases late with ⟨second, sentLater, noticesLater⟩
  exact ⟨first ++ second, sent.trans sentLater, notices.append noticesLater⟩

theorem Announced.nothing (worker : WebWorker) : Announced platform worker worker :=
  ⟨[], .nothing worker, fun _ among => absurd among List.not_mem_nil⟩

theorem Announced.hand {message : String} (unasked : Unasked platform message)
    (worker : WebWorker) (session : Nat) :
    Announced platform worker (worker.hand session message) := by
  refine ⟨[(session, message)], .hand worker session message, ?_⟩
  intro other among
  rw [List.mem_singleton.mp among]
  exact unasked

/-- A step that leaves the sessions and the messages alone. -/
theorem Announced.of_same (sent : after.sent = worker.sent)
    (sessions : after.sessions = worker.sessions) : Announced platform worker after := by
  refine ⟨[], ⟨?_, sessions⟩, fun _ among => absurd among List.not_mem_nil⟩
  rw [sent, List.append_nil]

theorem announced_sendMessage {message : String} (unasked : Unasked platform message)
    (taken : worker.sendMessage session message = .ok after) :
    Announced platform worker after := by
  rw [sendMessage] at taken
  split at taken
  · cases taken
  · split at taken
    · cases taken
      split
      · exact .hand unasked worker session
      · exact .nothing worker
    · cases taken

theorem announced_sendAll {message : String} (unasked : Unasked platform message)
    {members : List Nat} (taken : worker.sendAll members message = .ok after) :
    Announced platform worker after := by
  induction members generalizing worker with
  | nil =>
      cases taken
      exact .nothing _
  | cons member members inductionHypothesis =>
      rw [sendAll, List.foldlM_cons] at taken
      rcases Results.ok_of_bind taken with ⟨middle, first, rest⟩
      exact (announced_sendMessage unasked first).trans (inductionHypothesis rest)

theorem message_of_make {message : String} (made : makeMessage platform jv = .ok message) :
    message = jv.dump platform := by
  rw [makeMessage] at made
  split at made
  · exact (Except.ok.inj made).symm
  · cases made

theorem announced_broadcast (unasked : Unasked platform (jv.dump platform)) {members : List Nat}
    (taken : worker.broadcast platform members jv = .ok after) :
    Announced platform worker after := by
  rcases Results.ok_of_bind taken with ⟨message, made, sent⟩
  rw [message_of_make made] at sent
  exact announced_sendAll unasked sent

/-- What is sent to a session with a transport is handed out. -/
theorem sends_json {wrapper : WsSession} (found : worker.sessions[session]? = some wrapper)
    (open_ : wrapper.plainPtr = true) (taken : worker.sendJson platform session jv = .ok after) :
    Sends worker after [(session, jv.dump platform)] := by
  rw [sendJson, found] at taken
  simp only [open_, if_true] at taken
  rcases Results.ok_of_bind taken with ⟨message, made, handed⟩
  cases handed
  rw [message_of_make made]
  exact .hand worker session _

theorem announced_sendJson (unasked : Unasked platform (jv.dump platform))
    (taken : worker.sendJson platform session jv = .ok after) :
    Announced platform worker after := by
  rw [sendJson] at taken
  split at taken
  · cases taken
  · split at taken
    · rcases Results.ok_of_bind taken with ⟨message, made, handed⟩
      cases handed
      rw [message_of_make made]
      exact .hand unasked _ session
    · cases taken
      exact .nothing _

theorem announced_onInsert (worker : WebWorker) (kind : ChannelKind) (session : Nat) :
    Announced platform worker (worker.onInsert kind session) :=
  .of_same (by cases kind <;> rfl) (onInsert_sessions worker kind session)

theorem announced_onErase (worker : WebWorker) (kind : ChannelKind) (session : Nat) :
    Announced platform worker (worker.onErase kind session) :=
  .of_same (by cases kind <;> rfl) (onErase_sessions worker kind session)

/-! ## The handlers -/

section Handlers

variable {call : RpcCall} {channel : Channel} {user : User} {joined : Bool}

theorem announced_insert
    (taken : worker.insert platform channel user session = .ok (after, joined)) :
    Announced platform worker after := by
  rw [insert] at taken
  split at taken
  · cases taken
    exact .nothing _
  · rcases Results.ok_of_bind taken with ⟨middle, sent, last⟩
    cases last
    have members : Announced platform worker
        (worker.setMembers channel (channel.sessions ++ [session])) := .of_same rfl rfl
    exact (members.trans (announced_broadcast (unasked_notice platform _ _) sent)).trans
      (announced_onInsert _ _ _)

theorem announced_erase
    (taken : worker.erase platform channel user session = .ok (after, joined)) :
    Announced platform worker after := by
  rw [erase] at taken
  split at taken
  · cases taken
    exact .nothing _
  · rcases Results.ok_of_bind taken with ⟨middle, sent, rest⟩
    rcases Results.ok_of_bind rest with ⟨told, own, last⟩
    cases last
    have members : Announced platform worker
        (worker.setMembers channel (channel.sessions.erase session)) := .of_same rfl rfl
    exact ((members.trans (announced_broadcast (unasked_notice platform _ _) sent)).trans
      (announced_sendJson (unasked_notice platform _ _) own)).trans (announced_onErase _ _ _)

/-- Notices have been handed out, and after them the result. -/
def Served (platform : Platform) (worker after : WebWorker) (session : Nat) (call : RpcCall) :
    Prop :=
  Exists fun messages => Exists fun response => call.complete = some response ∧
    Notices platform messages ∧
      Sends worker after (messages ++ [(session, response.dump platform)])

variable {id : Int32} {wrapper : WsSession}

theorem complete_of_id (given : call.id = some id) :
    call.complete = some (.object [("id", .ofInt id), ("result", call.result)]) := by
  rw [RpcCall.complete, given]
  rfl

theorem served_complete {middle : WebWorker} (given : call.id = some id)
    (found : worker.sessions[session]? = some wrapper) (open_ : wrapper.plainPtr = true)
    (announced : Announced platform worker middle)
    (taken : middle.complete platform call.complete session = .ok after) :
    Served platform worker after session call := by
  rcases announced with ⟨messages, sent, notices⟩
  rw [complete_of_id given, complete] at taken
  have own : middle.sessions[session]? = some wrapper := by
    rw [sent.sessions]
    exact found
  exact ⟨messages, _, complete_of_id given, notices, sent.trans (sends_json own open_ taken)⟩

theorem served_doJoin (given : call.id = some id)
    (found : worker.sessions[session]? = some wrapper) (open_ : wrapper.plainPtr = true)
    (taken : worker.doJoin platform call channel user session = .ok after) :
    Served platform worker after session call := by
  rcases Results.ok_of_bind taken with ⟨_, _, checked⟩
  rcases Results.ok_of_bind checked with ⟨⟨middle, joined⟩, inserted, rest⟩
  simp only at rest
  split at rest
  · cases rest
  · exact served_complete given found open_ (announced_insert inserted) rest

theorem served_doLeave (given : call.id = some id)
    (found : worker.sessions[session]? = some wrapper) (open_ : wrapper.plainPtr = true)
    (taken : worker.doLeave platform call channel user session = .ok after) :
    Served platform worker after session call := by
  rcases Results.ok_of_bind taken with ⟨⟨middle, left⟩, erased, rest⟩
  simp only at rest
  split at rest
  · cases rest
  · exact served_complete given found open_ (announced_erase erased) rest

theorem served_doSay (given : call.id = some id)
    (found : worker.sessions[session]? = some wrapper) (open_ : wrapper.plainPtr = true)
    (taken : worker.doSay platform call channel user session = .ok after) :
    Served platform worker after session call := by
  rcases Results.ok_of_bind taken with ⟨_, _, checked⟩
  simp only at checked
  split at checked
  · cases checked
  · rcases Results.ok_of_bind checked with ⟨text, _, said⟩
    rcases Results.ok_of_bind said with ⟨middle, sent, rest⟩
    exact served_complete given found open_
      (announced_broadcast (unasked_notice platform _ _) sent) rest

/-- A successful identification sets the name and then serves as the others. -/
theorem served_doIdentify (given : call.id = some id)
    (found : worker.sessions[session]? = some wrapper) (open_ : wrapper.plainPtr = true)
    (taken : worker.doIdentify platform call channel user session = .ok after) :
    Exists fun name => checkedStringAt call.params "name" = .ok name ∧
      Served platform (worker.setUser session ⟨name⟩) after session call := by
  rcases Results.ok_of_bind taken with ⟨name, checked, named⟩
  refine ⟨name, checked, ?_⟩
  split at named
  · cases named
  · split at named
    · cases named
    · rcases Results.ok_of_bind named with ⟨⟨middle, joined⟩, inserted, rest⟩
      have own : (worker.setUser session ⟨name⟩).sessions[session]? =
          some { wrapper with primaryUser := some ⟨name⟩ } :=
        Cells.getElem?_modify_self found _
      exact served_complete given own open_ (announced_insert inserted) rest

/-- The table takes the request along. -/
def MovesRequest (call : RpcCall) (channel : Channel) : Prop :=
  channel.kind = .table ∧ call.method ∈ tableMethods

theorem served_dispatchTo (given : call.id = some id)
    (found : worker.sessions[session]? = some wrapper) (open_ : wrapper.plainPtr = true)
    (stays : ¬MovesRequest call channel)
    (taken : worker.dispatchTo platform call channel user session = .ok after) :
    Served platform worker after session call ∨
      (call.method = "identify" ∧
        Exists fun name => checkedStringAt call.params "name" = .ok name ∧
          Served platform (worker.setUser session ⟨name⟩) after session call) := by
  have posted (work : Posted) : Announced platform worker (worker.post work) := .of_same rfl rfl
  rw [dispatchTo] at taken
  split at taken
  · exact Or.inl (served_doJoin given found open_ taken)
  · split at taken
    · exact Or.inl (served_doLeave given found open_ taken)
    · rw [onDispatch] at taken
      split at taken
      · split at taken
        · exact Or.inl (served_doSay given found open_ taken)
        · split at taken
          · exact Or.inl (served_doSay given found open_ taken)
          · cases taken
      · split at taken
        · rename_i asked
          exact Or.inr ⟨asked, served_doIdentify given found open_ taken⟩
        · split at taken
          · exact Or.inl (served_complete given found open_ (posted _) taken)
          · split at taken
            · exact Or.inl (served_complete given found open_ (posted _) taken)
            · cases taken
      · rename_i table
        split at taken
        · rename_i asked
          exact absurd ⟨table, asked⟩ stays
        · cases taken

end Handlers

/-! ## A request that is handled well -/

section Requests

variable (platform : Platform) (worker : WebWorker) (session : Nat)

/-- Exactly one message to the session carries the id. -/
def AnsweredOnce (after : WebWorker) (id : Int32) : Prop :=
  Exists fun before => Exists fun text => Exists fun later =>
    after.sent = worker.sent ++ (before ++ (session, text) :: later) ∧
      Carries platform id text ∧
        forall message, message ∈ before ++ later -> message.1 = session ->
          ¬Carries platform id message.2

/-- The session has been handed a result with the id. -/
def Succeeds (after : WebWorker) (id : Int32) : Prop :=
  Exists fun messages => Exists fun result =>
    after.sent = worker.sent ++
      (messages ++ [(session, (Json.object [("id", .ofInt id), ("result", result)]).dump platform)])

/-- The answer is left to a closure of the table, which holds the request. -/
def Postponed (after : WebWorker) (call : RpcCall) : Prop :=
  Exists fun method => Exists fun user => Exists fun wrapper =>
    after.posted = worker.posted ++ [.play method call user wrapper]

/-- The pointers are as before, and the user is the same unless the request has succeeded
and set the name. -/
structure WrapperKept (succeeds : Prop) (call : RpcCall) (before after : WsSession) : Prop where
  plainPtr : after.plainPtr = before.plainPtr
  primaryUser : after.primaryUser = before.primaryUser ∨
    (succeeds ∧ call.method = "identify" ∧
      Exists fun name => checkedStringAt call.params "name" = .ok name ∧
        after.primaryUser = some ⟨name⟩)

/-- What the request leaves of its session. -/
def SessionKept (call : RpcCall) (id : Int32) (after : WebWorker) : Prop :=
  Exists fun wrapper => Exists fun changed =>
    worker.sessions[session]? = some wrapper ∧ after.sessions[session]? = some changed ∧
      WrapperKept (Succeeds platform worker session after id) call wrapper changed

structure HandledWell (call : RpcCall) (id : Int32) (after : WebWorker) : Prop where
  answered : AnsweredOnce platform worker session after id ∨ Postponed worker after call
  kept : SessionKept platform worker session call id after

/-- A message that gives the request an id is handled well, and the session goes on.  What
is only postponed does not meet this (`answeredOnce_of_handlesWell`). -/
def HandlesWell (text : Octets) : Prop :=
  forall members id, platform.parse text = .ok (.object members) ->
    (Json.member members "id").getInt platform = .ok id ->
      Exists fun call => Exists fun ec => Exists fun after =>
        RpcCall.create.extract platform (.object members) = .ok (call, ec) ∧
          worker.receive platform session text = .ok (after, .nextRead) ∧
            HandledWell platform worker session call id after

/-- The channel that the request is for. -/
def Addresses (call : RpcCall) (channel : Channel) : Prop :=
  Exists fun value => Exists fun cid => checkedValue call.params "cid" = .ok value ∧
    value.getSize platform = .ok cid ∧ worker.channelAt cid = some channel

/-- The id is not negative, the members have the types that the code accepts, and the table
does not take the request along. -/
structure Answerable (members : List (String × Json)) (id : Int32) : Prop where
  nonnegative : 0 ≤ id
  accepted : worker.AcceptsObject platform session members
  stays : forall call, RpcCall.create.extract platform (.object members) = .ok (call, none) ->
    forall channel, worker.Addresses platform call channel -> ¬MovesRequest call channel

/-- Every request that the message makes is answerable. -/
def Meets (text : Octets) : Prop :=
  forall members id, platform.parse text = .ok (.object members) ->
    (Json.member members "id").getInt platform = .ok id ->
      Answerable platform worker session members id

end Requests

section Answers

variable {call : RpcCall} {id : Int32} {wrapper : WsSession} {user : User} {text : Octets}
variable {members : List (String × Json)}

theorem answeredOnce_served {start : WebWorker} (given : call.id = some id)
    (sent : start.sent = worker.sent) (served : Served platform start after session call) :
    AnsweredOnce platform worker session after id := by
  rcases served with ⟨messages, response, completes, notices, sends⟩
  refine ⟨messages, response.dump platform, [], ?_, ?_, ?_⟩
  · rw [sends.sent, sent]
  · rw [complete_of_id given] at completes
    exact Or.inl ⟨call.result, by rw [Option.some.inj completes]⟩
  · intro message among _
    rw [List.append_nil] at among
    exact notices message among id

theorem answeredOnce_hand {message : String} (carries : Carries platform id message) :
    AnsweredOnce platform worker session (worker.hand session message) id :=
  ⟨[], message, [], rfl, carries, fun _ among => absurd among List.not_mem_nil⟩

/-- One message is an answer only if it carries the id. -/
theorem carries_of_hand {message : String}
    (answered : AnsweredOnce platform worker session (worker.hand session message) id) :
    Carries platform id message := by
  rcases answered with ⟨before, text, later, sent, carries, _⟩
  have single : [(session, message)] = before ++ (session, text) :: later :=
    List.append_cancel_left sent
  rcases List.singleton_eq_append_iff.mp single with ⟨rfl, rest⟩ | ⟨_, rest⟩
  · rw [(Prod.mk.inj (List.cons.inj rest).1).2] at carries
    exact carries
  · cases rest

/-- A request that is processed has come to a channel. -/
theorem dispatched_of_process {ec : Option RpcCode}
    (found : worker.sessions[session]? = some wrapper) (owned : wrapper.primaryUser = some user)
    (taken : worker.process platform session call ec = .ok after) :
    ec = none ∧ Exists fun channel => worker.Addresses platform call channel ∧
      worker.dispatchTo platform call channel user session = .ok after := by
  cases ec with
  | some code => cases taken
  | none =>
      have primary : (worker.sessions[session]?).bind WsSession.primaryUser = some user := by
        rw [found]
        exact owned
      rw [process] at taken
      simp only [primary] at taken
      rcases Results.ok_of_bind taken with ⟨value, checked, rest⟩
      split at rest
      · cases rest
      · rename_i cid converted
        split at rest
        · cases rest
        · rename_i channel registered
          exact ⟨rfl, channel, ⟨value, cid, checked, converted, registered⟩, rest⟩

theorem not_addresses_array {channel : Channel} (array : call.params.isArray = true) :
    ¬worker.Addresses platform call channel := by
  rintro ⟨value, cid, checked, _⟩
  cases params : call.params with
  | array elements =>
      rw [params] at checked
      cases checked
  | _ =>
      rw [params] at array
      cases array

/-- What is served has succeeded. -/
theorem succeeds_served {start : WebWorker} (given : call.id = some id)
    (sent : start.sent = worker.sent) (served : Served platform start after session call) :
    Succeeds platform worker session after id := by
  rcases served with ⟨messages, response, completes, _, sends⟩
  rw [complete_of_id given] at completes
  refine ⟨messages, call.result, ?_⟩
  rw [sends.sent, sent, ← Option.some.inj completes]

/-- What the wrapper of the session is after the request has been served. -/
theorem kept_served {start : WebWorker} {changed : WsSession}
    (own : start.sessions[session]? = some changed)
    (found : worker.sessions[session]? = some wrapper)
    (kept : WrapperKept (Succeeds platform worker session after id) call wrapper changed)
    (served : Served platform start after session call) :
    SessionKept platform worker session call id after := by
  rcases served with ⟨messages, response, _, _, sends⟩
  exact ⟨wrapper, changed, found, by rw [sends.sessions]; exact own, kept⟩

/-- Every handler answers at once what it does not leave to the table. -/
theorem answered_dispatch {channel : Channel} (given : call.id = some id)
    (found : worker.sessions[session]? = some wrapper) (open_ : wrapper.plainPtr = true)
    (stays : ¬MovesRequest call channel)
    (taken : worker.dispatchTo platform call channel user session = .ok after) :
    AnsweredOnce platform worker session after id ∧
      SessionKept platform worker session call id after := by
  rcases served_dispatchTo given found open_ stays taken with
    served | ⟨asked, name, checked, served⟩
  · exact ⟨answeredOnce_served given rfl served,
      kept_served found found ⟨rfl, Or.inl rfl⟩ served⟩
  · have own : (worker.setUser session ⟨name⟩).sessions[session]? =
        some { wrapper with primaryUser := some ⟨name⟩ } :=
      Cells.getElem?_modify_self found _
    have sent : (worker.setUser session ⟨name⟩).sent = worker.sent := rfl
    have succeeds := succeeds_served given sent served
    exact ⟨answeredOnce_served given sent served,
      kept_served own found ⟨rfl, Or.inr ⟨succeeds, asked, name, checked, rfl⟩⟩ served⟩

theorem receive_of_extract {ec : Option RpcCode}
    (parsed : platform.parse text = .ok (.object members))
    (extracts : RpcCall.create.extract platform (.object members) = .ok (call, ec)) :
    worker.receive platform session text =
      worker.answer platform session call (worker.process platform session call ec) := by
  rw [receive, parsed]
  simp only [extracts]

/-- A request returns from its handler, or from the answer to the error of its handler. -/
theorem answer_cases {result : Except Fault WebWorker} {passed : Passed}
    (answered : worker.answer platform session call result = .ok (after, passed)) :
    passed = .nextRead ∧ (result = .ok after ∨ Exists fun error =>
      result = .error (.rpcError error) ∧
        worker.respond platform session (call.completeError error) = .ok after) := by
  cases result with
  | ok last =>
      cases answered
      exact ⟨rfl, Or.inl rfl⟩
  | error fault =>
      cases fault with
      | rpcError error =>
          rcases Results.ok_of_bind answered with ⟨told, responded, last⟩
          cases last
          exact ⟨rfl, Or.inr ⟨error, rfl, responded⟩⟩
      | _ => cases answered

/-- A message that has been read is no JSON, or the request in it is answered. -/
theorem receive_cases {passed : Passed}
    (received : worker.receive platform session text = .ok (after, passed)) :
    platform.parse text = .error .parseError ∧ passed = .failed ∧ after = worker ∨
      Exists fun jv => Exists fun call => Exists fun ec => platform.parse text = .ok jv ∧
        RpcCall.create.extract platform jv = .ok (call, ec) ∧
        worker.answer platform session call (worker.process platform session call ec) =
          .ok (after, passed) := by
  rw [receive] at received
  cases parsed : platform.parse text with
  | error exception =>
      rw [parsed] at received
      cases exception with
      | parseError =>
          cases received
          exact Or.inl ⟨rfl, rfl, rfl⟩
      | _ => cases received
  | ok jv =>
      simp only [parsed] at received
      cases extracts : RpcCall.create.extract platform jv with
      | error fault =>
          simp only [extracts] at received
          cases received
      | ok extracted =>
          simp only [extracts] at received
          exact Or.inr ⟨jv, extracted.1, extracted.2, rfl, extracts, received⟩

/-- An error is answered with the id unless that is negative. -/
theorem receive_error {ec : Option RpcCode} {error : RpcError} (given : call.id = some id)
    (short : Short error.msg)
    (parsed : platform.parse text = .ok (.object members))
    (extracts : RpcCall.create.extract platform (.object members) = .ok (call, ec))
    (fails : worker.process platform session call ec = .error (.rpcError error)) :
    worker.receive platform session text =
      .ok (worker.hand session ((error.toJson id).dump platform), .nextRead) := by
  rw [receive_of_extract parsed extracts, fails, answer, RpcCall.completeError, given,
    Option.map_some, respond, sendOwn, makeMessage, if_pos (fits_error platform short id)]
  rfl

theorem carries_error (error : RpcError) (nonnegative : 0 ≤ id) :
    Carries platform id ((error.toJson id).dump platform) := by
  rw [RpcError.toJson, if_pos nonnegative]
  exact Or.inr ⟨_, rfl⟩

theorem unasked_error (error : RpcError) (negative : ¬0 ≤ id) :
    Unasked platform ((error.toJson id).dump platform) := by
  rw [RpcError.toJson, if_neg negative]
  exact unasked_anonymous platform _

/-- What is answerable is answered at once. -/
theorem answered_of_answerable (found : worker.sessions[session]? = some wrapper)
    (open_ : wrapper.plainPtr = true) (owned : wrapper.primaryUser = some user)
    (answerable : Answerable platform worker session members id)
    (parsed : platform.parse text = .ok (.object members))
    (given : (Json.member members "id").getInt platform = .ok id) :
    Exists fun call => Exists fun ec => Exists fun after =>
      RpcCall.create.extract platform (.object members) = .ok (call, ec) ∧
        worker.receive platform session text = .ok (after, .nextRead) ∧
          AnsweredOnce platform worker session after id ∧
            SessionKept platform worker session call id after := by
  rcases (proceeds_object found).mpr answerable.accepted with ⟨call, ec, extracts, handled⟩
  have extracted := RpcCall.extracted_object given extracts
  cases outcome : worker.process platform session call ec with
  | ok after =>
      rcases dispatched_of_process found owned outcome with ⟨rfl, channel, addressed, taken⟩
      refine ⟨call, none, after, extracts, ?_, ?_⟩
      · rw [receive_of_extract parsed extracts, outcome]
        rfl
      · exact answered_dispatch extracted.id found open_
          (answerable.stays call extracts channel addressed) taken
  | error fault =>
      rw [outcome] at handled
      cases fault with
      | rpcError error =>
          exact ⟨call, ec, _, extracts,
            receive_error extracted.id handled parsed extracts outcome,
            answeredOnce_hand (carries_error error answerable.nonnegative),
            wrapper, wrapper, found, found, rfl, Or.inl rfl⟩
      | _ => exact False.elim handled

/-- What is answerable is handled well. -/
theorem handlesWell_of_answerable (found : worker.sessions[session]? = some wrapper)
    (open_ : wrapper.plainPtr = true) (owned : wrapper.primaryUser = some user)
    (meets : Meets platform worker session text) : HandlesWell platform worker session text := by
  intro members id parsed given
  rcases answered_of_answerable found open_ owned (meets members id parsed given) parsed given with
    ⟨call, ec, after, extracts, received, once, kept⟩
  exact ⟨call, ec, after, extracts, received, Or.inl once, kept⟩

theorem dispatchTo_moves {channel : Channel} (moves : MovesRequest call channel) :
    worker.dispatchTo platform call channel user session =
      .ok (worker.postPlay call user session) := by
  rcases moves with ⟨table, asked⟩
  have join : call.method ≠ "join" := fun same => absurd (same ▸ asked) (by decide)
  have leave : call.method ≠ "leave" := fun same => absurd (same ▸ asked) (by decide)
  rw [dispatchTo, if_neg join, if_neg leave, onDispatch, table]
  exact if_pos asked

/-- What the table takes along leaves the wrapper empty. -/
theorem postPlay_own (found : worker.sessions[session]? = some wrapper) :
    (worker.postPlay call user session).sessions[session]? =
      some { wrapper with plainPtr := false, primaryUser := none } := by
  rw [postPlay, found]
  exact Cells.getElem?_modify_self found _

theorem process_of_addresses {channel : Channel}
    (found : worker.sessions[session]? = some wrapper) (owned : wrapper.primaryUser = some user)
    (addressed : worker.Addresses platform call channel) :
    worker.process platform session call none =
      worker.dispatchTo platform call channel user session := by
  have primary : (worker.sessions[session]?).bind WsSession.primaryUser = some user := by
    rw [found]
    exact owned
  rcases addressed with ⟨value, cid, checked, converted, registered⟩
  simp only [process, primary]
  rw [dispatch, checked]
  simp only [bind, Except.bind, converted, registered]

/-- What is handled well is answerable. -/
theorem answerable_of_handlesWell (found : worker.sessions[session]? = some wrapper)
    (open_ : wrapper.plainPtr = true) (owned : wrapper.primaryUser = some user)
    (handles : HandlesWell platform worker session text) :
    Meets platform worker session text := by
  intro members id parsed given
  rcases handles members id parsed given with ⟨call, ec, after, extracts, received, well⟩
  have extracted := RpcCall.extracted_object given extracts
  have handled : Handled (worker.process platform session call ec) :=
    (contained_answer (brief_process ec)).mp
      ⟨_, (receive_of_extract parsed extracts).symm.trans received⟩
  have accepted : worker.AcceptsObject platform session members :=
    (proceeds_object found).mp ⟨call, ec, extracts, handled⟩
  refine ⟨?_, accepted, ?_⟩
  · by_contra negative
    cases outcome : worker.process platform session call ec with
    | ok last =>
        rcases dispatched_of_process found owned outcome with ⟨rfl, channel, addressed, _⟩
        exact not_addresses_array (extracted.array (Int32.not_le.mp negative)) addressed
    | error fault =>
        rw [outcome] at handled
        cases fault with
        | rpcError error =>
            rw [receive_error extracted.id handled parsed extracts outcome] at received
            cases received
            rcases well.answered with once | ⟨method, other, moved, posted⟩
            · exact unasked_error error negative id (carries_of_hand once)
            · have length := congrArg List.length posted
              rw [List.length_append] at length
              exact absurd length (Nat.ne_of_lt (Nat.lt_succ_self _))
        | _ => exact handled
  · intro again same channel addressed moves
    cases extracts.symm.trans same
    rw [receive_of_extract parsed extracts, process_of_addresses found owned addressed,
      dispatchTo_moves moves] at received
    cases received
    rcases well.kept with ⟨before, changed, own, moved, kept⟩
    cases found.symm.trans own
    cases (postPlay_own found).symm.trans moved
    exact Bool.false_ne_true (kept.plainPtr.trans open_)

/-- What is handled well has been answered by its handler, and not left to posted work. -/
theorem answeredOnce_of_handlesWell (found : worker.sessions[session]? = some wrapper)
    (open_ : wrapper.plainPtr = true) (owned : wrapper.primaryUser = some user)
    (handles : HandlesWell platform worker session text)
    (parsed : platform.parse text = .ok (.object members))
    (given : (Json.member members "id").getInt platform = .ok id) {passed : Passed}
    (received : worker.receive platform session text = .ok (after, passed)) :
    AnsweredOnce platform worker session after id := by
  have answerable := answerable_of_handlesWell found open_ owned handles members id parsed given
  rcases answered_of_answerable found open_ owned answerable parsed given with
    ⟨_, _, last, _, again, once, _⟩
  cases received.symm.trans again
  exact once

theorem sessions_respond {response : Option Json}
    (responded : worker.respond platform session response = .ok after) :
    after.sessions = worker.sessions := by
  cases response with
  | none =>
      cases responded
      rfl
  | some response =>
      rcases Results.ok_of_bind responded with ⟨message, _, handed⟩
      cases handed
      rfl

/-- Other sessions are as before, and of this one at most the user is another. -/
theorem sessions_receive {passed : Passed} (found : worker.sessions[session]? = some wrapper)
    (open_ : wrapper.plainPtr = true) (owned : wrapper.primaryUser = some user)
    (meets : Meets platform worker session text)
    (received : worker.receive platform session text = .ok (after, passed)) :
    after.sessions = worker.sessions ∨
      Exists fun user => after.sessions = (worker.setUser session user).sessions := by
  rcases receive_cases received with ⟨_, _, rfl⟩ | ⟨jv, call, ec, parsed, extracts, answered⟩
  · exact Or.inl rfl
  · rcases (answer_cases answered).2 with outcome | ⟨error, _, responded⟩
    · rcases dispatched_of_process found owned outcome with ⟨rfl, channel, addressed, taken⟩
      cases jv with
      | object members =>
          cases given : (Json.member members "id").getInt platform with
          | error exception =>
              simp only [RpcCall.extract, Json.subscript_value, given] at extracts
              cases extracts
          | ok id =>
              have extracted := RpcCall.extracted_object given extracts
              have stays := (meets members id parsed given).stays call extracts channel addressed
              rcases served_dispatchTo extracted.id found open_ stays taken with
                ⟨_, _, _, _, sends⟩ | ⟨_, name, _, _, _, _, _, sends⟩
              · exact Or.inl sends.sessions
              · exact Or.inr ⟨⟨name⟩, sends.sessions⟩
      | _ => cases extracts
    · exact Or.inl (sessions_respond responded)

end Answers

/-! ## Runs of requests -/

end WebWorker

/-- A client connects, a session reads a message, or a piece of posted work runs and hands
out messages. -/
inductive WorkerLabel
  | connect
  | receive (session : Nat) (text : Octets)
  | perform (index : Nat) (messages : List (Nat × String))

namespace WebWorker

/-- An exception that leaves `operator()` has no next state. -/
def step (platform : Platform) (worker : WebWorker) : WorkerLabel -> Option WebWorker
  | .connect => some worker.connect
  | .receive session text =>
      if session < worker.sessions.length then
        match worker.receive platform session text with
        | .ok (after, _) => some after
        | .error _ => none
      else none
  | .perform index messages =>
      if index < worker.posted.length then
        some { worker with
          posted := worker.posted.eraseIdx index
          sent := worker.sent ++ messages }
      else none

def system (platform : Platform) : Transition.System WebWorker WorkerLabel :=
  .ofStep (fun worker => worker = create) (step platform)

/-- The requests that a step makes are answerable. -/
def StepMeets (platform : Platform) (worker : WebWorker) : WorkerLabel -> Prop
  | .receive session text => Meets platform worker session text
  | _ => True

/-- Every session has its transport and its user. -/
def Intact (worker : WebWorker) : Prop :=
  forall (session : Nat) (wrapper : WsSession), worker.sessions[session]? = some wrapper ->
    wrapper.plainPtr = true ∧ Exists fun user => wrapper.primaryUser = some user

theorem intact_setUser {worker : WebWorker} (intact : worker.Intact) (session : Nat)
    (user : User) : (worker.setUser session user).Intact := by
  intro other wrapper found
  rw [setUser] at found
  simp only [List.getElem?_modify] at found
  rcases Option.map_eq_some_iff.mp found with ⟨before, own, rfl⟩
  split
  · exact ⟨(intact other before own).1, user, rfl⟩
  · exact intact other before own

theorem intact_step {platform : Platform} {worker next : WebWorker} {label : WorkerLabel}
    (intact : worker.Intact) (meets : StepMeets platform worker label)
    (taken : worker.step platform label = some next) : next.Intact := by
  cases label with
  | connect =>
      cases taken
      intro session wrapper found
      rw [connect] at found
      rcases Cells.getElem?_append_cases found with before | ⟨_, fresh⟩
      · exact intact session wrapper before
      · rw [List.mem_singleton.mp fresh]
        exact ⟨rfl, ⟨""⟩, rfl⟩
  | receive session text =>
      rcases Option.ite_none_right_eq_some.mp taken with ⟨known, rest⟩
      split at rest
      · rename_i after passed received
        cases rest
        have found : worker.sessions[session]? = some worker.sessions[session] :=
          List.getElem?_eq_getElem known
        rcases intact session _ found with ⟨open_, user, owned⟩
        rcases sessions_receive found open_ owned meets received with same | ⟨other, same⟩
        · unfold Intact
          rw [same]
          exact intact
        · unfold Intact
          rw [same]
          exact intact_setUser intact session other
      · cases rest
  | perform index messages =>
      rcases Option.ite_none_right_eq_some.mp taken with ⟨_, rest⟩
      cases rest
      exact intact

theorem intact_reachable {platform : Platform} {worker : WebWorker}
    (reachable : ((system platform).restrict (StepMeets platform)).Reachable worker) :
    worker.Intact := by
  refine reachable.invariant ?_ ?_
  · rintro worker start session wrapper found
    have created : worker = create := start
    rw [created] at found
    cases found
  · rintro worker label next intact ⟨meets, taken⟩
    exact intact_step intact meets taken

/-- In runs of answerable requests, a message is handled well exactly when its request is
answerable. -/
theorem handlesWell_iff (platform : Platform) (worker : WebWorker)
    (reachable : ((system platform).restrict (StepMeets platform)).Reachable worker)
    (session : Nat) (known : session < worker.sessions.length) (text : Octets) :
    HandlesWell platform worker session text <-> Meets platform worker session text := by
  have found : worker.sessions[session]? = some worker.sessions[session] :=
    List.getElem?_eq_getElem known
  rcases intact_reachable reachable session _ found with ⟨open_, user, owned⟩
  exact ⟨answerable_of_handlesWell found open_ owned, handlesWell_of_answerable found open_ owned⟩

/-! ## Two requests -/

theorem connected_reachable (platform : Platform) :
    ((system platform).restrict (StepMeets platform)).Reachable create.connect := by
  have start : ((system platform).restrict (StepMeets platform)).Reachable create :=
    .initially rfl
  have meets : StepMeets platform create .connect := trivial
  have taken : create.step platform .connect = some create.connect := rfl
  exact start.extend (.single ⟨meets, taken⟩)

def identifyMembers : List (String × Json) :=
  [("id", .unsigned 1), ("jsonrpc", .string "2.0"), ("method", .string "identify"),
    ("params", .object [("cid", .unsigned 1), ("name", .string "ann")])]

def identifyCall : RpcCall where
  id := some 1
  version := 2
  method := "identify"
  params := .object [("cid", .unsigned 1), ("name", .string "ann")]
  result := .null

theorem extract_identify :
    RpcCall.create.extract scriptedPlatform (.object identifyMembers) =
      .ok (identifyCall, none) := rfl

theorem meets_identify : Meets scriptedPlatform create.connect 0 identifyText := by
  intro members id parsed given
  have known : scriptedPlatform.parse identifyText = .ok (.object identifyMembers) :=
    parse_identify
  cases known.symm.trans parsed
  have one : (Json.member identifyMembers "id").getInt scriptedPlatform = .ok 1 := rfl
  cases one.symm.trans given
  refine ⟨by decide, ?_, ?_⟩
  · have proceeds : Proceeds scriptedPlatform create.connect 0
        (RpcCall.create.extract scriptedPlatform (.object identifyMembers)) :=
      ⟨identifyCall, none, rfl, trivial⟩
    exact (proceeds_object rfl).mp proceeds
  · rintro call extracts channel _ ⟨_, asked⟩
    cases extract_identify.symm.trans extracts
    exact absurd asked (by decide)

theorem handlesWell_identify : HandlesWell scriptedPlatform create.connect 0 identifyText :=
  (handlesWell_iff scriptedPlatform create.connect (connected_reachable scriptedPlatform) 0
    (by decide) identifyText).mpr meets_identify

def playText : Octets :=
  octetsOf ("\x7b\"jsonrpc\":\"2.0\",\"id\":1,\"method\":\"play\"," ++
    "\"params\":\x7b\"cid\":3\x7d\x7d")

def playMembers : List (String × Json) :=
  [("id", .unsigned 1), ("jsonrpc", .string "2.0"), ("method", .string "play"),
    ("params", .object [("cid", .unsigned 3)])]

/-- A parser that knows the message to the table. -/
def tablePlatform : Platform :=
  { scriptedPlatform with
    parse := fun text =>
      if text = playText then .ok (.object playMembers) else .error .parseError }

def playCall : RpcCall where
  id := some 1
  version := 2
  method := "play"
  params := .object [("cid", .unsigned 3)]
  result := .null

theorem extract_play :
    RpcCall.create.extract tablePlatform (.object playMembers) = .ok (playCall, none) := rfl

/-- The table leaves the session without its transport. -/
theorem play_not_handlesWell : ¬ forall worker, (system tablePlatform).Reachable worker ->
    forall session, session < worker.sessions.length -> forall text,
      HandlesWell tablePlatform worker session text := by
  intro handles
  have reached := (connected_reachable tablePlatform).of_restrict
  have well := handles create.connect reached 0 (by decide) playText
  have parsed : tablePlatform.parse playText = .ok (.object playMembers) := by
    simp only [tablePlatform, if_true]
  rcases well playMembers 1 parsed rfl with ⟨call, ec, after, extracts, received, _, kept⟩
  cases extract_play.symm.trans extracts
  have moves : MovesRequest playCall ⟨.table, 3, "Blackjack", []⟩ := ⟨rfl, by decide⟩
  have addressed : create.connect.Addresses tablePlatform playCall
      ⟨.table, 3, "Blackjack", []⟩ := ⟨.unsigned 3, 3, rfl, rfl, rfl⟩
  have own : create.connect.sessions[0]? = some ⟨true, some ⟨""⟩, true⟩ := rfl
  rw [receive_of_extract parsed extract_play, process_of_addresses own rfl addressed,
    dispatchTo_moves moves] at received
  cases received
  rcases kept with ⟨before, changed, found, moved, same⟩
  cases own.symm.trans found
  cases (postPlay_own own).symm.trans moved
  exact Bool.false_ne_true same.plainPtr

end WebWorker

end EasyProspect
