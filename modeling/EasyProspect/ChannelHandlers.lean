import EasyProspect.Library.Cells
import EasyProspect.WebWorker

namespace EasyProspect

/-!
# What the handlers of the channels can end with

A handler either succeeds, or throws an `rpc_error` with a short text, or does
something undefined in a broadcast: the notice overruns the buffer of
`make_message`, or a member of the channel has been destroyed.  One lemma for each
handler says when it comes to the last.
-/

/-! ## Responses -/

/-- A text that takes little room in a response. -/
def Short (text : String) : Prop :=
  text.utf8ByteSize ≤ 80

instance (text : String) : Decidable (Short text) :=
  inferInstanceAs (Decidable (text.utf8ByteSize ≤ 80))

/-- Success, or an error that is answered with a short text. -/
def Handled {Result : Type} : Except Fault Result -> Prop
  | .ok _ => True
  | .error (.rpcError error) => Short error.msg
  | .error _ => False

/-- Every error response fits, with an id and without one. -/
theorem fits_error (platform : Platform) {error : RpcError} (short : Short error.msg) (id : Int32) :
    Fits platform (error.toJson id) := by
  have code := Json.size_integerText error.code.toInt64
  have idText := Json.size_integerText id.toInt64
  have text := Json.size_quote error.msg
  have bound : error.msg.utf8ByteSize ≤ 80 := short
  have marks : ("\x7b" : String).utf8ByteSize + (Json.quote "error").utf8ByteSize +
      (":" : String).utf8ByteSize + (Json.quote "code").utf8ByteSize +
      ("," : String).utf8ByteSize + (Json.quote "message").utf8ByteSize +
      (Json.quote "id").utf8ByteSize + (Json.quote "jsonrpc").utf8ByteSize +
      (Json.quote "2.0").utf8ByteSize + ("\x7d" : String).utf8ByteSize ≤ 64 := by
    decide
  rw [RpcError.toJson, Fits, messageBuffer]
  split
  · simp only [Json.dump, Json.dumpMembers, Json.ofInt, String.utf8ByteSize_append]
    omega
  · simp only [Json.dump, Json.dumpMembers, Json.ofInt, String.utf8ByteSize_append]
    omega

theorem fits_result (platform : Platform) {call : RpcCall} (empty : call.result = .null)
    {response : Json} (completes : call.complete = some response) : Fits platform response := by
  rcases Option.map_eq_some_iff.mp completes with ⟨id, _, rfl⟩
  have idText := Json.size_integerText id.toInt64
  have marks : ("\x7b" : String).utf8ByteSize + (Json.quote "id").utf8ByteSize +
      (":" : String).utf8ByteSize + ("," : String).utf8ByteSize +
      (Json.quote "result").utf8ByteSize + ("null" : String).utf8ByteSize +
      ("\x7d" : String).utf8ByteSize ≤ 64 := by
    decide
  rw [empty, Fits, messageBuffer]
  simp only [Json.dump, Json.dumpMembers, Json.ofInt, String.utf8ByteSize_append]
  omega

theorem short_message (code : RpcCode) : Short code.message := by
  cases code <;> decide

/-! ## Sending -/

namespace WebWorker

variable {platform : Platform} {worker : WebWorker} {members : List Nat} {jv : Json}

/-- The wrapper has not been destroyed. -/
def Alive (worker : WebWorker) (session : Nat) : Prop :=
  Exists fun wrapper => worker.sessions[session]? = some wrapper ∧ wrapper.alive = true

/-- A broadcast neither overruns the buffer nor follows a dangling pointer. -/
def Deliverable (platform : Platform) (worker : WebWorker) (members : List Nat) (jv : Json) :
    Prop :=
  Fits platform jv ∧ forall member, member ∈ members -> worker.Alive member

theorem sendMessage_alive {session : Nat} {message : String} (alive : worker.Alive session) :
    Exists fun after => worker.sendMessage session message = .ok after ∧
      after.sessions = worker.sessions := by
  rcases alive with ⟨wrapper, found, lives⟩
  refine ⟨if wrapper.plainPtr then worker.hand session message else worker, ?_, ?_⟩
  · rw [sendMessage, found]
    exact if_pos lives
  · split <;> rfl

theorem sendMessage_dead {session : Nat} {message : String} (dead : ¬worker.Alive session) :
    worker.sendMessage session message = .error .undefined := by
  rw [sendMessage]
  cases found : worker.sessions[session]? with
  | none => rfl
  | some wrapper => exact if_neg fun lives => dead ⟨wrapper, found, lives⟩

theorem alive_of_sessions {before after : WebWorker} (same : after.sessions = before.sessions)
    (session : Nat) : after.Alive session <-> before.Alive session := by
  rw [Alive, same]
  rfl

theorem deliverable_of_sessions {before after : WebWorker}
    (same : after.sessions = before.sessions) :
    Deliverable platform after members jv <-> Deliverable platform before members jv := by
  unfold Deliverable
  simp only [alive_of_sessions same]

theorem sendAll_alive {message : String}
    (alive : forall member, member ∈ members -> worker.Alive member) :
    Exists fun after => worker.sendAll members message = .ok after ∧
      after.sessions = worker.sessions := by
  induction members generalizing worker with
  | nil => exact ⟨worker, rfl, rfl⟩
  | cons member members inductionHypothesis =>
      rcases sendMessage_alive (alive member List.mem_cons_self) with
        ⟨middle, sent, same⟩
      have rest : forall other, other ∈ members -> middle.Alive other := fun other among =>
        (alive_of_sessions same other).mpr (alive other (List.mem_cons_of_mem member among))
      rcases inductionHypothesis rest with ⟨after, sentAll, sameAfter⟩
      refine ⟨after, ?_, sameAfter.trans same⟩
      rw [sendAll, List.foldlM_cons, sent]
      exact sentAll

theorem sendAll_dead {message : String}
    (dead : ¬ forall member, member ∈ members -> worker.Alive member) :
    worker.sendAll members message = .error .undefined := by
  induction members generalizing worker with
  | nil => exact absurd (fun member among => absurd among List.not_mem_nil) dead
  | cons member members inductionHypothesis =>
      rw [sendAll, List.foldlM_cons]
      by_cases alive : worker.Alive member
      · rcases sendMessage_alive alive with ⟨middle, sent, same⟩
        rw [sent]
        apply inductionHypothesis
        intro rest
        apply dead
        intro other among
        rcases List.mem_cons.mp among with rfl | later
        · exact alive
        · exact (alive_of_sessions same other).mp (rest other later)
      · rw [sendMessage_dead alive]
        rfl

/-- What follows a broadcast is reached exactly when the broadcast is deliverable. -/
theorem handled_broadcast {Result : Type} {next : WebWorker -> Except Fault Result}
    (continues : forall after, after.sessions = worker.sessions -> Fits platform jv ->
      Handled (next after)) :
    Handled (worker.broadcast platform members jv >>= next) <->
      Deliverable platform worker members jv := by
  rw [broadcast, makeMessage]
  by_cases fits : Fits platform jv
  · rw [if_pos fits]
    change Handled (worker.sendAll members _ >>= next) <-> _
    by_cases alive : forall member, member ∈ members -> worker.Alive member
    · rcases sendAll_alive alive with ⟨after, sent, same⟩
      rw [sent]
      exact ⟨fun _ => ⟨fits, alive⟩, fun _ => continues after same fits⟩
    · rw [sendAll_dead alive]
      exact ⟨False.elim, fun deliverable => absurd deliverable.2 alive⟩
  · rw [if_neg fits]
    exact ⟨False.elim, fun deliverable => absurd deliverable.1 fits⟩

theorem sendJson_ok {session : Nat} {wrapper : WsSession}
    (found : worker.sessions[session]? = some wrapper) (fits : Fits platform jv) :
    Exists fun after => worker.sendJson platform session jv = .ok after ∧
      after.sessions = worker.sessions := by
  rw [sendJson, found, makeMessage, if_pos fits]
  simp only
  split
  · exact ⟨worker.hand session (jv.dump platform), rfl, rfl⟩
  · exact ⟨worker, rfl, rfl⟩

theorem handled_complete {session : Nat} {wrapper : WsSession} {call : RpcCall}
    (found : worker.sessions[session]? = some wrapper) (empty : call.result = .null) :
    Handled (worker.complete platform call.complete session) := by
  cases completes : call.complete with
  | none => exact trivial
  | some response =>
      rcases sendJson_ok found (fits_result platform empty completes) with ⟨after, sent, _⟩
      rw [complete, sent]
      exact trivial

/-! ## Handlers -/

section Handlers

variable {call : RpcCall} {channel : Channel} {user : User} {session : Nat} {wrapper : WsSession}

theorem handled_failWith {Result : Type} {msg : String} (short : Short msg) :
    Handled (failWith msg : Except Fault Result) :=
  short

theorem handled_failCode {Result : Type} (code : RpcCode) :
    Handled (failCode code : Except Fault Result) :=
  short_message code

theorem isJoined_iff : isJoined channel session = true <-> session ∈ channel.sessions :=
  decide_eq_true_iff

theorem onInsert_sessions (worker : WebWorker) (kind : ChannelKind) (session : Nat) :
    (worker.onInsert kind session).sessions = worker.sessions := by
  cases kind <;> rfl

theorem onErase_sessions (worker : WebWorker) (kind : ChannelKind) (session : Nat) :
    (worker.onErase kind session).sessions = worker.sessions := by
  cases kind <;> rfl

/-- A computation that is handled hands its value on. -/
theorem handled_bind {Value Result : Type} {result : Except Fault Value}
    {next : Value -> Except Fault Result} (handled : Handled result) :
    Handled (result >>= next) <-> forall value, result = .ok value -> Handled (next value) := by
  cases result with
  | ok value => exact ⟨fun after _ same => Except.ok.inj same ▸ after, fun all => all value rfl⟩
  | error fault =>
      refine ⟨fun _ value same => (nomatch same), fun _ => ?_⟩
      cases fault with
      | rpcError error => exact handled
      | _ => exact False.elim handled

theorem handled_checkedValue {key : String} (short : Short ("key '" ++ key ++ "' not found"))
    (jv : Json) : Handled (checkedValue jv key) := by
  cases jv with
  | object members =>
      simp only [checkedValue, checkedObject]
      cases Json.find members key with
      | some value => exact trivial
      | none => exact short
  | _ => exact (by decide : Short "expected object")

theorem handled_checkedStringAt {key : String} (short : Short ("key '" ++ key ++ "' not found"))
    (jv : Json) : Handled (checkedStringAt jv key) := by
  have value := handled_checkedValue short jv
  rw [checkedStringAt]
  cases got : checkedValue jv key with
  | error fault =>
      rw [got] at value
      cases fault with
      | rpcError error => exact value
      | _ => exact False.elim value
  | ok found =>
      cases found with
      | string text => exact trivial
      | _ => exact (by decide : Short "expected string")

/-- A new member makes the channel announce the arrival. -/
theorem handled_insert {Result : Type} {next : WebWorker × Bool -> Except Fault Result}
    (absent : session ∉ channel.sessions)
    (continues : forall after, after.sessions = worker.sessions -> Handled (next (after, true))) :
    Handled (worker.insert platform channel user session >>= next) <->
      Deliverable platform worker (channel.sessions ++ [session])
        (channel.notice "join" user.name) := by
  rw [insert, if_neg (mt isJoined_iff.mp absent), bind_assoc]
  refine (handled_broadcast ?_).trans (deliverable_of_sessions rfl)
  intro after same _
  exact continues _ ((onInsert_sessions after channel.kind session).trans same)

theorem handled_doJoin (found : worker.sessions[session]? = some wrapper)
    (empty : call.result = .null) :
    Handled (worker.doJoin platform call channel user session) <->
      (user.name ≠ "" -> session ∉ channel.sessions ->
        Deliverable platform worker (channel.sessions ++ [session])
          (channel.notice "join" user.name)) := by
  rw [doJoin, checkedUser]
  by_cases anonymous : user.name = ""
  · rw [if_pos anonymous]
    have fails : Handled (failWith "1" : Except Fault WebWorker) := handled_failWith (by decide)
    exact ⟨fun _ named => absurd anonymous named, fun _ => fails⟩
  · rw [if_neg anonymous]
    by_cases joined : session ∈ channel.sessions
    · have fails : Handled (failWith "Already in channel" : Except Fault WebWorker) :=
        handled_failWith (by decide)
      rw [insert, if_pos (isJoined_iff.mpr joined)]
      exact ⟨fun _ _ absent => absurd joined absent, fun _ => fails⟩
    · refine (handled_insert joined ?_).trans
        ⟨fun deliverable _ _ => deliverable, fun all => all anonymous joined⟩
      intro after same
      exact handled_complete ((congrArg (fun list => list[session]?) same).trans found) empty

theorem handled_doLeave (found : worker.sessions[session]? = some wrapper)
    (empty : call.result = .null) :
    Handled (worker.doLeave platform call channel user session) <->
      (session ∈ channel.sessions ->
        Deliverable platform worker (channel.sessions.erase session)
          (channel.notice "leave" user.name)) := by
  rw [doLeave, erase]
  cases joined : isJoined channel session with
  | false =>
      have absent : session ∉ channel.sessions :=
        fun member => Bool.false_ne_true (joined.symm.trans (isJoined_iff.mpr member))
      have fails : Handled (failWith "Not in channel" : Except Fault WebWorker) :=
        handled_failWith (by decide)
      exact ⟨fun _ member => absurd member absent, fun _ => fails⟩
  | true =>
      have member := isJoined_iff.mp joined
      simp only [Bool.not_true, Bool.false_eq_true, if_false, bind_assoc]
      refine ((handled_broadcast ?_).trans (deliverable_of_sessions rfl)).trans
        ⟨fun deliverable _ => deliverable, fun all => all member⟩
      intro after same fits
      have own : after.sessions[session]? = some wrapper :=
        (congrArg (fun list => list[session]?) same).trans found
      rcases sendJson_ok own fits with ⟨last, sent, still⟩
      rw [sent]
      have erased := onErase_sessions last channel.kind session
      exact handled_complete
        ((congrArg (fun list => list[session]?) (erased.trans still)).trans own) empty

theorem handled_doSay (found : worker.sessions[session]? = some wrapper)
    (empty : call.result = .null) :
    Handled (worker.doSay platform call channel user session) <->
      (user.name ≠ "" -> session ∈ channel.sessions -> forall text,
        checkedStringAt call.params "message" = .ok text ->
          Deliverable platform worker channel.sessions (channel.sayNotice user.name text)) := by
  rw [doSay, checkedUser]
  by_cases anonymous : user.name = ""
  · rw [if_pos anonymous]
    have fails : Handled (failWith "1" : Except Fault WebWorker) := handled_failWith (by decide)
    exact ⟨fun _ named => absurd anonymous named, fun _ => fails⟩
  · rw [if_neg anonymous]
    cases joined : isJoined channel session with
    | false =>
        have absent : session ∉ channel.sessions :=
          fun member => Bool.false_ne_true (joined.symm.trans (isJoined_iff.mpr member))
        have fails : Handled (failWith "not in channel" : Except Fault WebWorker) :=
          handled_failWith (by decide)
        exact ⟨fun _ _ member => absurd member absent, fun _ => fails⟩
    | true =>
        have member := isJoined_iff.mp joined
        apply (handled_bind (handled_checkedStringAt (by decide) call.params)).trans
        have each : forall text,
            Handled (worker.broadcast platform channel.sessions
                (channel.sayNotice user.name text) >>=
              fun after => after.complete platform call.complete session) <->
            Deliverable platform worker channel.sessions (channel.sayNotice user.name text) := by
          intro text
          apply handled_broadcast
          intro after same _
          exact handled_complete ((congrArg (fun list => list[session]?) same).trans found) empty
        exact ⟨fun all _ _ text has => (each text).mp (all text has),
          fun all text has => (each text).mpr (all anonymous member text has)⟩

/-- `do_identify` changes the user of the session and nothing else of its wrapper. -/
theorem setUser_alive (worker : WebWorker) (session : Nat) (user : User) (member : Nat) :
    (worker.setUser session user).Alive member <-> worker.Alive member := by
  unfold Alive
  rw [setUser, List.getElem?_modify]
  cases worker.sessions[member]? with
  | none => exact ⟨fun ⟨_, found, _⟩ => (nomatch found), fun ⟨_, found, _⟩ => (nomatch found)⟩
  | some wrapper =>
      by_cases same : session = member
      · simp only [if_pos same]
        constructor
        · rintro ⟨changed, found, alive⟩
          cases found
          exact ⟨wrapper, rfl, alive⟩
        · rintro ⟨other, found, alive⟩
          cases found
          exact ⟨{ wrapper with primaryUser := some user }, rfl, alive⟩
      · simp only [if_neg same]
        rfl

theorem handled_doIdentify (found : worker.sessions[session]? = some wrapper)
    (empty : call.result = .null) :
    Handled (worker.doIdentify platform call channel user session) <->
      (forall name, checkedStringAt call.params "name" = .ok name -> name.utf8ByteSize ≤ 20 ->
        user.name = "" -> session ∉ channel.sessions ->
          Deliverable platform worker (channel.sessions ++ [session])
            (channel.notice "join" name)) := by
  rw [doIdentify]
  apply (handled_bind (handled_checkedStringAt (by decide) call.params)).trans
  refine forall_congr' fun name => imp_congr_right fun _ => ?_
  by_cases long : 20 < name.utf8ByteSize
  · have fails : Handled (failWith "Invalid \"name\": too long" : Except Fault WebWorker) :=
      handled_failWith (by decide)
    rw [if_pos long]
    exact ⟨fun _ short => absurd long (Nat.not_lt.mpr short), fun _ => fails⟩
  · rw [if_neg long]
    by_cases anonymous : user.name = ""
    · have asked : ¬user.name ≠ "" := fun named => named anonymous
      rw [if_neg asked]
      have own : (worker.setUser session ⟨name⟩).sessions[session]? =
          some { wrapper with primaryUser := some ⟨name⟩ } :=
        Cells.getElem?_modify_self found _
      by_cases joined : session ∈ channel.sessions
      · have still : (worker.setUser session ⟨name⟩).insert platform channel ⟨name⟩ session =
            .ok (worker.setUser session ⟨name⟩, false) :=
          if_pos (isJoined_iff.mpr joined)
        change Handled ((worker.setUser session ⟨name⟩).insert platform channel ⟨name⟩ session >>= _)
          <-> _
        rw [still]
        exact ⟨fun _ _ _ absent => absurd joined absent, fun _ => handled_complete own empty⟩
      · refine ((handled_insert joined ?_).trans ?_).trans
          ⟨fun deliverable _ _ _ => deliverable,
            fun all => all (Nat.le_of_not_lt long) anonymous joined⟩
        · intro after same
          exact handled_complete ((congrArg (fun list => list[session]?) same).trans own) empty
        · unfold Deliverable
          simp only [setUser_alive]
    · have fails : Handled (failWith "Identity is already set" : Except Fault WebWorker) :=
        handled_failWith (by decide)
      rw [if_pos anonymous]
      exact ⟨fun _ _ unnamed => absurd unnamed anonymous, fun _ => fails⟩

/-- The broadcasts that a request to a channel asks for, with their recipients. -/
inductive Announces (channel : Channel) (call : RpcCall) (user : User) (session : Nat) :
    List Nat -> Json -> Prop
  | join (asked : call.method = "join") (named : user.name ≠ "")
      (absent : session ∉ channel.sessions) :
      Announces channel call user session (channel.sessions ++ [session])
        (channel.notice "join" user.name)
  | leave (asked : call.method = "leave") (member : session ∈ channel.sessions) :
      Announces channel call user session (channel.sessions.erase session)
        (channel.notice "leave" user.name)
  | say (room : channel.kind = .room) (asked : call.method = "say" ∨ call.method = "slash")
      (named : user.name ≠ "") (member : session ∈ channel.sessions) (text : String)
      (given : checkedStringAt call.params "message" = .ok text) :
      Announces channel call user session channel.sessions (channel.sayNotice user.name text)
  | identify (system : channel.kind = .system) (asked : call.method = "identify") (name : String)
      (given : checkedStringAt call.params "name" = .ok name) (short : name.utf8ByteSize ≤ 20)
      (unnamed : user.name = "") (absent : session ∉ channel.sessions) :
      Announces channel call user session (channel.sessions ++ [session])
        (channel.notice "join" name)

/-- Every broadcast that the request asks for is deliverable. -/
def Speaks (platform : Platform) (worker : WebWorker) (channel : Channel) (call : RpcCall)
    (user : User) (session : Nat) : Prop :=
  forall members jv, Announces channel call user session members jv ->
    Deliverable platform worker members jv

theorem handled_room (found : worker.sessions[session]? = some wrapper)
    (empty : call.result = .null) (room : channel.kind = .room) (join : call.method ≠ "join")
    (leave : call.method ≠ "leave") :
    Handled (worker.onDispatch platform call channel user session) <->
      Speaks platform worker channel call user session := by
  rw [onDispatch, room]
  simp only
  by_cases asked : call.method = "say" ∨ call.method = "slash"
  · have both : (if call.method = "say" then worker.doSay platform call channel user session
        else if call.method = "slash" then worker.doSay platform call channel user session
        else failCode .methodNotFound) = worker.doSay platform call channel user session := by
      rcases asked with say | slash
      · exact if_pos say
      · rw [if_pos slash, ite_self]
    rw [both]
    refine (handled_doSay found empty).trans ⟨?_, ?_⟩
    · intro deliverable members jv announced
      cases announced with
      | join other => exact absurd other join
      | leave other => exact absurd other leave
      | say _ _ named member text given => exact deliverable named member text given
      | identify system => exact absurd (room.symm.trans system) nofun
    · exact fun speaks named member text given =>
        speaks _ _ (.say room asked named member text given)
  · rw [if_neg fun say => asked (Or.inl say), if_neg fun slash => asked (Or.inr slash)]
    refine ⟨?_, fun _ => handled_failCode _⟩
    intro _ members jv announced
    cases announced with
    | join other => exact absurd other join
    | leave other => exact absurd other leave
    | say _ other => exact absurd other asked
    | identify system => exact absurd (room.symm.trans system) nofun

theorem handled_system (found : worker.sessions[session]? = some wrapper)
    (empty : call.result = .null) (system : channel.kind = .system)
    (join : call.method ≠ "join") (leave : call.method ≠ "leave") :
    Handled (worker.onDispatch platform call channel user session) <->
      Speaks platform worker channel call user session := by
  rw [onDispatch, system]
  simp only
  by_cases asked : call.method = "identify"
  · rw [if_pos asked]
    refine (handled_doIdentify found empty).trans ⟨?_, ?_⟩
    · intro deliverable members jv announced
      cases announced with
      | join other => exact absurd other join
      | leave other => exact absurd other leave
      | say room => exact absurd (system.symm.trans room) nofun
      | identify _ _ name given short unnamed absent =>
          exact deliverable name given short unnamed absent
    · exact fun speaks name given short unnamed absent =>
        speaks _ _ (.identify system asked name given short unnamed absent)
  · rw [if_neg asked]
    have silent : Speaks platform worker channel call user session := by
      intro members jv announced
      cases announced with
      | join other => exact absurd other join
      | leave other => exact absurd other leave
      | say room => exact absurd (system.symm.trans room) nofun
      | identify _ other => exact absurd other asked
    refine ⟨fun _ => silent, fun _ => ?_⟩
    split
    · exact handled_complete found empty
    · split
      · exact handled_complete found empty
      · exact handled_failCode _

theorem handled_table (table : channel.kind = .table) (join : call.method ≠ "join")
    (leave : call.method ≠ "leave") :
    Handled (worker.onDispatch platform call channel user session) <->
      Speaks platform worker channel call user session := by
  rw [onDispatch, table]
  simp only
  have silent : Speaks platform worker channel call user session := by
    intro members jv announced
    cases announced with
    | join other => exact absurd other join
    | leave other => exact absurd other leave
    | say room => exact absurd (table.symm.trans room) nofun
    | identify system => exact absurd (table.symm.trans system) nofun
  refine ⟨fun _ => silent, fun _ => ?_⟩
  split
  · exact trivial
  · exact handled_failCode _

theorem handled_dispatchTo (found : worker.sessions[session]? = some wrapper)
    (empty : call.result = .null) :
    Handled (worker.dispatchTo platform call channel user session) <->
      Speaks platform worker channel call user session := by
  rw [dispatchTo]
  by_cases join : call.method = "join"
  · rw [if_pos join]
    refine (handled_doJoin found empty).trans ⟨?_, ?_⟩
    · intro deliverable members jv announced
      cases announced with
      | join asked named absent => exact deliverable named absent
      | leave asked => exact absurd (join.symm.trans asked) (by decide)
      | say room asked =>
          rcases asked with asked | asked <;> exact absurd (join.symm.trans asked) (by decide)
      | identify system asked => exact absurd (join.symm.trans asked) (by decide)
    · exact fun speaks named absent => speaks _ _ (.join join named absent)
  · rw [if_neg join]
    by_cases leave : call.method = "leave"
    · rw [if_pos leave]
      refine (handled_doLeave found empty).trans ⟨?_, ?_⟩
      · intro deliverable members jv announced
        cases announced with
        | join asked => exact absurd asked join
        | leave asked member => exact deliverable member
        | say room asked =>
            rcases asked with asked | asked <;> exact absurd (leave.symm.trans asked) (by decide)
        | identify system asked => exact absurd (leave.symm.trans asked) (by decide)
      · exact fun speaks member => speaks _ _ (.leave leave member)
    · rw [if_neg leave]
      cases kind : channel.kind with
      | room => exact handled_room found empty kind join leave
      | system => exact handled_system found empty kind join leave
      | table => exact handled_table kind join leave

end Handlers

/-! ## The texts of the errors -/

/-- An `rpc_error` has a short text. -/
def Brief {Result : Type} (result : Except Fault Result) : Prop :=
  forall error, result = .error (.rpcError error) -> Short error.msg

section Texts

variable {call : RpcCall} {channel : Channel} {user : User} {session : Nat}

theorem brief_ok {Result : Type} (value : Result) : Brief (.ok value) :=
  fun _ same => nomatch same

theorem brief_of_handled {Result : Type} {result : Except Fault Result}
    (handled : Handled result) : Brief result := by
  rintro error rfl
  exact handled

theorem brief_bind {Value Result : Type} {result : Except Fault Value}
    {next : Value -> Except Fault Result} (first : Brief result)
    (later : forall value, Brief (next value)) : Brief (result >>= next) := by
  cases result with
  | ok value => exact later value
  | error fault =>
      intro error same
      exact first error (congrArg Except.error (Except.error.inj same))

theorem brief_makeMessage : Brief (makeMessage platform jv) := by
  rw [makeMessage]
  split
  · exact brief_ok _
  · exact fun _ same => nomatch same

theorem brief_broadcast : Brief (worker.broadcast platform members jv) := by
  refine brief_bind brief_makeMessage fun message => ?_
  by_cases alive : forall member, member ∈ members -> worker.Alive member
  · rcases sendAll_alive alive with ⟨after, sent, _⟩
    exact sent ▸ brief_ok after
  · rw [sendAll_dead alive]
    exact fun _ same => nomatch same

theorem brief_sendJson : Brief (worker.sendJson platform session jv) := by
  rw [sendJson]
  split
  · exact fun _ same => nomatch same
  · split
    · exact brief_bind brief_makeMessage fun _ => brief_ok _
    · exact brief_ok _

theorem brief_complete (response : Option Json) :
    Brief (worker.complete platform response session) := by
  cases response with
  | none => exact brief_ok _
  | some res => exact brief_sendJson

theorem brief_insert : Brief (worker.insert platform channel user session) := by
  rw [insert]
  split
  · exact brief_ok _
  · exact brief_bind brief_broadcast fun _ => brief_ok _

theorem brief_erase : Brief (worker.erase platform channel user session) := by
  rw [erase]
  split
  · exact brief_ok _
  · exact brief_bind brief_broadcast fun _ => brief_bind brief_sendJson fun _ => brief_ok _

theorem brief_checkedUser : Brief (checkedUser user) := by
  rw [checkedUser]
  split
  · exact brief_of_handled (handled_failWith (by decide))
  · exact brief_ok _

theorem brief_doJoin : Brief (worker.doJoin platform call channel user session) := by
  refine brief_bind brief_checkedUser fun _ => brief_bind brief_insert ?_
  rintro ⟨after, inserted⟩
  cases inserted with
  | true => exact brief_complete _
  | false => exact brief_of_handled (handled_failWith (by decide))

theorem brief_doLeave : Brief (worker.doLeave platform call channel user session) := by
  apply brief_bind brief_erase
  rintro ⟨after, erased⟩
  cases erased with
  | true => exact brief_complete _
  | false => exact brief_of_handled (handled_failWith (by decide))

theorem brief_doSay : Brief (worker.doSay platform call channel user session) := by
  refine brief_bind brief_checkedUser fun _ => ?_
  cases isJoined channel session with
  | true =>
      have text : Brief (checkedStringAt call.params "message") :=
        brief_of_handled (handled_checkedStringAt (by decide) call.params)
      exact brief_bind text fun _ => brief_bind brief_broadcast fun _ => brief_complete _
  | false => exact brief_of_handled (handled_failWith (by decide))

theorem brief_doIdentify : Brief (worker.doIdentify platform call channel user session) := by
  have text : Brief (checkedStringAt call.params "name") :=
    brief_of_handled (handled_checkedStringAt (by decide) call.params)
  refine brief_bind text fun name => ?_
  split
  · exact brief_of_handled (handled_failWith (by decide))
  · split
    · exact brief_of_handled (handled_failWith (by decide))
    · exact brief_bind brief_insert fun _ => brief_complete _

theorem brief_dispatchTo : Brief (worker.dispatchTo platform call channel user session) := by
  rw [dispatchTo]
  split
  · exact brief_doJoin
  · split
    · exact brief_doLeave
    · rw [onDispatch]
      have unknown : Brief (failCode .methodNotFound : Except Fault WebWorker) :=
        brief_of_handled (handled_failCode _)
      cases channel.kind with
      | room =>
          simp only
          split
          · exact brief_doSay
          · split
            · exact brief_doSay
            · exact unknown
      | system =>
          simp only
          split
          · exact brief_doIdentify
          · split
            · exact brief_complete _
            · split
              · exact brief_complete _
              · exact unknown
      | table =>
          simp only
          split
          · exact brief_ok _
          · exact unknown

end Texts

end WebWorker

end EasyProspect
