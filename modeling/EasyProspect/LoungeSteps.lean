import EasyProspect.Lounge

namespace EasyProspect

/-!
# What a step of the interleaved requests can do

`Moved` lists the kinds of steps with what is known when they are taken; each later
invariant is a case analysis over it.
-/

namespace WebWorker

variable {platform : Platform} {worker after : WebWorker}

/-- The channels and the wrappers are as before, and nothing that was sent is taken back. -/
structure Keeps (worker after : WebWorker) : Prop where
  channels : after.channels = worker.channels
  sessions : after.sessions = worker.sessions
  sent : worker.sent <+: after.sent

/-- The message is sent to the session, if the wrapper still holds the session. -/
def Reaches (worker after : WebWorker) (session : Nat) (message : String) : Prop :=
  forall wrapper, worker.sessions[session]? = some wrapper -> wrapper.plainPtr = true ->
    after.sent = worker.sent ++ [(session, message)]

theorem Keeps.refl (worker : WebWorker) : Keeps worker worker :=
  ⟨rfl, rfl, List.prefix_rfl⟩

theorem keeps_hand (worker : WebWorker) (session : Nat) (message : String) :
    Keeps worker (worker.hand session message) :=
  ⟨rfl, rfl, List.prefix_append _ _⟩

theorem keeps_sendMessage {session : Nat} {message : String}
    (taken : worker.sendMessage session message = .ok after) : Keeps worker after := by
  rw [sendMessage] at taken
  split at taken
  · cases taken
  · split at taken
    · cases taken
      split
      · exact keeps_hand worker session message
      · exact .refl worker
    · cases taken

theorem reaches_sendMessage {session : Nat} {message : String}
    (taken : worker.sendMessage session message = .ok after) :
    session < worker.sessions.length ∧ Reaches worker after session message := by
  rw [sendMessage] at taken
  split at taken
  · cases taken
  · rename_i wrapper found
    refine ⟨(List.getElem?_eq_some_iff.mp found).1, ?_⟩
    intro other same held
    cases found.symm.trans same
    split at taken
    · cases taken
      rfl
    · cases taken

theorem keeps_sendJson {session : Nat} {jv : Json}
    (taken : worker.sendJson platform session jv = .ok after) : Keeps worker after := by
  rw [sendJson] at taken
  split at taken
  · cases taken
  · split at taken
    · rcases Results.ok_of_bind taken with ⟨message, _, handed⟩
      cases handed
      exact keeps_hand worker session message
    · cases taken
      exact .refl worker

theorem reaches_sendJson {session : Nat} {jv : Json}
    (taken : worker.sendJson platform session jv = .ok after) :
    session < worker.sessions.length ∧ Reaches worker after session (jv.dump platform) := by
  rw [sendJson] at taken
  split at taken
  · cases taken
  · rename_i wrapper found
    refine ⟨(List.getElem?_eq_some_iff.mp found).1, ?_⟩
    intro other same held
    cases found.symm.trans same
    rw [if_pos held] at taken
    rcases Results.ok_of_bind taken with ⟨message, made, handed⟩
    cases handed
    rw [makeMessage] at made
    split at made
    · cases made
      rfl
    · cases made

theorem keeps_complete {session : Nat} {response : Option Json}
    (taken : worker.complete platform response session = .ok after) : Keeps worker after := by
  cases response with
  | none =>
      cases taken
      exact .refl worker
  | some response => exact keeps_sendJson taken

theorem keeps_respond {session : Nat} {response : Option Json}
    (taken : worker.respond platform session response = .ok after) : Keeps worker after := by
  cases response with
  | none =>
      cases taken
      exact .refl worker
  | some response =>
      rcases Results.ok_of_bind taken with ⟨message, _, handed⟩
      cases handed
      exact keeps_hand worker session message

theorem keeps_onInsert (worker : WebWorker) (kind : ChannelKind) (session : Nat) :
    Keeps worker (worker.onInsert kind session) := by
  cases kind <;> exact ⟨rfl, rfl, List.prefix_rfl⟩

theorem keeps_onErase (worker : WebWorker) (kind : ChannelKind) (session : Nat) :
    Keeps worker (worker.onErase kind session) := by
  cases kind <;> exact ⟨rfl, rfl, List.prefix_rfl⟩

theorem onErase_sent (worker : WebWorker) (kind : ChannelKind) (session : Nat) :
    (worker.onErase kind session).sent = worker.sent := by
  cases kind <;> rfl

theorem Keeps.trans {middle : WebWorker} (early : Keeps worker middle)
    (late : Keeps middle after) : Keeps worker after :=
  ⟨late.channels.trans early.channels, late.sessions.trans early.sessions,
    early.sent.trans late.sent⟩

theorem membersAt_of_channels (channels : after.channels = worker.channels) (cid : UInt64) :
    after.membersAt cid = worker.membersAt cid := by
  rw [WebWorker.membersAt, WebWorker.channelAt, channels]
  rfl

theorem Keeps.membersAt (keeps : Keeps worker after) (cid : UInt64) :
    after.membersAt cid = worker.membersAt cid :=
  membersAt_of_channels keeps.channels cid

theorem Keeps.userOf (keeps : Keeps worker after) (session : Nat) :
    after.userOf session = worker.userOf session := by
  rw [WebWorker.userOf, keeps.sessions]
  rfl

end WebWorker

/-- The session waits for its next message. -/
def SessionStage.isIdle : SessionStage -> Bool
  | .idle => true
  | _ => false

theorem SessionStage.idle_of_isIdle {stage : SessionStage} (idle : stage.isIdle = true) :
    stage = .idle := by
  cases stage with
  | idle => rfl
  | _ => cases idle

/-- The request gives a name to its session. -/
def Identifies (call : RpcCall) (channel : Channel) (name : String) : Prop :=
  channel.kind = .system ∧ call.method = "identify" ∧
    checkedStringAt call.params "name" = .ok name

namespace Lounge

variable {platform : Platform} {lounge next : Lounge} {call : RpcCall}

/-! ## Requests -/

/-- What the first section of a handler can do. -/
inductive Begun (lounge : Lounge) (call : RpcCall) (channel : Channel) (user : User)
    (session : Nat) : Lounge -> Prop
  | join (named : user.name ≠ "") (outside : session ∉ channel.sessions) :
      Begun lounge call channel user session (lounge.enter call channel user session)
  | leave (inside : session ∈ channel.sessions) :
      Begun lounge call channel user session (lounge.exit call channel user session)
  | say (text : String) (named : user.name ≠ "") (inside : session ∈ channel.sessions) :
      Begun lounge call channel user session
        (lounge.announce call channel session none (channel.sayNotice user.name text))
  | identify (name : String) (identifies : Identifies call channel name)
      (unnamed : user.name = "") (outside : session ∉ channel.sessions) :
      Begun lounge call channel user session
        ((lounge.withWorker (lounge.worker.setUser session ⟨name⟩)).enter call channel ⟨name⟩
          session)
  | identifyAgain (name : String) (identifies : Identifies call channel name)
      (unnamed : user.name = "") (inside : session ∈ channel.sessions) :
      Begun lounge call channel user session
        ((lounge.withWorker (lounge.worker.setUser session ⟨name⟩)).put session (.respond call))
  | post (work : Posted) :
      Begun lounge call channel user session (lounge.doPost call session work)
  | play (moves : WebWorker.MovesRequest call channel) :
      Begun lounge call channel user session
        (lounge.withWorker (lounge.worker.postPlay call user session))

section Requests

variable {channel : Channel} {user : User} {session : Nat}

theorem named_of_checked {done : Unit} (checked : WebWorker.checkedUser user = .ok done) :
    user.name ≠ "" := by
  intro empty
  rw [WebWorker.checkedUser, if_pos empty] at checked
  cases checked

theorem begun_doJoin (taken : lounge.doJoin call channel user session = .ok next) :
    Begun lounge call channel user session next := by
  rcases Results.ok_of_bind taken with ⟨_, checked, rest⟩
  split at rest
  · cases rest
  · rename_i absent
    cases rest
    exact .join (named_of_checked checked) (mt WebWorker.isJoined_iff.mpr absent)

theorem begun_doLeave (taken : lounge.doLeave call channel user session = .ok next) :
    Begun lounge call channel user session next := by
  rw [doLeave] at taken
  cases joined : WebWorker.isJoined channel session with
  | false =>
      rw [joined] at taken
      cases taken
  | true =>
      rw [joined] at taken
      cases taken
      exact .leave (WebWorker.isJoined_iff.mp joined)

theorem begun_doSay (taken : lounge.doSay call channel user session = .ok next) :
    Begun lounge call channel user session next := by
  rcases Results.ok_of_bind taken with ⟨_, checked, rest⟩
  cases joined : WebWorker.isJoined channel session with
  | false =>
      rw [joined] at rest
      cases rest
  | true =>
      rw [joined] at rest
      rcases Results.ok_of_bind rest with ⟨text, _, announced⟩
      cases announced
      exact .say text (named_of_checked checked) (WebWorker.isJoined_iff.mp joined)

theorem begun_doIdentify (system : channel.kind = .system) (asked : call.method = "identify")
    (taken : lounge.doIdentify call channel user session = .ok next) :
    Begun lounge call channel user session next := by
  rcases Results.ok_of_bind taken with ⟨name, given, rest⟩
  split at rest
  · cases rest
  · split at rest
    · cases rest
    · rename_i unset
      have unnamed := Decidable.not_not.mp unset
      split at rest
      · rename_i joined
        cases rest
        exact .identifyAgain name ⟨system, asked, given⟩ unnamed (WebWorker.isJoined_iff.mp joined)
      · rename_i absent
        cases rest
        exact .identify name ⟨system, asked, given⟩ unnamed (mt WebWorker.isJoined_iff.mpr absent)

theorem begun_onDispatch (taken : lounge.onDispatch call channel user session = .ok next) :
    Begun lounge call channel user session next := by
  rw [onDispatch] at taken
  split at taken
  · split at taken
    · exact begun_doSay taken
    · split at taken
      · exact begun_doSay taken
      · cases taken
  · rename_i system
    split at taken
    · rename_i asked
      exact begun_doIdentify system asked taken
    · split at taken
      · cases taken
        exact .post (.shutdown 30)
      · split at taken
        · cases taken
          exact .post .stop
        · cases taken
  · rename_i table
    split at taken
    · rename_i asked
      cases taken
      exact .play ⟨table, asked⟩
    · cases taken

theorem begun_dispatchTo (taken : lounge.dispatchTo call channel user session = .ok next) :
    Begun lounge call channel user session next := by
  rw [dispatchTo] at taken
  split at taken
  · exact begun_doJoin taken
  · split at taken
    · exact begun_doLeave taken
    · exact begun_onDispatch taken

theorem process_of_addresses (owned : lounge.worker.userOf session = some user)
    (addressed : lounge.worker.Addresses platform call channel) :
    lounge.process platform call session none = lounge.dispatchTo call channel user session := by
  rcases addressed with ⟨value, cid, checked, converted, registered⟩
  simp only [process, owned]
  rw [dispatch, checked]
  simp only [bind, Except.bind, converted, registered]

theorem begun_process {ec : Option RpcCode}
    (taken : lounge.process platform call session ec = .ok next) :
    ec = none ∧ Exists fun user => Exists fun channel =>
      lounge.worker.userOf session = some user ∧
        lounge.worker.Addresses platform call channel ∧
          Begun lounge call channel user session next := by
  cases ec with
  | some code => cases taken
  | none =>
      rw [process] at taken
      split at taken
      · cases taken
      · rename_i user owned
        rcases Results.ok_of_bind taken with ⟨value, checked, rest⟩
        split at rest
        · cases rest
        · rename_i cid converted
          split at rest
          · cases rest
          · rename_i channel registered
            exact ⟨rfl, user, channel, owned, ⟨value, cid, checked, converted, registered⟩,
              begun_dispatchTo rest⟩

end Requests

/-- A text that makes a request. -/
theorem outcome_of_parse {text : Octets} {members : List (String × Json)} {ec : Option RpcCode}
    (parsed : platform.parse text = .ok (.object members))
    (extracted : RpcCall.create.extract platform (.object members) = .ok (call, ec)) :
    (WsCompletion.read none text).outcome platform = .requests call ec := by
  simp only [WsCompletion.outcome, parsed, extracted, Option.isSome_none, Bool.false_eq_true,
    if_false]

/-! ## Steps -/

/-- What one step of `send` does. -/
inductive Spreads (platform : Platform) (lounge : Lounge) (cid : UInt64) :
    Broadcast.Phase Nat Json -> WebWorker -> Broadcast.Phase Nat Json ->
      Broadcast.Event Nat Json -> Prop
  | take (notice : Broadcast.Notice Nat Json) :
      Spreads platform lounge cid (.announce notice) lounge.worker
        (.handing (lounge.log cid).length notice (lounge.worker.membersAt cid))
        (.taken notice (lounge.worker.membersAt cid))
  | hand (broadcast : Nat) (notice : Broadcast.Notice Nat Json) (receiver : Nat)
      (rest : List Nat) (worker : WebWorker) (keeps : lounge.worker.Keeps worker)
      (found : receiver < lounge.worker.sessions.length)
      (reaches : lounge.worker.Reaches worker receiver (notice.text.dump platform)) :
      Spreads platform lounge cid (.handing broadcast notice (receiver :: rest)) worker
        (.handing broadcast notice rest) (.handed broadcast notice receiver)

inductive Moved (platform : Platform) (lounge : Lounge) : LoungeLabel -> Lounge -> Prop
  | connect : Moved platform lounge .connect (lounge.withWorker lounge.worker.connect)
  | quiet {label : LoungeLabel} (worker : WebWorker) (keeps : lounge.worker.Keeps worker) :
      Moved platform lounge label (lounge.withWorker worker)
  | ends (session : Nat) (completion : WsCompletion)
      (ended : completion.outcome platform = .ends) (idle : lounge.stage session = .idle) :
      Moved platform lounge (.resume session completion) (lounge.depart session)
  | begun (session : Nat) (completion : WsCompletion) (call : RpcCall) (user : User)
      (channel : Channel) (next : Lounge)
      (requested : completion.outcome platform = .requests call none)
      (idle : lounge.stage session = .idle)
      (owned : lounge.worker.userOf session = some user)
      (addressed : lounge.worker.Addresses platform call channel)
      (begun : Begun lounge call channel user session next) :
      Moved platform lounge (.resume session completion) next
  | spread {label : LoungeLabel} (session : Nat) (cid : UInt64) (call : RpcCall)
      (phase : Broadcast.Phase Nat Json) (worker : WebWorker)
      (after : Broadcast.Phase Nat Json) (event : Broadcast.Event Nat Json)
      (busy : lounge.stage session = .busy cid call phase)
      (spreads : Spreads platform lounge cid phase worker after event) :
      Moved platform lounge label
        (((lounge.withWorker worker).put session (.busy cid call after)).record cid event)
  | closed {label : LoungeLabel} (session : Nat) (cid : UInt64) (call : RpcCall)
      (broadcast : Nat) (notice : Broadcast.Notice Nat Json) (worker : WebWorker)
      (busy : lounge.stage session = .busy cid call (.handing broadcast notice []))
      (stays : notice.change ≠ some .leave) (keeps : lounge.worker.Keeps worker) :
      Moved platform lounge label ((lounge.put session (.respond call)).withWorker worker)
  | told {label : LoungeLabel} (session : Nat) (cid : UInt64) (call : RpcCall)
      (broadcast : Nat) (notice : Broadcast.Notice Nat Json) (worker : WebWorker)
      (busy : lounge.stage session = .busy cid call (.handing broadcast notice []))
      (left : notice.change = some .leave) (keeps : lounge.worker.Keeps worker)
      (found : session < lounge.worker.sessions.length)
      (reaches : lounge.worker.Reaches worker session (notice.text.dump platform)) :
      Moved platform lounge label
        (((lounge.put session (.respond call)).withWorker worker).record cid
          (.told broadcast notice session))
  | responded {label : LoungeLabel} (session : Nat) (call : RpcCall) (worker : WebWorker)
      (responding : lounge.stage session = .respond call)
      (keeps : lounge.worker.Keeps worker) :
      Moved platform lounge label ((lounge.withWorker worker).put session .idle)
  | strand (cid : UInt64) (work : StrandWork) (channel : Channel)
      (registered : lounge.worker.channelAt cid = some channel)
      (idle : lounge.host cid = .idle) :
      Moved platform lounge (.strand cid work)
        (lounge.putHost cid (.announce ⟨none, none, work.notice channel⟩))
  | hostSpread {label : LoungeLabel} (cid : UInt64) (phase : Broadcast.Phase Nat Json)
      (worker : WebWorker) (after : Broadcast.Phase Nat Json)
      (event : Broadcast.Event Nat Json) (busy : lounge.host cid = phase)
      (spreads : Spreads platform lounge cid phase worker after event) :
      Moved platform lounge label
        (((lounge.withWorker worker).putHost cid after).record cid event)
  | hostDone {label : LoungeLabel} (cid : UInt64) (broadcast : Nat)
      (notice : Broadcast.Notice Nat Json)
      (busy : lounge.host cid = .handing broadcast notice []) :
      Moved platform lounge label (lounge.putHost cid .idle)

theorem ok_of_toOption {Result Value : Type} {result : Except Fault Result}
    {value : Result -> Value} {last : Value} (taken : result.toOption.map value = some last) :
    Exists fun found => result = .ok found ∧ value found = last := by
  cases result with
  | error fault => cases taken
  | ok found => exact ⟨found, rfl, Option.some.inj taken⟩

theorem spreads_of_spread {cid : UInt64} {phase after : Broadcast.Phase Nat Json}
    {worker : WebWorker} {event : Broadcast.Event Nat Json}
    (taken : lounge.spread platform cid phase = some (worker, after, event)) :
    Spreads platform lounge cid phase worker after event := by
  cases phase with
  | idle => cases taken
  | announce notice =>
      rcases Option.ite_none_right_eq_some.mp taken with ⟨_, copied⟩
      cases copied
      exact .take notice
  | handing broadcast notice remaining =>
      cases remaining with
      | nil => cases taken
      | cons receiver rest =>
          rcases ok_of_toOption taken with ⟨found, sent, handed⟩
          cases handed
          rcases WebWorker.reaches_sendMessage sent with ⟨found, reaches⟩
          exact .hand broadcast notice receiver rest _ (WebWorker.keeps_sendMessage sent) found
            reaches
  | gone => cases taken

theorem moved_advance {session : Nat} (taken : lounge.advance platform session = some next) :
    Moved platform lounge (.advance session) next := by
  rw [advance] at taken
  split at taken
  · rename_i cid call broadcast notice busy
    rcases Option.bind_eq_some_iff.mp taken with ⟨channel, _, closes⟩
    split at closes
    · rename_i plain
      cases closes
      have stays : notice.change ≠ some .leave := by rw [plain]; exact nofun
      exact .closed session cid call broadcast notice lounge.worker busy stays (.refl _)
    · rename_i joins
      cases closes
      have stays : notice.change ≠ some .leave := by rw [joins]; exact nofun
      have keeps := WebWorker.keeps_onInsert lounge.worker channel.kind session
      exact .closed session cid call broadcast notice _ busy stays keeps
    · rename_i left
      rcases ok_of_toOption closes with ⟨worker, sent, rfl⟩
      have keeps := (WebWorker.keeps_sendJson sent).trans
        (WebWorker.keeps_onErase worker channel.kind session)
      rcases WebWorker.reaches_sendJson sent with ⟨found, reaches⟩
      refine .told session cid call broadcast notice _ busy left keeps found ?_
      intro wrapper same held
      rw [WebWorker.onErase_sent]
      exact reaches wrapper same held
  · rename_i cid call phase _ busy
    rcases Option.map_eq_some_iff.mp taken with ⟨⟨worker, after, event⟩, spreads, rfl⟩
    exact .spread session cid call phase worker after event busy (spreads_of_spread spreads)
  · rename_i call responding
    rcases ok_of_toOption taken with ⟨worker, completed, rfl⟩
    exact .responded session call worker responding (WebWorker.keeps_complete completed)
  · cases taken

theorem moved_advanceHost {cid : UInt64} (taken : lounge.advanceHost platform cid = some next) :
    Moved platform lounge (.advanceStrand cid) next := by
  rw [advanceHost] at taken
  split at taken
  · rename_i broadcast notice busy
    cases taken
    exact .hostDone cid broadcast notice busy
  · rcases Option.map_eq_some_iff.mp taken with ⟨⟨worker, after, event⟩, spreads, rfl⟩
    exact .hostSpread cid _ worker after event rfl (spreads_of_spread spreads)

theorem moved_begin {cid : UInt64} {work : StrandWork}
    (taken : lounge.begin cid work = some next) :
    Moved platform lounge (.strand cid work) next := by
  rcases Option.bind_eq_some_iff.mp taken with ⟨channel, registered, begins⟩
  split at begins
  · rename_i idle
    rcases Option.ite_none_right_eq_some.mp begins with ⟨_, begun⟩
    cases begun
    exact .strand cid work channel registered idle
  · cases begins

theorem moved_resume {session : Nat} {completion : WsCompletion}
    (taken : lounge.resume platform session completion = some next) :
    Moved platform lounge (.resume session completion) next := by
  rw [resume] at taken
  split at taken
  · rename_i idle
    rcases Option.ite_none_right_eq_some.mp taken with ⟨_, reads⟩
    split at reads
    · rename_i ended
      cases reads
      exact .ends session completion ended idle
    · cases reads
      exact .quiet lounge.worker (.refl _)
    · cases reads
    · rename_i call ec requested
      unfold answer at reads
      split at reads
      · rename_i process
        cases reads
        rcases begun_process process with ⟨rfl, user, channel, owned, addressed, begun⟩
        exact .begun session completion call user channel _ requested idle owned addressed begun
      · rcases ok_of_toOption reads with ⟨worker, responded, rfl⟩
        exact .quiet worker (WebWorker.keeps_respond responded)
      · cases reads
  · cases taken

theorem moved_step {label : LoungeLabel} (taken : lounge.step platform label = some next) :
    Moved platform lounge label next := by
  cases label with
  | connect =>
      cases taken
      exact .connect
  | resume session completion => exact moved_resume taken
  | advance session => exact moved_advance taken
  | strand cid work => exact moved_begin taken
  | advanceStrand cid => exact moved_advanceHost taken
  | perform index messages =>
      rcases Option.map_eq_some_iff.mp taken with ⟨worker, performed, rfl⟩
      rcases Option.ite_none_right_eq_some.mp performed with ⟨_, handed⟩
      cases handed
      exact .quiet _ ⟨rfl, rfl, List.prefix_append _ _⟩

end Lounge

end EasyProspect
