import EasyProspect.Membership

namespace EasyProspect

/-!
# Requests that are not interrupted

The steps of a request, taken one after the other without those of others, leave the
worker as the handlers do that run from their beginning to their end.
-/

namespace Lounge

open Broadcast

variable {platform : Platform} {lounge next : Lounge} {session : Nat} {call : RpcCall}
variable {after : WebWorker}

/-- The session goes on alone until it is idle, and leaves this worker behind. -/
inductive Finishes (platform : Platform) (session : Nat) : Lounge -> WebWorker -> Prop
  | done {lounge : Lounge} (idle : lounge.stage session = .idle) :
      Finishes platform session lounge lounge.worker
  | more {lounge next : Lounge} {after : WebWorker}
      (taken : lounge.step platform (.advance session) = some next)
      (rest : Finishes platform session next after) : Finishes platform session lounge after

/-- What finishes is a run. -/
theorem Finishes.run (finishes : Finishes platform session lounge after) :
    Exists fun count => Exists fun last =>
      (system platform).Run lounge (List.replicate count (.advance session)) last ∧
        last.worker = after ∧ last.stage session = .idle := by
  induction finishes with
  | @done lounge idle => exact ⟨0, lounge, .refl lounge, rfl, idle⟩
  | more taken rest inductionHypothesis =>
      rcases inductionHypothesis with ⟨count, last, run, worker, idle⟩
      have first : (system platform).Run _ [.advance session] _ := .single taken
      exact ⟨count + 1, last, first.trans run, worker, idle⟩

/-! ## From the copy to the response -/

theorem stage_put (lounge : Lounge) (session : Nat) (stage : SessionStage) :
    (lounge.put session stage).stage session = stage :=
  Function.update_self _ _ _

theorem finishes_respond (responding : lounge.stage session = .respond call)
    (completed : lounge.worker.complete platform call.complete session = .ok after) :
    Finishes platform session lounge after := by
  have taken : lounge.step platform (.advance session) =
      some ((lounge.withWorker after).put session .idle) := by
    simp only [step, advance, responding, completed]
    rfl
  exact .more taken (.done (stage_put (lounge.withWorker after) session .idle))

/-- What follows the last hand, on the worker. -/
def closing (platform : Platform) (session : Nat) (kind : ChannelKind)
    (notice : Notice Nat Json) (worker : WebWorker) : Except Fault WebWorker :=
  match notice.change with
  | none => .ok worker
  | some .join => .ok (worker.onInsert kind session)
  | some .leave => do
      let worker <- worker.sendJson platform session notice.text
      .ok (worker.onErase kind session)

section Sending

variable {cid : UInt64} {broadcast : Nat} {notice : Notice Nat Json} {channel : Channel}
variable {sent closed : WebWorker}

theorem finishes_close (busy : lounge.stage session = .busy cid call (.handing broadcast notice []))
    (found : lounge.worker.channelAt cid = some channel)
    (closes : closing platform session channel.kind notice lounge.worker = .ok closed)
    (completed : closed.complete platform call.complete session = .ok after) :
    Finishes platform session lounge after := by
  have advances : Exists fun next => lounge.step platform (.advance session) = some next ∧
      next.stage session = .respond call ∧ next.worker = closed := by
    have begins : lounge.step platform (.advance session) =
        lounge.close platform session cid call broadcast notice := by
      simp only [step, advance, busy]
    rw [begins, close, found, Option.bind_some]
    unfold closing at closes
    have responds := stage_put lounge session (.respond call)
    cases change : notice.change with
    | none =>
        rw [change] at closes
        cases closes
        exact ⟨_, rfl, responds, rfl⟩
    | some change' =>
        rw [change] at closes
        cases change' with
        | join =>
            cases closes
            exact ⟨_, rfl, responds, rfl⟩
        | leave =>
            rcases Results.ok_of_bind closes with ⟨told, given, erased⟩
            cases erased
            simp only [given]
            exact ⟨_, rfl, responds, rfl⟩
  rcases advances with ⟨next, taken, responding, rfl⟩
  exact .more taken (finishes_respond responding completed)

theorem finishes_handing {remaining : List Nat}
    (busy : lounge.stage session = .busy cid call (.handing broadcast notice remaining))
    (found : lounge.worker.channelAt cid = some channel)
    (handed : lounge.worker.sendAll remaining (notice.text.dump platform) = .ok sent)
    (closes : closing platform session channel.kind notice sent = .ok closed)
    (completed : closed.complete platform call.complete session = .ok after) :
    Finishes platform session lounge after := by
  induction remaining generalizing lounge with
  | nil =>
      cases handed
      exact finishes_close busy found closes completed
  | cons receiver rest inductionHypothesis =>
      rw [WebWorker.sendAll, List.foldlM_cons] at handed
      rcases Results.ok_of_bind handed with ⟨worker, first, later⟩
      have taken : lounge.step platform (.advance session) =
          some (((lounge.withWorker worker).put session
            (.busy cid call (.handing broadcast notice rest))).record cid
              (.handed broadcast notice receiver)) := by
        simp only [step, advance, busy, spread, first]
        rfl
      have keeps := WebWorker.keeps_sendMessage first
      refine .more taken (inductionHypothesis (stage_put _ _ _) ?_ later)
      show worker.channelAt cid = some channel
      rw [WebWorker.channelAt, keeps.channels]
      exact found

theorem finishes_announce (busy : lounge.stage session = .busy cid call (.announce notice))
    (found : lounge.worker.channelAt cid = some channel)
    (told : lounge.worker.broadcast platform channel.sessions notice.text = .ok sent)
    (closes : closing platform session channel.kind notice sent = .ok closed)
    (completed : closed.complete platform call.complete session = .ok after) :
    Finishes platform session lounge after := by
  rcases Results.ok_of_bind told with ⟨message, made, handed⟩
  cases WebWorker.message_of_make made
  have fits : Fits platform notice.text := by
    by_contra long
    rw [makeMessage, if_neg long] at made
    cases made
  have members := WebWorker.membersAt_of_some found
  have taken : lounge.step platform (.advance session) =
      some ((lounge.put session (.busy cid call
        (.handing (lounge.log cid).length notice channel.sessions))).record cid
          (.taken notice channel.sessions)) := by
    simp only [step, advance, busy, spread, if_pos fits, members]
    rfl
  have handing := stage_put lounge session
    (.busy cid call (.handing (lounge.log cid).length notice channel.sessions))
  exact .more taken (finishes_handing handing found handed closes completed)

end Sending

/-! ## What the second `try` block does not catch -/

/-- The result is not one that the second `try` block catches. -/
def Uncaught {Result : Type} (result : Except Fault Result) : Prop :=
  forall error, result ≠ .error (.rpcError error)

theorem uncaught_bind {Value Result : Type} {result : Except Fault Value}
    {continuation : Value -> Except Fault Result} (first : Uncaught result)
    (later : forall value, Uncaught (continuation value)) : Uncaught (result >>= continuation) := by
  intro error failed
  rcases Results.error_of_bind failed with early | ⟨value, _, late⟩
  · exact first error early
  · exact later value error late

theorem uncaught_ok {Result : Type} (value : Result) : Uncaught (.ok value) :=
  fun _ => nofun

section Sends

variable {worker : WebWorker} {jv : Json} {channel : Channel} {user : User}

theorem uncaught_makeMessage : Uncaught (makeMessage platform jv) := by
  intro error failed
  rw [makeMessage] at failed
  split at failed <;> cases failed

theorem uncaught_sendMessage {receiver : Nat} {message : String} :
    Uncaught (worker.sendMessage receiver message) := by
  intro error failed
  rw [WebWorker.sendMessage] at failed
  split at failed
  · cases failed
  · split at failed <;> cases failed

theorem uncaught_sendAll {members : List Nat} {message : String} :
    Uncaught (worker.sendAll members message) := by
  induction members generalizing worker with
  | nil => exact uncaught_ok worker
  | cons member members inductionHypothesis =>
      rw [WebWorker.sendAll, List.foldlM_cons]
      exact uncaught_bind uncaught_sendMessage fun _ => inductionHypothesis

theorem uncaught_broadcast {members : List Nat} :
    Uncaught (worker.broadcast platform members jv) :=
  uncaught_bind uncaught_makeMessage fun _ => uncaught_sendAll

theorem uncaught_sendJson : Uncaught (worker.sendJson platform session jv) := by
  rw [WebWorker.sendJson]
  split
  · rintro fault ⟨⟩
  · split
    · exact uncaught_bind uncaught_makeMessage fun _ => uncaught_ok _
    · exact uncaught_ok worker

theorem uncaught_complete {response : Option Json} :
    Uncaught (worker.complete platform response session) := by
  cases response with
  | none => exact uncaught_ok worker
  | some response => exact uncaught_sendJson

end Sends

/-! ## Handlers -/

/-- What a request that is not interrupted comes to: the same error that is answered, or the
worker that its steps leave behind. -/
inductive Alone (platform : Platform) (session : Nat) :
    Except Fault WebWorker -> Except Fault Lounge -> Prop
  | succeeds {after : WebWorker} {begun : Lounge}
      (finishes : Finishes platform session begun after) :
      Alone platform session (.ok after) (.ok begun)
  | refused (error : RpcError) :
      Alone platform session (.error (.rpcError error)) (.error (.rpcError error))
  | fails {result : Except Fault WebWorker} (begun : Except Fault Lounge)
      (uncaught : Uncaught result) (failed : forall after, result ≠ .ok after) :
      Alone platform session result begun

section Handlers

variable {channel : Channel} {user : User}

/-- After the checks nothing is caught any more. -/
theorem alone_of_uncaught {result : Except Fault WebWorker} {begun : Lounge}
    (uncaught : Uncaught result)
    (finishes : forall after, result = .ok after -> Finishes platform session begun after) :
    Alone platform session result (.ok begun) := by
  cases result with
  | ok after => exact .succeeds (finishes after rfl)
  | error fault => exact .fails _ uncaught fun _ => nofun

theorem alone_error (fault : Fault) :
    Alone platform session (.error fault) (.error fault) := by
  cases fault with
  | rpcError error => exact .refused error
  | _ => exact .fails _ (fun _ => nofun) fun _ => nofun

/-- An insertion of one who is no member. -/
theorem alone_enter (found : lounge.worker.channelAt channel.cid = some channel)
    (outside : session ∉ channel.sessions)
    {continuation : WebWorker × Bool -> Except Fault WebWorker}
    (completes : forall worker, continuation (worker, true) =
      worker.complete platform call.complete session) :
    Alone platform session
      (lounge.worker.insert platform channel user session >>= continuation)
      (.ok (lounge.enter call channel user session)) := by
  rw [WebWorker.insert, if_neg (mt WebWorker.isJoined_iff.mp outside), bind_assoc]
  refine alone_of_uncaught (uncaught_bind uncaught_broadcast fun sent => ?_) fun after taken => ?_
  · show Uncaught (continuation (sent.onInsert channel.kind session, true))
    rw [completes]
    exact uncaught_complete
  · rcases Results.ok_of_bind taken with ⟨sent, told, completed⟩
    have last : continuation (sent.onInsert channel.kind session, true) = .ok after := completed
    rw [completes] at last
    exact finishes_announce (stage_put _ _ _) (WebWorker.channelAt_setMembers found _) told rfl
      last

theorem alone_doJoin (found : lounge.worker.channelAt channel.cid = some channel) :
    Alone platform session (lounge.worker.doJoin platform call channel user session)
      (lounge.doJoin call channel user session) := by
  rw [WebWorker.doJoin, doJoin, WebWorker.checkedUser]
  by_cases anonymous : user.name = ""
  · rw [if_pos anonymous]
    exact .refused _
  · rw [if_neg anonymous]
    by_cases member : session ∈ channel.sessions
    · have present := WebWorker.isJoined_iff.mpr member
      rw [WebWorker.insert, if_pos present, if_pos present]
      exact .refused _
    · rw [if_neg (mt WebWorker.isJoined_iff.mp member)]
      exact alone_enter found member fun _ => rfl

theorem alone_doLeave (found : lounge.worker.channelAt channel.cid = some channel) :
    Alone platform session (lounge.worker.doLeave platform call channel user session)
      (lounge.doLeave call channel user session) := by
  rw [WebWorker.doLeave, doLeave, WebWorker.erase]
  cases joined : WebWorker.isJoined channel session with
  | false => exact .refused _
  | true =>
      simp only [Bool.not_true, Bool.false_eq_true, if_false, bind_assoc]
      refine alone_of_uncaught (uncaught_bind uncaught_broadcast fun sent =>
        uncaught_bind uncaught_sendJson fun own => uncaught_complete) fun after taken => ?_
      rcases Results.ok_of_bind taken with ⟨sent, told, rest⟩
      rcases Results.ok_of_bind rest with ⟨own, given, completed⟩
      have closes : closing platform session channel.kind
          ⟨some session, some .leave, channel.notice "leave" user.name⟩ sent =
            .ok (own.onErase channel.kind session) := by
        simp only [closing, given]
        rfl
      exact finishes_announce (stage_put _ _ _) (WebWorker.channelAt_setMembers found _) told
        closes completed

theorem alone_doSay (found : lounge.worker.channelAt channel.cid = some channel) :
    Alone platform session (lounge.worker.doSay platform call channel user session)
      (lounge.doSay call channel user session) := by
  rw [WebWorker.doSay, doSay, WebWorker.checkedUser]
  by_cases anonymous : user.name = ""
  · rw [if_pos anonymous]
    exact .refused _
  · rw [if_neg anonymous]
    cases joined : WebWorker.isJoined channel session with
    | false => exact .refused _
    | true =>
        show Alone platform session (checkedStringAt call.params "message" >>= _)
          (checkedStringAt call.params "message" >>= _)
        cases given : checkedStringAt call.params "message" with
        | error fault => exact alone_error fault
        | ok text =>
            show Alone platform session
              (lounge.worker.broadcast platform channel.sessions
                  (channel.sayNotice user.name text) >>= fun worker =>
                worker.complete platform call.complete session)
              (.ok (lounge.announce call channel session none (channel.sayNotice user.name text)))
            refine alone_of_uncaught (uncaught_bind uncaught_broadcast fun sent =>
              uncaught_complete) fun after taken => ?_
            rcases Results.ok_of_bind taken with ⟨sent, told, completed⟩
            exact finishes_announce (stage_put _ _ _) found told rfl completed

theorem alone_doIdentify (found : lounge.worker.channelAt channel.cid = some channel) :
    Alone platform session (lounge.worker.doIdentify platform call channel user session)
      (lounge.doIdentify call channel user session) := by
  rw [WebWorker.doIdentify, doIdentify]
  cases given : checkedStringAt call.params "name" with
  | error fault => exact alone_error fault
  | ok name =>
      show Alone platform session (if 20 < name.utf8ByteSize then _ else _)
        (if 20 < name.utf8ByteSize then _ else _)
      by_cases long : 20 < name.utf8ByteSize
      · rw [if_pos long, if_pos long]
        exact .refused _
      · rw [if_neg long, if_neg long]
        by_cases identified : user.name ≠ ""
        · rw [if_pos identified, if_pos identified]
          exact .refused _
        · rw [if_neg identified, if_neg identified]
          show Alone platform session
            ((lounge.worker.setUser session ⟨name⟩).insert platform channel ⟨name⟩ session >>=
              fun inserted => inserted.1.complete platform call.complete session)
            (if WebWorker.isJoined channel session then _ else _)
          by_cases member : session ∈ channel.sessions
          · have present := WebWorker.isJoined_iff.mpr member
            rw [WebWorker.insert, if_pos present, if_pos present]
            exact alone_of_uncaught uncaught_complete fun after completed =>
              finishes_respond (stage_put _ _ _) completed
          · rw [if_neg (mt WebWorker.isJoined_iff.mp member)]
            have named : (lounge.withWorker (lounge.worker.setUser session ⟨name⟩)).worker.channelAt
                channel.cid = some channel := found
            apply alone_enter named member
            exact fun _ => rfl

theorem alone_doPost (work : Posted) :
    Alone platform session ((lounge.worker.post work).complete platform call.complete session)
      (.ok (lounge.doPost call session work)) :=
  alone_of_uncaught uncaught_complete fun _ completed =>
    finishes_respond (stage_put _ _ _) completed

theorem alone_onDispatch (found : lounge.worker.channelAt channel.cid = some channel)
    (idle : lounge.stage session = .idle) :
    Alone platform session (lounge.worker.onDispatch platform call channel user session)
      (lounge.onDispatch call channel user session) := by
  rw [WebWorker.onDispatch, onDispatch]
  cases channel.kind with
  | room =>
      by_cases say : call.method = "say"
      · simp only [if_pos say]
        exact alone_doSay found
      · by_cases slash : call.method = "slash"
        · simp only [if_neg say, if_pos slash]
          exact alone_doSay found
        · simp only [if_neg say, if_neg slash]
          exact .refused _
  | system =>
      by_cases identify : call.method = "identify"
      · simp only [if_pos identify]
        exact alone_doIdentify found
      · by_cases shutdown : call.method = "shutdown"
        · simp only [if_neg identify, if_pos shutdown]
          exact alone_doPost (.shutdown 30)
        · by_cases stop : call.method = "stop"
          · simp only [if_neg identify, if_neg shutdown, if_pos stop]
            exact alone_doPost .stop
          · simp only [if_neg identify, if_neg shutdown, if_neg stop]
            exact .refused _
  | table =>
      by_cases plays : call.method ∈ WebWorker.tableMethods
      · simp only [if_pos plays]
        have done : Finishes platform session
            (lounge.withWorker (lounge.worker.postPlay call user session))
            (lounge.worker.postPlay call user session) := .done idle
        exact .succeeds done
      · simp only [if_neg plays]
        exact .refused _

theorem alone_dispatchTo (found : lounge.worker.channelAt channel.cid = some channel)
    (idle : lounge.stage session = .idle) :
    Alone platform session (lounge.worker.dispatchTo platform call channel user session)
      (lounge.dispatchTo call channel user session) := by
  rw [WebWorker.dispatchTo, dispatchTo]
  by_cases join : call.method = "join"
  · rw [if_pos join, if_pos join]
    exact alone_doJoin found
  · rw [if_neg join, if_neg join]
    by_cases leave : call.method = "leave"
    · rw [if_pos leave, if_pos leave]
      exact alone_doLeave found
    · rw [if_neg leave, if_neg leave]
      exact alone_onDispatch found idle

end Handlers

/-! ## Requests -/

theorem alone_process (registered : lounge.Registered) (idle : lounge.stage session = .idle)
    (ec : Option RpcCode) :
    Alone platform session (lounge.worker.process platform session call ec)
      (lounge.process platform call session ec) := by
  cases ec with
  | some code => exact .refused _
  | none =>
      rw [WebWorker.process, process, WebWorker.userOf]
      cases (lounge.worker.sessions[session]?).bind WsSession.primaryUser with
      | none => exact .fails _ (by rintro _ ⟨⟩) (by rintro _ ⟨⟩)
      | some user =>
          show Alone platform session (lounge.worker.dispatch platform call user session)
            (lounge.dispatch platform call user session)
          rw [WebWorker.dispatch, dispatch]
          cases given : checkedValue call.params "cid" with
          | error fault => exact alone_error fault
          | ok value =>
              simp only [bind, Except.bind]
              cases value.getSize platform with
              | error exception => exact alone_error (.json exception)
              | ok cid =>
                  cases found : lounge.worker.channelAt cid with
                  | none =>
                      simp only [found]
                      exact .refused _
                  | some channel =>
                      simp only [found]
                      have own : lounge.worker.channelAt channel.cid = some channel := by
                        rw [registered cid channel found]
                        exact found
                      exact alone_dispatchTo own idle

/-- The answer to the result of a handler. -/
theorem answer_alone {result : Except Fault WebWorker} {begun : Except Fault Lounge}
    (alone : Alone platform session result begun) (idle : lounge.stage session = .idle)
    {passed : Passed}
    (answered : lounge.worker.answer platform session call result = .ok (after, passed)) :
    passed = .nextRead ∧ Exists fun next => lounge.answer platform call session begun = some next ∧
      Finishes platform session next after := by
  rcases WebWorker.answer_cases answered with ⟨waits, outcome⟩
  refine ⟨waits, ?_⟩
  cases alone with
  | succeeds finishes =>
      rcases outcome with same | ⟨error, other, _⟩
      · cases same
        exact ⟨_, rfl, finishes⟩
      · cases other
  | refused error =>
      rcases outcome with same | ⟨_, same, responded⟩
      · cases same
      · cases same
        refine ⟨lounge.withWorker after, ?_, .done idle⟩
        simp only [answer, responded]
        rfl
  | fails begun uncaught failed =>
      rcases outcome with same | ⟨error, same, _⟩
      · exact absurd same (failed after)
      · exact absurd same (uncaught error)

/-- What `operator()` has done if it has returned. -/
theorem outcome_of_resume {worker : WebWorker} {completion : WsCompletion} {passed : Passed}
    (taken : worker.resume platform session completion = .ok (after, passed)) :
    completion.outcome platform = .ends ∧ passed = .failed ∧ after = worker ∨
      completion.outcome platform = .waits ∧ passed = .nextRead ∧ after = worker ∨
      Exists fun call => Exists fun ec => completion.outcome platform = .requests call ec ∧
        worker.answer platform session call (worker.process platform session call ec) =
          .ok (after, passed) := by
  cases completion with
  | accepted ec =>
      cases ec with
      | none =>
          cases taken
          exact Or.inr (Or.inl ⟨rfl, rfl, rfl⟩)
      | some code =>
          cases taken
          exact Or.inl ⟨rfl, rfl, rfl⟩
  | read ec text =>
      cases ec with
      | some code =>
          cases taken
          exact Or.inl ⟨rfl, rfl, rfl⟩
      | none =>
          have received : worker.receive platform session text = .ok (after, passed) := taken
          rcases WebWorker.receive_cases received with ⟨parsed, failed, same⟩ |
            ⟨jv, call, ec, parsed, extracts, answered⟩
          · have ends : (WsCompletion.read none text).outcome platform = .ends := by
              simp only [WsCompletion.outcome, Option.isSome_none, Bool.false_eq_true, if_false,
                parsed]
            exact Or.inl ⟨ends, failed, same⟩
          · have requests : (WsCompletion.read none text).outcome platform = .requests call ec := by
              simp only [WsCompletion.outcome, Option.isSome_none, Bool.false_eq_true, if_false,
                parsed, extracts]
            exact Or.inr (Or.inr ⟨call, ec, requests, answered⟩)

/-- A completion that is handled without interruption leaves the worker that `operator()`
leaves. -/
theorem resume_alone (registered : lounge.Registered) (idle : lounge.stage session = .idle)
    (known : session < lounge.worker.sessions.length) {completion : WsCompletion}
    {passed : Passed}
    (taken : lounge.worker.resume platform session completion = .ok (after, passed)) :
    Exists fun next => lounge.step platform (.resume session completion) = some next ∧
      ((passed = .failed ∧ next = lounge.depart session ∧ after = lounge.worker) ∨
        passed = .nextRead ∧ Finishes platform session next after) := by
  rcases outcome_of_resume taken with ⟨outcome, failed, same⟩ | ⟨outcome, waits, rfl⟩ |
    ⟨call, ec, outcome, answered⟩
  · simp only [step, resume, idle, if_pos known, outcome]
    exact ⟨_, rfl, Or.inl ⟨failed, rfl, same⟩⟩
  · simp only [step, resume, idle, if_pos known, outcome]
    exact ⟨lounge, rfl, Or.inr ⟨waits, .done idle⟩⟩
  · simp only [step, resume, idle, if_pos known, outcome]
    rcases answer_alone (alone_process registered idle ec) idle answered with
      ⟨waits, next, begun, finishes⟩
    exact ⟨next, begun, Or.inr ⟨waits, finishes⟩⟩

/-- The same, as a run of nothing but this session. -/
theorem run_alone (reachable : (system platform).Reachable lounge)
    (idle : lounge.stage session = .idle) (known : session < lounge.worker.sessions.length)
    {completion : WsCompletion} {passed : Passed}
    (taken : lounge.worker.resume platform session completion = .ok (after, passed)) :
    Exists fun count => Exists fun last =>
      (system platform).Run lounge
          (.resume session completion :: List.replicate count (.advance session)) last ∧
        last.worker = after ∧ (passed = .failed -> last.stage session = .ended) ∧
          (passed = .nextRead -> last.stage session = .idle) := by
  rcases resume_alone (registered_reachable reachable) idle known taken with
    ⟨next, begun, ⟨failed, rfl, same⟩ | ⟨waits, finishes⟩⟩
  · refine ⟨0, lounge.depart session, .single begun, same.symm, fun _ => stage_put _ _ _, ?_⟩
    rw [failed]
    exact nofun
  · rcases finishes.run with ⟨count, last, run, worker, stopped⟩
    have first : (system platform).Run lounge [.resume session completion] next := .single begun
    refine ⟨count, last, first.trans run, worker, ?_, fun _ => stopped⟩
    rw [waits]
    exact nofun

end Lounge

end EasyProspect
