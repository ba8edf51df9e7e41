import EasyProspect.Departures
import EasyProspect.Library.SpokenOrder

namespace EasyProspect

/-!
# What is said in a channel is sent

The log of a channel says to whom a notice is handed.  What is handed to a session whose
wrapper still holds it has been given to `send` of that session, once for each time and in
that order.  So the listeners of a channel are sent what each speaker says in the order in
which it was said.
-/

/-- The messages given to `send` of a session. -/
def WebWorker.sentTo (worker : WebWorker) (session : Nat) : List String :=
  worker.sent.filterMap fun given => if given.1 = session then some given.2 else none

namespace WebWorker

variable {worker after : WebWorker}

/-- The wrapper of the session has not been moved from. -/
def Holds (worker : WebWorker) (session : Nat) : Prop :=
  Exists fun wrapper => worker.sessions[session]? = some wrapper ∧ wrapper.plainPtr = true

/-- Nothing that was sent is taken back, and no wrapper gets its session back. -/
structure Retains (worker after : WebWorker) : Prop where
  sessions : worker.sessions.length ≤ after.sessions.length
  holds : forall session, session < worker.sessions.length -> after.Holds session ->
    worker.Holds session
  sent : worker.sent <+: after.sent

theorem Keeps.retains (keeps : worker.Keeps after) : worker.Retains after where
  sessions := Nat.le_of_eq (congrArg List.length keeps.sessions).symm
  holds := by
    intro session _ holds
    rwa [Holds, keeps.sessions] at holds
  sent := keeps.sent

theorem retains_connect (worker : WebWorker) : worker.Retains worker.connect where
  sessions := by
    change worker.sessions.length ≤ (worker.sessions ++ [_]).length
    rw [List.length_append]
    exact Nat.le_add_right _ _
  holds := by
    rintro session within ⟨wrapper, found, held⟩
    change (worker.sessions ++ [_])[session]? = some wrapper at found
    rw [List.getElem?_append_left within] at found
    exact ⟨wrapper, found, held⟩
  sent := List.prefix_rfl

/-- Changing one wrapper in a way that does not give it a session. -/
theorem retains_modify {session : Nat} {change : WsSession -> WsSession}
    (sessions : after.sessions = worker.sessions.modify session change)
    (emptied : forall wrapper, (change wrapper).plainPtr = true -> wrapper.plainPtr = true)
    (sent : after.sent = worker.sent) : worker.Retains after where
  sessions := by
    rw [sessions, List.length_modify]
  holds := by
    rintro other _ ⟨wrapper, found, held⟩
    rw [sessions, List.getElem?_modify] at found
    rcases Option.map_eq_some_iff.mp found with ⟨before, own, same⟩
    refine ⟨before, own, ?_⟩
    subst same
    split at held
    · exact emptied before held
    · exact held
  sent := sent ▸ List.prefix_rfl

theorem retains_setUser (worker : WebWorker) (session : Nat) (user : User) :
    worker.Retains (worker.setUser session user) :=
  retains_modify rfl (fun _ held => held) rfl

theorem retains_postPlay (worker : WebWorker) (call : RpcCall) (user : User) (session : Nat) :
    worker.Retains (worker.postPlay call user session) := by
  rw [postPlay]
  split
  · exact (Keeps.refl worker).retains
  · exact retains_modify rfl (fun _ held => absurd held Bool.false_ne_true) rfl

theorem sentTo_of_prefix (sent : worker.sent <+: after.sent) (session : Nat) :
    (worker.sentTo session).Sublist (after.sentTo session) :=
  sent.sublist.filterMap _

theorem sentTo_of_reaches {session : Nat} {message : String}
    (reaches : worker.Reaches after session message) (holds : worker.Holds session) :
    after.sentTo session = worker.sentTo session ++ [message] := by
  rcases holds with ⟨wrapper, found, held⟩
  rw [sentTo, reaches wrapper found held, Broadcast.filterMap_concat, if_pos rfl]
  rfl

end WebWorker

namespace Lounge

open Broadcast

variable {platform : Platform} {lounge next : Lounge}

/-! ## What is handed to a session -/

/-- The message that an event hands to a session. -/
def handsTo (platform : Platform) (session : Nat) : Event Nat Json -> Option String
  | .handed _ notice receiver =>
      if receiver = session then some (notice.text.dump platform) else none
  | .told _ notice receiver =>
      if receiver = session then some (notice.text.dump platform) else none
  | _ => none

/-- The messages of a channel for a session, in the order in which they are handed out. -/
def handedTo (platform : Platform) (lounge : Lounge) (cid : UInt64) (session : Nat) :
    List String :=
  (lounge.log cid).filterMap (handsTo platform session)

/-- What is handed to a session that its wrapper holds is sent to it. -/
structure Sends (platform : Platform) (lounge : Lounge) (cid : UInt64) : Prop where
  known : forall session, lounge.handedTo platform cid session ≠ [] ->
    session < lounge.worker.sessions.length
  sent : forall session, lounge.worker.Holds session ->
    (lounge.handedTo platform cid session).Sublist (lounge.worker.sentTo session)

variable {cid : UInt64}

/-- A step that hands nothing out in the channel. -/
theorem Sends.same (sends : lounge.Sends platform cid)
    (retains : lounge.worker.Retains next.worker)
    (handed : forall session, next.handedTo platform cid session =
      lounge.handedTo platform cid session) : next.Sends platform cid where
  known := by
    intro session some_handed
    rw [handed] at some_handed
    exact Nat.lt_of_lt_of_le (sends.known session some_handed) retains.sessions
  sent := by
    intro session holds
    rw [handed]
    by_cases nothing : lounge.handedTo platform cid session = []
    · rw [nothing]
      exact List.nil_sublist _
    · have before := retains.holds session (sends.known session nothing) holds
      exact (sends.sent session before).trans (WebWorker.sentTo_of_prefix retains.sent session)

/-- A step that hands a message to one session. -/
theorem Sends.handing (sends : lounge.Sends platform cid)
    (retains : lounge.worker.Retains next.worker) {receiver : Nat} {message : String}
    (found : receiver < lounge.worker.sessions.length)
    (reaches : lounge.worker.Reaches next.worker receiver message)
    (handed : forall session, next.handedTo platform cid session =
      lounge.handedTo platform cid session ++ if receiver = session then [message] else []) :
    next.Sends platform cid where
  known := by
    intro session some_handed
    rw [handed] at some_handed
    by_cases same : receiver = session
    · exact same ▸ Nat.lt_of_lt_of_le found retains.sessions
    · rw [if_neg same, List.append_nil] at some_handed
      exact Nat.lt_of_lt_of_le (sends.known session some_handed) retains.sessions
  sent := by
    intro session holds
    rw [handed]
    by_cases same : receiver = session
    · subst same
      have before := retains.holds receiver found holds
      rw [if_pos rfl, WebWorker.sentTo_of_reaches reaches before]
      exact (sends.sent receiver before).append_right [message]
    · rw [if_neg same, List.append_nil]
      by_cases nothing : lounge.handedTo platform cid session = []
      · rw [nothing]
        exact List.nil_sublist _
      · have before := retains.holds session (sends.known session nothing) holds
        exact (sends.sent session before).trans
          (WebWorker.sentTo_of_prefix retains.sent session)

theorem handedTo_concat {event : Event Nat Json}
    (log : next.log cid = lounge.log cid ++ [event]) (session : Nat) :
    next.handedTo platform cid session =
      lounge.handedTo platform cid session ++ (handsTo platform session event).toList := by
  rw [handedTo, log, filterMap_concat]
  rfl

/-- An event is recorded in one channel, and the others are as before. -/
theorem sends_record (sends : forall cid, lounge.Sends platform cid)
    (retains : lounge.worker.Retains next.worker) {event : Event Nat Json}
    (logs : next.log = Function.update lounge.log cid (lounge.log cid ++ [event]))
    (here : (forall session, next.handedTo platform cid session =
      lounge.handedTo platform cid session ++ (handsTo platform session event).toList) ->
        next.Sends platform cid) (other : UInt64) : next.Sends platform other := by
  by_cases same : other = cid
  · subst same
    refine here fun session => handedTo_concat ?_ session
    rw [logs, Function.update_self]
  · refine (sends other).same retains fun session => ?_
    rw [handedTo, logs, Function.update_of_ne same]
    rfl

/-- What is recorded hands nothing to anybody. -/
theorem sends_silent (sends : forall cid, lounge.Sends platform cid)
    (retains : lounge.worker.Retains next.worker) {event : Event Nat Json}
    (logs : next.log = Function.update lounge.log cid (lounge.log cid ++ [event]))
    (silent : forall session, handsTo platform session event = none) (other : UInt64) :
    next.Sends platform other := by
  refine sends_record sends retains logs (fun handed => (sends cid).same retains ?_) other
  intro session
  rw [handed session, silent session]
  exact List.append_nil _

/-- What is recorded hands a message to one session, and it is sent there. -/
theorem sends_message (sends : forall cid, lounge.Sends platform cid)
    (keeps : lounge.worker.Keeps next.worker) {event : Event Nat Json} {receiver : Nat}
    {message : String} (found : receiver < lounge.worker.sessions.length)
    (reaches : lounge.worker.Reaches next.worker receiver message)
    (logs : next.log = Function.update lounge.log cid (lounge.log cid ++ [event]))
    (hands : forall session, handsTo platform session event =
      if receiver = session then some message else none) (other : UInt64) :
    next.Sends platform other := by
  refine sends_record sends keeps.retains logs
    (fun handed => (sends cid).handing keeps.retains found reaches ?_) other
  intro session
  rw [handed session, hands session]
  by_cases same : receiver = session
  · rw [if_pos same, if_pos same]
    rfl
  · rw [if_neg same, if_neg same]
    rfl

theorem enter_log (lounge : Lounge) (call : RpcCall) (channel : Channel) (user : User)
    (session : Nat) :
    (lounge.enter call channel user session).log = Function.update lounge.log channel.cid
      (lounge.log channel.cid ++ [.changed session .join]) := rfl

theorem exit_log (lounge : Lounge) (call : RpcCall) (channel : Channel) (user : User)
    (session : Nat) :
    (lounge.exit call channel user session).log = Function.update lounge.log channel.cid
      (lounge.log channel.cid ++ [.changed session .leave]) := rfl

theorem sends_begun {call : RpcCall} {channel : Channel} {user : User} {session : Nat}
    (sends : forall cid, lounge.Sends platform cid)
    (begun : Begun lounge call channel user session next) (other : UInt64) :
    next.Sends platform other := by
  have unchanged : forall worker : WebWorker, worker.sessions = lounge.worker.sessions ->
      worker.sent = lounge.worker.sent -> lounge.worker.Retains worker := by
    intro worker sessions sent
    refine ⟨Nat.le_of_eq (congrArg List.length sessions).symm, fun _ _ held => ?_,
      sent ▸ List.prefix_rfl⟩
    rwa [WebWorker.Holds, sessions] at held
  cases begun with
  | join =>
      have retains : lounge.worker.Retains (lounge.enter call channel user session).worker :=
        unchanged _ rfl rfl
      exact sends_silent sends retains (enter_log lounge call channel user session)
        (fun _ => rfl) other
  | leave =>
      have retains : lounge.worker.Retains (lounge.exit call channel user session).worker :=
        unchanged _ rfl rfl
      exact sends_silent sends retains (exit_log lounge call channel user session)
        (fun _ => rfl) other
  | say => exact (sends other).same (unchanged _ rfl rfl) fun _ => rfl
  | identify name =>
      have named := WebWorker.retains_setUser lounge.worker session ⟨name⟩
      have retains : lounge.worker.Retains ((lounge.withWorker
          (lounge.worker.setUser session ⟨name⟩)).enter call channel ⟨name⟩ session).worker :=
        ⟨named.sessions, named.holds, named.sent⟩
      exact sends_silent sends retains (enter_log _ call channel ⟨name⟩ session)
        (fun _ => rfl) other
  | identifyAgain name =>
      have retains := WebWorker.retains_setUser lounge.worker session ⟨name⟩
      exact (sends other).same retains fun _ => rfl
  | post work => exact (sends other).same (unchanged _ rfl rfl) fun _ => rfl
  | play =>
      have retains := WebWorker.retains_postPlay lounge.worker call user session
      exact (sends other).same retains fun _ => rfl

theorem sends_spread {phase after : Broadcast.Phase Nat Json} {worker : WebWorker}
    {event : Event Nat Json} (sends : forall cid, lounge.Sends platform cid)
    (spreads : Spreads platform lounge cid phase worker after event)
    (workers : next.worker = worker)
    (logs : next.log = Function.update lounge.log cid (lounge.log cid ++ [event]))
    (other : UInt64) : next.Sends platform other := by
  cases spreads with
  | take =>
      have retains := (WebWorker.Keeps.refl lounge.worker).retains
      exact sends_silent sends (workers.symm ▸ retains) logs (fun _ => rfl) other
  | hand broadcast notice receiver rest worker keeps found reaches =>
      exact sends_message sends (workers.symm ▸ keeps) found (workers.symm ▸ reaches) logs
        (fun _ => rfl) other

theorem sends_moved {label : LoungeLabel} (sends : forall cid, lounge.Sends platform cid)
    (moved : Moved platform lounge label next) (cid : UInt64) : next.Sends platform cid := by
  cases moved with
  | connect => exact (sends cid).same (WebWorker.retains_connect lounge.worker) fun _ => rfl
  | quiet worker keeps => exact (sends cid).same keeps.retains fun _ => rfl
  | ends session completion =>
      refine (sends cid).same (WebWorker.Keeps.refl _).retains fun other => ?_
      exact (handedTo_concat rfl other).trans (List.append_nil _)
  | begun session completion call user channel next requested idle owned addressed begun =>
      exact sends_begun sends begun cid
  | spread session at_ call phase worker after event busy spreads =>
      exact sends_spread sends spreads rfl rfl cid
  | closed session at_ call broadcast notice worker busy stays keeps =>
      exact (sends cid).same keeps.retains fun _ => rfl
  | told session at_ call broadcast notice worker busy left keeps found reaches =>
      exact sends_message sends keeps found reaches rfl (fun _ => rfl) cid
  | responded session call worker responding keeps =>
      exact (sends cid).same keeps.retains fun _ => rfl
  | strand => exact (sends cid).same (WebWorker.Keeps.refl _).retains fun _ => rfl
  | hostSpread at_ phase worker after event busy spreads =>
      exact sends_spread sends spreads rfl rfl cid
  | hostDone => exact (sends cid).same (WebWorker.Keeps.refl _).retains fun _ => rfl

/-- What every channel hands out is sent. -/
def Sending (platform : Platform) (lounge : Lounge) : Prop :=
  forall cid, lounge.Sends platform cid

theorem sending_reachable (reachable : (system platform).Reachable lounge) :
    lounge.Sending platform := by
  refine reachable.invariant ?_ ?_
  · rintro lounge rfl cid
    exact ⟨fun _ other => absurd rfl other, fun _ _ => List.Sublist.slnil⟩
  · intro lounge label next sends taken cid
    exact sends_moved sends (moved_step taken) cid

/-! ## What one speaker says to one listener -/

/-- A notice of the speaker that is handed to the listener, and the broadcast it is part of. -/
def saidTo (speaker : Option Nat) (listener : Nat) : Event Nat Json -> Option (Nat × Json)
  | .handed broadcast notice receiver =>
      if notice.speaker = speaker ∧ receiver = listener then some (broadcast, notice.text)
      else none
  | _ => none

/-- What the listener is handed of the speaker's notices in a channel. -/
def said (lounge : Lounge) (cid : UInt64) (speaker : Option Nat) (listener : Nat) :
    List (Nat × Json) :=
  (lounge.log cid).filterMap (saidTo speaker listener)

theorem mem_said {speaker : Option Nat} {listener broadcast : Nat} {text : Json} :
    (broadcast, text) ∈ lounge.said cid speaker listener <-> Exists fun notice =>
      Event.handed broadcast notice listener ∈ lounge.log cid ∧ notice.speaker = speaker ∧
        notice.text = text := by
  rw [said, List.mem_filterMap]
  constructor
  · rintro ⟨event, member, tells⟩
    cases event with
    | handed number notice receiver =>
        rcases Option.ite_none_right_eq_some.mp tells with ⟨⟨speaks, rfl⟩, same⟩
        cases same
        exact ⟨notice, member, speaks, rfl⟩
    | _ => cases tells
  · rintro ⟨notice, member, speaks, rfl⟩
    exact ⟨_, member, if_pos ⟨speaks, rfl⟩⟩

theorem said_broadcasts (speaker : Option Nat) (listener : Nat) :
    (lounge.said cid speaker listener).map Prod.fst =
      spoken (lounge.log cid) speaker listener := by
  rw [said, List.map_filterMap, spoken]
  refine List.filterMap_congr fun event _ => ?_
  cases event with
  | handed broadcast notice receiver =>
      rw [saidTo, Event.spokenTo]
      split <;> rfl
  | _ => rfl

theorem filterMap_sublist {Item Value : Type} {some_of all_of : Item -> Option Value}
    (among : forall item value, some_of item = some value -> all_of item = some value)
    (items : List Item) : (items.filterMap some_of).Sublist (items.filterMap all_of) := by
  induction items with
  | nil => exact List.Sublist.slnil
  | cons item items inductionHypothesis =>
      cases chosen : some_of item with
      | none =>
          rw [List.filterMap_cons_none chosen]
          refine inductionHypothesis.trans ?_
          exact (List.sublist_cons_self item items).filterMap _
      | some value =>
          rw [List.filterMap_cons_some chosen, List.filterMap_cons_some (among item value chosen)]
          exact inductionHypothesis.cons_cons value

/-- What the listener is handed of one speaker is part of all it is handed. -/
theorem said_handed (platform : Platform) (speaker : Option Nat) (listener : Nat) :
    ((lounge.said cid speaker listener).map fun notice => notice.2.dump platform).Sublist
      (lounge.handedTo platform cid listener) := by
  rw [said, List.map_filterMap]
  refine filterMap_sublist (fun event message tells => ?_) (lounge.log cid)
  cases event with
  | handed broadcast notice receiver =>
      rcases Option.map_eq_some_iff.mp tells with ⟨found, chosen, same⟩
      rcases Option.ite_none_right_eq_some.mp chosen with ⟨⟨_, own⟩, taken⟩
      cases taken
      exact (if_pos own).trans (congrArg some same)
  | _ => cases tells

/-- The listener has each notice of the speaker once, in the order of the broadcasts, which are
those that were copied while it was a member; none is missing but the one that is being handed
out; and what its wrapper holds has been sent to it so. -/
structure Conveys (platform : Platform) (lounge : Lounge) (cid : UInt64)
    (speaker : Option Nat) (listener : Nat) : Prop where
  ordered : ((lounge.said cid speaker listener).map Prod.fst).Pairwise
    fun early late => early < late
  copied : forall broadcast text, (broadcast, text) ∈ lounge.said cid speaker listener ->
    Exists fun change => Exists fun snapshot =>
      (lounge.log cid)[broadcast]? = some (.taken ⟨speaker, change, text⟩ snapshot) ∧
        listener ∈ snapshot
  complete : forall broadcast notice snapshot,
    (lounge.log cid)[broadcast]? = some (.taken notice snapshot) -> notice.speaker = speaker ->
      listener ∈ snapshot -> (broadcast, notice.text) ∈ lounge.said cid speaker listener ∨
        Exists fun remaining => lounge.phaseIn cid speaker = .handing broadcast notice remaining ∧
          listener ∈ remaining
  sent : lounge.worker.Holds listener ->
    ((lounge.said cid speaker listener).map fun notice => notice.2.dump platform).Sublist
      (lounge.worker.sentTo listener)

theorem mem_receivers_of_handed {broadcast listener : Nat} {notice : Notice Nat Json}
    (handed : Event.handed broadcast notice listener ∈ lounge.log cid) :
    listener ∈ receivers (lounge.log cid) broadcast :=
  List.mem_filterMap.mpr ⟨_, handed, if_pos rfl⟩

theorem handed_of_mem_receivers {broadcast listener : Nat}
    (among : listener ∈ receivers (lounge.log cid) broadcast) :
    Exists fun notice => Event.handed broadcast notice listener ∈ lounge.log cid := by
  rcases List.mem_filterMap.mp among with ⟨event, member, receives⟩
  cases event with
  | handed number notice receiver =>
      rcases Option.ite_none_right_eq_some.mp receives with ⟨rfl, same⟩
      cases same
      exact ⟨notice, member⟩
  | _ => cases receives

/-- In every interleaving of the requests, for every channel, speaker and listener. -/
theorem notices_conveyed (platform : Platform) (lounge : Lounge)
    (reachable : (system platform).Reachable lounge) (cid : UInt64) (speaker : Option Nat)
    (listener : Nat) : lounge.Conveys platform cid speaker listener := by
  have reached := room_reachable reachable cid
  have delivering := Room.delivering_reachable reached
  refine ⟨?_, ?_, ?_, fun holds => ?_⟩
  · rw [said_broadcasts]
    exact (Room.ordered_reachable reached).increasing speaker listener
  · intro broadcast text among
    rcases mem_said.mp among with ⟨⟨_, change, _⟩, handed, rfl, rfl⟩
    rcases delivering.sourced _ broadcast _ handed rfl with ⟨snapshot, taken⟩
    refine ⟨change, snapshot, taken, ?_⟩
    have received := mem_receivers_of_handed handed
    rcases delivering.finished broadcast _ snapshot taken with ⟨remaining, handing⟩ | ⟨all, _⟩
    · have copy := (delivering.handing _ broadcast _ remaining handing).2.2
      have split := (Event.taken.inj (Option.some.inj (taken.symm.trans copy))).2
      rw [split]
      exact List.mem_append_left _ received
    · exact all ▸ received
  · intro broadcast notice snapshot taken speaks among
    have told : listener ∈ receivers (lounge.log cid) broadcast ->
        (broadcast, notice.text) ∈ lounge.said cid speaker listener := by
      intro received
      rcases handed_of_mem_receivers received with ⟨other, handed⟩
      rcases delivering.sourced _ broadcast other handed rfl with ⟨copy, source⟩
      have same := (Event.taken.inj (Option.some.inj (source.symm.trans taken))).1
      exact mem_said.mpr ⟨other, handed, same ▸ speaks, congrArg Notice.text same⟩
    rcases delivering.finished broadcast notice snapshot taken with
      ⟨remaining, handing⟩ | ⟨all, _⟩
    · have copy := (delivering.handing _ broadcast notice remaining handing).2.2
      have split := (Event.taken.inj (Option.some.inj (taken.symm.trans copy))).2
      rw [split] at among
      rcases List.mem_append.mp among with received | left
      · exact Or.inl (told received)
      · exact Or.inr ⟨remaining, speaks ▸ handing, left⟩
    · exact Or.inl (told (by rw [show receivers (lounge.log cid) broadcast = snapshot from all]
                             exact among))
  · exact (said_handed platform speaker listener).trans
      ((sending_reachable reachable cid).sent listener holds)

/-! ## One who comes and goes -/

/-- Two sessions identify at the same time, and the first of them leaves again. -/
def partingLabels : List LoungeLabel :=
  [.connect, .connect, .resume 0 (.read none WebWorker.identifyText),
    .resume 1 (.read none WebWorker.identifyText), .advance 0, .advance 0, .advance 0, .advance 0,
    .advance 0, .resume 0 (.read none leaveText), .advance 0, .advance 0]

/-- The second has the join notice and the leave notice of the first. -/
def parts (lounge : Lounge) : Bool :=
  decide ((lounge.said 1 (some 0) 1).map Prod.fst = [2, 6]) &&
    decide ((lounge.worker.sentTo 1).length = 2)

theorem parting_parts :
    (Transition.System.execute (step visitPlatform) create partingLabels).map parts =
      some true := by
  decide +kernel

theorem parting_taken :
    (Transition.System.execute (step visitPlatform) create partingLabels).isSome = true :=
  Transition.System.taken_of_checked parting_parts

def parting : Lounge :=
  (Transition.System.execute (step visitPlatform) create partingLabels).get parting_taken

theorem parting_reachable : (system visitPlatform).Reachable parting := by
  refine .of_execute ?_ parting_taken
  rfl

theorem parting_conveyed :
    (parting.said 1 (some 0) 1).map Prod.fst = [2, 6] ∧
      (parting.worker.sentTo 1).length = 2 ∧
        parting.Conveys visitPlatform 1 (some 0) 1 := by
  have checked : parts parting = true :=
    Transition.System.checked_get parting_parts parting_taken
  rcases Bool.and_eq_true_iff.mp checked with ⟨handed, sent⟩
  exact ⟨of_decide_eq_true handed, of_decide_eq_true sent,
    notices_conveyed visitPlatform parting parting_reachable 1 (some 0) 1⟩

end Lounge

end EasyProspect
