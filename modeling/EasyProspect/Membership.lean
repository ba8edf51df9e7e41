import EasyProspect.LoungeSteps

namespace EasyProspect

/-!
# Members and broadcasts

Each channel is seen as a room: its members, what the sessions and its strand are sending
there, and its log.  A step is an act in one room and is not seen in the others, apart
from the end of a session, which every room sees.  So what holds of every room holds of
every channel.
-/

namespace WebWorker

variable {worker : WebWorker} {channel : Channel}

theorem channelAt_setMembers (found : worker.channelAt channel.cid = some channel)
    (members : List Nat) :
    (worker.setMembers channel members).channelAt channel.cid =
      some { channel with sessions := members } := by
  rcases Option.join_eq_some_iff.mp found with slot
  rw [channelAt, setMembers, Cells.getElem?_set_self slot]
  rfl

theorem channelAt_setMembers_other {cid : UInt64} (apart : cid ≠ channel.cid)
    (members : List Nat) :
    (worker.setMembers channel members).channelAt cid = worker.channelAt cid := by
  have places : channel.cid.toNat ≠ cid.toNat := fun same => apart (UInt64.toNat_inj.mp same).symm
  rw [channelAt, setMembers, List.getElem?_set_ne places]
  rfl

theorem membersAt_of_some {cid : UInt64} (found : worker.channelAt cid = some channel) :
    worker.membersAt cid = channel.sessions := by
  rw [membersAt, found]
  rfl

theorem membersAt_setMembers (found : worker.channelAt channel.cid = some channel)
    (members : List Nat) :
    (worker.setMembers channel members).membersAt channel.cid = members :=
  membersAt_of_some (channelAt_setMembers found members)

theorem membersAt_setMembers_other {cid : UInt64} (apart : cid ≠ channel.cid)
    (members : List Nat) :
    (worker.setMembers channel members).membersAt cid = worker.membersAt cid := by
  rw [membersAt, channelAt_setMembers_other apart]
  rfl

end WebWorker

namespace Lounge

open Broadcast

variable {platform : Platform} {lounge next : Lounge}

/-! ## The registry -/

/-- Each channel is registered under its own number. -/
def Registered (lounge : Lounge) : Prop :=
  forall cid channel, lounge.worker.channelAt cid = some channel -> channel.cid = cid

theorem Registered.same (registered : lounge.Registered)
    (channels : next.worker.channels = lounge.worker.channels) : next.Registered := by
  unfold Registered WebWorker.channelAt
  rw [channels]
  exact registered

theorem Registered.setMembers (registered : lounge.Registered) {channel : Channel}
    (found : lounge.worker.channelAt channel.cid = some channel) {members : List Nat}
    (channels : next.worker.channels = (lounge.worker.setMembers channel members).channels) :
    next.Registered := by
  intro cid other same
  have slot : (lounge.worker.setMembers channel members).channelAt cid = some other := by
    rw [WebWorker.channelAt, ← channels]
    exact same
  by_cases here : cid = channel.cid
  · subst here
    rw [WebWorker.channelAt_setMembers found] at slot
    cases slot
    rfl
  · rw [WebWorker.channelAt_setMembers_other here] at slot
    exact registered cid other slot

theorem Registered.addressed (registered : lounge.Registered) {call : RpcCall}
    {channel : Channel} (addressed : lounge.worker.Addresses platform call channel) :
    lounge.worker.channelAt channel.cid = some channel := by
  rcases addressed with ⟨_, cid, _, _, found⟩
  rw [registered cid channel found]
  exact found

theorem postPlay_channels (worker : WebWorker) (call : RpcCall) (user : User) (session : Nat) :
    (worker.postPlay call user session).channels = worker.channels := by
  rw [WebWorker.postPlay]
  split <;> rfl

theorem registered_moved {label : LoungeLabel} (registered : lounge.Registered)
    (moved : Moved platform lounge label next) : next.Registered := by
  cases moved with
  | connect => exact registered.same rfl
  | quiet worker keeps => exact registered.same keeps.channels
  | ends => exact registered.same rfl
  | begun session completion call user channel next requested idle owned addressed begun =>
      have found := registered.addressed addressed
      cases begun with
      | join => exact registered.setMembers found rfl
      | leave => exact registered.setMembers found rfl
      | identify => exact registered.setMembers found rfl
      | play => exact registered.same (postPlay_channels _ _ _ _)
      | _ => exact registered.same rfl
  | spread session cid call phase worker after event busy spreads =>
      cases spreads with
      | take => exact registered.same rfl
      | hand _ _ _ _ _ keeps => exact registered.same keeps.channels
  | closed session cid call broadcast notice worker busy stays keeps =>
      exact registered.same keeps.channels
  | told session cid call broadcast notice worker busy left keeps =>
      exact registered.same keeps.channels
  | responded session call worker responding keeps => exact registered.same keeps.channels
  | strand => exact registered.same rfl
  | hostSpread cid phase worker after event busy spreads =>
      cases spreads with
      | take => exact registered.same rfl
      | hand _ _ _ _ _ keeps => exact registered.same keeps.channels
  | hostDone => exact registered.same rfl

/-- The three channels at the start are empty. -/
theorem channelAt_create {cid : UInt64} {channel : Channel}
    (found : WebWorker.create.channelAt cid = some channel) :
    channel.cid.toNat = cid.toNat ∧ channel.sessions = [] := by
  have slot := Option.join_eq_some_iff.mp found
  generalize cid.toNat = place at slot ⊢
  rcases List.getElem?_eq_some_iff.mp slot with ⟨within, here⟩
  match place with
  | 0 => cases here
  | 1 => cases here; exact ⟨rfl, rfl⟩
  | 2 => cases here; exact ⟨rfl, rfl⟩
  | 3 => cases here; exact ⟨rfl, rfl⟩

theorem membersAt_create (cid : UInt64) : WebWorker.create.membersAt cid = [] := by
  rw [WebWorker.membersAt]
  cases found : WebWorker.create.channelAt cid with
  | none => rfl
  | some channel => exact (channelAt_create found).2

theorem registered_reachable (reachable : (system platform).Reachable lounge) :
    lounge.Registered := by
  refine reachable.invariant ?_ ?_
  · rintro lounge rfl cid channel found
    exact UInt64.toNat_inj.mp (channelAt_create found).1
  · exact fun lounge label next registered taken => registered_moved registered (moved_step taken)

theorem Spreads.notice {cid : UInt64} {phase after : Broadcast.Phase Nat Json} {worker : WebWorker}
    {event : Event Nat Json} (spreads : Spreads platform lounge cid phase worker after event) :
    after.notice = phase.notice := by
  cases spreads <;> rfl

/-- What a strand sends tells no change of a member. -/
def HostsPlain (lounge : Lounge) : Prop :=
  forall cid notice, (lounge.host cid).notice = some notice -> notice.change = none

theorem HostsPlain.update (plain : lounge.HostsPlain) {cid : UInt64}
    {phase : Broadcast.Phase Nat Json}
    (own : forall notice, phase.notice = some notice -> notice.change = none)
    (hosts : next.host = Function.update lounge.host cid phase) : next.HostsPlain := by
  intro other notice announced
  rw [hosts] at announced
  by_cases same : other = cid
  · rw [same, Function.update_self] at announced
    exact own notice announced
  · rw [Function.update_of_ne same] at announced
    exact plain other notice announced

theorem hostsPlain_moved {label : LoungeLabel} (plain : lounge.HostsPlain)
    (moved : Moved platform lounge label next) : next.HostsPlain := by
  cases moved with
  | begun session completion call user channel next requested idle owned addressed begun =>
      cases begun <;> exact plain
  | strand cid work channel registered idle =>
      have own : forall told,
          (.announce ⟨none, none, work.notice channel⟩ : Broadcast.Phase Nat Json).notice =
            some told -> told.change = none := by
        rintro told ⟨⟩
        rfl
      exact plain.update own rfl
  | hostSpread cid phase worker after event busy spreads =>
      refine plain.update (fun notice announced => ?_) rfl
      rw [spreads.notice, ← busy] at announced
      exact plain cid notice announced
  | hostDone cid broadcast notice busy =>
      have own : forall told, (.idle : Broadcast.Phase Nat Json).notice = some told ->
          told.change = none := nofun
      exact plain.update own rfl
  | _ => exact plain

theorem hostsPlain_reachable (reachable : (system platform).Reachable lounge) :
    lounge.HostsPlain := by
  refine reachable.invariant ?_ ?_
  · rintro lounge rfl cid notice ⟨⟩
  · exact fun lounge label next plain taken => hostsPlain_moved plain (moved_step taken)

/-! ## A channel as a room -/

/-- What a speaker is doing in a channel: a session, or the strand of the channel. -/
def phaseIn (lounge : Lounge) (cid : UInt64) (speaker : Option Nat) : Broadcast.Phase Nat Json :=
  speaker.elim (lounge.host cid) fun session => (lounge.stage session).phaseIn cid

def room (lounge : Lounge) (cid : UInt64) : Room Nat Json where
  members := lounge.worker.membersAt cid
  phase := lounge.phaseIn cid
  log := lounge.log cid

theorem phaseIn_busy (cid : UInt64) (call : RpcCall) (phase : Broadcast.Phase Nat Json) :
    (SessionStage.busy cid call phase).phaseIn cid = phase :=
  if_pos rfl

theorem phaseIn_busy_other {cid other : UInt64} (apart : other ≠ cid) (call : RpcCall)
    (phase : Broadcast.Phase Nat Json) : (SessionStage.busy cid call phase).phaseIn other = .idle :=
  if_neg (Ne.symm apart)

variable {session : Nat} {cid : UInt64}

/-- Only the phase of the session that goes on is another one. -/
theorem phase_of_stage (stage : SessionStage)
    (stages : next.stage = Function.update lounge.stage session stage)
    (hosts : next.host = lounge.host) (cid : UInt64) :
    next.phaseIn cid =
      Function.update (lounge.phaseIn cid) (some session) (stage.phaseIn cid) := by
  funext speaker
  cases speaker with
  | none =>
      rw [Function.update_of_ne (Option.some_ne_none session).symm, phaseIn, hosts]
      rfl
  | some other =>
      show (next.stage other).phaseIn cid = _
      rw [stages]
      by_cases same : other = session
      · rw [same, Function.update_self, Function.update_self]
      · have apart : some other ≠ some session := fun equal => same (Option.some.inj equal)
        rw [Function.update_of_ne same, Function.update_of_ne apart]
        rfl

theorem phase_of_host {phase : Broadcast.Phase Nat Json} (stages : next.stage = lounge.stage)
    (hosts : next.host = Function.update lounge.host cid phase) :
    next.phaseIn cid = Function.update (lounge.phaseIn cid) none phase := by
  funext speaker
  cases speaker with
  | none =>
      show next.host cid = _
      rw [hosts, Function.update_self, Function.update_self]
  | some other =>
      rw [Function.update_of_ne (Option.some_ne_none other), phaseIn, stages]
      rfl

/-- In this channel a speaker has acted, and nothing has changed in the others. -/
structure ActsIn (lounge next : Lounge) (cid : UInt64) (speaker : Option Nat)
    (phase : Broadcast.Phase Nat Json) (events : List (Event Nat Json)) : Prop where
  act : (lounge.room cid).Act speaker phase events (next.worker.membersAt cid)
  here : next.phaseIn cid = Function.update (lounge.phaseIn cid) speaker phase
  log : next.log cid = lounge.log cid ++ events
  elsewhere : forall other, other ≠ cid -> next.room other = lounge.room other

/-- A step of a channel, or none. -/
def Sees (lounge next : Lounge) (cid : UInt64) : Prop :=
  next.room cid = lounge.room cid ∨ (lounge.room cid).Step (next.room cid)

theorem ActsIn.sees {speaker : Option Nat} {phase : Broadcast.Phase Nat Json}
    {events : List (Event Nat Json)} (acts : lounge.ActsIn next cid speaker phase events)
    (other : UInt64) : lounge.Sees next other := by
  by_cases same : other = cid
  · subst same
    have moved : next.room other =
        (lounge.room other).after speaker phase events (next.worker.membersAt other) :=
      Room.ext rfl acts.here acts.log
    refine Or.inr ?_
    rw [moved]
    exact .act acts.act
  · exact Or.inl (acts.elsewhere other same)

theorem room_eq (members : next.worker.membersAt cid = lounge.worker.membersAt cid)
    (phases : next.phaseIn cid = lounge.phaseIn cid) (log : next.log cid = lounge.log cid) :
    next.room cid = lounge.room cid :=
  Room.ext members phases log

/-- What one session does in one channel. -/
theorem actsIn_session (stage : SessionStage) {phase : Broadcast.Phase Nat Json}
    {events : List (Event Nat Json)}
    (act : (lounge.room cid).Act (some session) phase events (next.worker.membersAt cid))
    (own : stage.phaseIn cid = phase)
    (stages : next.stage = Function.update lounge.stage session stage)
    (hosts : next.host = lounge.host)
    (log : next.log cid = lounge.log cid ++ events)
    (logs : forall other, other ≠ cid -> next.log other = lounge.log other)
    (members : forall other, other ≠ cid ->
      next.worker.membersAt other = lounge.worker.membersAt other)
    (phases : forall other, other ≠ cid ->
      stage.phaseIn other = (lounge.stage session).phaseIn other) :
    lounge.ActsIn next cid (some session) phase events := by
  refine ⟨act, own ▸ phase_of_stage stage stages hosts cid, log, fun other apart => ?_⟩
  refine room_eq (members other apart) ?_ (logs other apart)
  rw [phase_of_stage stage stages hosts other, phases other apart]
  exact Function.update_eq_self (some session) (lounge.phaseIn other)

/-- What the strand of a channel does there. -/
theorem actsIn_host {phase : Broadcast.Phase Nat Json} {events : List (Event Nat Json)}
    (act : (lounge.room cid).Act none phase events (next.worker.membersAt cid))
    (stages : next.stage = lounge.stage)
    (hosts : next.host = Function.update lounge.host cid phase)
    (log : next.log cid = lounge.log cid ++ events)
    (logs : forall other, other ≠ cid -> next.log other = lounge.log other)
    (members : forall other, next.worker.membersAt other = lounge.worker.membersAt other) :
    lounge.ActsIn next cid none phase events := by
  refine ⟨act, phase_of_host stages hosts, log, fun other apart => ?_⟩
  refine room_eq (members other) ?_ (logs other apart)
  funext speaker
  cases speaker with
  | none =>
      show next.host other = lounge.host other
      rw [hosts, Function.update_of_ne apart]
  | some session =>
      show (next.stage session).phaseIn other = (lounge.stage session).phaseIn other
      rw [stages]

/-! ## The steps, as the channels see them -/

section Begun

variable {call : RpcCall} {channel : Channel}

theorem phase_of_idle (idle : lounge.stage session = .idle) (cid : UInt64) :
    (lounge.room cid).phase (some session) = .idle := by
  show (lounge.stage session).phaseIn cid = .idle
  rw [idle]
  rfl

theorem idle_elsewhere (idle : lounge.stage session = .idle) (phase : Broadcast.Phase Nat Json)
    (other : UInt64) (apart : other ≠ cid) :
    (SessionStage.busy cid call phase).phaseIn other = (lounge.stage session).phaseIn other := by
  rw [phaseIn_busy_other apart, idle]
  rfl

/-- A session that was idle has changed the members of a channel. -/
theorem actsIn_change (found : lounge.worker.channelAt channel.cid = some channel)
    (idle : lounge.stage session = .idle) (worker : WebWorker)
    (same : worker.channels = lounge.worker.channels)
    (members : List Nat) (phase : Broadcast.Phase Nat Json) (event : Event Nat Json)
    (act : (lounge.room channel.cid).Act (some session) phase [event] members) :
    lounge.ActsIn
      (((lounge.withWorker (worker.setMembers channel members)).put session
        (.busy channel.cid call phase)).record channel.cid event)
      channel.cid (some session) phase [event] := by
  have registered : worker.channelAt channel.cid = some channel := by
    rw [WebWorker.channelAt, same]
    exact found
  have here : (worker.setMembers channel members).membersAt channel.cid = members :=
    WebWorker.membersAt_setMembers registered members
  rw [← here] at act
  refine actsIn_session (.busy channel.cid call phase) act (phaseIn_busy _ _ _) rfl rfl
    (Function.update_self _ _ _) (fun other apart => Function.update_of_ne apart _ _)
    (fun other apart => ?_) (idle_elsewhere idle phase)
  exact (WebWorker.membersAt_setMembers_other apart members).trans
    (WebWorker.membersAt_of_channels same other)

theorem actsIn_enter (found : lounge.worker.channelAt channel.cid = some channel)
    (idle : lounge.stage session = .idle) (worker : WebWorker)
    (same : worker.channels = lounge.worker.channels)
    (outside : session ∉ channel.sessions) (user : User) :
    lounge.ActsIn ((lounge.withWorker worker).enter call channel user session) channel.cid
      (some session) (.announce ⟨some session, some .join, channel.notice "join" user.name⟩)
      [.changed session .join] := by
  have own : (lounge.room channel.cid).members = channel.sessions :=
    WebWorker.membersAt_of_some found
  refine actsIn_change found idle worker same _ _ _ ?_
  rw [← own] at outside ⊢
  exact .join session _ rfl (phase_of_idle idle channel.cid) outside

theorem actsIn_exit (found : lounge.worker.channelAt channel.cid = some channel)
    (idle : lounge.stage session = .idle) (inside : session ∈ channel.sessions) (user : User) :
    lounge.ActsIn (lounge.exit call channel user session) channel.cid
      (some session) (.announce ⟨some session, some .leave, channel.notice "leave" user.name⟩)
      [.changed session .leave] := by
  have own : (lounge.room channel.cid).members = channel.sessions :=
    WebWorker.membersAt_of_some found
  refine actsIn_change found idle lounge.worker rfl _ _ _ ?_
  rw [← own] at inside ⊢
  exact .leave session _ rfl (phase_of_idle idle channel.cid) inside

theorem actsIn_say (idle : lounge.stage session = .idle) (jv : Json) :
    lounge.ActsIn (lounge.announce call channel session none jv) channel.cid (some session)
      (.announce ⟨some session, none, jv⟩) [] := by
  refine actsIn_session (.busy channel.cid call _) ?_ (phaseIn_busy _ _ _) rfl rfl
    (List.append_nil _).symm (fun _ _ => rfl) (fun _ _ => rfl) (idle_elsewhere idle _)
  exact .say jv (phase_of_idle idle channel.cid)

/-- A session that is in no channel goes on. -/
theorem room_put {stage : SessionStage}
    (phases : forall cid, stage.phaseIn cid = (lounge.stage session).phaseIn cid)
    (channels : next.worker.channels = lounge.worker.channels)
    (stages : next.stage = Function.update lounge.stage session stage)
    (hosts : next.host = lounge.host) (logs : next.log = lounge.log) (cid : UInt64) :
    next.room cid = lounge.room cid := by
  refine room_eq (WebWorker.membersAt_of_channels channels cid) ?_ (congrFun logs cid)
  rw [phase_of_stage stage stages hosts cid, phases cid]
  exact Function.update_eq_self (some session) (lounge.phaseIn cid)

theorem room_worker {worker : WebWorker} (channels : worker.channels = lounge.worker.channels)
    (cid : UInt64) : (lounge.withWorker worker).room cid = lounge.room cid :=
  room_eq (WebWorker.membersAt_of_channels channels cid) rfl rfl

theorem idle_respond (idle : lounge.stage session = .idle) (call : RpcCall) (cid : UInt64) :
    (SessionStage.respond call).phaseIn cid = (lounge.stage session).phaseIn cid := by
  rw [idle]
  rfl

theorem sees_begun {user : User} (found : lounge.worker.channelAt channel.cid = some channel)
    (idle : lounge.stage session = .idle) (begun : Begun lounge call channel user session next)
    (cid : UInt64) : lounge.Sees next cid := by
  cases begun with
  | join named outside => exact (actsIn_enter found idle lounge.worker rfl outside user).sees cid
  | leave inside => exact (actsIn_exit found idle inside user).sees cid
  | say text named inside => exact (actsIn_say idle _).sees cid
  | identify name identifies unnamed outside =>
      exact (actsIn_enter found idle (lounge.worker.setUser session ⟨name⟩) rfl outside
        ⟨name⟩).sees cid
  | identifyAgain name =>
      refine Or.inl ?_
      apply room_put (idle_respond idle call) <;> rfl
  | post work =>
      refine Or.inl ?_
      apply room_put (idle_respond idle call) <;> rfl
  | play moves => exact Or.inl (room_worker (postPlay_channels _ _ _ _) cid)

end Begun

/-- One step of `send`. -/
theorem act_spreads {phase after : Broadcast.Phase Nat Json} {worker : WebWorker}
    {event : Event Nat Json} {speaker : Option Nat}
    (spreads : Spreads platform lounge cid phase worker after event)
    (here : (lounge.room cid).phase speaker = phase) :
    (lounge.room cid).Act speaker after [event] (worker.membersAt cid) := by
  cases spreads with
  | take notice => exact .take notice here
  | hand broadcast notice receiver rest worker keeps =>
      rw [keeps.membersAt]
      exact .hand broadcast notice receiver rest here

theorem Spreads.keeps {phase after : Broadcast.Phase Nat Json} {worker : WebWorker}
    {event : Event Nat Json} (spreads : Spreads platform lounge cid phase worker after event) :
    lounge.worker.Keeps worker := by
  cases spreads with
  | take => exact .refl _
  | hand _ _ _ _ _ keeps => exact keeps

theorem phase_of_busy {call : RpcCall} {phase : Broadcast.Phase Nat Json}
    (busy : lounge.stage session = .busy cid call phase) :
    (lounge.room cid).phase (some session) = phase := by
  show (lounge.stage session).phaseIn cid = phase
  rw [busy]
  exact phaseIn_busy cid call phase

theorem busy_elsewhere {call : RpcCall} {phase : Broadcast.Phase Nat Json}
    (busy : lounge.stage session = .busy cid call phase) (other : UInt64) (apart : other ≠ cid) :
    (lounge.stage session).phaseIn other = .idle := by
  rw [busy]
  exact phaseIn_busy_other apart call phase

section Steps

variable {call : RpcCall} {phase after : Broadcast.Phase Nat Json} {worker : WebWorker}
variable {event : Event Nat Json} {broadcast : Nat} {notice : Notice Nat Json}

theorem actsIn_spread (busy : lounge.stage session = .busy cid call phase)
    (spreads : Spreads platform lounge cid phase worker after event) :
    lounge.ActsIn (((lounge.withWorker worker).put session (.busy cid call after)).record cid event)
      cid (some session) after [event] := by
  refine actsIn_session (.busy cid call after) (act_spreads spreads (phase_of_busy busy))
    (phaseIn_busy _ _ _) rfl rfl (Function.update_self _ _ _)
    (fun other apart => Function.update_of_ne apart _ _)
    (fun other _ => spreads.keeps.membersAt other) (fun other apart => ?_)
  rw [busy_elsewhere busy other apart]
  exact phaseIn_busy_other apart call after

theorem actsIn_closed (busy : lounge.stage session = .busy cid call (.handing broadcast notice []))
    (stays : notice.change ≠ some .leave) (keeps : lounge.worker.Keeps worker) :
    lounge.ActsIn ((lounge.put session (.respond call)).withWorker worker) cid (some session)
      .idle [] := by
  refine actsIn_session (.respond call) ?_ rfl rfl rfl (List.append_nil _).symm (fun _ _ => rfl)
    (fun other _ => keeps.membersAt other)
    (fun other apart => (busy_elsewhere busy other apart).symm)
  show (lounge.room cid).Act _ _ _ (worker.membersAt cid)
  rw [keeps.membersAt]
  exact .finish broadcast notice (phase_of_busy busy) stays

theorem actsIn_told (busy : lounge.stage session = .busy cid call (.handing broadcast notice []))
    (left : notice.change = some .leave) (keeps : lounge.worker.Keeps worker) :
    lounge.ActsIn
      (((lounge.put session (.respond call)).withWorker worker).record cid
        (.told broadcast notice session))
      cid (some session) .idle [.told broadcast notice session] := by
  refine actsIn_session (.respond call) ?_ rfl rfl rfl (Function.update_self _ _ _)
    (fun other apart => Function.update_of_ne apart _ _)
    (fun other _ => keeps.membersAt other)
    (fun other apart => (busy_elsewhere busy other apart).symm)
  show (lounge.room cid).Act _ _ _ (worker.membersAt cid)
  rw [keeps.membersAt]
  exact .tell broadcast notice session rfl (phase_of_busy busy) left

theorem actsIn_strand (idle : lounge.host cid = .idle) (jv : Json) :
    lounge.ActsIn (lounge.putHost cid (.announce ⟨none, none, jv⟩)) cid none
      (.announce ⟨none, none, jv⟩) [] :=
  actsIn_host (.say jv idle) rfl rfl (List.append_nil _).symm (fun _ _ => rfl) fun _ => rfl

theorem actsIn_hostSpread (busy : lounge.host cid = phase)
    (spreads : Spreads platform lounge cid phase worker after event) :
    lounge.ActsIn (((lounge.withWorker worker).putHost cid after).record cid event) cid none
      after [event] :=
  actsIn_host (act_spreads spreads busy) rfl rfl (Function.update_self _ _ _)
    (fun _ apart => Function.update_of_ne apart _ _) spreads.keeps.membersAt

theorem actsIn_hostDone (busy : lounge.host cid = .handing broadcast notice [])
    (plain : notice.change = none) :
    lounge.ActsIn (lounge.putHost cid .idle) cid none .idle [] := by
  refine actsIn_host (.finish broadcast notice busy ?_) rfl rfl (List.append_nil _).symm
    (fun _ _ => rfl) fun _ => rfl
  rw [plain]
  exact nofun

theorem responding_idle (responding : lounge.stage session = .respond call) (cid : UInt64) :
    SessionStage.idle.phaseIn cid = (lounge.stage session).phaseIn cid := by
  rw [responding]
  rfl

theorem room_depart (session : Nat) (cid : UInt64) :
    (lounge.depart session).room cid =
      (lounge.room cid).after (some session) .gone [.gone session] (lounge.room cid).members := by
  have phases : (lounge.depart session).phaseIn cid =
      Function.update (lounge.phaseIn cid) (some session) (SessionStage.ended.phaseIn cid) := by
    apply phase_of_stage .ended <;> rfl
  exact Room.ext rfl phases rfl

theorem sees_depart (idle : lounge.stage session = .idle) (cid : UInt64) :
    lounge.Sees (lounge.depart session) cid := by
  refine Or.inr ?_
  rw [room_depart]
  exact .act (.gone session rfl (phase_of_idle idle cid))

end Steps

theorem sees_moved {label : LoungeLabel} (registered : lounge.Registered)
    (plain : lounge.HostsPlain) (moved : Moved platform lounge label next) (cid : UInt64) :
    lounge.Sees next cid := by
  cases moved with
  | connect => exact Or.inl (room_worker rfl cid)
  | quiet worker keeps => exact Or.inl (room_worker keeps.channels cid)
  | ends session completion ended idle => exact sees_depart idle cid
  | begun session completion call user channel next requested idle owned addressed begun =>
      exact sees_begun (registered.addressed addressed) idle begun cid
  | spread session at_ call phase worker after event busy spreads =>
      exact (actsIn_spread busy spreads).sees cid
  | closed session at_ call broadcast notice worker busy stays keeps =>
      exact (actsIn_closed busy stays keeps).sees cid
  | told session at_ call broadcast notice worker busy left keeps =>
      exact (actsIn_told busy left keeps).sees cid
  | responded session call worker responding keeps =>
      refine Or.inl ?_
      apply room_put (responding_idle responding) keeps.channels <;> rfl
  | strand at_ work channel found idle => exact (actsIn_strand idle _).sees cid
  | hostSpread at_ phase worker after event busy spreads =>
      exact (actsIn_hostSpread busy spreads).sees cid
  | hostDone at_ broadcast notice busy =>
      have told : notice.change = none := plain at_ notice (by rw [busy]; rfl)
      exact (actsIn_hostDone busy told).sees cid

/-- Each channel is only ever in states that a room can reach. -/
theorem room_reachable (reachable : (system platform).Reachable lounge) (cid : UInt64) :
    (Room.system LoungeLabel).Reachable (lounge.room cid) := by
  refine reachable.component_reachable (Room.system LoungeLabel) (fun lounge => lounge.room cid)
    ?_ ?_
  · rintro lounge rfl
    refine Room.ext (membersAt_create cid) ?_ rfl
    funext speaker
    cases speaker <;> rfl
  · intro lounge label next reached taken
    exact sees_moved (registered_reachable reached) (hostsPlain_reachable reached)
      (moved_step taken) cid

/-! ## What a notice says -/

/-- The verb of the notice of a change. -/
def verbOf : Change -> String
  | .join => "join"
  | .leave => "leave"

/-- A notice that tells a change is that of `insert` or of `erase`, and any other is that of
`do_say` or of a strand. -/
def Spells (cid : UInt64) (notice : Notice Nat Json) : Prop :=
  Exists fun channel : Channel => channel.cid = cid ∧
    match notice.change with
    | some change => Exists fun name => notice.text = channel.notice (verbOf change) name
    | none => (Exists fun name => Exists fun text => notice.text = channel.sayNotice name text) ∨
        Exists fun work : StrandWork => notice.text = work.notice channel

/-- Only what a speaker that was idle announces is new. -/
theorem proper_actsIn (proper : UInt64 -> Notice Nat Json -> Prop)
    (before : forall cid, (lounge.room cid).Proper (proper cid)) {speaker : Option Nat}
    {phase : Broadcast.Phase Nat Json} {events : List (Event Nat Json)}
    (acts : lounge.ActsIn next cid speaker phase events)
    (fresh : (lounge.room cid).phase speaker = .idle ->
      forall notice, phase.notice = some notice -> proper cid notice) (other : UInt64) :
    (next.room other).Proper (proper other) := by
  by_cases same : other = cid
  · subst same
    have moved : next.room other =
        (lounge.room other).after speaker phase events (next.worker.membersAt other) :=
      Room.ext rfl acts.here acts.log
    rw [moved]
    exact (before other).act acts.act fresh
  · rw [acts.elsewhere other same]
    exact before other

theorem not_idle_spread {phase after : Broadcast.Phase Nat Json} {worker : WebWorker}
    {event : Event Nat Json} (spreads : Spreads platform lounge cid phase worker after event)
    (idle : phase = .idle) : False := by
  cases spreads <;> cases idle

/-- All notices of the channels say what they are for. -/
def Spelled (lounge : Lounge) : Prop :=
  forall cid, (lounge.room cid).Proper (Spells cid)

theorem spells_announced {speaker : Option Nat} {change : Option Change} {jv : Json}
    (spells : Spells cid ⟨speaker, change, jv⟩) (notice : Notice Nat Json)
    (announced : (.announce ⟨speaker, change, jv⟩ : Broadcast.Phase Nat Json).notice =
      some notice) : Spells cid notice := by
  cases announced
  exact spells

theorem spells_change (channel : Channel) (speaker : Option Nat) (change : Change)
    (name : String) :
    Spells channel.cid ⟨speaker, some change, channel.notice (verbOf change) name⟩ :=
  ⟨channel, rfl, name, rfl⟩

theorem spelled_begun {call : RpcCall} {channel : Channel} {user : User}
    (spelled : lounge.Spelled) (found : lounge.worker.channelAt channel.cid = some channel)
    (idle : lounge.stage session = .idle)
    (begun : Begun lounge call channel user session next) : next.Spelled := by
  intro cid
  cases begun with
  | join named outside =>
      exact proper_actsIn Spells spelled (actsIn_enter found idle lounge.worker rfl outside user)
        (fun _ => spells_announced (spells_change channel _ .join user.name)) cid
  | leave inside =>
      exact proper_actsIn Spells spelled (actsIn_exit found idle inside user)
        (fun _ => spells_announced (spells_change channel _ .leave user.name)) cid
  | say text named inside =>
      have spells : Spells channel.cid ⟨some session, none, channel.sayNotice user.name text⟩ :=
        ⟨channel, rfl, Or.inl ⟨user.name, text, rfl⟩⟩
      exact proper_actsIn Spells spelled (actsIn_say idle _) (fun _ => spells_announced spells) cid
  | identify name identifies unnamed outside =>
      exact proper_actsIn Spells spelled
        (actsIn_enter found idle (lounge.worker.setUser session ⟨name⟩) rfl outside ⟨name⟩)
        (fun _ => spells_announced (spells_change channel _ .join name)) cid
  | identifyAgain name =>
      have same : ((lounge.withWorker (lounge.worker.setUser session ⟨name⟩)).put session
          (.respond call)).room cid = lounge.room cid := by
        apply room_put (idle_respond idle call) <;> rfl
      rw [same]
      exact spelled cid
  | post work =>
      have same : (lounge.doPost call session work).room cid = lounge.room cid := by
        apply room_put (idle_respond idle call) <;> rfl
      rw [same]
      exact spelled cid
  | play moves =>
      rw [room_worker (postPlay_channels _ _ _ _)]
      exact spelled cid

theorem spelled_moved {label : LoungeLabel} (registered : lounge.Registered)
    (plain : lounge.HostsPlain) (spelled : lounge.Spelled)
    (moved : Moved platform lounge label next) : next.Spelled := by
  have finished : forall other notice,
      (.idle : Broadcast.Phase Nat Json).notice = some notice -> Spells other notice :=
    fun _ _ => nofun
  cases moved with
  | connect =>
      intro cid
      have same : (lounge.withWorker lounge.worker.connect).room cid = lounge.room cid :=
        room_worker rfl cid
      rw [same]
      exact spelled cid
  | quiet worker keeps =>
      intro cid
      rw [room_worker keeps.channels]
      exact spelled cid
  | ends session completion ended idle =>
      intro cid
      rw [room_depart]
      exact (spelled cid).act (.gone session rfl (phase_of_idle idle cid)) fun _ _ => nofun
  | begun session completion call user channel next requested idle owned addressed begun =>
      exact spelled_begun spelled (registered.addressed addressed) idle begun
  | spread session at_ call phase worker after event busy spreads =>
      refine proper_actsIn Spells spelled (actsIn_spread busy spreads) fun idle => ?_
      exact (not_idle_spread spreads ((phase_of_busy busy).symm.trans idle)).elim
  | closed session at_ call broadcast notice worker busy stays keeps =>
      exact proper_actsIn Spells spelled (actsIn_closed busy stays keeps) fun _ => finished at_
  | told session at_ call broadcast notice worker busy left keeps =>
      exact proper_actsIn Spells spelled (actsIn_told busy left keeps) fun _ => finished at_
  | responded session call worker responding keeps =>
      intro cid
      have same : ((lounge.withWorker worker).put session .idle).room cid = lounge.room cid := by
        apply room_put (responding_idle responding) keeps.channels <;> rfl
      rw [same]
      exact spelled cid
  | strand at_ work channel found idle =>
      have spells : Spells at_ ⟨none, none, work.notice channel⟩ :=
        ⟨channel, registered at_ channel found, Or.inr ⟨work, rfl⟩⟩
      exact proper_actsIn Spells spelled (actsIn_strand idle _) fun _ => spells_announced spells
  | hostSpread at_ phase worker after event busy spreads =>
      refine proper_actsIn Spells spelled (actsIn_hostSpread busy spreads) fun idle => ?_
      exact (not_idle_spread spreads (busy.symm.trans idle)).elim
  | hostDone at_ broadcast notice busy =>
      have told : notice.change = none := plain at_ notice (by rw [busy]; rfl)
      exact proper_actsIn Spells spelled (actsIn_hostDone busy told) fun _ => finished at_

/-- In every reachable state the notices of a channel are spelled as the handlers make them. -/
theorem spelled_reachable (reachable : (system platform).Reachable lounge) : lounge.Spelled := by
  refine reachable.invariant_reachable ?_ ?_
  · rintro lounge rfl cid
    refine ⟨fun speaker notice announced => ?_, nofun⟩
    cases speaker <;> cases announced
  · intro lounge label next reached spelled taken
    exact spelled_moved (registered_reachable reached) (hostsPlain_reachable reached) spelled
      (moved_step taken)

theorem spells_logged (reachable : (system platform).Reachable lounge) {cid : UInt64}
    {event : Event Nat Json} {notice : Notice Nat Json} (member : event ∈ lounge.log cid)
    (told : event.notice = some notice) : Spells cid notice :=
  (spelled_reachable reachable cid).logged event notice member told

/-! ## Members, broadcasts and what is heard of changes -/

/-- What holds in one channel of its members and its broadcasts. -/
structure ChannelLaws (lounge : Lounge) (cid : UInt64) : Prop where
  /-- Those are joined whose last change was to join. -/
  joined : forall channel, lounge.worker.channelAt cid = some channel -> forall session,
    WebWorker.isJoined channel session = true <->
      lastChange (lounge.log cid) session = some .join
  /-- What `send` copies are the members of that moment, once each. -/
  copied : forall broadcast notice snapshot,
    (lounge.log cid)[broadcast]? = some (.taken notice snapshot) ->
      snapshot.Nodup ∧ forall session, session ∈ snapshot <->
        lastChange ((lounge.log cid).take broadcast) session = some .join
  /-- The message is handed to these and to no other, and to one who leaves once more. -/
  delivered : forall broadcast notice snapshot,
    (lounge.log cid)[broadcast]? = some (.taken notice snapshot) ->
      (Exists fun remaining =>
        lounge.phaseIn cid notice.speaker = .handing broadcast notice remaining ∧
          receivers (lounge.log cid) broadcast ++ remaining = snapshot ∧
          tellings (lounge.log cid) broadcast = []) ∨
        receivers (lounge.log cid) broadcast = snapshot ∧
          tellings (lounge.log cid) broadcast = notice.owed
  /-- Nothing is handed out that is not part of a broadcast. -/
  sourced : forall event broadcast notice, event ∈ lounge.log cid ->
    event.source = some (broadcast, notice) -> Exists fun snapshot =>
      (lounge.log cid)[broadcast]? = some (.taken notice snapshot)
  /-- While one session is a member, the changes of another that it is told of alternate. -/
  alternating : forall receiver about before period rest, receiver ≠ about ->
    lounge.log cid = before ++ period ++ rest -> lastChange before receiver = some .join ->
      changes period receiver = [] ->
        (heard period receiver about).IsChain (fun early late => early ≠ late)

/-- In every interleaving of the requests, for every channel. -/
theorem channel_laws (platform : Platform) (lounge : Lounge)
    (reachable : (system platform).Reachable lounge) (cid : UInt64) : lounge.ChannelLaws cid := by
  have reached := room_reachable reachable cid
  have roster := Room.roster_reachable reached
  have delivering := Room.delivering_reachable reached
  refine ⟨fun channel found session => ?_, Room.copied_reachable reached, ?_,
    delivering.sourced, ?_⟩
  · have members : (lounge.room cid).members = channel.sessions :=
      WebWorker.membersAt_of_some found
    rw [WebWorker.isJoined_iff, ← members]
    exact roster.listed session
  · intro broadcast notice snapshot taken
    rcases delivering.finished broadcast notice snapshot taken with ⟨remaining, handing⟩ | done
    · rcases delivering.handing _ broadcast notice remaining handing with ⟨_, told, same⟩
      have copied : snapshot = receivers (lounge.log cid) broadcast ++ remaining :=
        (Event.taken.inj (Option.some.inj (taken.symm.trans same))).2
      exact Or.inl ⟨remaining, handing, copied.symm, told⟩
    · exact Or.inr done
  · intro receiver about before period rest apart parts inside unchanged
    exact Room.heard_alternates reached apart parts inside unchanged

/-- Two sessions identify at the same time: both are members before one is announced. -/
def meetingLabels : List LoungeLabel :=
  [.connect, .connect, .resume 0 (.read none WebWorker.identifyText),
    .resume 1 (.read none WebWorker.identifyText), .advance 1, .advance 0, .advance 0, .advance 1]

/-- Both are members, and the last notice has gone to the first of them. -/
def meets (lounge : Lounge) : Bool :=
  decide (lounge.worker.membersAt 1 = [0, 1]) && decide (receivers (lounge.log 1) 2 = [0])

theorem meeting_meets :
    (Transition.System.execute (step WebWorker.scriptedPlatform) create meetingLabels).map meets =
      some true := by
  decide +kernel

theorem meeting_taken :
    (Transition.System.execute (step WebWorker.scriptedPlatform) create
      meetingLabels).isSome = true :=
  Transition.System.taken_of_checked meeting_meets

def meeting : Lounge :=
  (Transition.System.execute (step WebWorker.scriptedPlatform) create
    meetingLabels).get meeting_taken

theorem meeting_reachable : (system WebWorker.scriptedPlatform).Reachable meeting := by
  refine .of_execute ?_ meeting_taken
  rfl

theorem meeting_facts :
    meeting.worker.membersAt 1 = [0, 1] ∧ receivers (meeting.log 1) 2 = [0] := by
  have met : meets meeting = true := Transition.System.checked_get meeting_meets meeting_taken
  rcases Bool.and_eq_true_iff.mp met with ⟨members, handed⟩
  exact ⟨of_decide_eq_true members, of_decide_eq_true handed⟩

theorem meeting_laws :
    meeting.worker.membersAt 1 = [0, 1] ∧ receivers (meeting.log 1) 2 = [0] ∧
      forall cid, meeting.ChannelLaws cid :=
  ⟨meeting_facts.1, meeting_facts.2,
    channel_laws WebWorker.scriptedPlatform meeting meeting_reachable⟩

end Lounge

end EasyProspect
