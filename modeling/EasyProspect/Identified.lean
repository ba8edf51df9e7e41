import EasyProspect.Departures

namespace EasyProspect

/-!
# Members without a name

`checked_user` keeps those without a name out of `join` and `say`.  Two other ways lead
around it: `identify` accepts the empty name, and a method of the table takes the user of
a member away.  The shutdown notice of the application has the verb of `say`, and no user.

Members and notices are named exactly as long as none of the three happens.
-/

/-- The notices that name a user. -/
def namingVerbs : List String :=
  ["say", "join", "leave"]

/-- If the verb of a notice is one of these, its user is a text that is not empty. -/
def Signed (jv : Json) : Prop :=
  forall members verb, jv = .object members -> Json.find members "verb" = some (.string verb) ->
    verb ∈ namingVerbs ->
      Exists fun name => Json.find members "user" = some (.string name) ∧ name ≠ ""

theorem signed_notice {name : String} (named : name ≠ "") (channel : Channel) (verb : String) :
    Signed (channel.notice verb name) := by
  rintro members other ⟨⟩ _ _
  exact ⟨name, rfl, named⟩

theorem signed_sayNotice {name : String} (named : name ≠ "") (channel : Channel)
    (text : String) : Signed (channel.sayNotice name text) := by
  rintro members other ⟨⟩ _ _
  exact ⟨name, rfl, named⟩

theorem signed_strand {work : StrandWork} (channel : Channel) :
    Signed (work.notice channel) <-> work.kind = .table := by
  cases work with
  | update action game =>
      refine ⟨fun _ => rfl, fun _ => ?_⟩
      rintro members verb ⟨⟩ found naming
      have update : Json.find [("action", .string action), ("cid", .unsigned channel.cid),
          ("game", game), ("verb", .string "update")] "verb" = some (.string "update") := rfl
      cases update.symm.trans found
      exact absurd naming (by decide)
  | shutdown remain =>
      refine ⟨fun signed => ?_, nofun⟩
      rcases signed _ "say" rfl rfl (by decide) with ⟨name, user, _⟩
      cases user

namespace WebWorker

variable {worker : WebWorker} {session : Nat}

/-- The session has a user with a name. -/
def HasName (worker : WebWorker) (session : Nat) : Prop :=
  Exists fun user => worker.userOf session = some user ∧ user.name ≠ ""

theorem userOf_modify_other {change : WsSession -> WsSession} {other : Nat}
    (apart : other ≠ session) :
    ((worker.sessions.modify session change)[other]?).bind WsSession.primaryUser =
      worker.userOf other := by
  rw [List.getElem?_modify_ne _ _ (Ne.symm apart)]
  rfl

theorem userOf_setUser {user : User} (owned : worker.userOf session = some user)
    (changed : User) : (worker.setUser session changed).userOf session = some changed := by
  rcases Option.bind_eq_some_iff.mp owned with ⟨wrapper, found, _⟩
  rw [userOf, setUser, Cells.getElem?_modify_self found]
  rfl

theorem hasName_setUser {user : User} (owned : worker.userOf session = some user)
    {changed : User} (named : changed.name ≠ "") {other : Nat} (before : worker.HasName other) :
    (worker.setUser session changed).HasName other := by
  by_cases same : other = session
  · subst same
    exact ⟨changed, userOf_setUser owned changed, named⟩
  · rcases before with ⟨found, own, foundNamed⟩
    exact ⟨found, (userOf_modify_other same).trans own, foundNamed⟩

theorem userOf_postPlay {user : User} (owned : worker.userOf session = some user)
    (call : RpcCall) : (worker.postPlay call user session).userOf session = none := by
  rcases Option.bind_eq_some_iff.mp owned with ⟨wrapper, found, _⟩
  rw [userOf, postPlay_own found]
  rfl

theorem hasName_postPlay {call : RpcCall} {user : User} {other : Nat} (apart : other ≠ session)
    (before : worker.HasName other) : (worker.postPlay call user session).HasName other := by
  rcases before with ⟨found, own, named⟩
  refine ⟨found, ?_, named⟩
  rw [postPlay]
  split
  · exact own
  · exact (userOf_modify_other apart).trans own

theorem hasName_connect (before : worker.HasName session) : worker.connect.HasName session := by
  rcases before with ⟨user, owned, named⟩
  rcases Option.bind_eq_some_iff.mp owned with ⟨wrapper, found, own⟩
  refine ⟨user, ?_, named⟩
  rw [userOf, connect, Cells.getElem?_append_of_some found]
  exact own

theorem Keeps.hasName {after : WebWorker} (keeps : worker.Keeps after)
    (before : worker.HasName session) : after.HasName session := by
  rcases before with ⟨user, owned, named⟩
  exact ⟨user, (keeps.userOf session).trans owned, named⟩

end WebWorker

namespace Lounge

open Broadcast

variable {platform : Platform} {lounge next : Lounge}

def SignedNotice (notice : Notice Nat Json) : Prop :=
  Signed notice.text

/-- Every member has a user with a name, and every notice that names a user does so. -/
structure Named (lounge : Lounge) : Prop where
  members : forall cid session, session ∈ lounge.worker.membersAt cid ->
    lounge.worker.HasName session
  notices : forall cid, (lounge.room cid).Proper SignedNotice

/-- No empty name is given to a user who has none, no method of the table is called by a
member of a channel, and the application does not announce a shutdown. -/
def KeepsNames (platform : Platform) (lounge : Lounge) : LoungeLabel -> Prop
  | .resume session completion =>
      forall call user channel, completion.outcome platform = .requests call none ->
        lounge.worker.userOf session = some user ->
          lounge.worker.Addresses platform call channel ->
            (user.name = "" -> ¬Identifies call channel "") ∧
              (WebWorker.MovesRequest call channel ->
                forall cid, session ∉ lounge.worker.membersAt cid)
  | .strand _ work => work.kind = .table
  | _ => True

/-! ## Notices -/

section Notices

theorem signed_announce {speaker : Option Nat} {change : Option Change} {jv : Json}
    (signed : Signed jv) (notice : Notice Nat Json)
    (announced : (.announce ⟨speaker, change, jv⟩ : Broadcast.Phase Nat Json).notice =
      some notice) :
    SignedNotice notice := by
  cases announced
  exact signed

theorem notices_begun {call : RpcCall} {channel : Channel} {user : User} {session : Nat}
    (signed : forall cid, (lounge.room cid).Proper SignedNotice)
    (found : lounge.worker.channelAt channel.cid = some channel)
    (idle : lounge.stage session = .idle)
    (named : session ∈ channel.sessions -> user.name ≠ "")
    (given : forall name, user.name = "" -> Identifies call channel name -> name ≠ "")
    (begun : Begun lounge call channel user session next) (cid : UInt64) :
    (next.room cid).Proper SignedNotice := by
  cases begun with
  | join named outside =>
      exact proper_actsIn (fun _ => SignedNotice) signed (actsIn_enter found idle lounge.worker rfl outside user)
        (fun _ => signed_announce (signed_notice named channel "join")) cid
  | leave inside =>
      exact proper_actsIn (fun _ => SignedNotice) signed (actsIn_exit found idle inside user)
        (fun _ => signed_announce (signed_notice (named inside) channel "leave")) cid
  | say text named inside =>
      exact proper_actsIn (fun _ => SignedNotice) signed (actsIn_say idle _)
        (fun _ => signed_announce (signed_sayNotice named channel text)) cid
  | identify name identifies unnamed outside =>
      have filled := given name unnamed identifies
      exact proper_actsIn (fun _ => SignedNotice) signed
        (actsIn_enter found idle (lounge.worker.setUser session ⟨name⟩) rfl outside ⟨name⟩)
        (fun _ => signed_announce (signed_notice filled channel "join")) cid
  | identifyAgain name =>
      have same : ((lounge.withWorker (lounge.worker.setUser session ⟨name⟩)).put session
          (.respond call)).room cid = lounge.room cid := by
        apply room_put (idle_respond idle call) <;> rfl
      rw [same]
      exact signed cid
  | post work =>
      have same : (lounge.doPost call session work).room cid = lounge.room cid := by
        apply room_put (idle_respond idle call) <;> rfl
      rw [same]
      exact signed cid
  | play moves =>
      rw [room_worker (postPlay_channels _ _ _ _)]
      exact signed cid

end Notices

/-! ## Members -/

section Members

variable {call : RpcCall} {channel : Channel} {user : User} {session : Nat}

/-- The members of a channel, after one of them has been added or removed. -/
theorem members_setMembers {worker : WebWorker} {members : List Nat} {cid : UInt64} {other : Nat}
    (found : worker.channelAt channel.cid = some channel)
    (member : other ∈ (worker.setMembers channel members).membersAt cid) :
    other ∈ members ∨ other ∈ worker.membersAt cid := by
  by_cases same : cid = channel.cid
  · subst same
    rw [WebWorker.membersAt_setMembers found] at member
    exact Or.inl member
  · rw [WebWorker.membersAt_setMembers_other same] at member
    exact Or.inr member

theorem members_begun (named : forall cid session, session ∈ lounge.worker.membersAt cid ->
      lounge.worker.HasName session)
    (found : lounge.worker.channelAt channel.cid = some channel)
    (owned : lounge.worker.userOf session = some user)
    (given : forall name, user.name = "" -> Identifies call channel name -> name ≠ "")
    (stays : WebWorker.MovesRequest call channel ->
      forall cid, session ∉ lounge.worker.membersAt cid)
    (begun : Begun lounge call channel user session next) (cid : UInt64) (other : Nat)
    (member : other ∈ next.worker.membersAt cid) : next.worker.HasName other := by
  have own := WebWorker.membersAt_of_some found
  cases begun with
  | join filled outside =>
      rcases members_setMembers found member with changed | before
      · rcases List.mem_append.mp changed with earlier | here
        · exact named channel.cid other (own.symm ▸ earlier)
        · cases List.mem_singleton.mp here
          exact ⟨user, owned, filled⟩
      · exact named cid other before
  | leave inside =>
      rcases members_setMembers found member with changed | before
      · exact named channel.cid other (own.symm ▸ List.mem_of_mem_erase changed)
      · exact named cid other before
  | say => exact named cid other member
  | identify name identifies unnamed outside =>
      have filled := given name unnamed identifies
      have registered : (lounge.worker.setUser session ⟨name⟩).channelAt channel.cid =
          some channel := found
      rcases members_setMembers registered member with changed | before
      · rcases List.mem_append.mp changed with earlier | here
        · have before := named channel.cid other (own.symm ▸ earlier)
          exact WebWorker.hasName_setUser owned filled before
        · cases List.mem_singleton.mp here
          exact ⟨⟨name⟩, WebWorker.userOf_setUser owned ⟨name⟩, filled⟩
      · exact WebWorker.hasName_setUser owned filled (named cid other before)
  | identifyAgain name identifies unnamed =>
      exact WebWorker.hasName_setUser owned (given name unnamed identifies)
        (named cid other member)
  | post work => exact named cid other member
  | play moves =>
      have same := WebWorker.membersAt_of_channels
        (postPlay_channels lounge.worker call user session) cid
      have before : other ∈ lounge.worker.membersAt cid := same ▸ member
      have apart : other ≠ session := by
        rintro rfl
        exact stays moves cid before
      exact WebWorker.hasName_postPlay apart (named cid other before)

end Members

/-! ## Steps -/

theorem Named.quiet (named : lounge.Named) (keeps : lounge.worker.Keeps next.worker)
    (notices : forall cid, (next.room cid).Proper SignedNotice) : next.Named := by
  refine ⟨fun cid session member => keeps.hasName (named.members cid session ?_), notices⟩
  rw [← keeps.membersAt]
  exact member

theorem named_of_member (named : lounge.Named) {cid : UInt64} {session : Nat} {user : User}
    (member : session ∈ lounge.worker.membersAt cid)
    (owned : lounge.worker.userOf session = some user) : user.name ≠ "" := by
  rcases named.members cid session member with ⟨other, own, filled⟩
  cases owned.symm.trans own
  exact filled

theorem named_moved {label : LoungeLabel} (registered : lounge.Registered)
    (plain : lounge.HostsPlain) (named : lounge.Named)
    (keepsNames : KeepsNames platform lounge label)
    (moved : Moved platform lounge label next) : next.Named := by
  have signed := named.notices
  have finished : forall notice, (.idle : Broadcast.Phase Nat Json).notice = some notice ->
      SignedNotice notice := nofun
  cases moved with
  | connect =>
      refine ⟨fun cid session member => ?_, fun cid => ?_⟩
      · exact WebWorker.hasName_connect (named.members cid session member)
      · have same : (lounge.withWorker lounge.worker.connect).room cid = lounge.room cid :=
          room_worker rfl cid
        rw [same]
        exact signed cid
  | quiet worker keeps =>
      refine named.quiet keeps fun cid => ?_
      rw [room_worker keeps.channels]
      exact signed cid
  | ends session completion ended idle =>
      refine named.quiet (.refl _) fun cid => ?_
      rw [room_depart]
      exact (signed cid).act (.gone session rfl (phase_of_idle idle cid)) fun _ _ => nofun
  | begun session completion call user channel next requested idle owned addressed begun =>
      rcases keepsNames call user channel requested owned addressed with ⟨filled, stays⟩
      have found := registered.addressed addressed
      have given : forall name, user.name = "" -> Identifies call channel name -> name ≠ "" := by
        rintro name unnamed identifies rfl
        exact filled unnamed identifies
      have inside : session ∈ channel.sessions -> user.name ≠ "" := fun member =>
        named_of_member named ((WebWorker.membersAt_of_some found).symm ▸ member) owned
      exact ⟨members_begun named.members found owned given stays begun,
        notices_begun signed found idle inside given begun⟩
  | spread session cid call phase worker after event busy spreads =>
      refine named.quiet spreads.keeps (proper_actsIn (fun _ => SignedNotice) signed (actsIn_spread busy spreads) ?_)
      exact fun idle => (not_idle_spread spreads ((phase_of_busy busy).symm.trans idle)).elim
  | closed session cid call broadcast notice worker busy stays keeps =>
      exact named.quiet keeps
        (proper_actsIn (fun _ => SignedNotice) signed (actsIn_closed busy stays keeps) fun _ => finished)
  | told session cid call broadcast notice worker busy left keeps =>
      exact named.quiet keeps
        (proper_actsIn (fun _ => SignedNotice) signed (actsIn_told busy left keeps) fun _ => finished)
  | responded session call worker responding keeps =>
      refine named.quiet keeps fun cid => ?_
      have same : ((lounge.withWorker worker).put session .idle).room cid = lounge.room cid := by
        apply room_put (responding_idle responding) keeps.channels <;> rfl
      rw [same]
      exact signed cid
  | strand cid work channel found idle =>
      refine named.quiet (.refl _) (proper_actsIn (fun _ => SignedNotice) signed (actsIn_strand idle _) fun _ => ?_)
      exact signed_announce ((signed_strand channel).mpr keepsNames)
  | hostSpread cid phase worker after event busy spreads =>
      refine named.quiet spreads.keeps (proper_actsIn (fun _ => SignedNotice) signed (actsIn_hostSpread busy spreads) ?_)
      exact fun idle => (not_idle_spread spreads (busy.symm.trans idle)).elim
  | hostDone cid broadcast notice busy =>
      have told : notice.change = none := plain cid notice (by rw [busy]; rfl)
      exact named.quiet (.refl _)
        (proper_actsIn (fun _ => SignedNotice) signed (actsIn_hostDone busy told) fun _ => finished)

/-! ## The three ways to lose a name -/

section Unnamed

variable {call : RpcCall} {channel : Channel} {user : User} {session : Nat}

theorem dispatchTo_identifies {name : String} (identifies : Identifies call channel name)
    (short : name.utf8ByteSize ≤ 20) (unnamed : user.name = "")
    (outside : session ∉ channel.sessions) :
    lounge.dispatchTo call channel user session =
      .ok ((lounge.withWorker (lounge.worker.setUser session ⟨name⟩)).enter call channel ⟨name⟩
        session) := by
  rcases identifies with ⟨system, asked, given⟩
  have join : call.method ≠ "join" := fun same => absurd (asked.symm.trans same) (by decide)
  have leave : call.method ≠ "leave" := fun same => absurd (asked.symm.trans same) (by decide)
  have absent : ¬WebWorker.isJoined channel session = true := mt WebWorker.isJoined_iff.mp outside
  rw [dispatchTo, if_neg join, if_neg leave, onDispatch, system]
  simp only [if_pos asked]
  rw [doIdentify, given]
  show (if 20 < name.utf8ByteSize then _ else _) = _
  rw [if_neg (Nat.not_lt_of_le short), if_neg (not_not.mpr unnamed), if_neg absent]

theorem dispatchTo_moves (moves : WebWorker.MovesRequest call channel) :
    lounge.dispatchTo call channel user session =
      .ok (lounge.withWorker (lounge.worker.postPlay call user session)) := by
  rcases moves with ⟨table, asked⟩
  have join : call.method ≠ "join" := fun same => absurd (same ▸ asked) (by decide)
  have leave : call.method ≠ "leave" := fun same => absurd (same ▸ asked) (by decide)
  rw [dispatchTo, if_neg join, if_neg leave, onDispatch, table]
  exact if_pos asked

theorem resume_requests {completion : WsCompletion} {ec : Option RpcCode}
    (requested : completion.outcome platform = .requests call ec)
    (taken : lounge.resume platform session completion = some next) :
    lounge.answer platform call session (lounge.process platform call session ec) =
      some next := by
  rw [resume, requested] at taken
  split at taken
  · exact (Option.ite_none_right_eq_some.mp taken).2
  · cases taken

/-- A request that is answered with success by its handler. -/
theorem next_of_dispatch {completion : WsCompletion}
    (requested : completion.outcome platform = .requests call none)
    (owned : lounge.worker.userOf session = some user)
    (addressed : lounge.worker.Addresses platform call channel)
    (taken : lounge.resume platform session completion = some next) {begun : Lounge}
    (dispatched : lounge.dispatchTo call channel user session = .ok begun) : next = begun := by
  have answered := resume_requests requested taken
  rw [process_of_addresses owned addressed, dispatched] at answered
  exact (Option.some.inj answered).symm

/-- The step of such a request. -/
theorem resume_of_dispatch {completion : WsCompletion} (idle : lounge.stage session = .idle)
    (connected : session < lounge.worker.sessions.length)
    (requested : completion.outcome platform = .requests call none)
    (owned : lounge.worker.userOf session = some user)
    (addressed : lounge.worker.Addresses platform call channel) {begun : Lounge}
    (dispatched : lounge.dispatchTo call channel user session = .ok begun) :
    lounge.resume platform session completion = some begun := by
  rw [resume, idle]
  simp only [if_pos connected, requested]
  rw [process_of_addresses owned addressed, dispatched]
  rfl

end Unnamed

/-- A step keeps the names exactly if it is none of the three. -/
theorem named_step {label : LoungeLabel} (registered : lounge.Registered)
    (plain : lounge.HostsPlain) (named : lounge.Named)
    (taken : lounge.step platform label = some next) :
    next.Named <-> KeepsNames platform lounge label := by
  refine ⟨fun after => ?_, fun keeps => named_moved registered plain named keeps (moved_step taken)⟩
  cases label with
  | resume session completion =>
      intro call user channel requested owned addressed
      have found := registered.addressed addressed
      refine ⟨fun unnamed identifies => ?_, fun moves cid member => ?_⟩
      · have outside : session ∉ channel.sessions := fun inside =>
          named_of_member named ((WebWorker.membersAt_of_some found).symm ▸ inside) owned unnamed
        cases next_of_dispatch requested owned addressed taken
          (dispatchTo_identifies identifies (by decide) unnamed outside)
        have members := WebWorker.membersAt_setMembers found (channel.sessions ++ [session])
        have inside : session ∈ (lounge.worker.setMembers channel
            (channel.sessions ++ [session])).membersAt channel.cid := by
          rw [members]
          exact List.mem_append_right _ (List.mem_singleton.mpr rfl)
        exact named_of_member after inside (WebWorker.userOf_setUser owned ⟨""⟩) rfl
      · cases next_of_dispatch requested owned addressed taken (dispatchTo_moves moves)
        have same := WebWorker.membersAt_of_channels
          (postPlay_channels lounge.worker call user session) cid
        rcases after.members cid session (same ▸ member) with ⟨other, own, _⟩
        cases (WebWorker.userOf_postPlay owned call).symm.trans own
  | strand cid work =>
      rcases Option.bind_eq_some_iff.mp taken with ⟨channel, _, begins⟩
      split at begins
      · rcases Option.ite_none_right_eq_some.mp begins with ⟨_, begun⟩
        cases begun
        refine (signed_strand channel).mp ?_
        refine (after.notices cid).pending none ⟨none, none, work.notice channel⟩ ?_
        show (Function.update lounge.host cid _ cid).notice = _
        rw [Function.update_self]
        rfl
      · cases begins
  | _ => trivial

theorem named_reachable
    (reachable : ((system platform).restrict (KeepsNames platform)).Reachable lounge) :
    lounge.Named := by
  refine reachable.invariant_reachable ?_ ?_
  · rintro lounge rfl
    refine ⟨fun cid session member => ?_, fun cid => ⟨fun speaker notice announced => ?_, ?_⟩⟩
    · have empty : session ∈ WebWorker.create.membersAt cid := member
      rw [membersAt_create] at empty
      cases empty
    · cases speaker <;> cases announced
    · exact fun event notice among => nomatch among
  · rintro lounge label next reached named ⟨keeps, taken⟩
    exact (named_step (registered_reachable reached.of_restrict)
      (hostsPlain_reachable reached.of_restrict) named taken).mpr keeps

/-- Members and notices are named in every run without the three, and the next step keeps them so
exactly if it is none of them. -/
theorem named_iff (platform : Platform) (lounge : Lounge)
    (reachable : ((system platform).restrict (KeepsNames platform)).Reachable lounge) :
    lounge.Named ∧ forall label next, lounge.step platform label = some next ->
      (next.Named <-> KeepsNames platform lounge label) :=
  ⟨named_reachable reachable, fun _ _ taken =>
    named_step (registered_reachable reachable.of_restrict)
      (hostsPlain_reachable reachable.of_restrict) (named_reachable reachable) taken⟩

theorem meeting_keepsNames :
    ((system WebWorker.scriptedPlatform).restrict
      (KeepsNames WebWorker.scriptedPlatform)).Reachable meeting := by
  have run : (system WebWorker.scriptedPlatform).Run create meetingLabels meeting :=
    .of_execute (Option.some_get meeting_taken).symm
  have requests : (WsCompletion.read none WebWorker.identifyText).outcome
      WebWorker.scriptedPlatform = .requests WebWorker.identifyCall none :=
    outcome_of_parse WebWorker.parse_identify rfl
  refine ⟨create, rfl, meetingLabels, run.restrict_of fun label among lounge => ?_⟩
  cases label with
  | resume session completion =>
      intro call user channel requested _ _
      have identify : completion = .read none WebWorker.identifyText := by
        simp only [meetingLabels, List.mem_cons, LoungeLabel.resume.injEq, reduceCtorEq,
          false_or, or_false, List.not_mem_nil] at among
        rcases among with ⟨_, same⟩ | ⟨_, same⟩ <;> exact same
      rw [identify] at requested
      cases requests.symm.trans requested
      refine ⟨fun _ identifies => ?_, fun moves => absurd moves.2 (by decide)⟩
      have ann : checkedStringAt WebWorker.identifyCall.params "name" = .ok "ann" := rfl
      exact absurd (ann.symm.trans identifies.2.2) (by decide)
  | strand cid work =>
      simp only [meetingLabels, List.mem_cons, reduceCtorEq, or_false, List.not_mem_nil] at among
  | _ => trivial

theorem meeting_named :
    meeting.worker.membersAt 1 = [0, 1] ∧ meeting.Named ∧
      forall label next, meeting.step WebWorker.scriptedPlatform label = some next ->
        (next.Named <-> KeepsNames WebWorker.scriptedPlatform meeting label) :=
  ⟨meeting_facts.1, named_iff WebWorker.scriptedPlatform meeting meeting_keepsNames⟩

/-! ## A session without a name -/

def anonymousText : Octets :=
  octetsOf ("\x7b\"jsonrpc\":\"2.0\",\"id\":1,\"method\":\"identify\"," ++
    "\"params\":\x7b\"cid\":1,\"name\":\"\"\x7d\x7d")

def anonymousMembers : List (String × Json) :=
  [("id", .unsigned 1), ("jsonrpc", .string "2.0"), ("method", .string "identify"),
    ("params", .object [("cid", .unsigned 1), ("name", .string "")])]

def anonymousPlatform : Platform :=
  WebWorker.scriptedPlatform.knowing anonymousText anonymousMembers

/-- It is a member, and its name is empty. -/
def memberUnnamed (lounge : Lounge) : Bool :=
  decide (0 ∈ lounge.worker.membersAt 1) && decide (lounge.worker.userOf 0 = some ⟨""⟩)

theorem anonymous_unnamed :
    (Transition.System.execute (step anonymousPlatform) create
      [.connect, .resume 0 (.read none anonymousText)]).map memberUnnamed = some true := by
  decide +kernel

theorem anonymous_taken :
    (Transition.System.execute (step anonymousPlatform) create
      [.connect, .resume 0 (.read none anonymousText)]).isSome = true :=
  Transition.System.taken_of_checked anonymous_unnamed

def anonymous : Lounge :=
  (Transition.System.execute (step anonymousPlatform) create
    [.connect, .resume 0 (.read none anonymousText)]).get anonymous_taken

theorem anonymous_reachable : (system anonymousPlatform).Reachable anonymous := by
  refine .of_execute ?_ anonymous_taken
  rfl

/-- Its arrival is announced with an empty name. -/
theorem identifies_unnamed : ¬ forall lounge, (system anonymousPlatform).Reachable lounge ->
    lounge.Named := by
  intro named
  have unnamed : memberUnnamed anonymous = true :=
    Transition.System.checked_get anonymous_unnamed anonymous_taken
  rcases Bool.and_eq_true_iff.mp unnamed with ⟨member, owned⟩
  exact named_of_member (named anonymous anonymous_reachable) (of_decide_eq_true member)
    (of_decide_eq_true owned) rfl

end Lounge

end EasyProspect
