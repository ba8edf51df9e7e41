import EasyProspect.Membership

namespace EasyProspect

/-!
# Sessions that end

The end of a read loop is only written to the log: nothing takes the session out of the
channels that it has joined.  So there are no ghosts exactly as long as every session that
ends has left all of its channels before.
-/

/-- A platform whose parser knows one more text. -/
def Platform.knowing (platform : Platform) (text : Octets) (members : List (String × Json)) :
    Platform :=
  { platform with
    parse := fun other => if other = text then .ok (.object members) else platform.parse other }

theorem Platform.parse_knowing (platform : Platform) (text : Octets)
    (members : List (String × Json)) :
    (platform.knowing text members).parse text = .ok (.object members) :=
  if_pos rfl

theorem Platform.parse_knowing_other (platform : Platform) {text other : Octets}
    (members : List (String × Json)) (different : other ≠ text) :
    (platform.knowing text members).parse other = platform.parse other :=
  if_neg different

namespace Lounge

open Broadcast

variable {platform : Platform} {lounge next : Lounge}

/-- A session that has ended is in the channel no more: it is no member, its leave notice has
been handed to those who have stayed since it left, and it gets no broadcast that is copied after
its end. -/
structure Departed (lounge : Lounge) (session : Nat) (cid : UInt64) : Prop where
  absent : session ∉ lounge.worker.membersAt cid
  /-- The notice is the one of its last change: it was copied after that, from the members of that
  moment, and all of these have been handed it. -/
  told : forall before change rest, lounge.log cid = before ++ .changed session change :: rest ->
    changes rest session = [] -> change = .leave ∧
      Exists fun broadcast => Exists fun notice : Notice Nat Json => Exists fun snapshot =>
        before.length < broadcast ∧
          (lounge.log cid)[broadcast]? = some (.taken notice snapshot) ∧
            notice.speaker = some session ∧ notice.change = some .leave ∧
              (Exists fun channel : Channel => channel.cid = cid ∧
                Exists fun name => notice.text = channel.notice "leave" name) ∧
              receivers (lounge.log cid) broadcast = snapshot ∧
                forall receiver, receiver ≠ session ->
                  lastChange before receiver = some .join -> changes rest receiver = [] ->
                    receiver ∈ snapshot
  silent : Exists fun before => Exists fun rest =>
    lounge.log cid = before ++ .gone session :: rest ∧
      (forall notice snapshot, .taken notice snapshot ∈ rest -> session ∉ snapshot) ∧
      forall broadcast notice, .handed broadcast notice session ∈ rest ->
        broadcast < before.length

/-- For every session that has ended, and every channel. -/
def NoGhosts (lounge : Lounge) : Prop :=
  forall session cid, lounge.stage session = .ended -> lounge.Departed session cid

/-- A session that ends is in no channel. -/
def EndsOutside (platform : Platform) (lounge : Lounge) : LoungeLabel -> Prop
  | .resume session completion =>
      completion.outcome platform = .ends -> forall cid, session ∉ lounge.worker.membersAt cid
  | _ => True

/-! ## What membership decides -/

theorem phase_of_ended {session : Nat} (ended : lounge.stage session = .ended) (cid : UInt64) :
    (lounge.room cid).phase (some session) = .gone := by
  show (lounge.stage session).phaseIn cid = .gone
  rw [ended]
  rfl

/-- Once a session has ended, only its membership matters. -/
theorem departed_of_absent (reachable : (system platform).Reachable lounge) {session : Nat}
    {cid : UInt64} (ended : lounge.stage session = .ended)
    (absent : session ∉ lounge.worker.membersAt cid) : lounge.Departed session cid := by
  have reached := room_reachable reachable cid
  have left := phase_of_ended ended cid
  have outside : lastChange (lounge.log cid) session ≠ some .join :=
    fun last => absent (((Room.roster_reachable reached).listed session).mpr last)
  refine ⟨absent, fun before change rest parts last => ?_, ?_⟩
  · have final : lastChange (lounge.log cid) session = some change := by
      rw [parts, List.append_cons, lastChange_append last, lastChange_changed]
    cases change with
    | join => exact absurd final outside
    | leave =>
        rcases Room.told_of_gone reached left parts last with
          ⟨broadcast, notice, snapshot, later, taken, spoken, told, handed, stayed⟩
        rcases spells_logged reachable (List.mem_of_getElem? taken) rfl with ⟨channel, own, text⟩
        rw [told] at text
        exact ⟨rfl, broadcast, notice, snapshot, later, taken, spoken, told, ⟨channel, own, text⟩,
          handed, stayed⟩
  · rcases List.append_of_mem (Room.noted_reachable reached session left) with ⟨before, rest, parts⟩
    have unchanged := (Room.departed_reachable reached before session rest parts).1
    have earlier : lastChange before session ≠ some .join := by
      intro inside
      have parted : lounge.log cid = before ++ .gone session :: rest := parts
      rw [parted, List.append_cons, lastChange_append unchanged, lastChange_concat rfl] at outside
      exact outside inside
    refine ⟨before, rest, parts, fun notice snapshot taken => ?_, fun broadcast notice handed => ?_⟩
    · exact Room.not_copied_after reached parts earlier taken
    · exact Room.handed_after reached parts earlier handed

theorem ended_update {session other : Nat} {stage : SessionStage}
    (ended : Function.update lounge.stage session stage other = .ended)
    (running : stage ≠ .ended) : lounge.stage other = .ended := by
  by_cases same : other = session
  · rw [same, Function.update_self] at ended
    exact absurd ended running
  · rw [Function.update_of_ne same] at ended
    exact ended

/-- Only the read loop ends a session. -/
theorem ended_moved {label : LoungeLabel} {session : Nat}
    (moved : Moved platform lounge label next) (ended : next.stage session = .ended) :
    lounge.stage session = .ended ∨ Exists fun completion =>
      label = .resume session completion ∧ completion.outcome platform = .ends ∧
        next = lounge.depart session := by
  cases moved with
  | ends other completion outcome idle =>
      by_cases same : session = other
      · subst same
        exact Or.inr ⟨completion, rfl, outcome, rfl⟩
      · have stages : (lounge.depart other).stage session = lounge.stage session :=
          Function.update_of_ne same _ _
        exact Or.inl (stages.symm.trans ended)
  | begun other completion call user channel next requested idle owned addressed begun =>
      cases begun with
      | play => exact Or.inl ended
      | _ => exact Or.inl (ended_update ended nofun)
  | spread => exact Or.inl (ended_update ended nofun)
  | closed => exact Or.inl (ended_update ended nofun)
  | told => exact Or.inl (ended_update ended nofun)
  | responded => exact Or.inl (ended_update ended nofun)
  | _ => exact Or.inl ended

theorem absent_sees {session : Nat} {cid : UInt64} (ended : lounge.stage session = .ended)
    (absent : session ∉ lounge.worker.membersAt cid) (sees : lounge.Sees next cid) :
    session ∉ next.worker.membersAt cid := by
  rcases sees with same | step
  · have members : next.worker.membersAt cid = lounge.worker.membersAt cid :=
      congrArg Room.members same
    rw [members]
    exact absent
  · exact Room.outside_step (phase_of_ended ended cid) absent step

theorem resume_ends {session : Nat} {completion : WsCompletion}
    (outcome : completion.outcome platform = .ends)
    (taken : lounge.resume platform session completion = some next) :
    next = lounge.depart session := by
  rw [resume, outcome] at taken
  split at taken
  · rcases Option.ite_none_right_eq_some.mp taken with ⟨_, ends⟩
    exact (Option.some.inj ends).symm
  · cases taken

/-- A step makes no ghosts exactly if it ends no session that is in a channel. -/
theorem noGhosts_step {label : LoungeLabel} (reachable : (system platform).Reachable lounge)
    (departed : lounge.NoGhosts) (taken : lounge.step platform label = some next) :
    next.NoGhosts <-> EndsOutside platform lounge label := by
  have moved := moved_step taken
  constructor
  · intro after
    cases label with
    | resume session completion =>
        intro outcome cid
        cases resume_ends outcome taken
        exact (after session cid (Function.update_self _ _ _)).absent
    | _ => trivial
  · intro outside session cid ended
    refine departed_of_absent (reachable.extend (.single taken)) ended ?_
    rcases ended_moved moved ended with before | ⟨completion, rfl, outcome, rfl⟩
    · have sees := sees_moved (registered_reachable reachable) (hostsPlain_reachable reachable)
        moved cid
      exact absent_sees before (departed session cid before).absent sees
    · exact outside outcome cid

theorem noGhosts_reachable
    (reachable : ((system platform).restrict (EndsOutside platform)).Reachable lounge) :
    lounge.NoGhosts := by
  refine reachable.invariant_reachable ?_ ?_
  · rintro lounge rfl session cid ended
    cases ended
  · rintro lounge label next reached departed ⟨outside, taken⟩
    exact (noGhosts_step reached.of_restrict departed taken).mpr outside

/-- There are no ghosts in any run in which every session that ends has left its channels, and
the next session that ends in a channel is one. -/
theorem noGhosts_iff (platform : Platform) (lounge : Lounge)
    (reachable : ((system platform).restrict (EndsOutside platform)).Reachable lounge) :
    lounge.NoGhosts ∧ forall label next, lounge.step platform label = some next ->
      (next.NoGhosts <-> EndsOutside platform lounge label) :=
  ⟨noGhosts_reachable reachable, fun _ _ taken =>
    noGhosts_step reachable.of_restrict (noGhosts_reachable reachable) taken⟩

/-! ## Two sessions -/

def leaveText : Octets :=
  octetsOf ("\x7b\"jsonrpc\":\"2.0\",\"id\":2,\"method\":\"leave\"," ++
    "\"params\":\x7b\"cid\":1\x7d\x7d")

def leaveMembers : List (String × Json) :=
  [("id", .unsigned 2), ("jsonrpc", .string "2.0"), ("method", .string "leave"),
    ("params", .object [("cid", .unsigned 1)])]

def visitPlatform : Platform :=
  WebWorker.scriptedPlatform.knowing leaveText leaveMembers

/-- A session identifies, which makes it a member, and leaves again. -/
def visitLabels : List LoungeLabel :=
  [.connect, .resume 0 (.read none WebWorker.identifyText), .advance 0, .advance 0, .advance 0,
    .advance 0, .resume 0 (.read none leaveText), .advance 0, .advance 0, .advance 0]

/-- The session waits for a message, and is in no channel. -/
def waitsOutside (lounge : Lounge) : Bool :=
  (lounge.stage 0).isIdle && decide (lounge.worker.sessions.length = 1) &&
    decide (lounge.worker.channels = WebWorker.create.channels)

theorem visit_waitsOutside :
    (Transition.System.execute (step visitPlatform) create visitLabels).map waitsOutside =
      some true := by
  decide +kernel

theorem visit_taken :
    (Transition.System.execute (step visitPlatform) create visitLabels).isSome = true :=
  Transition.System.taken_of_checked visit_waitsOutside

def visit : Lounge :=
  (Transition.System.execute (step visitPlatform) create visitLabels).get visit_taken

theorem visit_facts : visit.stage 0 = .idle ∧ visit.worker.sessions.length = 1 ∧
    visit.worker.channels = WebWorker.create.channels := by
  have waits : waitsOutside visit = true :=
    Transition.System.checked_get visit_waitsOutside visit_taken
  rw [waitsOutside, Bool.and_eq_true, Bool.and_eq_true] at waits
  rcases waits with ⟨⟨idle, one⟩, outside⟩
  exact ⟨SessionStage.idle_of_isIdle idle, of_decide_eq_true one, of_decide_eq_true outside⟩

theorem outcome_identify :
    (WsCompletion.read none WebWorker.identifyText).outcome visitPlatform =
      .requests WebWorker.identifyCall none := by
  have other : WebWorker.identifyText ≠ leaveText := by decide +kernel
  have parsed := WebWorker.scriptedPlatform.parse_knowing_other leaveMembers other
  exact outcome_of_parse (parsed.trans WebWorker.parse_identify) rfl

theorem outcome_leave :
    Exists fun call => (WsCompletion.read none leaveText).outcome visitPlatform =
      .requests call none :=
  ⟨_, outcome_of_parse (WebWorker.scriptedPlatform.parse_knowing leaveText leaveMembers) rfl⟩

theorem visit_reachable :
    ((system visitPlatform).restrict (EndsOutside visitPlatform)).Reachable visit := by
  have run : (system visitPlatform).Run create visitLabels visit :=
    .of_execute (Option.some_get visit_taken).symm
  refine ⟨create, rfl, visitLabels, run.restrict_of fun label among lounge => ?_⟩
  cases label with
  | resume session completion =>
      intro outcome
      simp only [visitLabels, List.mem_cons, LoungeLabel.resume.injEq, reduceCtorEq, false_or,
        or_false, List.not_mem_nil] at among
      rcases among with ⟨_, rfl⟩ | ⟨_, rfl⟩
      · cases outcome_identify.symm.trans outcome
      · rcases outcome_leave with ⟨call, leaves⟩
        cases leaves.symm.trans outcome
  | _ => trivial

/-- Its read fails when it is in no channel. -/
theorem visit_ends :
    visit.step visitPlatform (.resume 0 (.read (some .endOfStream) [])) =
      some (visit.depart 0) := by
  rcases visit_facts with ⟨idle, one, _⟩
  have connected : 0 < visit.worker.sessions.length := one.symm ▸ Nat.zero_lt_one
  change visit.resume visitPlatform 0 (.read (some .endOfStream) []) = _
  rw [resume, idle]
  exact if_pos connected

theorem visited_reachable :
    ((system visitPlatform).restrict (EndsOutside visitPlatform)).Reachable (visit.depart 0) := by
  have channels := visit_facts.2.2
  have outside : EndsOutside visitPlatform visit (.resume 0 (.read (some .endOfStream) [])) := by
    intro _ cid
    rw [WebWorker.membersAt_of_channels channels, membersAt_create]
    exact List.not_mem_nil
  exact visit_reachable.extend (.single ⟨outside, visit_ends⟩)

theorem visited_noGhosts :
    (visit.depart 0).stage 0 = .ended ∧ (visit.depart 0).NoGhosts ∧
      forall label next, (visit.depart 0).step visitPlatform label = some next ->
        (next.NoGhosts <-> EndsOutside visitPlatform (visit.depart 0) label) :=
  ⟨rfl, noGhosts_iff visitPlatform (visit.depart 0) visited_reachable⟩

/-- A session identifies, and its next read fails. -/
def ghostLabels : List LoungeLabel :=
  [.connect, .resume 0 (.read none WebWorker.identifyText), .advance 0, .advance 0, .advance 0,
    .advance 0, .resume 0 (.read (some .endOfStream) [])]

/-- The session is in the system channel. -/
def listed (lounge : Lounge) : Bool :=
  decide (0 ∈ lounge.worker.membersAt 1)

theorem ghost_listed :
    (Transition.System.execute (step WebWorker.scriptedPlatform) create ghostLabels).map listed =
      some true := by
  decide +kernel

theorem ghost_taken :
    (Transition.System.execute (step WebWorker.scriptedPlatform) create
      ghostLabels).isSome = true :=
  Transition.System.taken_of_checked ghost_listed

def ghost : Lounge :=
  (Transition.System.execute (step WebWorker.scriptedPlatform) create ghostLabels).get ghost_taken

theorem ghost_reachable : (system WebWorker.scriptedPlatform).Reachable ghost := by
  refine .of_execute ?_ ghost_taken
  rfl

/-- It stays a member of the system channel. -/
theorem ghost_remains : ¬ forall lounge, (system WebWorker.scriptedPlatform).Reachable lounge ->
    lounge.NoGhosts := by
  intro departed
  have ended : ghost.stage 0 = .ended := rfl
  have member : 0 ∈ ghost.worker.membersAt 1 :=
    of_decide_eq_true (Transition.System.checked_get ghost_listed ghost_taken)
  exact (departed ghost ghost_reachable 0 1 ended).absent member

end Lounge

end EasyProspect
