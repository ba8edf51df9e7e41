import EasyProspect.OrderedSteps

namespace EasyProspect

/-!
# The backend stream of a proxied request

The parts of a request come from its session, which gives all of them the session
id of the request.  With this the invariant of the coroutines holds in every run
whose steps keep the order.
-/

open HttpSession Downstream

namespace ProxyRun

variable {beast : Beast}

/-- The steps that do not disturb the order.  No call draws the nil id. -/
def InSequence (run : ProxyRun beast) : ProxyLabel beast -> Prop
  | .upstream arguments => arguments.generated ≠ nilUuid
  | .downstream label => run.downstream.KeepsOrder label

/-- No part has been handed over. -/
structure Unrequested (run : ProxyRun beast) : Prop where
  reading : run.session.coroutine = .headerRead
  request : run.session.currentReq = none
  tasks : run.downstream.tasks = []
  sequenced : forall session, session ≠ nilUuid ->
    Sequenced beast session run.downstream 0 []

/-- The parts of the request are written in order. -/
structure Requested (run : ProxyRun beast) (request : HttpRequest) : Prop where
  past : run.session.coroutine ≠ .headerRead
  current : run.session.currentReq = some request
  named : request.sessionId ≠ nilUuid
  sequenced : Exists fun delivered => Exists fun progress =>
    Sequenced beast request.sessionId run.downstream delivered progress

def Ordered (run : ProxyRun beast) : Prop :=
  Unrequested run ∨ Exists fun request => Requested run request

theorem unrequested_start (beast : Beast) (storage : Octets) (backends : Nat) :
    Unrequested (start beast storage backends) where
  reading := rfl
  request := rfl
  tasks := rfl
  sequenced := by
    intro session _
    constructor
    · exact fun pool member => List.eq_of_mem_replicate member
    · exact fun found present => nomatch present
    · exact fun part member => absurd member List.not_mem_nil
    · exact fun position task conn present => nomatch present
    · exact fun position task present => nomatch present
    · exact Nat.le_refl 0
    · exact fun stream found present => nomatch present
    · rfl
    · exact fun task present => nomatch present
    · exact fun _ => rfl
    · exact fun position task present => nomatch present

/-- What the session hands over is put behind what it has handed over before. -/
theorem ordered_hands {run : ProxyRun beast} {next : HttpSession beast} {generated : Uuid}
    {effects : List (Effect beast)} (drawn : generated ≠ nilUuid) (ordered : Ordered run)
    (hands : Hands run.session next generated (effects.filterMap handedPart)) :
    Ordered ⟨next, spawnParts run.downstream effects⟩ := by
  rw [spawnParts]
  generalize effects.filterMap handedPart = parts at hands
  rcases ordered with unrequested | ⟨request, requested⟩
  · cases hands with
    | nothing reads before same =>
        refine Or.inl ⟨reads, same.trans unrequested.request, ?_, ?_⟩
        · exact List.append_eq_nil_iff.mpr ⟨unrequested.tasks, rfl⟩
        · intro session named
          exact (unrequested.sequenced session named).spawn
            fun _ member => absurd member List.not_mem_nil
    | header request own goes before current =>
        have named : request.sessionId ≠ nilUuid := own ▸ drawn
        refine Or.inr ⟨request, ⟨?_, current, named, 0, [], ?_⟩⟩
        · rw [goes]
          split <;> decide
        · exact (unrequested.sequenced _ named).spawn
            (List.forall_mem_singleton.mpr ⟨request, rfl, rfl⟩)
    | continuation reqContinuation of goes before same =>
        cases before.symm.trans unrequested.reading
  · rcases requested.sequenced with ⟨delivered, progress, sequenced⟩
    cases hands with
    | nothing reads before same => exact absurd before requested.past
    | header other own goes before current => exact absurd before requested.past
    | continuation reqContinuation of goes before same =>
        refine Or.inr ⟨request, ⟨?_, same.trans requested.current, requested.named, delivered,
          progress, ?_⟩⟩
        · rw [goes]
          split <;> decide
        · have carried : currReq ⟨none, 1, some reqContinuation⟩ = some request :=
            of.trans requested.current
          exact sequenced.spawn (List.forall_mem_singleton.mpr ⟨request, carried, rfl⟩)

/-- In a proxy session a call hands over parts or does nothing. -/
structure Proxied (run : ProxyRun beast) : Prop where
  point : run.session.Awaiting ∨ run.session.coroutine = .terminated
  ordered : Ordered run

theorem proxied_upstream {run : ProxyRun beast} (arguments : Call beast)
    (drawn : arguments.generated ≠ nilUuid) (proxied : Proxied run) :
    Proxied ⟨(run.session.call arguments).1,
      spawnParts run.downstream (run.session.call arguments).2⟩ := by
  have next := awaiting_or_terminated_step arguments.generated arguments.completion proxied.point
  refine ⟨next, ?_⟩
  rcases proxied.point with awaiting | ended
  · exact ordered_hands drawn proxied.ordered
      (hands_resume arguments.generated arguments.completion awaiting)
  · have nothing : run.session.call arguments = (run.session, []) := resume_terminated ended
    have tasks : spawnParts run.downstream (run.session.call arguments).2 = run.downstream := by
      rw [nothing, spawnParts]
      simp only [List.filterMap_nil, List.map_nil, List.append_nil]
    rw [tasks, nothing]
    exact proxied.ordered

/-- Before a part is handed over no coroutine can move. -/
theorem tasks_of_unrequested {world next : Downstream} {label : DownstreamLabel}
    (tasks : world.tasks = []) (keeps : world.KeepsOrder label)
    (taken : world.step beast label = some next) : next.tasks = [] := by
  have carries : forall part, part ∈ world.tasks.map Task.part -> Carries part := by
    rw [tasks]
    exact fun _ member => absurd member List.not_mem_nil
  have still : forall {task : Nat} {part : Part} {before after : Phase},
      ¬Moved world next task part before after := by
    intro task part before after moved
    have found := moved.found
    rw [tasks] at found
    cases found
  cases step_workStep beast carries taken with
  | idle label same => exact same.trans tasks
  | spawned => exact False.elim keeps
  | moved label moves => exact absurd moves still
  | awaits label moves => exact absurd moves still
  | answered response moves => exact absurd moves still
  | readFailed label moves => exact absurd moves still

theorem ordered_downstream {run : ProxyRun beast} {label : DownstreamLabel} {next : Downstream}
    (ordered : Ordered run) (keeps : run.downstream.KeepsOrder label)
    (taken : run.downstream.step beast label = some next) :
    Ordered { run with downstream := next } := by
  rcases ordered with unrequested | ⟨request, requested⟩
  · have tasks := tasks_of_unrequested unrequested.tasks keeps taken
    refine Or.inl ⟨unrequested.reading, unrequested.request, tasks, ?_⟩
    intro session named
    rcases (unrequested.sequenced session named).step named keeps taken with
      ⟨delivered, progress, sequenced⟩
    have bound := sequenced.bound
    have nothing := sequenced.unbegun
    rw [tasks] at bound nothing
    cases Nat.le_zero.mp bound
    cases nothing (Nat.le_refl 0)
    exact sequenced
  · rcases requested.sequenced with ⟨delivered, progress, sequenced⟩
    exact Or.inr ⟨request, requested.past, requested.current, requested.named,
      sequenced.step requested.named keeps taken⟩

theorem proxied_step {run next : ProxyRun beast} {label : ProxyLabel beast}
    (proxied : Proxied run) (inSequence : InSequence run label)
    (taken : step beast run label = some next) : Proxied next := by
  cases label with
  | upstream arguments =>
      cases taken
      exact proxied_upstream arguments inSequence proxied
  | downstream label =>
      rw [step] at taken
      split at taken
      · cases taken
      · rcases Option.map_eq_some_iff.mp taken with ⟨downstream, success, rfl⟩
        exact ⟨proxied.point, ordered_downstream proxied.ordered inSequence success⟩

/-- In every run whose steps keep the order, whatever the interleaving, the backend
stream of the request carries its octets in order, and all of them once every
part is delivered. -/
theorem octets_inOrder (beast : Beast) (run : ProxyRun beast)
    (reachable : ((system beast).restrict InSequence).Reachable run) (request : HttpRequest)
    (current : run.session.currentReq = some request) :
    OctetsInOrder beast request.sessionId run.downstream := by
  have proxied : Proxied run := by
    refine reachable.invariant ?_ ?_
    · rintro state ⟨storage, backends, rfl⟩
      exact ⟨Or.inl (Or.inl rfl), Or.inl (unrequested_start beast storage backends)⟩
    · rintro state label next now ⟨inSequence, taken⟩
      exact proxied_step now inSequence taken
  rcases proxied.ordered with unrequested | ⟨other, requested⟩
  · cases unrequested.request.symm.trans current
  · cases requested.current.symm.trans current
    rcases requested.sequenced with ⟨_, _, sequenced⟩
    exact sequenced.inOrder

/-! ## A request with a body -/

def putScript : Script where
  request := { methodString := "PUT", target := "/", fields := [("Content-Length", "3")] }
  header := octetsOf "PUT / HTTP/1.1\r\nContent-Length: 3\r\n\r\n"
  elements := [.data (octetsOf "abc")]
  contentLength := some 3
  upgrade := false

/-- The header and the body come in two reads, and both are written. -/
def putLabels : List (ProxyLabel (scriptedBeast putScript)) :=
  [.upstream ⟨7#128, .readSome none putScript.header⟩, .downstream (.begin 0 9#128),
    .downstream (.resolved 0 true), .downstream (.connected 0 true),
    .downstream (.writes 0 5), .downstream (.written 0),
    .upstream ⟨8#128, .readSome none (octetsOf "abc")⟩, .downstream (.begin 1 9#128),
    .downstream (.writtenSome 1 3)]

instance (run : ProxyRun beast) (label : ProxyLabel beast) : Decidable (InSequence run label) :=
  match label with
  | .upstream arguments => inferInstanceAs (Decidable (arguments.generated ≠ nilUuid))
  | .downstream label => inferInstanceAs (Decidable (run.downstream.KeepsOrder label))

theorem putLabels_taken :
    (Transition.System.execute (Transition.System.guarded InSequence (step _))
      (start (scriptedBeast putScript) [] 1) putLabels).isSome = true := by
  decide +kernel

def putProxied : ProxyRun (scriptedBeast putScript) :=
  (Transition.System.execute (Transition.System.guarded InSequence (step _))
    (start (scriptedBeast putScript) [] 1) putLabels).get putLabels_taken

theorem putProxied_current : putProxied.session.currentReq.isSome = true := by
  decide +kernel

theorem octets_inOrder_put :
    OctetsInOrder (scriptedBeast putScript)
      (putProxied.session.currentReq.get putProxied_current).sessionId putProxied.downstream :=
  octets_inOrder (scriptedBeast putScript) putProxied
    (.of_execute_guarded ⟨[], 1, rfl⟩ putLabels_taken)
    (putProxied.session.currentReq.get putProxied_current)
    (Option.some_get putProxied_current).symm

/-- The coroutine of the body finds the connection initialised while the header is
still being written. -/
def overtakingLabels : List (ProxyLabel (scriptedBeast putScript)) :=
  [.upstream ⟨7#128, .readSome none putScript.header⟩, .downstream (.begin 0 9#128),
    .downstream (.resolved 0 true), .downstream (.connected 0 true),
    .upstream ⟨8#128, .readSome none (octetsOf "abc")⟩, .downstream (.begin 1 9#128),
    .downstream (.writtenSome 1 3), .downstream (.writes 0 5), .downstream (.written 0)]

/-- The body has arrived before the request line, without any error. -/
def bodyFirst (run : ProxyRun (scriptedBeast putScript)) : Bool :=
  run.session.currentReq.any (fun request =>
    run.downstream.wire request.sessionId = octetsOf "abcPUT /") &&
  decide ((payloads (scriptedBeast putScript) run.downstream).flatten = octetsOf "PUT /abc")

theorem overtaking_bodyFirst :
    (Transition.System.execute (step _) (start (scriptedBeast putScript) [] 1)
      overtakingLabels).map bodyFirst = some true := by
  decide +kernel

theorem overtakingLabels_taken :
    (Transition.System.execute (step _) (start (scriptedBeast putScript) [] 1)
      overtakingLabels).isSome = true :=
  Transition.System.taken_of_checked overtaking_bodyFirst

def overtaken : ProxyRun (scriptedBeast putScript) :=
  (Transition.System.execute (step _) (start (scriptedBeast putScript) [] 1)
    overtakingLabels).get overtakingLabels_taken

theorem overtaken_bodyFirst : Exists fun request =>
    overtaken.session.currentReq = some request ∧
      overtaken.downstream.wire request.sessionId = octetsOf "abcPUT /" ∧
        (payloads (scriptedBeast putScript) overtaken.downstream).flatten =
          octetsOf "PUT /abc" := by
  have first : bodyFirst overtaken = true :=
    Transition.System.checked_get overtaking_bodyFirst overtakingLabels_taken
  rcases Bool.and_eq_true_iff.mp first with ⟨arrived, sent⟩
  rcases (Option.any_eq_true _ _).mp arrived with ⟨request, known, wire⟩
  exact ⟨request, known, of_decide_eq_true wire, of_decide_eq_true sent⟩

theorem octets_overtaken :
    ¬ forall run, (system (scriptedBeast putScript)).Reachable run ->
      forall request, run.session.currentReq = some request ->
        OctetsInOrder (scriptedBeast putScript) request.sessionId run.downstream := by
  intro inOrder
  have reachable : (system (scriptedBeast putScript)).Reachable overtaken := by
    refine .of_execute ?_ overtakingLabels_taken
    exact ⟨[], 1, rfl⟩
  rcases overtaken_bodyFirst with ⟨request, known, wire, payloads⟩
  have first := (inOrder overtaken reachable request known).1
  rw [wire, payloads] at first
  exact absurd (List.isPrefixOf_iff_prefix.mpr first) (by decide)

end ProxyRun

end EasyProspect
