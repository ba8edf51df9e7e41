import EasyProspect.Downstream
import EasyProspect.ProxyReads
import EasyProspect.ScriptedBeast
import Mathlib.Data.List.Nodup

namespace EasyProspect

/-!
# One proxied request from the client to the backend and back

The session of a client and the downstream component run together.  A call of the
session hands over the parts of the request, and the lambda of `server_impl`
spawns a coroutine for each of them.  Between these calls the coroutines take
their steps in any order, and every operation may fail.

The flag of a part says whether the parser was done when the part was handed over.
The session ends with the first part whose flag is set, so this part is the only
one whose coroutine reads a response.
-/

open HttpSession Downstream

structure ProxyRun (beast : Beast) where
  session : HttpSession beast
  downstream : Downstream

/-- A call of the session, or a step of the coroutines. -/
inductive ProxyLabel (beast : Beast)
  | upstream (call : Call beast)
  | downstream (label : DownstreamLabel)

namespace ProxyRun

variable {beast : Beast}

/-- The part that an effect hands over. -/
def handedPart : Effect beast -> Option Part
  | .sendWorkerReq firstReq position reqContinuation _ =>
      some ⟨firstReq, position, reqContinuation⟩
  | _ => none

/-- `send_worker_req_impl_`: a coroutine for each part. -/
def spawnParts (downstream : Downstream) (effects : List (Effect beast)) : Downstream :=
  { downstream with
    tasks := downstream.tasks ++ (effects.filterMap handedPart).map fun part => ⟨part, .spawned⟩ }

def isSpawn : DownstreamLabel -> Bool
  | .spawn _ => true
  | _ => false

/-- Coroutines are spawned by the session only. -/
def step (beast : Beast) (run : ProxyRun beast) : ProxyLabel beast -> Option (ProxyRun beast)
  | .upstream arguments =>
      let (session, effects) := run.session.call arguments
      some ⟨session, spawnParts run.downstream effects⟩
  | .downstream label =>
      if isSpawn label then none
      else
        (run.downstream.step beast label).map fun downstream =>
          { run with downstream := downstream }

/-- A session that has just been launched, and a component without sessions. -/
def start (beast : Beast) (storage : Octets) (backends : Nat) : ProxyRun beast where
  session := launched beast storage
  downstream := Downstream.create backends

def system (beast : Beast) : Transition.System (ProxyRun beast) (ProxyLabel beast) :=
  Transition.System.ofStep
    (fun run => Exists fun storage => Exists fun backends => run = start beast storage backends)
    (step beast)

/-! ## The parts of a request -/

/-- The parts handed over so far: none is done while the session reads, and only
the last one is done when it has ended. -/
def HandedOver (session : HttpSession beast) (parts : List Part) : Prop :=
  session.Awaiting ∧ (forall part, part ∈ parts -> partDone part = false) ∨
    session.coroutine = .terminated ∧ Exists fun before => Exists fun last =>
      parts = before ++ [last] ∧ (forall part, part ∈ before -> partDone part = false) ∧
        partDone last = true

theorem partDone_request (request : HttpRequest) (position : Nat) :
    partDone ⟨some request, position, none⟩ = request.done := by
  rw [partDone, Option.all_some, Option.all_none, Bool.and_true]

theorem partDone_continuation (reqContinuation : HttpRequestContinuation) (position : Nat) :
    partDone ⟨none, position, some reqContinuation⟩ = reqContinuation.done := by
  rw [partDone, Option.all_none, Option.all_some, Bool.true_and]

/-- The parts that a call of a waiting session hands over. -/
inductive Hands (session next : HttpSession beast) (generated : Uuid) : List Part -> Prop
  | nothing (reads : next.coroutine = .headerRead) (before : session.coroutine = .headerRead)
      (same : next.currentReq = session.currentReq) : Hands session next generated []
  | header (request : HttpRequest) (own : request.sessionId = generated)
      (goes : next.coroutine = if request.done then .terminated else .bodyRead)
      (before : session.coroutine = .headerRead) (current : next.currentReq = some request) :
      Hands session next generated [⟨some request, 0, none⟩]
  | continuation (reqContinuation : HttpRequestContinuation)
      (of : reqContinuation.firstRequest = session.currentReq)
      (goes : next.coroutine = if reqContinuation.done then .terminated else .bodyRead)
      (before : session.coroutine = .bodyRead) (same : next.currentReq = session.currentReq) :
      Hands session next generated [⟨none, 1, some reqContinuation⟩]

theorem hands_resume (generated : Uuid) {session : HttpSession beast}
    (completion : Completion beast) (point : session.Awaiting) :
    Hands session (session.resume generated completion).1 generated
      ((session.resume generated completion).2.filterMap handedPart) := by
  have copies : (session.copyEffects completion).filterMap handedPart = [] := by
    rw [copyEffects]
    split <;> rfl
  cases done : beast.isDone (session.putStorage completion).parser with
  | true =>
      rcases point with header | body
      · rw [resume_header_last generated header done]
        simp only [List.filterMap_cons, List.filterMap_nil, handedPart]
        exact .header _ rfl (if_pos done).symm header rfl
      · rw [resume_body_last generated body done]
        simp only [List.filterMap_append, copies, List.filterMap_cons, List.filterMap_nil,
          handedPart, List.nil_append]
        exact .continuation _ rfl (if_pos done).symm body rfl
  | false =>
      have more : ¬beast.isDone (session.putStorage completion).parser = true :=
        ne_true_of_eq_false done
      rcases point with header | body
      · cases complete : beast.isHeaderDone (session.putStorage completion).parser with
        | true =>
            rw [resume_header_more generated header complete done]
            simp only [List.filterMap_cons, List.filterMap_nil, handedPart]
            exact .header _ rfl (if_neg more).symm header rfl
        | false =>
            rw [resume_header_incomplete generated header complete]
            exact .nothing rfl header rfl
      · rw [resume_body_more generated body done]
        simp only [List.filterMap_append, copies, List.filterMap_cons, List.filterMap_nil,
          handedPart, List.nil_append]
        exact .continuation _ rfl (if_neg more).symm body rfl

theorem Hands.carries {session next : HttpSession beast} {generated : Uuid} {parts : List Part}
    (hands : Hands session next generated parts) :
    forall part, part ∈ parts -> Carries part := by
  cases hands with
  | nothing => exact fun _ member => absurd member List.not_mem_nil
  | header => exact List.forall_mem_singleton.mpr (Or.inl rfl)
  | continuation => exact List.forall_mem_singleton.mpr (Or.inr rfl)

/-- A single part decides with its flag whether the session reads on. -/
theorem handedOver_single {session : HttpSession beast} {part : Part}
    (goes : session.coroutine = if partDone part then .terminated else .bodyRead) :
    HandedOver session [part] := by
  cases done : partDone part with
  | true =>
      rw [done] at goes
      exact Or.inr ⟨goes, [], part, rfl, fun _ member => absurd member List.not_mem_nil, done⟩
  | false =>
      rw [done] at goes
      exact Or.inl ⟨Or.inr goes, List.forall_mem_singleton.mpr done⟩

/-- What one call of the session adds. -/
theorem Hands.handedOver {session next : HttpSession beast} {generated : Uuid} {parts : List Part}
    (hands : Hands session next generated parts) : HandedOver next parts := by
  cases hands with
  | nothing reads => exact Or.inl ⟨Or.inl reads, fun _ member => absurd member List.not_mem_nil⟩
  | header request own goes =>
      rw [← partDone_request request 0] at goes
      exact handedOver_single goes
  | continuation reqContinuation of goes =>
      rw [← partDone_continuation reqContinuation 1] at goes
      exact handedOver_single goes

theorem handed_call {session : HttpSession beast} {parts : List Part} (arguments : Call beast)
    (handed : HandedOver session parts) :
    HandedOver (session.call arguments).1
      (parts ++ (session.call arguments).2.filterMap handedPart) := by
  rcases handed with ⟨point, unfinished⟩ | ⟨ended, finished⟩
  · rcases (hands_resume arguments.generated arguments.completion point).handedOver with
      ⟨next, more⟩ | ⟨next, before, last, same, more, done⟩
    · refine Or.inl ⟨next, ?_⟩
      intro part member
      rcases List.mem_append.mp member with old | new
      · exact unfinished part old
      · exact more part new
    · refine Or.inr ⟨next, parts ++ before, last, ?_, ?_, done⟩
      · rw [List.append_assoc, ← same]
        rfl
      · intro part member
        rcases List.mem_append.mp member with old | new
        · exact unfinished part old
        · exact more part new
  · have nothing : session.call arguments = (session, []) := resume_terminated ended
    rw [nothing, List.filterMap_nil, List.append_nil]
    exact Or.inr ⟨ended, finished⟩

/-- The position of a part that is done. -/
theorem position_of_done {session : HttpSession beast} {parts : List Part}
    (handed : HandedOver session parts) {position : Nat} {part : Part}
    (found : parts[position]? = some part) (done : partDone part = true) :
    position + 1 = parts.length := by
  rcases handed with ⟨_, unfinished⟩ | ⟨_, before, last, rfl, unfinished, _⟩
  · rw [unfinished part (List.mem_of_getElem? found)] at done
    exact Bool.noConfusion done
  · by_cases within : position < before.length
    · rw [List.getElem?_append_left within] at found
      rw [unfinished part (List.mem_of_getElem? found)] at done
      exact Bool.noConfusion done
    · have bound := (List.getElem?_eq_some_iff.mp found).1
      rw [List.length_append, List.length_singleton] at bound ⊢
      omega

/-! ## The responses -/

/-- The coroutine's own write has completed. -/
def WroteIn (labels : List (ProxyLabel beast)) (task : Nat) : Prop :=
  Exists fun label => .downstream label ∈ labels ∧ Wrote task label

/-- A response has been read and passed on, after the coroutine's own write. -/
def AnsweredIn (labels : List (ProxyLabel beast)) (task : Nat) (response : Response) : Prop :=
  Exists fun before => Exists fun after =>
    labels = before ++ .downstream (.answered task response) :: after ∧ WroteIn before task

theorem WroteIn.append {labels : List (ProxyLabel beast)} {task : Nat}
    (wrote : WroteIn labels task) (more : List (ProxyLabel beast)) :
    WroteIn (labels ++ more) task := by
  rcases wrote with ⟨label, member, own⟩
  exact ⟨label, List.mem_append_left more member, own⟩

theorem AnsweredIn.append {labels : List (ProxyLabel beast)} {task : Nat} {response : Response}
    (answered : AnsweredIn labels task response) (more : List (ProxyLabel beast)) :
    AnsweredIn (labels ++ more) task response := by
  rcases answered with ⟨before, after, rfl, wrote⟩
  exact ⟨before, after ++ more, by rw [List.append_assoc, List.cons_append], wrote⟩

def partsOf (downstream : Downstream) : List Part :=
  downstream.tasks.map Task.part

/-- How a coroutine came to where it is, in terms of the steps so far. -/
structure Justified (labels : List (ProxyLabel beast)) (position : Nat) (task : Task) : Prop where
  done : ¬BeforeRead task.phase -> partDone task.part = true
  wrote : task.phase = .reading -> WroteIn labels position

/-- The invariant of a run, relative to its steps. -/
structure Accounted (labels : List (ProxyLabel beast)) (run : ProxyRun beast) : Prop where
  handed : HandedOver run.session (partsOf run.downstream)
  carries : forall part, part ∈ partsOf run.downstream -> Carries part
  justified : forall (position : Nat) (task : Task),
    run.downstream.tasks[position]? = some task -> Justified labels position task
  responses : forall position response, (position, response) ∈ run.downstream.responses ->
    (Exists fun task => run.downstream.tasks[position]? = some task ∧
      task.phase = .ended .answered) ∧ AnsweredIn labels position response
  once : (run.downstream.responses.map Prod.fst).Nodup

theorem accounted_start (beast : Beast) (storage : Octets) (backends : Nat) :
    Accounted [] (start beast storage backends) where
  handed := Or.inl ⟨Or.inl rfl, fun _ member => absurd member List.not_mem_nil⟩
  carries := fun _ member => absurd member List.not_mem_nil
  justified := by
    intro position task found
    cases found
  responses := fun _ _ member => absurd member List.not_mem_nil
  once := List.nodup_nil

theorem Justified.append {labels : List (ProxyLabel beast)} {position : Nat} {task : Task}
    (justified : Justified labels position task) (more : List (ProxyLabel beast)) :
    Justified (labels ++ more) position task where
  done := justified.done
  wrote := fun reading => (justified.wrote reading).append more

theorem carries_call {session : HttpSession beast} {parts : List Part} (arguments : Call beast)
    (handed : HandedOver session parts) :
    forall part, part ∈ (session.call arguments).2.filterMap handedPart -> Carries part := by
  rcases handed with ⟨point, _⟩ | ⟨ended, _⟩
  · exact (hands_resume arguments.generated arguments.completion point).carries
  · have nothing : session.call arguments = (session, []) := resume_terminated ended
    rw [nothing]
    exact fun _ member => absurd member List.not_mem_nil

/-- A call of the session adds coroutines that have not begun. -/
theorem accounted_upstream {labels : List (ProxyLabel beast)} {run : ProxyRun beast}
    (arguments : Call beast) (accounted : Accounted labels run) :
    Accounted (labels ++ [.upstream arguments])
      ⟨(run.session.call arguments).1,
        spawnParts run.downstream (run.session.call arguments).2⟩ := by
  let added := (run.session.call arguments).2.filterMap handedPart
  have parts : partsOf (spawnParts run.downstream (run.session.call arguments).2) =
      partsOf run.downstream ++ added := by
    rw [partsOf, spawnParts, List.map_append, List.map_map]
    exact congrArg _ (List.map_id added)
  constructor
  · rw [parts]
    exact handed_call arguments accounted.handed
  · rw [parts]
    intro part member
    rcases List.mem_append.mp member with old | new
    · exact accounted.carries part old
    · exact carries_call arguments accounted.handed part new
  · intro position task found
    rcases Cells.getElem?_append_cases found with old | ⟨_, new⟩
    · exact (accounted.justified position task old).append _
    · rcases List.mem_map.mp new with ⟨part, _, rfl⟩
      exact ⟨fun late => absurd trivial late, fun reading => nomatch reading⟩
  · intro position response member
    rcases accounted.responses position response member with ⟨⟨task, found, phase⟩, answered⟩
    exact ⟨⟨task, Cells.getElem?_append_of_some found, phase⟩, answered.append _⟩
  · exact accounted.once

/-- The answers so far are not touched by a coroutine that moves. -/
theorem answers_of_moved {world next : Downstream} {task : Nat} {part : Part}
    {before after : Phase} (moved : Moved world next task part before after)
    (unanswered : before ≠ .ended .answered) {position : Nat}
    (answered : Exists fun found => world.tasks[position]? = some found ∧
      found.phase = .ended .answered) :
    position ≠ task ∧ Exists fun found => next.tasks[position]? = some found ∧
      found.phase = .ended .answered := by
  rcases answered with ⟨found, present, phase⟩
  have different : position ≠ task := by
    intro same
    rw [same, moved.found] at present
    cases present
    exact unanswered phase
  exact ⟨different, found, (moved.elsewhere different).trans present, phase⟩

/-- A coroutine that moves is accounted for when its new phase is. -/
theorem accounted_moved {labels : List (ProxyLabel beast)} {run : ProxyRun beast}
    {next : Downstream} {task : Nat} {part : Part} {before after : Phase}
    (label : ProxyLabel beast) (accounted : Accounted labels run)
    (moved : Moved run.downstream next task part before after)
    (unanswered : before ≠ .ended .answered)
    (responses : next.responses = run.downstream.responses)
    (justified : Justified (labels ++ [label]) task ⟨part, after⟩) :
    Accounted (labels ++ [label]) { run with downstream := next } := by
  constructor
  · change HandedOver run.session (next.tasks.map Task.part)
    rw [moved.parts]
    exact accounted.handed
  · change forall part, part ∈ next.tasks.map Task.part -> Carries part
    rw [moved.parts]
    exact accounted.carries
  · intro position found present
    rcases moved.found_cases present with ⟨rfl, rfl⟩ | ⟨_, old⟩
    · exact justified
    · exact (accounted.justified position found old).append [label]
  · intro position response member
    rw [responses] at member
    rcases accounted.responses position response member with ⟨answered, inLabels⟩
    exact ⟨(answers_of_moved moved unanswered answered).2, inLabels.append [label]⟩
  · rw [responses]
    exact accounted.once

theorem accounted_downstream {labels : List (ProxyLabel beast)} {run : ProxyRun beast}
    {label : DownstreamLabel} {next : Downstream} (accounted : Accounted labels run)
    (work : WorkStep run.downstream next label) (own : forall part, label ≠ .spawn part) :
    Accounted (labels ++ [.downstream label]) { run with downstream := next } := by
  cases work with
  | idle label tasks responses =>
      constructor
      · rw [partsOf, tasks]
        exact accounted.handed
      · rw [partsOf, tasks]
        exact accounted.carries
      · intro position task found
        rw [tasks] at found
        exact (accounted.justified position task found).append _
      · intro position response member
        rw [responses] at member
        rcases accounted.responses position response member with ⟨answered, inLabels⟩
        rw [tasks]
        exact ⟨answered, inLabels.append _⟩
      · rw [responses]
        exact accounted.once
  | spawned part tasks responses => exact absurd rfl (own part)
  | moved label moves early waiting responses =>
      refine accounted_moved _ accounted moves ?_ responses ⟨fun late => absurd early late, ?_⟩
      · rintro rfl
        exact waiting
      · rintro rfl
        exact False.elim early
  | awaits label moves waiting wrote done responses =>
      refine accounted_moved _ accounted moves ?_ responses ⟨fun _ => done, fun _ => ?_⟩
      · rintro rfl
        exact waiting
      · exact ⟨label, List.mem_append_right _ (List.mem_singleton.mpr rfl), wrote⟩
  | readFailed label moves responses =>
      have before := accounted.justified _ _ moves.found
      exact accounted_moved _ accounted moves nofun responses
        ⟨fun _ => before.done (fun early => early), fun reading => nomatch reading⟩
  | @answered task part response moves responses =>
      have reading := accounted.justified _ _ moves.found
      let silent : Downstream := { next with responses := run.downstream.responses }
      have movesSilent : Moved run.downstream silent task part .reading (.ended .answered) :=
        ⟨moves.found, moves.tasks⟩
      have moved := accounted_moved (.downstream (.answered task response)) accounted movesSilent
        nofun rfl ⟨fun _ => reading.done (fun early => early), fun again => nomatch again⟩
      refine ⟨moved.handed, moved.carries, moved.justified, ?_, ?_⟩
      · intro position other member
        rw [responses] at member
        rcases List.mem_append.mp member with old | new
        · exact moved.responses position other old
        · cases List.mem_singleton.mp new
          exact ⟨⟨_, moves.here, rfl⟩, labels, [], rfl, reading.wrote rfl⟩
      · rw [responses, List.map_append, List.nodup_append]
        refine ⟨accounted.once, List.nodup_singleton _, ?_⟩
        intro position old other new same
        rcases List.mem_map.mp old with ⟨⟨answered, earlier⟩, member, rfl⟩
        cases List.mem_singleton.mp new
        have different := (answers_of_moved moves nofun
          (accounted.responses answered earlier member).1).1
        exact different same

theorem accounted_step {labels : List (ProxyLabel beast)} {run next : ProxyRun beast}
    {label : ProxyLabel beast} (accounted : Accounted labels run)
    (taken : step beast run label = some next) : Accounted (labels ++ [label]) next := by
  cases label with
  | upstream arguments =>
      cases taken
      exact accounted_upstream arguments accounted
  | downstream label =>
      rw [step] at taken
      split at taken
      · cases taken
      · rename_i notSpawn
        rcases Option.map_eq_some_iff.mp taken with ⟨downstream, success, rfl⟩
        apply accounted_downstream accounted (step_workStep beast accounted.carries success)
        rintro part rfl
        exact notSpawn rfl

/-- Every run is accounted for by its own steps. -/
theorem accounted_run {labels : List (ProxyLabel beast)} {first last : ProxyRun beast}
    (run : (system beast).Run first labels last) (accounted : Accounted [] first) :
    Accounted labels last := by
  induction run with
  | refl => exact accounted
  | snoc _ taken inductionHypothesis => exact accounted_step inductionHypothesis taken

/-- In every run of a client request the response is passed on at most once, by
the coroutine of the one part that is done, after its own write has completed and
after it has read the response. -/
theorem answered_once (beast : Beast) (storage : Octets) (backends : Nat)
    (labels : List (ProxyLabel beast)) (last : ProxyRun beast)
    (run : (system beast).Run (start beast storage backends) labels last) :
    last.downstream.responses.length ≤ 1 ∧
      forall position response, (position, response) ∈ last.downstream.responses ->
        AnsweredIn labels position response ∧
          (Exists fun task => last.downstream.tasks[position]? = some task ∧
            partDone task.part = true) ∧
          forall (other : Nat) (task : Task), last.downstream.tasks[other]? = some task ->
            partDone task.part = true -> other = position := by
  have accounted := accounted_run run (accounted_start beast storage backends)
  have final : forall (other : Nat) (task : Task), last.downstream.tasks[other]? = some task ->
      partDone task.part = true -> other + 1 = (partsOf last.downstream).length := by
    intro other task found done
    refine position_of_done accounted.handed ?_ done
    rw [partsOf, List.getElem?_map, found]
    rfl
  have answering : forall position response,
      (position, response) ∈ last.downstream.responses ->
        Exists fun task => last.downstream.tasks[position]? = some task ∧
          partDone task.part = true := by
    intro position response member
    rcases (accounted.responses position response member).1 with ⟨task, found, phase⟩
    refine ⟨task, found, (accounted.justified position task found).done ?_⟩
    rw [phase]
    exact fun early => early
  constructor
  · have alone : forall position, position ∈ last.downstream.responses.map Prod.fst ->
        position = (partsOf last.downstream).length - 1 := by
      intro position member
      rcases List.mem_map.mp member with ⟨⟨answered, response⟩, present, rfl⟩
      rcases answering answered response present with ⟨task, found, done⟩
      have counted := final answered task found done
      exact Nat.eq_sub_of_add_eq counted
    have single := List.eq_replicate_of_mem alone
    have nodup := accounted.once
    rw [single, List.nodup_replicate, List.length_map] at nodup
    exact nodup
  · intro position response member
    rcases answering position response member with ⟨task, found, done⟩
    refine ⟨(accounted.responses position response member).2, ⟨task, found, done⟩, ?_⟩
    intro other otherTask otherFound otherDone
    have one := final position task found done
    have two := final other otherTask otherFound otherDone
    omega

/-! ## A request that is answered -/

/-- The answer of the backend. -/
def uploadResponse : Response := ⟨octetsOf "HTTP/1.1 201 Created\r\n\r\n", false⟩

/-- The header and the body come in two reads.  The coroutine of the header resolves, connects
and writes in two pieces; that of the body finds the connection, writes and reads. -/
def uploadLabels : List (ProxyLabel (scriptedBeast uploadScript)) :=
  [.upstream ⟨7#128, .readSome none uploadScript.header⟩, .downstream (.begin 0 9#128),
    .downstream (.resolved 0 true), .upstream ⟨7#128, .readSome none (octetsOf "ab")⟩,
    .downstream (.connected 0 true), .downstream (.writes 0 2), .downstream (.writes 0 3),
    .downstream (.written 0), .downstream (.begin 1 9#128), .downstream (.writtenSome 1 2),
    .downstream (.answered 1 uploadResponse)]

theorem uploadLabels_taken :
    (Transition.System.execute (step (scriptedBeast uploadScript))
      (start (scriptedBeast uploadScript) [] 1) uploadLabels).isSome = true := by
  decide +kernel

/-- The state after it. -/
def uploadProxied : ProxyRun (scriptedBeast uploadScript) :=
  (Transition.System.execute (step (scriptedBeast uploadScript))
    (start (scriptedBeast uploadScript) [] 1) uploadLabels).get uploadLabels_taken

/-- The response belongs to the second part, the body. -/
theorem uploadProxied_responses : uploadProxied.downstream.responses = [(1, uploadResponse)] := by
  decide +kernel

theorem answered_once_upload :
    AnsweredIn uploadLabels 1 uploadResponse ∧
      forall (other : Nat) (task : Task), uploadProxied.downstream.tasks[other]? = some task ->
        partDone task.part = true -> other = 1 := by
  rcases (answered_once (scriptedBeast uploadScript) [] 1 uploadLabels uploadProxied
    (.of_execute (Option.some_get uploadLabels_taken).symm)).2 1 uploadResponse
      (uploadProxied_responses ▸ List.mem_cons_self) with ⟨answered, _, alone⟩
  exact ⟨answered, alone⟩

end ProxyRun

end EasyProspect
