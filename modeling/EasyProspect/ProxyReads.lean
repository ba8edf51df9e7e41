import EasyProspect.HttpSession
import EasyProspect.ScriptedBeast

namespace EasyProspect

/-!
# The read loops of a proxy session

A proxy session starts in the header loop, moves to the body loop when the header
is complete, and ends when the message is done.  Every call that completes a read
is one iteration of one of these loops.  The five possible outcomes of such a
call are stated once, and everything about sequences of reads is derived from
them.

Both loops clear the error code of the read before the parser is called, and look
at the buffer only after the next read has completed.  So a session whose peer
has gone keeps reading, and a session that already holds a whole request may wait
for the socket.  The two theorems of this module say exactly when that happens.
-/

namespace HttpSession

variable {beast : Beast}

/-- One completed `async_read_some`. -/
structure Read where
  generated : Uuid
  ec : ErrorCode
  data : Octets

/-- The completion that a read reports. -/
def Read.completion (read : Read) : Completion beast :=
  .readSome read.ec read.data

/-- The call that a read makes. -/
def Read.call (read : Read) : Call beast :=
  ⟨read.generated, read.completion⟩

/-- A session of the proxy after its first call. -/
def launched (beast : Beast) (storage : Octets) : HttpSession beast :=
  ((create storage true).resume nilUuid .launch).1

/-- One read after the other. -/
def reads (session : HttpSession beast) (list : List Read) :
    HttpSession beast × List (Effect beast) :=
  session.run (list.map Read.call)

/-- An `async_read_some` is outstanding. -/
def Awaiting (session : HttpSession beast) : Prop :=
  session.coroutine = .headerRead ∨ session.coroutine = .bodyRead

/-! ## The outcomes of one read -/

section Outcomes

variable (generated : Uuid) {session : HttpSession beast} {completion : Completion beast}

/-- The request that the session builds when the header is complete. -/
def builtRequest (beast : Beast) (parser : beast.State) (generated : Uuid) : HttpRequest :=
  (HttpRequestBuilder.ofParser beast parser nilUuid generated).toRequest

/-- The continuation that the session builds after a read of the body loop. -/
def builtContinuation (session : HttpSession beast) (completion : Completion beast) :
    HttpRequestContinuation :=
  let result := session.putStorage completion
  HttpRequestContinuation.build beast result.parser session.currentReq (prBuffer result.stored)
    result.octets

/-- What the copy out of `pr_buffer_` adds to the effects of a body read. -/
def copyEffects (session : HttpSession beast) (completion : Completion beast) :
    List (Effect beast) :=
  let result := session.putStorage completion
  if HttpRequestContinuation.ReadsPastEnd (prBuffer result.stored) result.octets then
    [.readPastEnd result.octets]
  else []

theorem resume_header_incomplete (at_point : session.coroutine = .headerRead)
    (incomplete : beast.isHeaderDone (session.putStorage completion).parser = false) :
    session.resume generated completion =
      ({ session.consume completion with coroutine := .headerRead },
        [.asyncReadSome prepareSize]) := by
  rw [resume_headerRead at_point]
  simp only [onHeaderRead, incomplete, Bool.false_eq_true, if_false]

theorem resume_header_more (at_point : session.coroutine = .headerRead)
    (complete : beast.isHeaderDone (session.putStorage completion).parser = true)
    (more : beast.isDone (session.putStorage completion).parser = false) :
    session.resume generated completion =
      ({ session.consume completion with
          coroutine := .bodyRead
          currentReq := some (builtRequest beast (session.putStorage completion).parser generated) },
        [.sendWorkerReq (some (builtRequest beast (session.putStorage completion).parser generated))
            0 none (clearNeedMore (session.putStorage completion).ec),
          .asyncReadSome prepareSize]) := by
  rw [resume_headerRead at_point]
  have next : beast.isDone (session.consume completion).parser = false := more
  simp only [onHeaderRead, complete, if_true, bodyLoop_more, next, builtRequest]

theorem resume_header_last (at_point : session.coroutine = .headerRead)
    (done : beast.isDone (session.putStorage completion).parser = true) :
    session.resume generated completion =
      ({ session.consume completion with
          coroutine := .terminated
          currentReq := some (builtRequest beast (session.putStorage completion).parser generated) },
        [.sendWorkerReq (some (builtRequest beast (session.putStorage completion).parser generated))
          0 none (clearNeedMore (session.putStorage completion).ec)]) := by
  rw [resume_headerRead at_point]
  have complete := beast.headerDone_of_done _ done
  have next : beast.isDone (session.consume completion).parser = true := done
  simp only [onHeaderRead, complete, if_true, bodyLoop_done, next, builtRequest]

theorem resume_body_more (at_point : session.coroutine = .bodyRead)
    (more : beast.isDone (session.putStorage completion).parser = false) :
    session.resume generated completion =
      ({ session.consume completion with coroutine := .bodyRead },
        session.copyEffects completion ++
          [.sendWorkerReq none 1 (some (session.builtContinuation completion))
              (clearNeedMore (session.putStorage completion).ec),
            .asyncReadSome prepareSize]) := by
  rw [resume_bodyRead at_point]
  have next : beast.isDone (session.consume completion).parser = false := more
  simp only [onBodyRead, bodyLoop_more, next, copyEffects, builtContinuation]
  rfl

theorem resume_body_last (at_point : session.coroutine = .bodyRead)
    (done : beast.isDone (session.putStorage completion).parser = true) :
    session.resume generated completion =
      ({ session.consume completion with coroutine := .terminated },
        session.copyEffects completion ++
          [.sendWorkerReq none 1 (some (session.builtContinuation completion))
            (clearNeedMore (session.putStorage completion).ec)]) := by
  rw [resume_bodyRead at_point]
  have next : beast.isDone (session.consume completion).parser = true := done
  simp only [onBodyRead, bodyLoop_done, next, copyEffects, builtContinuation]
  rfl

end Outcomes

theorem reads_cons (session : HttpSession beast) (read : Read) (list : List Read) :
    session.reads (read :: list) =
      (((session.resume read.generated read.completion).1.reads list).1,
        (session.resume read.generated read.completion).2 ++
          ((session.resume read.generated read.completion).1.reads list).2) := rfl

theorem reads_append (session : HttpSession beast) (early late : List Read) :
    session.reads (early ++ late) =
      (((session.reads early).1.reads late).1,
        (session.reads early).2 ++ ((session.reads early).1.reads late).2) := by
  simp only [reads, List.map_append]
  exact Transition.Machine.run_append session _ _

theorem reads_terminated {session : HttpSession beast} (at_point : session.coroutine = .terminated)
    (list : List Read) : session.reads list = (session, []) :=
  run_terminated at_point (list.map Read.call)

/-- The parser, and the octets that are left, when one call is made for each of
the reads. -/
def fed (parser : beast.State) (held : Octets) : List Read -> beast.State × Octets
  | [] => (parser, held)
  | read :: list =>
      let result := beast.put parser prBufferSize (held ++ read.data)
      fed result.parser ((held ++ read.data).drop result.octets) list

theorem fed_append (parser : beast.State) (held : Octets) (early late : List Read) :
    fed parser held (early ++ late) =
      fed (fed parser held early).1 (fed parser held early).2 late := by
  induction early generalizing parser held with
  | nil => rfl
  | cons read early inductionHypothesis => exact inductionHypothesis _ _

/-- The call for one of the reads leaves the parser done. -/
def Completes (parser : beast.State) (held : Octets) (list : List Read) : Prop :=
  Exists fun early => early ≠ [] ∧ early <+: list ∧
    beast.isDone (fed parser held early).1 = true

theorem completes_concat (parser : beast.State) (held : Octets) (list : List Read) (read : Read) :
    Completes parser held (list ++ [read]) <->
      Completes parser held list ∨
        beast.isDone (fed parser held (list ++ [read])).1 = true := by
  constructor
  · rintro ⟨early, nonempty, prefixed, done⟩
    rcases List.prefix_concat_iff.mp prefixed with rfl | shorter
    · exact Or.inr done
    · exact Or.inl ⟨early, nonempty, shorter, done⟩
  · rintro (⟨early, nonempty, prefixed, done⟩ | done)
    · exact ⟨early, nonempty, prefixed.trans (List.prefix_append _ _), done⟩
    · exact ⟨_, List.concat_ne_nil read list, List.prefix_rfl, done⟩

/-- A read leads to a point of the two loops or to the end. -/
theorem awaiting_or_terminated_step {session : HttpSession beast} (generated : Uuid)
    (completion : Completion beast)
    (now : session.Awaiting ∨ session.coroutine = .terminated) :
    (session.resume generated completion).1.Awaiting ∨
      (session.resume generated completion).1.coroutine = .terminated := by
  rcases now with (header | body) | terminated
  · cases done : beast.isDone (session.putStorage completion).parser with
    | true => exact Or.inr (by rw [resume_header_last generated header done])
    | false =>
        cases complete : beast.isHeaderDone (session.putStorage completion).parser with
        | true =>
            rw [resume_header_more generated header complete done]
            exact Or.inl (Or.inr rfl)
        | false =>
            rw [resume_header_incomplete generated header complete]
            exact Or.inl (Or.inl rfl)
  · cases done : beast.isDone (session.putStorage completion).parser with
    | true => exact Or.inr (by rw [resume_body_last generated body done])
    | false =>
        rw [resume_body_more generated body done]
        exact Or.inl (Or.inr rfl)
  · rw [resume_terminated terminated]
    exact Or.inr terminated

/-! ## Errors -/

/-- The read completed with an error, or the parser fails on what it delivered. -/
def Erroneous (session : HttpSession beast) (read : Read) : Prop :=
  read.ec ≠ none ∨ clearNeedMore (session.putStorage read.completion).ec ≠ none

def issuesRead : Effect beast -> Bool
  | .asyncReadSome _ => true
  | _ => false

def handsContinuation : Effect beast -> Bool
  | .sendWorkerReq _ _ (some _) _ => true
  | _ => false

/-- The coroutine has ended without another read and without another
continuation for the worker. -/
def Stops (result : HttpSession beast × List (Effect beast)) : Prop :=
  result.1.coroutine = .terminated ∧
    forall effect, effect ∈ result.2 ->
      issuesRead effect = false ∧ handsContinuation effect = false

/-- Every erroneous read of a run ends the session. -/
def StopsOnError (beast : Beast) (storage : Octets) (list : List Read) : Prop :=
  forall before read after, list = before ++ read :: after ->
    ((launched beast storage).reads before).1.Awaiting ->
      Erroneous ((launched beast storage).reads before).1 read ->
        Stops (((launched beast storage).reads before).1.reads (read :: after))

/-- The octets that this read completes are a whole request without a body. -/
def EndsMessage (session : HttpSession beast) (read : Read) : Prop :=
  session.coroutine = .headerRead ∧
    beast.isDone (session.putStorage read.completion).parser = true

/-- Errors occur only where the request is at its end anyway. -/
def ErrorsEndMessage (beast : Beast) (storage : Octets) (list : List Read) : Prop :=
  forall before read after, list = before ++ read :: after ->
    ((launched beast storage).reads before).1.Awaiting ->
      Erroneous ((launched beast storage).reads before).1 read ->
        EndsMessage ((launched beast storage).reads before).1 read

theorem stops_of_endsMessage {session : HttpSession beast} {read : Read}
    (ends : EndsMessage session read) (after : List Read) :
    Stops (session.reads (read :: after)) := by
  have last := resume_header_last read.generated ends.1 ends.2
  rw [reads_cons, last, reads_terminated rfl]
  refine ⟨rfl, ?_⟩
  intro effect member
  rw [List.append_nil, List.mem_singleton] at member
  subst member
  exact ⟨rfl, rfl⟩

/-- A read that is not the end of a bodiless request is followed by another read
or by a continuation, whatever came with it. -/
theorem endsMessage_of_stops {session : HttpSession beast} {read : Read} {after : List Read}
    (awaiting : session.Awaiting) (stops : Stops (session.reads (read :: after))) :
    EndsMessage session read := by
  rw [reads_cons] at stops
  have quiet : forall effect, effect ∈ (session.resume read.generated read.completion).2 ->
      issuesRead effect = false ∧ handsContinuation effect = false :=
    fun effect member => stops.2 effect (List.mem_append_left _ member)
  cases done : beast.isDone (session.putStorage read.completion).parser with
  | true =>
      rcases awaiting with header | body
      · exact ⟨header, done⟩
      · rw [resume_body_last read.generated body done] at quiet
        have handed : true = false :=
          (quiet _ (List.mem_append_right _ (List.mem_singleton.mpr rfl))).2
        exact absurd handed (by decide)
  | false =>
      have another : Effect.asyncReadSome prepareSize ∈
          (session.resume read.generated read.completion).2 := by
        rcases awaiting with header | body
        · cases complete : beast.isHeaderDone (session.putStorage read.completion).parser with
          | true =>
              rw [resume_header_more read.generated header complete done]
              exact List.mem_cons_of_mem _ (List.mem_singleton.mpr rfl)
          | false =>
              rw [resume_header_incomplete read.generated header complete]
              exact List.mem_singleton.mpr rfl
        · rw [resume_body_more read.generated body done]
          exact List.mem_append_right _ (List.mem_cons_of_mem _ (List.mem_singleton.mpr rfl))
      have issued : true = false := (quiet _ another).1
      exact absurd issued (by decide)

/-- A session stops on every error exactly when its errors come with the last
octets of a bodiless request. -/
theorem stopsOnError_iff (beast : Beast) (storage : Octets) (list : List Read) :
    StopsOnError beast storage list <-> ErrorsEndMessage beast storage list := by
  constructor
  · intro stops before read after split awaiting erroneous
    exact endsMessage_of_stops awaiting (stops before read after split awaiting erroneous)
  · intro ends before read after split awaiting erroneous
    exact stops_of_endsMessage (ends before read after split awaiting erroneous) after

/-- The first octet of a request, and then the end of the stream. -/
theorem endOfStream_read_again :
    ¬ forall storage list, StopsOnError (scriptedBeast getScript) storage list := by
  intro stops
  have ended := stops (octetsOf "G") [⟨nilUuid, some (.other 2), []⟩] [] _ [] rfl (Or.inl rfl)
    (Or.inl (by decide))
  exact absurd ended.1 (by decide)

/-- While the parser makes no progress on what it holds, a stream at its end is
read again and again. -/
theorem reads_endOfStream {session : HttpSession beast} (header : session.coroutine = .headerRead)
    {ec : ErrorCode} {error : ErrorCode}
    (stuck : beast.put session.parser prBufferSize session.storage =
      ⟨session.parser, 0, [], ec⟩)
    (incomplete : beast.isHeaderDone session.parser = false) (count : Nat) :
    session.reads (List.replicate count ⟨nilUuid, error, []⟩) =
      (session, List.replicate count (.asyncReadSome prepareSize)) := by
  have put : session.putStorage (.readSome error []) = ⟨session.parser, 0, [], ec⟩ := by
    rw [← stuck, putStorage, Completion.committed, List.append_nil]
  have same : { session.consume (.readSome error []) with coroutine := .headerRead } = session := by
    rw [consume, put, Completion.committed, List.append_nil, List.drop_zero, ← header]
  have again : session.resume nilUuid (Read.mk nilUuid error []).completion =
      (session, [.asyncReadSome prepareSize]) := by
    rw [Read.completion, resume_header_incomplete nilUuid header (put ▸ incomplete), same]
  induction count with
  | zero => rfl
  | succ count inductionHypothesis =>
      rw [List.replicate_succ, reads_cons, again, inductionHypothesis]
      rfl

end HttpSession

end EasyProspect
