import EasyProspect.ProxyReads

namespace EasyProspect

/-!
# Several requests on one connection

A conversation is a session together with what its client and its handlers do.
The client has a list of requests to send; `async_read` delivers the next of them
to a worker, and the reads of a proxy deliver their octets in fragments of any
sizes.  A request that has been handed over whole is answered; the write of the
answer completes and resumes the session.  No operation fails, no request asks
for an upgrade, and every response lets the connection be kept.

The `reenter` block has no loop around it.  So a session creates one parser, and
the completion of its first response finds it at the end of the block.
-/

open HttpSession

/-- A request that is not an upgrade: its octets, and the parser that has read it. -/
structure PlainRequest (beast : Beast) where
  octets : Octets
  parser : beast.State
  plain : beast.isUpgrade (beast.get parser) = false

/-- What has happened: an effect of the session, or the end of the write of the
response to a request. -/
inductive Note (beast : Beast)
  | effect (effect : Effect beast)
  | answered (request : Nat)

/-- A session in a conversation.  `coming` and `wire` are the requests and the
octets that have not been read.  Requests are numbered in the order in which they
are handed over; `owed` await their response, the responses to those of `writing`
are being written, and `responses` have been written. -/
structure Conversation (beast : Beast) where
  session : HttpSession beast
  coming : List (PlainRequest beast)
  wire : Octets
  handed : Nat
  owed : List Nat
  writing : List Nat
  responses : List Nat
  log : List (Note beast)

inductive Exchange
  | request (generated : Uuid) (storage : Octets)
  | fragment (read : Read)
  | respond (request : Nat)
  | written (generated : Uuid) (request : Nat)

namespace Conversation

variable {beast : Beast}

/-- The effect hands over a whole request, or the last part of one. -/
def handsOver : Effect beast -> Bool
  | .handleRequest _ => true
  | .sendWorkerReq (some request) _ none _ => request.done
  | .sendWorkerReq none _ (some reqContinuation) _ => reqContinuation.done
  | _ => false

/-- The conversation after a call of the session. -/
def absorb (conversation : Conversation beast)
    (result : HttpSession beast × List (Effect beast)) : Conversation beast :=
  { conversation with
    session := result.1
    handed := conversation.handed + result.2.countP handsOver
    owed := conversation.owed ++ List.range' conversation.handed (result.2.countP handsOver)
    log := conversation.log ++ result.2.map .effect }

/-- A connection whose client has these requests to send, of which the detector
has read some octets. -/
def opened (sendWorkerReqImpl : Bool) (detected : Nat) (requests : List (PlainRequest beast)) :
    Conversation beast :=
  let octets := requests.flatMap PlainRequest.octets
  let session := create (octets.take detected) sendWorkerReqImpl
  absorb ⟨session, requests, octets.drop detected, 0, [], [], [], []⟩
    (session.resume nilUuid .launch)

/-- The octets are the next of the wire, and fit the prepared part of the buffer. -/
def Delivers (wire : Octets) (read : Read) : Prop :=
  read.ec = none ∧ read.data ≠ [] ∧ read.data.length ≤ prepareSize ∧ read.data <+: wire

instance (wire : Octets) (read : Read) : Decidable (Delivers wire read) :=
  inferInstanceAs (Decidable (_ ∧ _ ∧ _ ∧ _))

def step (conversation : Conversation beast) : Exchange -> Option (Conversation beast)
  | .request generated storage =>
      match conversation.coming with
      | [] => none
      | request :: coming =>
          if conversation.session.coroutine = .requestRead then
            some (absorb { conversation with coming := coming }
              (conversation.session.resume generated (.read none request.parser storage)))
          else none
  | .fragment read =>
      if (conversation.session.coroutine = .headerRead ∨
          conversation.session.coroutine = .bodyRead) ∧ Delivers conversation.wire read then
        some (absorb { conversation with wire := conversation.wire.drop read.data.length }
          (conversation.session.resume read.generated read.completion))
      else none
  | .respond request =>
      if request ∈ conversation.owed then
        some { conversation with
          owed := conversation.owed.erase request
          writing := conversation.writing ++ [request] }
      else none
  | .written generated request =>
      if request ∈ conversation.writing then
        some (absorb { conversation with
            writing := conversation.writing.erase request
            responses := conversation.responses ++ [request]
            log := conversation.log ++ [.answered request] }
          (conversation.session.resume generated (.write none false)))
      else none

def Opening (conversation : Conversation beast) : Prop :=
  Exists fun sendWorkerReqImpl => Exists fun detected => Exists fun requests =>
    conversation = opened sendWorkerReqImpl detected requests

/-- The conversations of sessions in both modes. -/
def system (beast : Beast) : Transition.System (Conversation beast) Exchange :=
  Transition.System.ofStep Opening step

/-- Nothing more can happen: what has been asked for has been read, answered and
written as far as the session lets it. -/
def Settled (conversation : Conversation beast) : Prop :=
  forall exchange, conversation.step exchange = none

/-! ## What keeping the connection alive means -/

def createsParser : Effect beast -> Bool
  | .emplace _ _ => true
  | _ => false

def asksForInput : Effect beast -> Bool
  | .asyncRead => true
  | .asyncReadSome _ => true
  | _ => false

/-- Behind the write of this response a parser is created and a read is begun. -/
def ReadsOn (log : List (Note beast)) (request : Nat) : Prop :=
  Exists fun before => Exists fun after => log = before ++ .answered request :: after ∧
    Exists fun fresh => Exists fun read => createsParser fresh = true ∧
      asksForInput read = true ∧ [Note.effect fresh, Note.effect read].Sublist after

/-- Exactly the requests are answered, in their order, and every response but the
last is followed by a read with a fresh parser. -/
def KeptAlive (requests : Nat) (conversation : Conversation beast) : Prop :=
  conversation.responses = List.range requests ∧
    forall request, request + 1 < requests -> ReadsOn conversation.log request

/-! ## The reads of a conversation -/

def fragment? : Exchange -> Option Read
  | .fragment read => some read
  | _ => none

/-- The reads among the labels of a run, in order. -/
def fragments (labels : List Exchange) : List Read :=
  labels.filterMap fragment?

theorem fragments_concat (labels : List Exchange) (label : Exchange) :
    fragments (labels ++ [label]) = fragments labels ++ (fragment? label).toList := by
  rw [fragments, List.filterMap_append]
  cases label <;> rfl

/-! ## One request at most -/

/-- No request has been handed over. -/
def Untouched (conversation : Conversation beast) : Prop :=
  conversation.handed = 0 ∧ conversation.owed = [] ∧ conversation.writing = [] ∧
    conversation.responses = []

/-- Where a conversation stands: a worker waits for its first request; a proxy has
made one call of the parser for each read, and none has ended the message; or the
first request has left the reading part of the coroutine. -/
inductive Stage (sendWorkerReqImpl : Bool) (storage : Octets)
    (requests : List (PlainRequest beast)) (list : List Read) (conversation : Conversation beast) :
    Prop
  | reading (worker : sendWorkerReqImpl = false)
      (point : conversation.session.coroutine = .requestRead)
      (all : conversation.coming = requests) (untouched : Untouched conversation)
  | receiving (proxy : sendWorkerReqImpl = true) (point : conversation.session.Awaiting)
      (sent : conversation.wire ≠ [] -> requests ≠ [])
      (same : fed beast.emplaced storage list =
        (conversation.session.parser, conversation.session.storage))
      (incomplete : ¬HttpSession.Completes beast.emplaced storage list)
      (untouched : Untouched conversation)
  | left (point : conversation.session.coroutine = .responseWrite ∨
        conversation.session.coroutine = .terminated)
      (asked : requests ≠ [])
      (complete : sendWorkerReqImpl = true -> HttpSession.Completes beast.emplaced storage list)
      (one : conversation.owed ++ conversation.writing ++ conversation.responses = [0])

theorem stage_opened (sendWorkerReqImpl : Bool) (detected : Nat)
    (requests : List (PlainRequest beast)) :
    Stage sendWorkerReqImpl ((requests.flatMap PlainRequest.octets).take detected) requests []
      (opened sendWorkerReqImpl detected requests) := by
  cases sendWorkerReqImpl with
  | true =>
      refine .receiving rfl (Or.inl rfl) ?_ rfl ?_ ⟨rfl, rfl, rfl, rfl⟩
      · rintro more rfl
        exact more List.drop_nil
      · rintro ⟨early, nonempty, prefixed, _⟩
        exact nonempty (List.prefix_nil.mp prefixed)
  | false => exact .reading rfl rfl rfl ⟨rfl, rfl, rfl, rfl⟩

/-- A read of the two loops hands a whole request over where it ends the coroutine,
and only there. -/
theorem resume_awaiting_done {session : HttpSession beast} (generated : Uuid)
    (completion : Completion beast) (point : session.Awaiting)
    (done : beast.isDone (session.putStorage completion).parser = true) :
    (session.resume generated completion).1.coroutine = .terminated ∧
      (session.resume generated completion).2.countP handsOver = 1 := by
  rcases point with header | body
  · have whole : (builtRequest beast (session.putStorage completion).parser generated).done =
        true := done
    rw [resume_header_last generated header done]
    refine ⟨rfl, ?_⟩
    rw [List.countP_singleton, handsOver, whole]
    rfl
  · have whole : (session.builtContinuation completion).done = true := done
    have copies : (session.copyEffects completion).countP handsOver = 0 := by
      rw [copyEffects]
      split <;> rfl
    rw [resume_body_last generated body done]
    refine ⟨rfl, ?_⟩
    rw [List.countP_append, copies, List.countP_singleton, handsOver, whole]
    rfl

theorem resume_awaiting_more {session : HttpSession beast} (generated : Uuid)
    (completion : Completion beast) (point : session.Awaiting)
    (more : beast.isDone (session.putStorage completion).parser = false) :
    (session.resume generated completion).1.Awaiting ∧
      (session.resume generated completion).1.parser = (session.consume completion).parser ∧
      (session.resume generated completion).1.storage = (session.consume completion).storage ∧
      (session.resume generated completion).2.countP handsOver = 0 := by
  rcases point with header | body
  · cases complete : beast.isHeaderDone (session.putStorage completion).parser with
    | true =>
        have part : (builtRequest beast (session.putStorage completion).parser generated).done =
          false := more
        rw [resume_header_more generated header complete more]
        refine ⟨Or.inr rfl, rfl, rfl, ?_⟩
        rw [List.countP_cons, handsOver, part]
        rfl
    | false =>
        rw [resume_header_incomplete generated header complete]
        exact ⟨Or.inl rfl, rfl, rfl, rfl⟩
  · have part : (session.builtContinuation completion).done = false := more
    have copies : (session.copyEffects completion).countP handsOver = 0 := by
      rw [copyEffects]
      split <;> rfl
    rw [resume_body_more generated body more]
    refine ⟨Or.inr rfl, rfl, rfl, ?_⟩
    rw [List.countP_append, copies, List.countP_cons, handsOver, part]
    rfl

/-- A plain request is handed to the handlers, and its response is waited for. -/
theorem resume_request {session : HttpSession beast} (generated : Uuid) (storage : Octets)
    (request : PlainRequest beast) (point : session.coroutine = .requestRead) :
    session.resume generated (.read none request.parser storage) =
      ({ session with
          coroutine := .responseWrite, parser := request.parser, storage := storage },
        [.handleRequest request.parser]) := by
  rw [resume_requestRead point, onRequestRead]
  simp only [Completion.ec, reduceCtorEq, if_false, Option.isSome_none, Bool.false_eq_true,
    request.plain]

/-- When the response has been written, the coroutine is at its end. -/
theorem resume_written {session : HttpSession beast} (generated : Uuid)
    (point : session.coroutine = .responseWrite ∨ session.coroutine = .terminated) :
    session.resume generated (.write none false) =
      ({ session with coroutine := .terminated }, []) := by
  rcases point with point | point
  · rw [resume_responseWrite point]
    rfl
  · rw [resume_terminated point, ← point]

/-! ## The steps of a conversation -/

section Steps

variable {sendWorkerReqImpl : Bool} {storage : Octets} {requests : List (PlainRequest beast)}
variable {list : List Read} {conversation next : Conversation beast}

theorem step_request {generated : Uuid} {left : Octets}
    (taken : conversation.step (.request generated left) = some next) :
    Exists fun request => Exists fun coming => conversation.coming = request :: coming ∧
      conversation.session.coroutine = .requestRead ∧
        next = absorb { conversation with coming := coming }
          (conversation.session.resume generated (.read none request.parser left)) := by
  rw [step] at taken
  cases more : conversation.coming with
  | nil =>
      rw [more] at taken
      cases taken
  | cons request coming =>
      rw [more] at taken
      rcases Option.ite_none_right_eq_some.mp taken with ⟨point, same⟩
      exact ⟨request, coming, rfl, point, (Option.some.inj same).symm⟩

theorem step_fragment {read : Read} (taken : conversation.step (.fragment read) = some next) :
    conversation.session.Awaiting ∧ Delivers conversation.wire read ∧
      next = absorb { conversation with wire := conversation.wire.drop read.data.length }
        (conversation.session.resume read.generated read.completion) := by
  rcases Option.ite_none_right_eq_some.mp taken with ⟨⟨point, delivers⟩, same⟩
  exact ⟨point, delivers, (Option.some.inj same).symm⟩

theorem step_respond {request : Nat} (taken : conversation.step (.respond request) = some next) :
    request ∈ conversation.owed ∧
      next = { conversation with
        owed := conversation.owed.erase request
        writing := conversation.writing ++ [request] } := by
  rcases Option.ite_none_right_eq_some.mp taken with ⟨owed, same⟩
  exact ⟨owed, (Option.some.inj same).symm⟩

theorem step_written {generated : Uuid} {request : Nat}
    (taken : conversation.step (.written generated request) = some next) :
    request ∈ conversation.writing ∧
      next = absorb { conversation with
          writing := conversation.writing.erase request
          responses := conversation.responses ++ [request]
          log := conversation.log ++ [.answered request] }
        (conversation.session.resume generated (.write none false)) := by
  rcases Option.ite_none_right_eq_some.mp taken with ⟨writing, same⟩
  exact ⟨writing, (Option.some.inj same).symm⟩

theorem Stage.request (stage : Stage sendWorkerReqImpl storage requests list conversation)
    {generated : Uuid} {left : Octets}
    (taken : conversation.step (.request generated left) = some next) :
    Stage sendWorkerReqImpl storage requests list next := by
  rcases step_request taken with ⟨request, coming, more, point, rfl⟩
  cases stage with
  | reading worker _ all untouched =>
      rcases untouched with ⟨handed, owed, writing, responses⟩
      rw [resume_request generated left request point]
      refine .left (Or.inl rfl) ?_ (fun proxy => absurd (worker.symm.trans proxy) (by decide)) ?_
      · rw [← all, more]
        exact List.cons_ne_nil request coming
      · change conversation.owed ++ List.range' conversation.handed 1 ++ conversation.writing ++
          conversation.responses = [0]
        rw [handed, owed, writing, responses]
        rfl
  | receiving _ other =>
      rcases other with other | other
      · exact absurd (point.symm.trans other) (by decide)
      · exact absurd (point.symm.trans other) (by decide)
  | left other =>
      rcases other with other | other
      · exact absurd (point.symm.trans other) (by decide)
      · exact absurd (point.symm.trans other) (by decide)

theorem Stage.fragment (stage : Stage sendWorkerReqImpl storage requests list conversation)
    {read : Read} (taken : conversation.step (.fragment read) = some next) :
    Stage sendWorkerReqImpl storage requests (list ++ [read]) next := by
  rcases step_fragment taken with ⟨point, delivers, rfl⟩
  cases stage with
  | reading _ other =>
      rcases point with point | point
      · exact absurd (point.symm.trans other) (by decide)
      · exact absurd (point.symm.trans other) (by decide)
  | receiving proxy _ sent same incomplete untouched =>
      rcases untouched with ⟨handed, owed, writing, responses⟩
      have wire : conversation.wire ≠ [] := by
        intro empty
        exact delivers.2.1 (List.prefix_nil.mp (empty ▸ delivers.2.2.2))
      have fedNext : fed beast.emplaced storage (list ++ [read]) =
          ((conversation.session.consume read.completion).parser,
            (conversation.session.consume read.completion).storage) := by
        rw [fed_append, same]
        rfl
      cases done : beast.isDone (conversation.session.putStorage read.completion).parser with
      | true =>
          rcases resume_awaiting_done read.generated read.completion point done with
            ⟨ended, whole⟩
          refine .left (Or.inr ended) (sent wire) (fun _ => ?_) ?_
          · refine (completes_concat _ _ list read).mpr (Or.inr ?_)
            rw [fedNext]
            exact done
          · change conversation.owed ++ List.range' conversation.handed
              ((conversation.session.resume read.generated read.completion).2.countP handsOver) ++
              conversation.writing ++ conversation.responses = [0]
            rw [whole, handed, owed, writing, responses]
            rfl
      | false =>
          rcases resume_awaiting_more read.generated read.completion point done with
            ⟨waits, parser, left, part⟩
          refine .receiving proxy waits (fun _ => sent wire) ?_ ?_ ⟨?_, ?_, writing, responses⟩
          · rw [fedNext]
            exact Prod.ext parser.symm left.symm
          · intro completes
            rcases (completes_concat _ _ list read).mp completes with earlier | last
            · exact incomplete earlier
            · rw [fedNext] at last
              exact absurd (done.symm.trans last) Bool.false_ne_true
          · change conversation.handed +
              (conversation.session.resume read.generated read.completion).2.countP handsOver = 0
            rw [part, handed]
          · change conversation.owed ++ List.range' conversation.handed
              ((conversation.session.resume read.generated read.completion).2.countP handsOver) = []
            rw [part, owed]
            rfl
  | left other =>
      rcases point with point | point
      · rcases other with other | other
        · exact absurd (point.symm.trans other) (by decide)
        · exact absurd (point.symm.trans other) (by decide)
      · rcases other with other | other
        · exact absurd (point.symm.trans other) (by decide)
        · exact absurd (point.symm.trans other) (by decide)

/-- Of the only request, the response is owed, being written, or written. -/
theorem one_of_three {owed writing responses : List Nat}
    (one : owed ++ writing ++ responses = [0]) :
    owed = [0] ∧ writing = [] ∧ responses = [] ∨ owed = [] ∧ writing = [0] ∧ responses = [] ∨
      owed = [] ∧ writing = [] ∧ responses = [0] := by
  rcases List.append_eq_singleton_iff.mp one with ⟨none, last⟩ | ⟨first, none⟩
  · rcases List.append_eq_nil_iff.mp none with ⟨rfl, rfl⟩
    exact Or.inr (Or.inr ⟨rfl, rfl, last⟩)
  · rcases List.append_eq_singleton_iff.mp first with ⟨rfl, middle⟩ | ⟨head, rfl⟩
    · exact Or.inr (Or.inl ⟨rfl, middle, none⟩)
    · exact Or.inl ⟨head, rfl, none⟩

theorem Stage.respond (stage : Stage sendWorkerReqImpl storage requests list conversation)
    {request : Nat} (taken : conversation.step (.respond request) = some next) :
    Stage sendWorkerReqImpl storage requests list next := by
  rcases step_respond taken with ⟨among, rfl⟩
  cases stage with
  | reading _ _ _ untouched => exact absurd (untouched.2.1 ▸ among) List.not_mem_nil
  | receiving _ _ _ _ _ untouched => exact absurd (untouched.2.1 ▸ among) List.not_mem_nil
  | left point asked complete one =>
      refine .left point asked complete ?_
      rcases one_of_three one with ⟨owed, writing, responses⟩ | ⟨owed, _⟩ | ⟨owed, _⟩
      · rw [owed, List.mem_singleton] at among
        change conversation.owed.erase request ++ (conversation.writing ++ [request]) ++
          conversation.responses = [0]
        rw [among, owed, writing, responses]
        rfl
      · exact absurd (owed ▸ among) List.not_mem_nil
      · exact absurd (owed ▸ among) List.not_mem_nil

theorem Stage.written (stage : Stage sendWorkerReqImpl storage requests list conversation)
    {generated : Uuid} {request : Nat}
    (taken : conversation.step (.written generated request) = some next) :
    Stage sendWorkerReqImpl storage requests list next := by
  rcases step_written taken with ⟨among, rfl⟩
  cases stage with
  | reading _ _ _ untouched => exact absurd (untouched.2.2.1 ▸ among) List.not_mem_nil
  | receiving _ _ _ _ _ untouched => exact absurd (untouched.2.2.1 ▸ among) List.not_mem_nil
  | left point asked complete one =>
      rw [resume_written generated point]
      refine .left (Or.inr rfl) asked complete ?_
      change conversation.owed ++ [] ++ conversation.writing.erase request ++
        (conversation.responses ++ [request]) = [0]
      rcases one_of_three one with ⟨_, writing, _⟩ | ⟨owed, writing, responses⟩ | ⟨_, writing, _⟩
      · exact absurd (writing ▸ among) List.not_mem_nil
      · rw [writing, List.mem_singleton] at among
        rw [among, owed, writing, responses]
        rfl
      · exact absurd (writing ▸ among) List.not_mem_nil

theorem stage_step {label : Exchange} {labels : List Exchange}
    (stage : Stage sendWorkerReqImpl storage requests (fragments labels) conversation)
    (taken : conversation.step label = some next) :
    Stage sendWorkerReqImpl storage requests (fragments (labels ++ [label])) next := by
  rw [fragments_concat]
  cases label with
  | request generated left =>
      simpa only [fragment?, Option.toList_none, List.append_nil] using stage.request taken
  | fragment read => exact stage.fragment taken
  | respond request =>
      simpa only [fragment?, Option.toList_none, List.append_nil] using stage.respond taken
  | written generated request =>
      simpa only [fragment?, Option.toList_none, List.append_nil] using stage.written taken

end Steps

theorem stage_run {sendWorkerReqImpl : Bool} {detected : Nat}
    {requests : List (PlainRequest beast)} {labels : List Exchange}
    {conversation : Conversation beast}
    (run : (system beast).Run (opened sendWorkerReqImpl detected requests) labels conversation) :
    Stage sendWorkerReqImpl ((requests.flatMap PlainRequest.octets).take detected) requests
      (fragments labels) conversation := by
  induction run with
  | refl => exact stage_opened sendWorkerReqImpl detected requests
  | snoc run taken inductionHypothesis => exact stage_step inductionHypothesis taken

/-! ## Settled conversations -/

/-- What is still to be done in a conversation; every step leaves less of it. -/
def remaining (conversation : Conversation beast) : Nat :=
  3 * (conversation.coming.length + conversation.wire.length) + 2 * conversation.owed.length +
    conversation.writing.length

theorem remaining_step {sendWorkerReqImpl : Bool} {storage : Octets}
    {requests : List (PlainRequest beast)} {list : List Read}
    {conversation next : Conversation beast} {label : Exchange}
    (stage : Stage sendWorkerReqImpl storage requests list conversation)
    (taken : conversation.step label = some next) :
    next.remaining < conversation.remaining := by
  cases label with
  | request generated left =>
      rcases step_request taken with ⟨request, coming, more, point, rfl⟩
      rw [resume_request generated left request point]
      change 3 * (coming.length + conversation.wire.length) +
        2 * (conversation.owed ++ List.range' conversation.handed 1).length +
          conversation.writing.length < _
      rw [remaining, more, List.length_append, List.length_range', List.length_cons]
      omega
  | fragment read =>
      rcases step_fragment taken with ⟨point, delivers, rfl⟩
      have filled : 0 < read.data.length := List.length_pos_iff.mpr delivers.2.1
      have within : read.data.length ≤ conversation.wire.length := delivers.2.2.2.length_le
      have few : (conversation.session.resume read.generated read.completion).2.countP
          handsOver ≤ 1 := by
        cases done : beast.isDone (conversation.session.putStorage read.completion).parser with
        | true =>
            exact Nat.le_of_eq (resume_awaiting_done read.generated read.completion point done).2
        | false =>
            rw [(resume_awaiting_more read.generated read.completion point done).2.2.2]
            exact Nat.zero_le 1
      change 3 * (conversation.coming.length +
          (conversation.wire.drop read.data.length).length) +
        2 * (conversation.owed ++ List.range' conversation.handed
          ((conversation.session.resume read.generated read.completion).2.countP
            handsOver)).length + conversation.writing.length < _
      rw [remaining, List.length_append, List.length_range', List.length_drop]
      omega
  | respond request =>
      rcases step_respond taken with ⟨among, rfl⟩
      have positive := List.length_pos_of_mem among
      change 3 * (conversation.coming.length + conversation.wire.length) +
        2 * (conversation.owed.erase request).length +
          (conversation.writing ++ [request]).length < _
      rw [remaining, List.length_erase_of_mem among, List.length_append, List.length_singleton]
      omega
  | written generated request =>
      rcases step_written taken with ⟨among, rfl⟩
      have positive := List.length_pos_of_mem among
      cases stage with
      | reading _ _ _ untouched => exact absurd (untouched.2.2.1 ▸ among) List.not_mem_nil
      | receiving _ _ _ _ _ untouched => exact absurd (untouched.2.2.1 ▸ among) List.not_mem_nil
      | left point =>
          rw [resume_written generated point]
          change 3 * (conversation.coming.length + conversation.wire.length) +
            2 * (conversation.owed ++ []).length +
              (conversation.writing.erase request).length < _
          rw [remaining, List.append_nil, List.length_erase_of_mem among]
          omega

/-- Every conversation can be continued until it is settled. -/
theorem settles {sendWorkerReqImpl : Bool} {detected : Nat}
    {requests : List (PlainRequest beast)} {labels : List Exchange}
    {conversation : Conversation beast}
    (run : (system beast).Run (opened sendWorkerReqImpl detected requests) labels conversation) :
    Exists fun more => Exists fun last =>
      (system beast).Run (opened sendWorkerReqImpl detected requests) (labels ++ more) last ∧
        last.Settled := by
  induction size : conversation.remaining using Nat.strongRecOn
    generalizing labels conversation with
  | ind size inductionHypothesis =>
      by_cases settled : conversation.Settled
      · exact ⟨[], conversation, (List.append_nil labels).symm ▸ run, settled⟩
      · rcases not_forall.mp settled with ⟨label, enabled⟩
        rcases Option.ne_none_iff_exists'.mp enabled with ⟨next, taken⟩
        have fewer := remaining_step (stage_run run) taken
        rcases inductionHypothesis _ (size ▸ fewer) (run.snoc taken) rfl with
          ⟨more, last, later, ends⟩
        refine ⟨label :: more, last, ?_, ends⟩
        rwa [List.append_assoc] at later

theorem Settled.owed {conversation : Conversation beast} (settled : conversation.Settled) :
    conversation.owed = [] := by
  cases some_owed : conversation.owed with
  | nil => rfl
  | cons request owed =>
      have disabled := settled (.respond request)
      rw [step, if_pos (some_owed ▸ List.mem_cons_self)] at disabled
      cases disabled

theorem Settled.writing {conversation : Conversation beast} (settled : conversation.Settled) :
    conversation.writing = [] := by
  cases some_written : conversation.writing with
  | nil => rfl
  | cons request writing =>
      have disabled := settled (.written nilUuid request)
      rw [step, if_pos (some_written ▸ List.mem_cons_self)] at disabled
      cases disabled

theorem Settled.coming {conversation : Conversation beast} (settled : conversation.Settled)
    (point : conversation.session.coroutine = .requestRead) : conversation.coming = [] := by
  cases some_coming : conversation.coming with
  | nil => rfl
  | cons request coming =>
      have disabled := settled (.request nilUuid [])
      simp only [step, some_coming, point, if_true] at disabled
      cases disabled

/-- The coroutine is at its end and no response is outstanding. -/
def ended (conversation : Conversation beast) : Bool :=
  decide (conversation.session.coroutine = .terminated) && conversation.owed.isEmpty &&
    conversation.writing.isEmpty

end Conversation

end EasyProspect
