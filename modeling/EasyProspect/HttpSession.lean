import EasyProspect.HttpRequest
import EasyProspect.Library.Transition

namespace EasyProspect

/-!
# The HTTP session coroutine

`http_session_base::operator()` is a stackless coroutine: it is called once to
start and once for every completed operation, jumps to the point where it last
yielded, and runs to the next yield.  A call that returns without a yield
terminates it, whether by `return` or by falling off the end of the `reenter`
block, and a terminated coroutine ignores every further call.

One call is modelled by `resume`.  It returns the session after the call and the
effects of the call in order.  Each straight-line part between two yields is a
definition of its own.  `pr_` is emplaced by the first statement, before any use,
so its state is kept without an `optional`.  `pr_buffer_` is cleared before every
use of its contents and is local to one iteration of the body loop here.  The
logging statements are left out.
-/

/-- Where the coroutine resumes. -/
inductive ResumePoint
  | start
  | headerRead
  | bodyRead
  | requestRead
  | responseWrite
  | terminated
  deriving DecidableEq

/-- `http_session_base`.  The flag says whether `send_worker_req_impl_` is set,
which makes this a session of the proxy. -/
structure HttpSession (beast : Beast) where
  coroutine : ResumePoint
  storage : Octets
  parser : beast.State
  currentReq : Option HttpRequest
  sendWorkerReqImpl : Bool

/-- What a call reports: the start, a completed `async_read_some` with the octets
it delivered, a completed `async_read` with the parser and the buffer it leaves,
or a completed `async_write` of a response. -/
inductive Completion (beast : Beast)
  | launch
  | readSome (ec : ErrorCode) (data : Octets)
  | read (ec : ErrorCode) (parser : beast.State) (storage : Octets)
  | write (ec : ErrorCode) (needEof : Bool)

inductive Effect (beast : Beast)
  | expiresAfter (seconds : Nat)
  | expiresNever
  | emplace (bodyLimit headerLimit : Nat)
  | asyncReadSome (prepared : Nat)
  | asyncRead
  | sendWorkerReq (firstReq : Option HttpRequest) (position : Nat)
      (reqContinuation : Option HttpRequestContinuation) (ec : ErrorCode)
  | readPastEnd (size : Nat)
  | handleRequest (parser : beast.State)
  | runWsSession (parser : beast.State)
  | doClose
  | fail (ec : ErrorCode) (what : String)

namespace Completion

variable {beast : Beast}

/-- The `ec` argument of the call. -/
def ec : Completion beast -> ErrorCode
  | launch => none
  | readSome ec _ => ec
  | read ec _ _ => ec
  | write ec _ => ec

/-- The octets that `storage_.commit(bytes_transferred)` makes readable; only
`async_read_some` leaves any in the prepared part of the buffer. -/
def committed : Completion beast -> Octets
  | readSome _ data => data
  | _ => []

def needEof : Completion beast -> Bool
  | write _ needEof => needEof
  | _ => false

end Completion

namespace HttpSession

variable {beast : Beast}

/-- The constructor: the session starts with what the detector has read. -/
def create (storage : Octets) (sendWorkerReqImpl : Bool) : HttpSession beast where
  coroutine := .start
  storage := storage
  parser := beast.emplaced
  currentReq := none
  sendWorkerReqImpl := sendWorkerReqImpl

/-- `sizeof(pr_buffer_)`. -/
def prBufferSize : Nat := 4096

/-- The size passed to `storage_.prepare`. -/
def prepareSize : Nat := 1024

/-- `need_more` is not an error to either loop. -/
def clearNeedMore (ec : ErrorCode) : ErrorCode :=
  if ec = some .needMore then none else ec

/-- What `pr_->put(storage_.data(), ec)` does after a completed read.  The error
code of the read is only logged and then overwritten. -/
def putStorage (session : HttpSession beast) (completion : Completion beast) :
    PutResult beast.State :=
  beast.put session.parser prBufferSize (session.storage ++ completion.committed)

/-- The session after `storage_.consume(processed_octets)`. -/
def consume (session : HttpSession beast) (completion : Completion beast) : HttpSession beast :=
  let result := session.putStorage completion
  { session with
    parser := result.parser
    storage := (session.storage ++ completion.committed).drop result.octets }

/-- The head of `while (!pr_->is_done())`, and the `return` behind that loop. -/
def bodyLoop (session : HttpSession beast) : HttpSession beast × List (Effect beast) :=
  if beast.isDone session.parser then
    ({ session with coroutine := .terminated }, [])
  else
    ({ session with coroutine := .bodyRead }, [.asyncReadSome prepareSize])

/-- From the read of the header loop to the next yield.  The loop is left when
the header is complete; the header part is then handed over at position 0. -/
def onHeaderRead (generated : Uuid) (session : HttpSession beast)
    (completion : Completion beast) : HttpSession beast × List (Effect beast) :=
  let result := session.putStorage completion
  let session := session.consume completion
  if beast.isHeaderDone result.parser then
    let request := (HttpRequestBuilder.ofParser beast result.parser nilUuid generated).toRequest
    let (session, effects) := bodyLoop { session with currentReq := some request }
    (session, .sendWorkerReq (some request) 0 none (clearNeedMore result.ec) :: effects)
  else
    ({ session with coroutine := .headerRead }, [.asyncReadSome prepareSize])

/-- `pr_buffer_` after the parser has written to the cleared array. -/
def prBuffer (stored : Octets) : Octets :=
  stored ++ List.replicate (prBufferSize - stored.length) 0

/-- From the read of the body loop to the next yield.  The continuation is cut
out of `pr_buffer_` with the number of octets that the parser consumed. -/
def onBodyRead (currentPos : Nat) (session : HttpSession beast)
    (completion : Completion beast) : HttpSession beast × List (Effect beast) :=
  let result := session.putStorage completion
  let session := session.consume completion
  let buffer := prBuffer result.stored
  let copied :=
    if HttpRequestContinuation.ReadsPastEnd buffer result.octets then
      [Effect.readPastEnd result.octets]
    else []
  let reqContinuation :=
    HttpRequestContinuation.build beast result.parser session.currentReq buffer result.octets
  let (session, effects) := bodyLoop session
  (session, copied ++
    .sendWorkerReq none currentPos (some reqContinuation) (clearNeedMore result.ec) :: effects)

/-- From the worker's `async_read` to the next yield. -/
def onRequestRead (session : HttpSession beast) (completion : Completion beast) :
    HttpSession beast × List (Effect beast) :=
  let session :=
    match completion with
    | .read _ parser storage => { session with parser := parser, storage := storage }
    | _ => session
  if completion.ec = some .endOfStream then
    ({ session with coroutine := .terminated }, [.doClose])
  else if completion.ec.isSome then
    ({ session with coroutine := .terminated },
      [.fail completion.ec "boost::beast::http::async_read"])
  else if beast.isUpgrade (beast.get session.parser) then
    ({ session with coroutine := .terminated }, [.expiresNever, .runWsSession session.parser])
  else
    ({ session with coroutine := .responseWrite }, [.handleRequest session.parser])

/-- From the write of the response to the end of the `reenter` block. -/
def onResponseWritten (session : HttpSession beast) (completion : Completion beast) :
    HttpSession beast × List (Effect beast) :=
  if completion.ec.isSome then
    ({ session with coroutine := .terminated },
      [.fail completion.ec "boost::beast::http::async_write"])
  else if completion.needEof then
    ({ session with coroutine := .terminated }, [.doClose])
  else
    ({ session with coroutine := .terminated }, [])

/-- From the start to the first yield. -/
def onStart (session : HttpSession beast) : HttpSession beast × List (Effect beast) :=
  let session := { session with parser := beast.emplaced }
  let opening := [Effect.expiresAfter 30, .emplace 4294967295 2048]
  if session.sendWorkerReqImpl then
    ({ session with coroutine := .headerRead }, opening ++ [.asyncReadSome prepareSize])
  else
    ({ session with coroutine := .requestRead }, opening ++ [.asyncRead])

/-- `operator()`; `generated` is what `random_generator` would yield during the
call.  The position counter is a local variable, so every call starts it at 1. -/
def resume (generated : Uuid) (session : HttpSession beast) (completion : Completion beast) :
    HttpSession beast × List (Effect beast) :=
  let currentPos := 1
  match session.coroutine with
  | .start => session.onStart
  | .headerRead => session.onHeaderRead generated completion
  | .bodyRead => session.onBodyRead currentPos completion
  | .requestRead => session.onRequestRead completion
  | .responseWrite => session.onResponseWritten completion
  | .terminated => (session, [])

/-! ## One call from each resume point -/

section Equations

variable {generated : Uuid} {session : HttpSession beast} {completion : Completion beast}

theorem resume_headerRead (at_point : session.coroutine = .headerRead) :
    session.resume generated completion = session.onHeaderRead generated completion := by
  rw [resume, at_point]

theorem resume_bodyRead (at_point : session.coroutine = .bodyRead) :
    session.resume generated completion = session.onBodyRead 1 completion := by
  rw [resume, at_point]

theorem resume_requestRead (at_point : session.coroutine = .requestRead) :
    session.resume generated completion = session.onRequestRead completion := by
  rw [resume, at_point]

theorem resume_responseWrite (at_point : session.coroutine = .responseWrite) :
    session.resume generated completion = session.onResponseWritten completion := by
  rw [resume, at_point]

theorem resume_terminated (at_point : session.coroutine = .terminated) :
    session.resume generated completion = (session, []) := by
  rw [resume, at_point]

theorem bodyLoop_done (done : beast.isDone session.parser = true) :
    session.bodyLoop = ({ session with coroutine := .terminated }, []) := by
  rw [bodyLoop, if_pos done]

theorem bodyLoop_more (more : beast.isDone session.parser = false) :
    session.bodyLoop =
      ({ session with coroutine := .bodyRead }, [.asyncReadSome prepareSize]) := by
  rw [bodyLoop, more]
  rfl

end Equations

/-! ## Sequences of calls -/

/-- The arguments of one call. -/
structure Call (beast : Beast) where
  generated : Uuid
  completion : Completion beast

/-- `operator()` as a machine with outputs. -/
def call (session : HttpSession beast) (arguments : Call beast) :
    HttpSession beast × List (Effect beast) :=
  session.resume arguments.generated arguments.completion

/-- Call after call, with all effects in order. -/
def run (session : HttpSession beast) (calls : List (Call beast)) :
    HttpSession beast × List (Effect beast) :=
  Transition.Machine.run call session calls

theorem run_terminated {session : HttpSession beast} (at_point : session.coroutine = .terminated)
    (calls : List (Call beast)) : session.run calls = (session, []) := by
  have absorbing : forall arguments : Call beast, session.call arguments = (session, []) :=
    fun _ => resume_terminated at_point
  exact Transition.Machine.run_of_absorbing absorbing calls

end HttpSession

end EasyProspect
