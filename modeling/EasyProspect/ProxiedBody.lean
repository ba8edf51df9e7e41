import EasyProspect.ProxiedMessage
import Mathlib.Algebra.Order.BigOperators.Group.List
import Mathlib.Algebra.Order.Ring.Nat

namespace EasyProspect

/-!
# The body as the worker receives it

The continuation of a body read is cut out of `pr_buffer_` with the number of
octets that the parser consumed, framing included, while the parser has stored
body octets only.  With Content-Length both numbers agree and the continuations
spell the body.  With chunked coding every line of framing adds octets that are
not of the body, so no chunked body arrives as it was sent.

A continuation is cut only after a read, and holds at most 4096 octets.  So body
octets that come together with the end of the header stay in hand until another
read completes, which a client that waits for its answer never causes.
-/

open Element

/-- The two ways to send a body. -/
inductive Coding
  | contentLength (body : Octets)
  | chunked (chunks : List (Octets × Octets)) (last : Octets)

namespace Coding

/-- The elements that the parser takes.  A chunk is its size line, with the line
break of the chunk before, and its data; the last line includes the trailer. -/
def elements : Coding -> List Element
  | contentLength body => if body = [] then [] else [.data body]
  | chunked chunks last =>
      (chunks.flatMap fun chunk => [.line chunk.1, .data chunk.2]) ++ [.line last]

def body (coding : Coding) : Octets :=
  coding.elements.flatMap meant

def IsContentLength : Coding -> Prop
  | contentLength _ => True
  | chunked _ _ => False

instance (coding : Coding) : Decidable coding.IsContentLength :=
  match coding with
  | contentLength _ => isTrue trivial
  | chunked _ _ => isFalse id

end Coding

/-- Nothing but body octets. -/
def AllData (elements : List Element) : Prop :=
  forall element, element ∈ elements -> element.meant = element.sent

theorem allData_contentLength (body : Octets) :
    AllData (Coding.contentLength body).elements := by
  intro element member
  rw [Coding.elements] at member
  split at member
  · exact absurd member List.not_mem_nil
  · rw [List.mem_singleton.mp member]
    rfl

theorem meant_length_le (elements : List Element) :
    (elements.flatMap meant).length ≤ (elements.flatMap sent).length := by
  induction elements with
  | nil => exact Nat.le_refl 0
  | cons element rest inductionHypothesis =>
      rw [List.flatMap_cons, List.flatMap_cons, List.length_append, List.length_append]
      refine Nat.add_le_add ?_ inductionHypothesis
      cases element with
      | line octets => exact Nat.zero_le _
      | data octets => exact Nat.le_refl _

/-- A chunked body is shorter than what is sent for it. -/
theorem chunked_body_shorter (chunks : List (Octets × Octets)) {last : Octets}
    (nonempty : last ≠ []) :
    (Coding.chunked chunks last).body.length <
      ((Coding.chunked chunks last).elements.flatMap sent).length := by
  rw [Coding.body, Coding.elements, List.flatMap_append, List.flatMap_append, List.length_append,
    List.length_append]
  have front := meant_length_le (chunks.flatMap fun chunk => [line chunk.1, data chunk.2])
  have behind : ([line last].flatMap meant).length < ([line last].flatMap sent).length := by
    rw [List.flatMap_singleton, List.flatMap_singleton]
    exact List.length_pos_iff.mpr nonempty
  omega

section StoreOne

variable (size : Nat) (elements : List Element) (held : Nat)

theorem storeOne_length_le : (storeOne size elements held).length ≤ size := by
  cases elements with
  | nil => exact Nat.zero_le size
  | cons element rest =>
      cases element with
      | line octets => exact Nat.zero_le size
      | data octets =>
          rw [storeOne, List.length_take]
          omega

variable {elements}

/-- Of body octets, as many are stored as are taken. -/
theorem storeOne_length (only : AllData elements) :
    (storeOne size elements held).length = (takeOne size elements held).2 := by
  cases elements with
  | nil => rfl
  | cons element rest =>
      cases element with
      | line octets =>
          have empty : [] = octets := only (line octets) List.mem_cons_self
          subst empty
          rw [takeOne_line_whole size [] rest held (Nat.zero_le held)]
          rfl
      | data octets =>
          rw [storeOne, takeOne, List.length_take]
          omega

theorem allData_takeOne (only : AllData elements) : AllData (takeOne size elements held).1 := by
  cases elements with
  | nil => exact only
  | cons element rest =>
      have tail : AllData rest := fun other member => only other (List.mem_cons_of_mem _ member)
      cases element with
      | line octets =>
          rw [takeOne]
          split
          · exact tail
          · exact only
      | data octets =>
          rw [takeOne, afterData]
          split
          · exact tail
          · intro other member
            rcases List.mem_cons.mp member with same | later
            · rw [same]
              rfl
            · exact tail other later

end StoreOne

namespace HttpSession

variable {beast : Beast} {expects : beast.State -> Pending -> Prop}

/-! ## What the worker receives -/

/-- The buffer that an effect hands over. -/
def handedBuffer : Effect beast -> Octets
  | .sendWorkerReq _ _ (some reqContinuation) _ => reqContinuation.buffer
  | _ => []

/-- The buffers of all continuations, one after the other. -/
def forwarded (effects : List (Effect beast)) : Octets :=
  effects.flatMap handedBuffer

def leavesBuffer : Effect beast -> Bool
  | .readPastEnd _ => true
  | _ => false

/-- Nothing is read from behind `pr_buffer_`. -/
def StaysInBuffer (effects : List (Effect beast)) : Prop :=
  forall effect, effect ∈ effects -> leavesBuffer effect = false

theorem forwarded_append (before after : List (Effect beast)) :
    forwarded (before ++ after) = forwarded before ++ forwarded after :=
  List.flatMap_append

theorem staysInBuffer_append (before after : List (Effect beast)) :
    StaysInBuffer (before ++ after) <-> StaysInBuffer before ∧ StaysInBuffer after :=
  List.forall_mem_append

theorem prBuffer_length {stored : Octets} (fits : stored.length ≤ prBufferSize) :
    (prBuffer stored).length = prBufferSize := by
  rw [prBuffer, List.length_append, List.length_replicate]
  omega

/-- A header read hands over no continuation. -/
theorem forwarded_resume_header (generated : Uuid) {session : HttpSession beast}
    (completion : Completion beast) (point : session.coroutine = .headerRead) :
    forwarded (session.resume generated completion).2 = [] ∧
      StaysInBuffer (session.resume generated completion).2 := by
  cases done : beast.isDone (session.putStorage completion).parser with
  | true =>
      rw [resume_header_last generated point done]
      exact ⟨rfl, List.forall_mem_singleton.mpr rfl⟩
  | false =>
      cases complete : beast.isHeaderDone (session.putStorage completion).parser with
      | true =>
          rw [resume_header_more generated point complete done]
          exact ⟨rfl, List.forall_mem_cons.mpr ⟨rfl, List.forall_mem_singleton.mpr rfl⟩⟩
      | false =>
          rw [resume_header_incomplete generated point complete]
          exact ⟨rfl, List.forall_mem_singleton.mpr rfl⟩

theorem staysInBuffer_copyEffects (session : HttpSession beast) (completion : Completion beast) :
    StaysInBuffer (session.copyEffects completion) <->
      (session.putStorage completion).octets ≤
        (prBuffer (session.putStorage completion).stored).length := by
  rw [copyEffects]
  by_cases past : HttpRequestContinuation.ReadsPastEnd
      (prBuffer (session.putStorage completion).stored) (session.putStorage completion).octets
  · rw [if_pos past]
    constructor
    · intro stays
      have leaves : true = false := stays _ (List.mem_singleton.mpr rfl)
      exact absurd leaves (by decide)
    · intro within
      exact absurd within (Nat.not_le_of_lt past)
  · rw [if_neg past]
    exact ⟨fun _ => Nat.le_of_not_lt past, fun _ _ member => absurd member List.not_mem_nil⟩

/-- A body read hands over one continuation. -/
theorem forwarded_resume_body (generated : Uuid) {session : HttpSession beast}
    (completion : Completion beast) (point : session.coroutine = .bodyRead) :
    forwarded (session.resume generated completion).2 =
        (prBuffer (session.putStorage completion).stored).take
          (session.putStorage completion).octets ∧
      (StaysInBuffer (session.resume generated completion).2 <->
        (session.putStorage completion).octets ≤
          (prBuffer (session.putStorage completion).stored).length) := by
  have copies : forwarded (session.copyEffects completion) = [] := by
    rw [copyEffects]
    split <;> rfl
  rw [← staysInBuffer_copyEffects]
  cases done : beast.isDone (session.putStorage completion).parser with
  | true =>
      rw [resume_body_last generated point done, forwarded_append, copies, staysInBuffer_append]
      exact ⟨List.append_nil _, and_iff_left (List.forall_mem_singleton.mpr rfl)⟩
  | false =>
      rw [resume_body_more generated point done, forwarded_append, copies, staysInBuffer_append]
      exact ⟨List.append_nil _, and_iff_left
        (List.forall_mem_cons.mpr ⟨rfl, List.forall_mem_singleton.mpr rfl⟩)⟩

/-- What the effects of a session hand over of the elements between two points
of a message: in octets at least, and of a body without framing all of it. -/
structure Accounts (effects : List (Effect beast)) (elements next : List Element) : Prop where
  size : StaysInBuffer effects ->
    (forwarded effects).length + (next.flatMap sent).length = (elements.flatMap sent).length
  contents : AllData elements ->
    StaysInBuffer effects ∧ AllData next ∧
      forwarded effects ++ next.flatMap meant = elements.flatMap meant

theorem Accounts.silent {effects : List (Effect beast)} (nothing : forwarded effects = [])
    (stays : StaysInBuffer effects) (elements : List Element) :
    Accounts effects elements elements where
  size := by
    intro _
    rw [nothing]
    exact Nat.zero_add _
  contents := by
    intro only
    rw [nothing]
    exact ⟨stays, only, rfl⟩

theorem Accounts.append {before after : List (Effect beast)} {first middle last : List Element}
    (early : Accounts before first middle) (late : Accounts after middle last) :
    Accounts (before ++ after) first last where
  size := by
    intro stays
    rcases (staysInBuffer_append before after).mp stays with ⟨staysBefore, staysAfter⟩
    have earlySize := early.size staysBefore
    have lateSize := late.size staysAfter
    rw [forwarded_append, List.length_append]
    omega
  contents := by
    intro only
    rcases early.contents only with ⟨staysBefore, onlyMiddle, earlyBody⟩
    rcases late.contents onlyMiddle with ⟨staysAfter, onlyLast, lateBody⟩
    refine ⟨(staysInBuffer_append before after).mpr ⟨staysBefore, staysAfter⟩, onlyLast, ?_⟩
    rw [forwarded_append, List.append_assoc, lateBody, earlyBody]

/-- A body read hands over as many octets as the parser takes, and of a body
without framing the octets it stores. -/
theorem accounts_resume_body (follows : FollowsMessage beast expects)
    {session : HttpSession beast} {elements : List Element} {future : Octets} (read : Read)
    (tracks : Tracks expects session ⟨[], elements⟩ (read.data ++ future))
    (unfinished : elements ≠ []) :
    Accounts (session.resume read.generated read.completion).2 elements
      (takeOne prBufferSize elements (session.storage.length + read.data.length)).1 := by
  have point := bodyRead_of_tracks tracks unfinished
  rcases putStorage_body follows read tracks unfinished with ⟨taken, stored, _⟩
  rcases forwarded_resume_body read.generated read.completion point with ⟨buffer, stays⟩
  rw [taken, stored] at buffer stays
  let held := session.storage.length + read.data.length
  have fits := storeOne_length_le prBufferSize elements held
  rw [prBuffer_length fits] at stays
  have sentLeft := takeOne_sent prBufferSize elements held
  constructor
  · intro within
    have room : (takeOne prBufferSize elements held).2 ≤ prBufferSize := stays.mp within
    have length : (forwarded (session.resume read.generated read.completion).2).length =
        (takeOne prBufferSize elements held).2 := by
      rw [buffer, List.length_take, prBuffer_length fits]
      exact Nat.min_eq_left room
    rw [length, sentLeft.2, List.length_drop]
    omega
  · intro only
    have count := storeOne_length prBufferSize held only
    have handed : forwarded (session.resume read.generated read.completion).2 =
        storeOne prBufferSize elements held := by
      rw [buffer, ← count]
      exact List.take_left
    refine ⟨stays.mpr (count ▸ fits), allData_takeOne prBufferSize held only, ?_⟩
    rw [handed]
    exact storeOne_meant prBufferSize elements held

/-- All of the message that is left is in hand, or the reads still deliver it. -/
structure Arrives (session : HttpSession beast) (pending : Pending) (future : Octets) : Prop where
  filled : Filled pending.elements
  held : pending.sent.length ≤ session.storage.length + future.length

theorem arrives_resume_body (follows : FollowsMessage beast expects)
    {session : HttpSession beast} {elements : List Element} {future : Octets} (read : Read)
    (tracks : Tracks expects session ⟨[], elements⟩ (read.data ++ future))
    (unfinished : elements ≠ [])
    (arrives : Arrives session ⟨[], elements⟩ (read.data ++ future)) :
    Arrives (session.resume read.generated read.completion).1
      ⟨[], (takeOne prBufferSize elements (session.storage.length + read.data.length)).1⟩
      future where
  filled := filled_takeOne arrives.filled _ _
  held := by
    have length := (tracks_resume_body follows read tracks unfinished).1
    have left := (takeOne_sent prBufferSize elements
      (session.storage.length + read.data.length)).2
    have bound := takeOne_le_held prBufferSize elements
      (session.storage.length + read.data.length)
    have held := arrives.held
    simp only [Pending.sent, List.nil_append, List.length_append] at held
    rw [Pending.sent, List.nil_append, left, List.length_drop, length]
    omega

theorem accounts_read (follows : FollowsMessage beast expects) {session : HttpSession beast}
    {pending : Pending} {future : Octets} (read : Read)
    (tracks : Tracks expects session pending (read.data ++ future)) :
    Exists fun next =>
      Tracks expects (session.resume read.generated read.completion).1 next future ∧
        Accounts (session.resume read.generated read.completion).2 pending.elements
          next.elements ∧
        (Arrives session pending (read.data ++ future) ->
          Arrives (session.resume read.generated read.completion).1 next future) := by
  rcases pending with ⟨header, elements⟩
  rcases tracks.position with ⟨point, unfinished⟩ | ⟨_, done, unfinished⟩ | ⟨_, done, empty⟩
  · rcases tracks_resume_header follows read tracks unfinished with
      ⟨taken, present, wanted, _, length, next⟩
    have silent := forwarded_resume_header read.generated read.completion point
    refine ⟨_, next, Accounts.silent silent.1 silent.2 elements, ?_⟩
    rintro ⟨filled, held⟩
    refine ⟨filled, ?_⟩
    rw [Pending.sent, List.length_append, List.length_append] at held
    rw [Pending.sent, List.length_append, List.length_drop, length]
    dsimp only at held wanted ⊢
    omega
  · subst done
    exact ⟨_, (tracks_resume_body follows read tracks unfinished).2,
      accounts_resume_body follows read tracks unfinished,
      arrives_resume_body follows read tracks unfinished⟩
  · rcases tracks_resume_done read tracks done empty with ⟨unchanged, next⟩
    rw [unchanged]
    refine ⟨_, next,
      Accounts.silent rfl (fun _ member => absurd member List.not_mem_nil) elements, ?_⟩
    rintro ⟨filled, _⟩
    refine ⟨filled, ?_⟩
    rw [Pending.sent, done, empty]
    exact Nat.zero_le _

theorem accounts_reads (follows : FollowsMessage beast expects) (list : List Read)
    {session : HttpSession beast} {pending : Pending}
    (tracks : Tracks expects session pending (list.flatMap Read.data)) :
    Exists fun next =>
      Tracks expects (session.reads list).1 next [] ∧
        Accounts (session.reads list).2 pending.elements next.elements ∧
          (Arrives session pending (list.flatMap Read.data) ->
            Arrives (session.reads list).1 next []) := by
  induction list generalizing session pending with
  | nil =>
      exact ⟨pending, tracks,
        Accounts.silent rfl (fun _ member => absurd member List.not_mem_nil) pending.elements, id⟩
  | cons read list inductionHypothesis =>
      rcases accounts_read follows read tracks with ⟨middle, tracksMiddle, early, arrivesMiddle⟩
      rcases inductionHypothesis tracksMiddle with ⟨next, tracksNext, late, arrivesNext⟩
      exact ⟨next, tracksNext, early.append late,
        fun arrives => arrivesNext (arrivesMiddle arrives)⟩

/-! ## Reads behind the end of the stream -/

/-- What a read reports when the client has sent everything and closed. -/
def atEnd : Read :=
  ⟨nilUuid, some (.other 2), []⟩

/-- A message that is in hand is taken an element at a time, so that some number
of reads brings it to its end. -/
theorem accounts_atEnd (follows : FollowsMessage beast expects) (count : Nat)
    {session : HttpSession beast} {pending : Pending} (tracks : Tracks expects session pending [])
    (arrives : Arrives session pending []) (few : pending.sent.length ≤ count) :
    Accounts (session.reads (List.replicate count atEnd)).2 pending.elements [] := by
  induction count generalizing session pending with
  | zero =>
      have nothing : pending.elements = [] := by
        rw [Pending.sent, List.length_append] at few
        exact arrives.filled.eq_nil (by omega)
      rw [nothing]
      exact Accounts.silent rfl (fun _ member => absurd member List.not_mem_nil) []
  | succ count inductionHypothesis =>
      rcases pending with ⟨header, elements⟩
      have held := arrives.held
      rw [List.replicate_succ, reads_cons]
      rcases tracks.position with ⟨point, unfinished⟩ | ⟨_, done, unfinished⟩ | ⟨_, done, empty⟩
      · rcases tracks_resume_header follows atEnd tracks unfinished with
          ⟨taken, present, wanted, whole, length, next⟩
        have silent := forwarded_resume_header atEnd.generated atEnd.completion point
        have positive : 0 < header.length := List.length_pos_iff.mpr unfinished
        have data : atEnd.data.length = 0 := rfl
        simp only [Pending.sent, List.length_append, List.length_nil] at held few
        dsimp only at whole wanted
        have all : taken = header.length := whole (by omega)
        refine Accounts.append (Accounts.silent silent.1 silent.2 elements)
          (inductionHypothesis next ⟨arrives.filled, ?_⟩ ?_)
        · rw [Pending.sent, List.length_append, List.length_drop, length]
          dsimp only
          omega
        · rw [Pending.sent, List.length_append, List.length_drop]
          dsimp only
          omega
      · subst done
        refine Accounts.append (accounts_resume_body follows atEnd tracks unfinished)
          (inductionHypothesis (tracks_resume_body follows atEnd tracks unfinished).2
            (arrives_resume_body follows atEnd tracks unfinished arrives) ?_)
        have left := takeOne_sent prBufferSize elements
          (session.storage.length + atEnd.data.length)
        have some_taken := arrives.filled.takeOne_pos unfinished (by decide : 0 < prBufferSize) held
        rw [Pending.sent, List.nil_append] at few
        rw [Pending.sent, List.nil_append, left.2, List.length_drop]
        dsimp only at few some_taken
        change _ - (takeOne prBufferSize elements (session.storage.length + 0)).2 ≤ count
        change 0 < (takeOne prBufferSize elements (session.storage.length + 0)).2 at some_taken
        omega
      · rcases tracks_resume_done atEnd tracks done empty with ⟨unchanged, next⟩
        have ended := terminated_of_tracks tracks done empty
        dsimp only at empty ⊢
        rw [unchanged, reads_terminated ended, empty]
        exact Accounts.silent rfl (fun _ member => absurd member List.not_mem_nil) []

/-! ## Reads of a body with Content-Length -/

/-- How many reads complete behind the one that brings the last of `missing`
octets of the header; a header that is already in hand is complete with the first. -/
def behindHeader : Nat -> List Read -> Nat
  | _, [] => 0
  | missing, read :: list =>
      if missing ≤ read.data.length then list.length
      else behindHeader (missing - read.data.length) list

theorem behindHeader_append_le (missing : Nat) (list more : List Read) :
    behindHeader missing list ≤ behindHeader missing (list ++ more) := by
  induction list generalizing missing with
  | nil => exact Nat.zero_le _
  | cons read list inductionHypothesis =>
      rw [List.cons_append, behindHeader, behindHeader]
      split
      · rw [List.length_append]
        exact Nat.le_add_right _ _
      · exact inductionHypothesis _

theorem flatMap_data_length_le {list : List Read} {size : Nat}
    (fits : forall read, read ∈ list -> read.data.length ≤ size) :
    (list.flatMap Read.data).length ≤ size * list.length := by
  rw [List.length_flatMap, Nat.mul_comm]
  have bound := List.sum_le_card_nsmul (list.map fun read => read.data.length) size (by
    intro count member
    rcases List.mem_map.mp member with ⟨read, present, rfl⟩
    exact fits read present)
  rwa [List.length_map, Nat.nsmul_eq_mul] at bound

theorem contentLength_sent (body : Octets) :
    (Coding.contentLength body).elements.flatMap sent = body := by
  rw [Coding.elements]
  by_cases empty : body = []
  · rw [if_pos empty, empty]
    rfl
  · rw [if_neg empty]
    exact List.flatMap_singleton sent (data body)

theorem contentLength_body (body : Octets) : (Coding.contentLength body).body = body := by
  rw [Coding.body, Coding.elements]
  by_cases empty : body = []
  · rw [if_pos empty, empty]
    rfl
  · rw [if_neg empty]
    exact List.flatMap_singleton meant (data body)

/-- A call takes of the body what is there and has room. -/
theorem takeOne_contentLength (size : Nat) (body : Octets) (held : Nat) :
    (takeOne size (Coding.contentLength body).elements held).1 =
      (Coding.contentLength (body.drop (min size (min body.length held)))).elements := by
  by_cases empty : body = []
  · rw [empty, List.drop_nil]
    rfl
  · rw [Coding.elements, if_neg empty, takeOne, Coding.elements, afterData]
    by_cases whole : min size (min body.length held) = body.length
    · rw [if_pos whole, whole, List.drop_length, if_pos rfl]
    · have remains : body.drop (min size (min body.length held)) ≠ [] := by
        intro nothing
        have short := List.drop_eq_nil_iff.mp nothing
        omega
      rw [if_neg whole, if_neg remains]

/-- A call that leaves room has taken all there is, and what is still to arrive
will not fill it again. -/
theorem drop_taken (size : Nat) (body : Octets) (held count : Nat)
    (arrives : body.length ≤ held + size * count) :
    (body.drop (min size (min body.length held))).drop (size * count) =
      body.drop (size * (count + 1)) := by
  rw [List.drop_drop, Nat.mul_succ]
  by_cases full : min size (min body.length held) = size
  · rw [full, Nat.add_comm]
  · rw [List.drop_eq_nil_of_le (by omega), List.drop_eq_nil_of_le (by omega)]

/-- In the body loop every read takes at most a buffer of a body that arrives. -/
theorem accounts_contentLength_body (follows : FollowsMessage beast expects) (list : List Read)
    (fits : forall read, read ∈ list -> read.data.length ≤ prBufferSize)
    {session : HttpSession beast} {body : Octets}
    (tracks : Tracks expects session ⟨[], (Coding.contentLength body).elements⟩
      (list.flatMap Read.data))
    (arrives : body.length ≤ session.storage.length + (list.flatMap Read.data).length) :
    Accounts (session.reads list).2 (Coding.contentLength body).elements
      (Coding.contentLength (body.drop (prBufferSize * list.length))).elements := by
  induction list generalizing session body with
  | nil => exact Accounts.silent rfl (fun _ member => absurd member List.not_mem_nil) _
  | cons read list inductionHypothesis =>
      by_cases empty : (Coding.contentLength body).elements = []
      · have nothing : body = [] := by
          rw [← contentLength_sent body, empty, List.flatMap_nil]
        rw [reads_terminated (terminated_of_tracks tracks rfl empty), nothing, List.drop_nil]
        exact Accounts.silent rfl (fun _ member => absurd member List.not_mem_nil) _
      · have fitsTail : forall other, other ∈ list -> other.data.length ≤ prBufferSize :=
          fun other member => fits other (List.mem_cons_of_mem read member)
        have bound := flatMap_data_length_le fitsTail
        rcases tracks_resume_body follows read tracks empty with ⟨length, next⟩
        have early := accounts_resume_body follows read tracks empty
        let held := session.storage.length + read.data.length
        have taken : (takeOne prBufferSize (Coding.contentLength body).elements held).2 =
            min prBufferSize (min body.length held) := by
          have filled : body ≠ [] := by
            rintro rfl
            exact empty rfl
          rw [Coding.elements, if_neg filled, takeOne]
        rw [taken] at length
        rw [takeOne_contentLength] at next early
        rw [List.flatMap_cons, List.length_append] at arrives
        rw [reads_cons, List.length_cons,
          ← drop_taken prBufferSize body held list.length (by omega)]
        refine early.append (inductionHypothesis fitsTail next ?_)
        rw [List.length_drop, length]
        omega

/-- Of a body that arrives, every read behind the header takes at most a buffer. -/
theorem accounts_contentLength (follows : FollowsMessage beast expects) (list : List Read)
    (fits : forall read, read ∈ list -> read.data.length ≤ prBufferSize)
    {session : HttpSession beast} {header body : Octets} (unfinished : header ≠ [])
    (tracks : Tracks expects session ⟨header, (Coding.contentLength body).elements⟩
      (list.flatMap Read.data))
    (arrives : header.length + body.length ≤
      session.storage.length + (list.flatMap Read.data).length) :
    Accounts (session.reads list).2 (Coding.contentLength body).elements
      (Coding.contentLength (body.drop
        (prBufferSize * behindHeader (header.length - session.storage.length) list))).elements := by
  induction list generalizing session header with
  | nil => exact Accounts.silent rfl (fun _ member => absurd member List.not_mem_nil) _
  | cons read list inductionHypothesis =>
      have fitsTail : forall other, other ∈ list -> other.data.length ≤ prBufferSize :=
        fun other member => fits other (List.mem_cons_of_mem read member)
      have point := headerRead_of_tracks tracks unfinished
      rcases tracks_resume_header follows read tracks unfinished with
        ⟨taken, present, wanted, whole, length, next⟩
      have silent := forwarded_resume_header read.generated read.completion point
      have early := Accounts.silent silent.1 silent.2 (Coding.contentLength body).elements
      dsimp only at wanted whole next
      rw [List.flatMap_cons, List.length_append] at arrives
      rw [reads_cons, behindHeader]
      by_cases complete : header.length - session.storage.length ≤ read.data.length
      · have all : taken = header.length := whole (by omega)
        rw [if_pos complete]
        rw [all, List.drop_length] at next
        refine early.append (accounts_contentLength_body follows list fitsTail next ?_)
        omega
      · have remains : header.drop taken ≠ [] := by
          intro nothing
          have short := List.drop_eq_nil_iff.mp nothing
          omega
        have missing : header.length - session.storage.length - read.data.length =
            (header.drop taken).length -
              (session.resume read.generated read.completion).1.storage.length := by
          rw [List.length_drop, length]
          omega
        rw [if_neg complete, missing]
        refine early.append (inductionHypothesis fitsTail remains next ?_)
        rw [List.length_drop, length]
        omega

/-- With Content-Length the continuations of every run spell a first part of the
body and stay in the buffer. -/
theorem forwarded_begins (follows : FollowsMessage beast expects) {header body : Octets}
    (nonempty : header ≠ [])
    (expected : expects beast.emplaced ⟨header, (Coding.contentLength body).elements⟩)
    (storage : Octets) (list : List Read) (later : Octets)
    (split : storage ++ list.flatMap Read.data <+:
      Pending.sent ⟨header, (Coding.contentLength body).elements⟩ ++ later) :
    StaysInBuffer ((launched beast storage).reads list).2 ∧
      forwarded ((launched beast storage).reads list).2 <+: body := by
  rcases accounts_reads follows list (tracks_launched expected nonempty ⟨later, split⟩) with
    ⟨next, _, accounts, _⟩
  rcases accounts.contents (allData_contentLength body) with ⟨stays, _, spelled⟩
  change _ = (Coding.contentLength body).body at spelled
  rw [contentLength_body] at spelled
  exact ⟨stays, ⟨_, spelled⟩⟩

/-- When all of the message has arrived, they spell it exactly when the reads
behind the header have taken it. -/
theorem forwarded_eq_iff (follows : FollowsMessage beast expects) {header body : Octets}
    (nonempty : header ≠ [])
    (expected : expects beast.emplaced ⟨header, (Coding.contentLength body).elements⟩)
    (storage : Octets) (list : List Read)
    (fits : forall read, read ∈ list -> read.data.length ≤ prepareSize) (later : Octets)
    (received : storage ++ list.flatMap Read.data =
      Pending.sent ⟨header, (Coding.contentLength body).elements⟩ ++ later) :
    forwarded ((launched beast storage).reads list).2 = body <->
      body.length ≤ prBufferSize * behindHeader (header.length - storage.length) list := by
  have tracks := tracks_launched expected nonempty ⟨later, [], (List.append_nil _).trans received⟩
  have length := congrArg List.length received
  rw [Pending.sent, contentLength_sent, List.length_append, List.length_append,
    List.length_append] at length
  dsimp only at length
  have accounts := accounts_contentLength follows list
    (fun read member => Nat.le_trans (fits read member) (by decide)) nonempty tracks
    (by change _ ≤ storage.length + _; omega)
  change Accounts _ _ (Coding.contentLength (body.drop (prBufferSize *
    behindHeader (header.length - storage.length) list))).elements at accounts
  have spelled := (accounts.contents (allData_contentLength body)).2.2
  change _ ++ (Coding.contentLength _).body = (Coding.contentLength body).body at spelled
  rw [contentLength_body, contentLength_body] at spelled
  rw [← List.drop_eq_nil_iff]
  constructor
  · intro same
    rw [same] at spelled
    exact List.append_right_eq_self.mp spelled
  · intro nothing
    rwa [nothing, List.append_nil] at spelled

/-! ## The whole request -/

/-- The worker has received the body and nothing else, and no octet is read from
behind the buffer, whatever reads follow. -/
def HandsOverBody (session : HttpSession beast) (list : List Read) (body : Octets) : Prop :=
  forall more : List Read, (forall read, read ∈ more -> read.data.length ≤ prepareSize) ->
    StaysInBuffer (session.reads (list ++ more)).2 ∧
      forwarded (session.reads (list ++ more)).2 = body

/-- Once the message is at its end, a chunked body has not been handed over as it
was sent. -/
theorem not_forwarded_chunked {effects : List (Effect beast)}
    {chunks : List (Octets × Octets)} {last : Octets} (nonempty : last ≠ [])
    (accounts : Accounts effects (Coding.chunked chunks last).elements [])
    (stays : StaysInBuffer effects) :
    forwarded effects ≠ (Coding.chunked chunks last).body := by
  intro same
  have size := accounts.size stays
  rw [same, List.flatMap_nil, List.length_nil, Nat.add_zero] at size
  exact Nat.ne_of_lt (chunked_body_shorter chunks nonempty) size

/-- Reads at the end of the stream bring the octets of the framing to the worker. -/
theorem not_handsOverBody_chunked (follows : FollowsMessage beast expects) {header : Octets}
    (nonempty : header ≠ []) {chunks : List (Octets × Octets)} {last : Octets}
    (filled : Filled (Coding.chunked chunks last).elements)
    (expected : expects beast.emplaced ⟨header, (Coding.chunked chunks last).elements⟩)
    {storage : Octets} {list : List Read} {later : Octets}
    (received : storage ++ list.flatMap Read.data =
      Pending.sent ⟨header, (Coding.chunked chunks last).elements⟩ ++ later) :
    ¬HandsOverBody (launched beast storage) list (Coding.chunked chunks last).body := by
  intro hands
  have lastFilled : last ≠ [] :=
    filled (.line last) (List.mem_append_right _ (List.mem_singleton.mpr rfl))
  rcases accounts_reads follows list
    (tracks_launched expected nonempty ⟨later, [], (List.append_nil _).trans received⟩) with
    ⟨next, tracks, early, arrives⟩
  have held := congrArg List.length received
  rw [List.length_append, List.length_append] at held
  have late := accounts_atEnd follows next.sent.length tracks
    (arrives ⟨filled, by change _ ≤ storage.length + _; omega⟩) (Nat.le_refl _)
  rcases hands (List.replicate next.sent.length atEnd) (by
    intro read member
    rw [List.eq_of_mem_replicate member]
    exact Nat.zero_le _) with ⟨stays, same⟩
  rw [reads_append] at stays same
  exact not_forwarded_chunked lastFilled (early.append late) stays same

/-- When the whole request has been received, the worker has its body exactly when
the body was sent with Content-Length and a read has completed behind the header
for every 4096 octets of it that have been begun. -/
theorem handsOverBody_iff (beast : Beast) (expects : beast.State -> Pending -> Prop)
    (follows : FollowsMessage beast expects) (header : Octets) (nonempty : header ≠ [])
    (coding : Coding) (filled : Filled coding.elements)
    (expected : expects beast.emplaced ⟨header, coding.elements⟩)
    (storage : Octets) (list : List Read)
    (fits : forall read, read ∈ list -> read.data.length ≤ prepareSize) (later : Octets)
    (received : storage ++ list.flatMap Read.data =
      Pending.sent ⟨header, coding.elements⟩ ++ later) :
    HandsOverBody (launched beast storage) list coding.body <->
      coding.IsContentLength ∧
        coding.body.length ≤
          prBufferSize * behindHeader (header.length - storage.length) list := by
  cases coding with
  | contentLength body =>
      rw [contentLength_body]
      constructor
      · intro hands
        have now := (hands [] (fun _ member => absurd member List.not_mem_nil)).2
        rw [List.append_nil] at now
        exact ⟨trivial, (forwarded_eq_iff follows nonempty expected storage list fits later
          received).mp now⟩
      · rintro ⟨_, taken⟩ more fitsMore
        have receivedMore : storage ++ (list ++ more).flatMap Read.data =
            Pending.sent ⟨header, (Coding.contentLength body).elements⟩ ++
              (later ++ more.flatMap Read.data) := by
          rw [List.flatMap_append, ← List.append_assoc, received, List.append_assoc]
        have fitsAll : forall read, read ∈ list ++ more -> read.data.length ≤ prepareSize :=
          List.forall_mem_append.mpr ⟨fits, fitsMore⟩
        refine ⟨(forwarded_begins follows nonempty expected storage (list ++ more) _
          ⟨[], (List.append_nil _).trans receivedMore⟩).1, ?_⟩
        refine (forwarded_eq_iff follows nonempty expected storage (list ++ more) fitsAll _
          receivedMore).mpr (Nat.le_trans taken ?_)
        exact Nat.mul_le_mul_left _ (behindHeader_append_le _ list more)
  | chunked chunks last =>
      constructor
      · intro hands
        exact absurd hands (not_handsOverBody_chunked follows nonempty filled expected received)
      · rintro ⟨other, _⟩
        exact False.elim other

/-- The two octets behind the header are handed over when they arrive in reads of
their own, and never when they arrive together with the header. -/
theorem handsOverBody_upload :
    HandsOverBody (launched (scriptedBeast uploadScript) [])
        [⟨nilUuid, none, uploadScript.header⟩, ⟨nilUuid, none, octetsOf "a"⟩,
          ⟨nilUuid, none, octetsOf "b"⟩] (octetsOf "ab") ∧
      ¬HandsOverBody (launched (scriptedBeast uploadScript) [])
        [⟨nilUuid, none, uploadScript.header ++ octetsOf "ab"⟩] (octetsOf "ab") := by
  have follows := scriptedBeast_follows uploadScript (by decide)
  have separate := handsOverBody_iff (scriptedBeast uploadScript) uploadScript.Expects follows
    uploadScript.header (by decide) (.contentLength (octetsOf "ab")) (by decide) rfl []
    [⟨nilUuid, none, uploadScript.header⟩, ⟨nilUuid, none, octetsOf "a"⟩,
      ⟨nilUuid, none, octetsOf "b"⟩] (by decide) [] (by decide)
  have together := handsOverBody_iff (scriptedBeast uploadScript) uploadScript.Expects follows
    uploadScript.header (by decide) (.contentLength (octetsOf "ab")) (by decide) rfl []
    [⟨nilUuid, none, uploadScript.header ++ octetsOf "ab"⟩] (by decide) [] (by decide)
  exact ⟨separate.mpr (by decide), fun hands => absurd (together.mp hands) (by decide)⟩

/-! ## One chunk -/

def chunkedCoding : Coding :=
  .chunked [(octetsOf "3\r\n", octetsOf "abc")] (octetsOf "\r\n0\r\n\r\n")

def chunkedScript : Script where
  request := { methodString := "PUT", target := "/", fields := [("Transfer-Encoding", "chunked")] }
  header := octetsOf "PUT / HTTP/1.1\r\nTransfer-Encoding: chunked\r\n\r\n"
  elements := chunkedCoding.elements
  contentLength := none
  upgrade := false

/-- One read for each element. -/
def chunkedReads : List Read :=
  [⟨nilUuid, none, chunkedScript.header⟩, ⟨nilUuid, none, octetsOf "3\r\n"⟩,
    ⟨nilUuid, none, octetsOf "abc"⟩, ⟨nilUuid, none, octetsOf "\r\n0\r\n\r\n"⟩]

/-- The length line of a chunk reaches the worker as zero octets. -/
theorem chunkedReads_not_handed :
    ¬ forall storage list, (forall read, read ∈ list -> read.data.length ≤ prepareSize) ->
      storage ++ list.flatMap Read.data =
          Pending.sent ⟨chunkedScript.header, chunkedCoding.elements⟩ ->
        HandsOverBody (launched (scriptedBeast chunkedScript) storage) list
          chunkedCoding.body := by
  intro handed
  have hands := handed [] chunkedReads (by decide) (by decide)
  have same := (hands [] (fun _ member => absurd member List.not_mem_nil)).2
  exact absurd same (by decide +kernel)

end HttpSession

end EasyProspect
