import EasyProspect.ProxyReads
import Mathlib.Data.List.Infix

namespace EasyProspect

/-!
# A proxy session over one message

The parser takes one structured element in a call, and a session makes one call
for each read.  This module follows a session and its parser through a message,
whatever the reads cut it into, and settles when the session waits for the socket
with something usable in hand.

The first part is about messages only: what one call takes of the elements that
are left, given how many octets of them have arrived.
-/

namespace Element

/-- What one call leaves of the elements, and how many octets it takes, when
`held` octets of them have arrived. -/
def takeOne (size : Nat) : List Element -> Nat -> List Element × Nat
  | [], _ => ([], 0)
  | line octets :: rest, held =>
      if octets.length ≤ held then (rest, octets.length) else (line octets :: rest, 0)
  | data octets :: rest, held =>
      (afterData octets (min size (min octets.length held)) rest,
        min size (min octets.length held))

/-- The body octets among those that one call takes. -/
def storeOne (size : Nat) : List Element -> Nat -> Octets
  | data octets :: _, held => octets.take (min size (min octets.length held))
  | _, _ => []

/-- No element is empty. -/
def Filled (elements : List Element) : Prop :=
  forall element, element ∈ elements -> element.sent ≠ []

instance (elements : List Element) : Decidable (Filled elements) :=
  inferInstanceAs (Decidable (forall element, element ∈ elements -> element.sent ≠ []))

section TakeOne

variable (size : Nat) (octets : Octets) (rest elements : List Element) (held : Nat)

theorem takeOne_line_whole (whole : octets.length ≤ held) :
    takeOne size (line octets :: rest) held = (rest, octets.length) := by
  rw [takeOne, if_pos whole]

theorem takeOne_line_part (part : held < octets.length) :
    takeOne size (line octets :: rest) held = (line octets :: rest, 0) := by
  rw [takeOne, if_neg (Nat.not_le_of_lt part)]

theorem afterData_flatMap_sent {taken : Nat} (within : taken ≤ octets.length) :
    (afterData octets taken rest).flatMap sent =
      ((data octets :: rest).flatMap sent).drop taken := by
  rw [List.flatMap_cons, sent, List.drop_append_of_le_length within, afterData]
  by_cases whole : taken = octets.length
  · rw [if_pos whole, whole, List.drop_length, List.nil_append]
  · rw [if_neg whole, List.flatMap_cons, sent]

theorem afterData_flatMap_meant (taken : Nat) :
    octets.take taken ++ (afterData octets taken rest).flatMap meant =
      (data octets :: rest).flatMap meant := by
  rw [List.flatMap_cons, meant, afterData]
  by_cases whole : taken = octets.length
  · rw [if_pos whole, whole, List.take_length]
  · rw [if_neg whole, List.flatMap_cons, meant, ← List.append_assoc, List.take_append_drop]

theorem takeOne_le_held : (takeOne size elements held).2 ≤ held := by
  cases elements with
  | nil => exact Nat.zero_le held
  | cons element rest =>
      cases element with
      | line octets =>
          by_cases whole : octets.length ≤ held
          · rw [takeOne_line_whole size octets rest held whole]
            exact whole
          · rw [takeOne_line_part size octets rest held (Nat.lt_of_not_le whole)]
            exact Nat.zero_le held
      | data octets => exact Nat.le_trans (Nat.min_le_right _ _) (Nat.min_le_right _ _)

/-- What is sent of the elements left is what is sent behind the octets taken. -/
theorem takeOne_sent :
    (takeOne size elements held).2 ≤ (elements.flatMap sent).length ∧
      (takeOne size elements held).1.flatMap sent =
        (elements.flatMap sent).drop (takeOne size elements held).2 := by
  cases elements with
  | nil => exact ⟨Nat.le_refl 0, rfl⟩
  | cons element rest =>
      cases element with
      | line octets =>
          by_cases whole : octets.length ≤ held
          · rw [takeOne_line_whole size octets rest held whole, List.flatMap_cons, sent,
              List.drop_left, List.length_append]
            exact ⟨Nat.le_add_right _ _, rfl⟩
          · rw [takeOne_line_part size octets rest held (Nat.lt_of_not_le whole)]
            exact ⟨Nat.zero_le _, rfl⟩
      | data octets =>
          have within : min size (min octets.length held) ≤ octets.length :=
            Nat.le_trans (Nat.min_le_right _ _) (Nat.min_le_left _ _)
          refine ⟨?_, afterData_flatMap_sent octets rest within⟩
          rw [List.flatMap_cons, List.length_append]
          exact Nat.le_add_right_of_le within

/-- The octets stored are the first octets of the body that is left. -/
theorem storeOne_meant :
    storeOne size elements held ++ (takeOne size elements held).1.flatMap meant =
      elements.flatMap meant := by
  cases elements with
  | nil => rfl
  | cons element rest =>
      cases element with
      | line octets =>
          by_cases whole : octets.length ≤ held
          · rw [takeOne_line_whole size octets rest held whole]
            rfl
          · rw [takeOne_line_part size octets rest held (Nat.lt_of_not_le whole)]
            rfl
      | data octets => exact afterData_flatMap_meant octets rest _

end TakeOne

section Filled

variable {element : Element} {rest elements : List Element}

theorem Filled.length_pos (filled : Filled (element :: rest)) : 0 < element.sent.length :=
  List.length_pos_iff.mpr (filled element List.mem_cons_self)

theorem Filled.tail (filled : Filled (element :: rest)) : Filled rest :=
  fun other member => filled other (List.mem_cons_of_mem element member)

theorem filled_takeOne (filled : Filled elements) (size held : Nat) :
    Filled (takeOne size elements held).1 := by
  cases elements with
  | nil => exact filled
  | cons element rest =>
      cases element with
      | line octets =>
          by_cases whole : octets.length ≤ held
          · rw [takeOne_line_whole size octets rest held whole]
            exact filled.tail
          · rw [takeOne_line_part size octets rest held (Nat.lt_of_not_le whole)]
            exact filled
      | data octets =>
          rw [takeOne, afterData]
          by_cases whole : min size (min octets.length held) = octets.length
          · rw [if_pos whole]
            exact filled.tail
          · rw [if_neg whole]
            intro other member
            rcases List.mem_cons.mp member with same | later
            · subst same
              intro empty
              have length := List.drop_eq_nil_iff.mp empty
              omega
            · exact filled other (List.mem_cons_of_mem _ later)

theorem Filled.eq_nil (filled : Filled elements) (nothing : (elements.flatMap sent).length = 0) :
    elements = [] := by
  cases elements with
  | nil => rfl
  | cons element rest =>
      have positive := filled.length_pos
      rw [List.flatMap_cons, List.length_append] at nothing
      omega

/-- Of elements that have arrived in full, a call takes something. -/
theorem Filled.takeOne_pos (filled : Filled elements) (unfinished : elements ≠ []) {size held : Nat}
    (room : 0 < size) (arrived : (elements.flatMap sent).length ≤ held) :
    0 < (takeOne size elements held).2 := by
  cases elements with
  | nil => exact absurd rfl unfinished
  | cons element rest =>
      have positive := filled.length_pos
      rw [List.flatMap_cons, List.length_append] at arrived
      cases element with
      | line octets =>
          have whole : octets.length ≤ held := Nat.le_trans (Nat.le_add_right _ _) arrived
          rw [takeOne_line_whole size octets rest held whole]
          exact positive
      | data octets =>
          have filledOctets : 0 < octets.length := positive
          have present : octets.length ≤ held := Nat.le_trans (Nat.le_add_right _ _) arrived
          exact Nat.lt_min.mpr
            ⟨room, Nat.lt_min.mpr ⟨filledOctets, Nat.lt_of_lt_of_le filledOctets present⟩⟩

end Filled

end Element

open Element

/-- One call in the body, whatever element comes next. -/
theorem FollowsMessage.putBody {beast : Beast} {expects : beast.State -> Pending -> Prop}
    (follows : FollowsMessage beast expects) {state : beast.State} {elements : List Element}
    {input later : Octets} (size : Nat) (expected : expects state ⟨[], elements⟩)
    (unfinished : elements ≠ []) (prefixed : input <+: elements.flatMap sent ++ later) :
    (beast.put state size input).octets = (takeOne size elements input.length).2 ∧
      (beast.put state size input).stored = storeOne size elements input.length ∧
      expects (beast.put state size input).parser
        ⟨[], (takeOne size elements input.length).1⟩ := by
  cases elements with
  | nil => exact absurd rfl unfinished
  | cons element rest =>
      cases element with
      | line octets =>
          rcases follows.putLine state octets rest size input later expected prefixed with
            ⟨stored, taken, next⟩
          refine ⟨?_, stored, ?_⟩
          · rw [taken, takeOne]
            split <;> rfl
          · rw [takeOne]
            split at next
            · rename_i whole
              rw [if_pos whole]
              exact next
            · rename_i part
              rw [if_neg part]
              exact next
      | data octets =>
          rcases follows.putData state octets rest size input later expected prefixed with
            ⟨stored, taken, next⟩
          rw [taken] at stored next
          exact ⟨taken, stored, next⟩

namespace HttpSession

variable {beast : Beast} {expects : beast.State -> Pending -> Prop}

/-! ## Following the session -/

/-- The session has consumed a message up to `pending`, and it holds, or its
reads will still deliver, a first part of the rest. -/
structure Tracks (expects : beast.State -> Pending -> Prop) (session : HttpSession beast)
    (pending : Pending) (future : Octets) : Prop where
  expected : expects session.parser pending
  input : Exists fun later => session.storage ++ future <+: pending.sent ++ later
  position :
    session.coroutine = .headerRead ∧ pending.header ≠ [] ∨
      session.coroutine = .bodyRead ∧ pending.header = [] ∧ pending.elements ≠ [] ∨
        session.coroutine = .terminated ∧ pending.header = [] ∧ pending.elements = []

theorem headerRead_of_tracks {session : HttpSession beast} {pending : Pending}
    {future : Octets} (tracks : Tracks expects session pending future)
    (unfinished : pending.header ≠ []) : session.coroutine = .headerRead := by
  rcases tracks.position with ⟨point, _⟩ | ⟨_, other, _⟩ | ⟨_, other, _⟩
  · exact point
  · exact absurd other unfinished
  · exact absurd other unfinished

theorem bodyRead_of_tracks {session : HttpSession beast} {elements : List Element}
    {future : Octets} (tracks : Tracks expects session ⟨[], elements⟩ future)
    (unfinished : elements ≠ []) : session.coroutine = .bodyRead := by
  rcases tracks.position with ⟨_, other⟩ | ⟨point, _⟩ | ⟨_, _, other⟩
  · exact absurd rfl other
  · exact point
  · exact absurd other unfinished

theorem terminated_of_tracks {session : HttpSession beast} {pending : Pending}
    {future : Octets} (tracks : Tracks expects session pending future)
    (header : pending.header = []) (elements : pending.elements = []) :
    session.coroutine = .terminated := by
  rcases tracks.position with ⟨_, other⟩ | ⟨_, _, other⟩ | ⟨point, _⟩
  · exact absurd header other
  · exact absurd elements other
  · exact point

/-- Dropping what the parser took from the octets that arrived. -/
theorem drop_prefix {held future sent later : Octets} {taken : Nat}
    (prefixed : held ++ future <+: sent ++ later) (present : taken ≤ held.length)
    (wanted : taken ≤ sent.length) : held.drop taken ++ future <+: sent.drop taken ++ later := by
  have shorter := List.IsPrefix.drop prefixed taken
  rwa [List.drop_append_of_le_length present, List.drop_append_of_le_length wanted] at shorter

theorem tracks_launched {storage future : Octets}
    {pending : Pending} (expected : expects beast.emplaced pending) (nonempty : pending.header ≠ [])
    (input : Exists fun later => storage ++ future <+: pending.sent ++ later) :
    Tracks expects (launched beast storage) pending future where
  expected := expected
  input := input
  position := Or.inl ⟨rfl, nonempty⟩

/-- A session whose message is done stays as it is. -/
theorem tracks_resume_done {session : HttpSession beast} {pending : Pending} {future : Octets}
    (read : Read) (tracks : Tracks expects session pending (read.data ++ future))
    (header : pending.header = []) (elements : pending.elements = []) :
    session.resume read.generated read.completion = (session, []) ∧
      Tracks expects session pending future := by
  have ended := terminated_of_tracks tracks header elements
  refine ⟨resume_terminated ended, tracks.expected, ⟨session.storage ++ future, ?_⟩,
    tracks.position⟩
  rw [Pending.sent, header, elements]
  exact List.prefix_rfl

/-- What the parser does with the octets of a read in the header. -/
theorem putStorage_header (follows : FollowsMessage beast expects) {session : HttpSession beast}
    {pending : Pending} {future : Octets} (read : Read)
    (tracks : Tracks expects session pending (read.data ++ future))
    (unfinished : pending.header ≠ []) :
    (session.putStorage read.completion).octets ≤
        session.storage.length + read.data.length ∧
      (session.putStorage read.completion).octets ≤ pending.header.length ∧
      (pending.header.length ≤ session.storage.length + read.data.length ->
        (session.putStorage read.completion).octets = pending.header.length) ∧
      expects (session.putStorage read.completion).parser
        { pending with
          header := pending.header.drop (session.putStorage read.completion).octets } := by
  rcases tracks.input with ⟨later, prefixed⟩
  rw [← List.append_assoc] at prefixed
  rcases follows.putHeader session.parser pending prBufferSize (session.storage ++ read.data)
    later tracks.expected unfinished ((List.prefix_append _ _).trans prefixed) with
    ⟨_, present, wanted, whole, next⟩
  rw [List.length_append] at present whole
  exact ⟨present, wanted, whole, next⟩

/-- One read in the header. -/
theorem tracks_resume_header (follows : FollowsMessage beast expects)
    {session : HttpSession beast} {pending : Pending} {future : Octets} (read : Read)
    (tracks : Tracks expects session pending (read.data ++ future))
    (unfinished : pending.header ≠ []) :
    Exists fun taken =>
      taken ≤ session.storage.length + read.data.length ∧ taken ≤ pending.header.length ∧
        (pending.header.length ≤ session.storage.length + read.data.length ->
          taken = pending.header.length) ∧
        (session.resume read.generated read.completion).1.storage.length =
          session.storage.length + read.data.length - taken ∧
        Tracks expects (session.resume read.generated read.completion).1
          { pending with header := pending.header.drop taken } future := by
  have point := headerRead_of_tracks tracks unfinished
  rcases putStorage_header follows read tracks unfinished with ⟨present, wanted, whole, next⟩
  let result := session.putStorage read.completion
  have left : Exists fun later => (session.storage ++ read.data).drop result.octets ++ future <+:
      Pending.sent { pending with header := pending.header.drop result.octets } ++ later := by
    rcases tracks.input with ⟨later, prefixed⟩
    rw [← List.append_assoc] at prefixed
    have rest := drop_prefix prefixed (List.length_append ▸ present)
      (List.length_append ▸ Nat.le_add_right_of_le wanted)
    rw [Pending.sent, List.drop_append_of_le_length wanted] at rest
    exact ⟨later, rest⟩
  refine ⟨result.octets, present, wanted, whole, ?_⟩
  have length : ((session.storage ++ read.data).drop result.octets).length =
      session.storage.length + read.data.length - result.octets := by
    rw [List.length_drop, List.length_append]
  cases done : beast.isDone (session.putStorage read.completion).parser with
  | true =>
      rw [resume_header_last read.generated point done]
      exact ⟨length, next, left, Or.inr (Or.inr ⟨rfl, (follows.done _ _ next).mp done⟩)⟩
  | false =>
      cases complete : beast.isHeaderDone (session.putStorage read.completion).parser with
      | true =>
          have header := (follows.headerDone _ _ next).mp complete
          have elements : pending.elements ≠ [] := by
            intro empty
            rw [(follows.done _ _ next).mpr ⟨header, empty⟩] at done
            exact Bool.noConfusion done
          rw [resume_header_more read.generated point complete done]
          exact ⟨length, next, left, Or.inr (Or.inl ⟨rfl, header, elements⟩)⟩
      | false =>
          have header : pending.header.drop result.octets ≠ [] := by
            intro empty
            rw [(follows.headerDone _ _ next).mpr empty] at complete
            exact Bool.noConfusion complete
          rw [resume_header_incomplete read.generated point complete]
          exact ⟨length, next, left, Or.inl ⟨rfl, header⟩⟩

/-- What the parser does with the octets of a read in the body. -/
theorem putStorage_body (follows : FollowsMessage beast expects) {session : HttpSession beast}
    {elements : List Element} {future : Octets} (read : Read)
    (tracks : Tracks expects session ⟨[], elements⟩ (read.data ++ future))
    (unfinished : elements ≠ []) :
    (session.putStorage read.completion).octets =
        (takeOne prBufferSize elements (session.storage.length + read.data.length)).2 ∧
      (session.putStorage read.completion).stored =
        storeOne prBufferSize elements (session.storage.length + read.data.length) ∧
      expects (session.putStorage read.completion).parser
        ⟨[], (takeOne prBufferSize elements (session.storage.length + read.data.length)).1⟩ := by
  rcases tracks.input with ⟨later, prefixed⟩
  rw [← List.append_assoc] at prefixed
  have result := follows.putBody prBufferSize tracks.expected unfinished
    ((List.prefix_append _ _).trans prefixed)
  rwa [List.length_append] at result

/-- One read in the body. -/
theorem tracks_resume_body (follows : FollowsMessage beast expects)
    {session : HttpSession beast} {elements : List Element} {future : Octets} (read : Read)
    (tracks : Tracks expects session ⟨[], elements⟩ (read.data ++ future))
    (unfinished : elements ≠ []) :
    (session.resume read.generated read.completion).1.storage.length =
        session.storage.length + read.data.length -
          (takeOne prBufferSize elements (session.storage.length + read.data.length)).2 ∧
      Tracks expects (session.resume read.generated read.completion).1
        ⟨[], (takeOne prBufferSize elements (session.storage.length + read.data.length)).1⟩
        future := by
  have point := bodyRead_of_tracks tracks unfinished
  rcases putStorage_body follows read tracks unfinished with ⟨taken, _, next⟩
  let held := session.storage.length + read.data.length
  have bound := takeOne_le_held prBufferSize elements held
  have sent := takeOne_sent prBufferSize elements held
  have input : Exists fun later =>
      (session.storage ++ read.data).drop (takeOne prBufferSize elements held).2 ++ future <+:
        Pending.sent ⟨[], (takeOne prBufferSize elements held).1⟩ ++ later := by
    rcases tracks.input with ⟨later, prefixed⟩
    rw [← List.append_assoc] at prefixed
    refine ⟨later, ?_⟩
    rw [Pending.sent, List.nil_append, sent.2]
    exact drop_prefix prefixed (List.length_append ▸ bound) sent.1
  have length : ((session.storage ++ read.data).drop (takeOne prBufferSize elements held).2).length =
      held - (takeOne prBufferSize elements held).2 := by
    rw [List.length_drop, List.length_append]
  have storage : (session.consume read.completion).storage =
      (session.storage ++ read.data).drop (takeOne prBufferSize elements held).2 :=
    congrArg (fun octets => (session.storage ++ read.data).drop octets) taken
  cases done : beast.isDone (session.putStorage read.completion).parser with
  | true =>
      rw [resume_body_last read.generated point done]
      refine ⟨storage ▸ length, next, storage ▸ input, Or.inr (Or.inr ⟨rfl, ?_⟩)⟩
      exact (follows.done _ _ next).mp done
  | false =>
      rw [resume_body_more read.generated point done]
      refine ⟨storage ▸ length, next, storage ▸ input, Or.inr (Or.inl ⟨rfl, rfl, ?_⟩)⟩
      intro empty
      rw [(follows.done _ _ next).mpr ⟨rfl, empty⟩] at done
      exact Bool.noConfusion done

end HttpSession

end EasyProspect
