import EasyProspect.ProxiedMessage

namespace EasyProspect

/-!
# Waiting with octets in hand

Each of the two loops reads before it looks at the buffer, and each read is
followed by one call of the parser.  So the session waits although it could go on
whenever more than one element of the message has become available since the last
read.  The main theorem says that this is the only case, as a condition on the
message and on the sizes of its fragments.

The proof goes through a message that is consumed one element for each fragment.
The session mirrors it, and the condition is read off from it.
-/

namespace Element

/-! ## Elements that have arrived -/

/-- How many elements the parser can begin with when `arrived` octets are there:
a line when all of it is there, data from its first octet on. -/
def started : List Element -> Nat -> Nat
  | [], _ => 0
  | line octets :: rest, arrived =>
      if octets.length ≤ arrived then started rest (arrived - octets.length) + 1 else 0
  | data octets :: rest, arrived =>
      if octets.length ≤ arrived then started rest (arrived - octets.length) + 1
      else min 1 arrived

/-- How many elements have arrived in full. -/
def finished : List Element -> Nat -> Nat
  | [], _ => 0
  | element :: rest, arrived =>
      if element.sent.length ≤ arrived then finished rest (arrived - element.sent.length) + 1
      else 0

/-- No fragment reaches past the end of one element and into the next. -/
def OneElementPerRead (elements : List Element) : Nat -> List Nat -> Prop
  | _, [] => True
  | arrived, count :: counts =>
      started elements (arrived + count) ≤ finished elements arrived + 1 ∧
        OneElementPerRead elements (arrived + count) counts

instance OneElementPerRead.decidable (elements : List Element) :
    forall arrived counts, Decidable (OneElementPerRead elements arrived counts)
  | _, [] => inferInstanceAs (Decidable True)
  | arrived, count :: counts =>
      have : Decidable (OneElementPerRead elements (arrived + count) counts) :=
        OneElementPerRead.decidable elements (arrived + count) counts
      inferInstanceAs (Decidable (_ ∧ _))

/-- Before each fragment there is nothing to take. -/
def Spent (size : Nat) : List Element -> Nat -> List Nat -> Prop
  | elements, held, [] => (takeOne size elements held).2 = 0
  | elements, held, count :: counts =>
      (takeOne size elements held).2 = 0 ∧
        Spent size (takeOne size elements (held + count)).1
          (held + count - (takeOne size elements (held + count)).2) counts

section Arrival

variable {size : Nat} {element : Element} {octets : Octets} {rest elements : List Element}
variable {held : Nat}

theorem started_whole (whole : element.sent.length ≤ held) :
    started (element :: rest) held = started rest (held - element.sent.length) + 1 := by
  cases element with
  | line octets => exact if_pos whole
  | data octets => exact if_pos whole

theorem finished_whole (whole : element.sent.length ≤ held) :
    finished (element :: rest) held = finished rest (held - element.sent.length) + 1 :=
  if_pos whole

theorem finished_part (part : held < element.sent.length) :
    finished (element :: rest) held = 0 :=
  if_neg (Nat.not_le_of_lt part)

/-- Nothing can begin exactly when a call takes nothing. -/
theorem started_eq_zero_iff (room : 0 < size) (filled : Filled elements) :
    started elements held = 0 <-> (takeOne size elements held).2 = 0 := by
  cases elements with
  | nil => exact ⟨fun _ => rfl, fun _ => rfl⟩
  | cons element rest =>
      have positive := filled.length_pos
      cases element with
      | line octets =>
          have nonempty : 0 < octets.length := positive
          rw [started, takeOne]
          split <;> omega
      | data octets =>
          have nonempty : 0 < octets.length := positive
          rw [started, takeOne]
          split <;> omega

theorem takeOne_data_whole (rest : List Element) (whole : octets.length ≤ held)
    (fits : held ≤ size) : takeOne size (data octets :: rest) held = (rest, octets.length) := by
  rw [takeOne, Nat.min_eq_left whole, Nat.min_eq_right (Nat.le_trans whole fits), afterData,
    if_pos rfl]

theorem takeOne_data_part (rest : List Element) (part : held < octets.length)
    (fits : held ≤ size) :
    takeOne size (data octets :: rest) held = (data (octets.drop held) :: rest, held) := by
  rw [takeOne, Nat.min_eq_right (Nat.le_of_lt part), Nat.min_eq_right fits, afterData,
    if_neg (Nat.ne_of_lt part)]

/-- Data can be taken as soon as there is any. -/
theorem held_eq_zero (room : 0 < size) (filled : Filled (data octets :: rest))
    (spent : (takeOne size (data octets :: rest) held).2 = 0) : held = 0 := by
  have positive : 0 < octets.length := filled.length_pos
  have nothing : min size (min octets.length held) = 0 := spent
  omega

/-- Counting from behind a finished element. -/
theorem oneElementPerRead_cons (arrived : Nat) (counts : List Nat) :
    OneElementPerRead (element :: rest) (element.sent.length + arrived) counts <->
      OneElementPerRead rest arrived counts := by
  induction counts generalizing arrived with
  | nil => exact Iff.rfl
  | cons count counts inductionHypothesis =>
      have before : finished (element :: rest) (element.sent.length + arrived) =
          finished rest arrived + 1 := by
        rw [finished_whole (Nat.le_add_right _ _), Nat.add_sub_cancel_left]
      have after : started (element :: rest) (element.sent.length + arrived + count) =
          started rest (arrived + count) + 1 := by
        rw [Nat.add_assoc, started_whole (Nat.le_add_right _ _), Nat.add_sub_cancel_left]
      rw [OneElementPerRead, OneElementPerRead, before, after,
        Nat.add_assoc element.sent.length, inductionHypothesis (arrived + count)]
      exact and_congr_left fun _ => Nat.add_le_add_iff_right

/-- Counting from the middle of data. -/
theorem oneElementPerRead_data {taken : Nat} (within : taken < octets.length) (arrived : Nat)
    (counts : List Nat) :
    OneElementPerRead (data octets :: rest) (taken + arrived) counts <->
      OneElementPerRead (data (octets.drop taken) :: rest) arrived counts := by
  induction counts generalizing arrived with
  | nil => exact Iff.rfl
  | cons count counts inductionHypothesis =>
      have length : (octets.drop taken).length = octets.length - taken := List.length_drop
      have before : finished (data octets :: rest) (taken + arrived) =
          finished (data (octets.drop taken) :: rest) arrived := by
        rw [finished, finished, sent, sent, length]
        have shift : taken + arrived - octets.length = arrived - (octets.length - taken) := by
          omega
        have reach : octets.length ≤ taken + arrived <-> octets.length - taken ≤ arrived := by
          omega
        rw [shift]
        exact if_congr reach rfl rfl
      have after : started (data octets :: rest) (taken + arrived + count) ≤
            finished (data octets :: rest) (taken + arrived) + 1 <->
          started (data (octets.drop taken) :: rest) (arrived + count) ≤
            finished (data octets :: rest) (taken + arrived) + 1 := by
        rw [started, started, length]
        by_cases whole : octets.length ≤ taken + arrived + count
        · have reached : octets.length - taken ≤ arrived + count := by
            omega
          have shift : taken + arrived + count - octets.length =
              arrived + count - (octets.length - taken) := by
            omega
          rw [if_pos whole, if_pos reached, shift]
        · have unreached : ¬octets.length - taken ≤ arrived + count := by
            omega
          rw [if_neg whole, if_neg unreached]
          omega
      rw [OneElementPerRead, OneElementPerRead, after, before, Nat.add_assoc,
        inductionHypothesis (arrived + count)]

/-- Behind a line or data that has arrived in full. -/
theorem oneElementPerRead_behind (element : Element) (rest : List Element)
    (whole : element.sent.length ≤ held) (counts : List Nat) :
    OneElementPerRead rest (held - element.sent.length) counts <->
      OneElementPerRead (element :: rest) held counts := by
  have shifted : OneElementPerRead (element :: rest)
        (element.sent.length + (held - element.sent.length)) counts <->
      OneElementPerRead rest (held - element.sent.length) counts :=
    oneElementPerRead_cons (held - element.sent.length) counts
  rw [Nat.add_sub_cancel' whole] at shifted
  exact shifted.symm

/-- Taking one element does not change the condition on the fragments to come. -/
theorem oneElementPerRead_takeOne (room : 0 < size) (filled : Filled elements)
    (spent : (takeOne size elements held).2 = 0) {count : Nat} (fits : count ≤ size)
    (counts : List Nat) :
    OneElementPerRead (takeOne size elements (held + count)).1
        (held + count - (takeOne size elements (held + count)).2) counts <->
      OneElementPerRead elements (held + count) counts := by
  cases elements with
  | nil => exact Iff.rfl
  | cons element rest =>
      cases element with
      | line octets =>
          by_cases whole : octets.length ≤ held + count
          · rw [takeOne_line_whole size octets rest _ whole]
            exact oneElementPerRead_behind (line octets) rest whole counts
          · rw [takeOne_line_part size octets rest _ (Nat.lt_of_not_le whole)]
            exact Iff.rfl
      | data octets =>
          have empty := held_eq_zero room filled spent
          subst empty
          rw [Nat.zero_add]
          by_cases whole : octets.length ≤ count
          · rw [takeOne_data_whole rest whole fits]
            exact oneElementPerRead_behind (data octets) rest whole counts
          · have part : count < octets.length := Nat.lt_of_not_le whole
            rw [takeOne_data_part rest part fits, Nat.sub_self]
            exact (oneElementPerRead_data part 0 counts).symm

/-- What the next call will find depends on how far the next fragment reaches. -/
theorem started_takeOne (room : 0 < size) (filled : Filled elements)
    (spent : (takeOne size elements held).2 = 0) {count : Nat} (fits : count ≤ size) :
    started (takeOne size elements (held + count)).1
        (held + count - (takeOne size elements (held + count)).2) = 0 <->
      started elements (held + count) ≤ finished elements held + 1 := by
  cases elements with
  | nil => exact ⟨fun _ => Nat.zero_le _, fun _ => rfl⟩
  | cons element rest =>
      have positive := filled.length_pos
      cases element with
      | line octets =>
          have incomplete : held < octets.length := by
            by_cases arrived : octets.length ≤ held
            · rw [takeOne_line_whole size octets rest held arrived] at spent
              exact absurd spent (Nat.ne_of_gt positive)
            · exact Nat.lt_of_not_le arrived
          have unfinished : finished (line octets :: rest) held = 0 := finished_part incomplete
          rw [unfinished]
          by_cases whole : octets.length ≤ held + count
          · have one_more : started (line octets :: rest) (held + count) =
                started rest (held + count - octets.length) + 1 := started_whole whole
            rw [takeOne_line_whole size octets rest _ whole, one_more]
            exact ⟨fun nothing => Nat.succ_le_succ (Nat.le_of_eq nothing),
              fun bound => Nat.le_zero.mp (Nat.le_of_succ_le_succ bound)⟩
          · have none_started : started (line octets :: rest) (held + count) = 0 := if_neg whole
            rw [takeOne_line_part size octets rest _ (Nat.lt_of_not_le whole), Nat.sub_zero,
              none_started]
            exact ⟨fun _ => Nat.zero_le _, fun _ => rfl⟩
      | data octets =>
          have empty := held_eq_zero room filled spent
          subst empty
          have unfinished : finished (data octets :: rest) 0 = 0 := finished_part positive
          rw [unfinished, Nat.zero_add]
          by_cases whole : octets.length ≤ count
          · have one_more : started (data octets :: rest) count =
                started rest (count - octets.length) + 1 := started_whole whole
            rw [takeOne_data_whole rest whole fits, one_more]
            exact ⟨fun nothing => Nat.succ_le_succ (Nat.le_of_eq nothing),
              fun bound => Nat.le_zero.mp (Nat.le_of_succ_le_succ bound)⟩
          · have part : count < octets.length := Nat.lt_of_not_le whole
            have remains : ¬(octets.drop count).length ≤ 0 := by
              rw [List.length_drop]
              omega
            rw [takeOne_data_part rest part fits, Nat.sub_self, started, started, if_neg remains,
              if_neg whole]
            omega

/-- The two descriptions of the fragments agree. -/
theorem spent_iff (counts : List Nat) (filled : Filled elements) (room : 0 < size)
    (fits : forall count, count ∈ counts -> count ≤ size) :
    Spent size elements held counts <->
      started elements held = 0 ∧ OneElementPerRead elements held counts := by
  induction counts generalizing elements held with
  | nil =>
      rw [Spent, OneElementPerRead, and_true]
      exact (started_eq_zero_iff room filled).symm
  | cons count counts inductionHypothesis =>
      have fitsHead := fits count List.mem_cons_self
      have fitsTail : forall other, other ∈ counts -> other ≤ size :=
        fun other member => fits other (List.mem_cons_of_mem count member)
      rw [Spent, OneElementPerRead, started_eq_zero_iff room filled,
        inductionHypothesis (filled_takeOne filled size (held + count)) fitsTail]
      refine and_congr_right fun spent => ?_
      rw [started_takeOne room filled spent fitsHead,
        oneElementPerRead_takeOne room filled spent fitsHead]

end Arrival

end Element

open Element

namespace HttpSession

variable {beast : Beast} {expects : beast.State -> Pending -> Prop}

/-! ## The session -/

/-- The octets in hand would complete the header, or would advance the body. -/
def CanProceed (session : HttpSession beast) : Prop :=
  session.coroutine = .headerRead ∧
      beast.isHeaderDone (beast.put session.parser prBufferSize session.storage).parser = true ∨
    session.coroutine = .bodyRead ∧
      0 < (beast.put session.parser prBufferSize session.storage).octets

/-- Whenever a read is issued, the octets in hand would not do. -/
def NeverWaits (session : HttpSession beast) (list : List Read) : Prop :=
  forall before, before <+: list -> ¬(session.reads before).1.CanProceed

theorem neverWaits_nil (session : HttpSession beast) :
    session.NeverWaits [] <-> ¬session.CanProceed := by
  constructor
  · intro never
    exact never [] List.prefix_rfl
  · intro spent before prefixed
    rw [List.prefix_nil.mp prefixed]
    exact spent

theorem neverWaits_cons (session : HttpSession beast) (read : Read) (list : List Read) :
    session.NeverWaits (read :: list) <->
      ¬session.CanProceed ∧
        (session.resume read.generated read.completion).1.NeverWaits list := by
  constructor
  · intro never
    refine ⟨never [] List.nil_prefix, ?_⟩
    intro before prefixed
    exact never (read :: before) (List.cons_prefix_cons.mpr ⟨rfl, prefixed⟩)
  · rintro ⟨spent, never⟩ before prefixed
    cases before with
    | nil => exact spent
    | cons first rest =>
        rcases List.cons_prefix_cons.mp prefixed with ⟨same, later⟩
        subst same
        exact never rest later

/-- The session stands where the message is left by one call for each read.  The
header counts as one line, of which the parser may have taken a part. -/
def Mirrors (expects : beast.State -> Pending -> Prop) (session : HttpSession beast)
    (future : Octets) (elements : List Element) (held : Nat) : Prop :=
  (Exists fun pending => Exists fun header =>
      Tracks expects session pending future ∧ pending.header ≠ [] ∧ header ≠ [] ∧
        elements = .line header :: pending.elements ∧
          header.length + session.storage.length = pending.header.length + held) ∨
    Tracks expects session ⟨[], elements⟩ future ∧
      (elements = [] ∨ held = session.storage.length)

/-- Both have the same use for what they hold. -/
theorem canProceed_iff (follows : FollowsMessage beast expects) {session : HttpSession beast}
    {future : Octets} {elements : List Element} {held : Nat}
    (mirrors : Mirrors expects session future elements held) :
    session.CanProceed <-> (takeOne prBufferSize elements held).2 ≠ 0 := by
  rcases mirrors with ⟨pending, header, tracks, unfinished, nonempty, rfl, balance⟩ | ⟨tracks, same⟩
  · have taken : (takeOne prBufferSize (line header :: pending.elements) held).2 ≠ 0 <->
        pending.header.length ≤ session.storage.length := by
      have positive := List.length_pos_iff.mpr nonempty
      rw [takeOne]
      split
      · rename_i whole
        exact ⟨fun _ => by omega, fun _ => Nat.ne_of_gt positive⟩
      · exact ⟨fun other => absurd rfl other, fun arrived => by omega⟩
    rcases tracks.position with ⟨point, _⟩ | ⟨_, other, _⟩ | ⟨_, other, _⟩
    · rcases tracks.input with ⟨later, prefixed⟩
      rcases follows.putHeader session.parser pending prBufferSize session.storage later
        tracks.expected unfinished ((List.prefix_append _ _).trans prefixed) with
        ⟨_, present, _, whole, next⟩
      have completes := follows.headerDone _ _ next
      rw [taken]
      constructor
      · rintro (⟨_, complete⟩ | ⟨other, _⟩)
        · exact Nat.le_trans (List.drop_eq_nil_iff.mp (completes.mp complete)) present
        · exact absurd (point.symm.trans other) (by decide)
      · intro arrived
        refine Or.inl ⟨point, completes.mpr ?_⟩
        exact List.drop_eq_nil_of_le (Nat.le_of_eq (whole arrived).symm)
    · exact absurd other unfinished
    · exact absurd other unfinished
  · by_cases empty : elements = []
    · subst empty
      rcases tracks.position with ⟨_, other⟩ | ⟨_, _, other⟩ | ⟨point, _⟩
      · exact absurd rfl other
      · exact absurd rfl other
      · constructor
        · rintro (⟨other, _⟩ | ⟨other, _⟩)
          · exact absurd (point.symm.trans other) (by decide)
          · exact absurd (point.symm.trans other) (by decide)
        · intro other
          exact absurd rfl other
    · have point := bodyRead_of_tracks tracks empty
      have size : held = session.storage.length := same.resolve_left empty
      rcases tracks.input with ⟨later, prefixed⟩
      have result := follows.putBody prBufferSize tracks.expected empty
        ((List.prefix_append _ _).trans prefixed)
      rw [size, ← result.1]
      constructor
      · rintro (⟨other, _⟩ | ⟨_, progress⟩)
        · exact absurd (point.symm.trans other) (by decide)
        · exact Nat.ne_of_gt progress
      · intro progress
        exact Or.inr ⟨point, Nat.pos_of_ne_zero progress⟩

/-- One read keeps the session and the message in step. -/
theorem mirrors_resume (follows : FollowsMessage beast expects) {session : HttpSession beast}
    {future : Octets} {elements : List Element} {held : Nat} (read : Read)
    (mirrors : Mirrors expects session (read.data ++ future) elements held) :
    Mirrors expects (session.resume read.generated read.completion).1 future
      (takeOne prBufferSize elements (held + read.data.length)).1
      (held + read.data.length -
        (takeOne prBufferSize elements (held + read.data.length)).2) := by
  rcases mirrors with ⟨pending, header, tracks, unfinished, nonempty, rfl, balance⟩ | ⟨tracks, same⟩
  · rcases tracks_resume_header follows read tracks unfinished with
      ⟨taken, present, wanted, whole, length, next⟩
    by_cases arrived : header.length ≤ held + read.data.length
    · have all := whole (by omega)
      rw [takeOne_line_whole prBufferSize header pending.elements _ arrived]
      rw [all, List.drop_length] at next
      refine Or.inr ⟨next, Or.inr ?_⟩
      rw [length]
      change held + read.data.length - header.length = _
      omega
    · rw [takeOne_line_part prBufferSize header pending.elements _ (Nat.lt_of_not_le arrived)]
      refine Or.inl ⟨_, header, next, ?_, nonempty, rfl, ?_⟩
      · intro empty
        have short := List.drop_eq_nil_iff.mp empty
        omega
      · rw [length, List.length_drop]
        change _ = _ + (held + read.data.length)
        omega
  · by_cases empty : elements = []
    · subst empty
      rcases tracks_resume_done read tracks rfl rfl with ⟨unchanged, next⟩
      rw [unchanged]
      exact Or.inr ⟨next, Or.inl rfl⟩
    · have size : held = session.storage.length := same.resolve_left empty
      rcases tracks_resume_body follows read tracks empty with ⟨length, next⟩
      rw [size]
      exact Or.inr ⟨next, Or.inr length.symm⟩

theorem neverWaits_iff_spent (follows : FollowsMessage beast expects) (list : List Read)
    {session : HttpSession beast} {elements : List Element} {held : Nat}
    (mirrors : Mirrors expects session (list.flatMap Read.data) elements held) :
    session.NeverWaits list <->
      Spent prBufferSize elements held (list.map fun read => read.data.length) := by
  induction list generalizing session elements held with
  | nil =>
      rw [neverWaits_nil, canProceed_iff follows mirrors, not_ne_iff]
      exact Iff.rfl
  | cons read list inductionHypothesis =>
      rw [neverWaits_cons, canProceed_iff follows mirrors, not_ne_iff,
        inductionHypothesis (mirrors_resume follows read mirrors)]
      exact Iff.rfl

/-- The session never waits with octets in hand exactly when it does not start
with the whole header and no read reaches past the end of one element of the
message and into the next. -/
theorem neverWaits_iff (beast : Beast) (expects : beast.State -> Pending -> Prop)
    (follows : FollowsMessage beast expects) (header : Octets) (elements : List Element)
    (expected : expects beast.emplaced ⟨header, elements⟩)
    (filled : Filled (.line header :: elements)) (storage : Octets) (list : List Read)
    (fits : forall read, read ∈ list -> read.data.length ≤ prepareSize)
    (later : Octets)
    (split : storage ++ list.flatMap Read.data <+: Pending.sent ⟨header, elements⟩ ++ later) :
    (launched beast storage).NeverWaits list <->
      started (.line header :: elements) storage.length = 0 ∧
        OneElementPerRead (.line header :: elements) storage.length
          (list.map fun read => read.data.length) := by
  have nonempty : header ≠ [] := filled (.line header) List.mem_cons_self
  have tracks := tracks_launched expected nonempty ⟨later, split⟩
  have mirrors : Mirrors expects (launched beast storage) (list.flatMap Read.data)
      (.line header :: elements) storage.length :=
    Or.inl ⟨_, header, tracks, nonempty, nonempty, rfl, rfl⟩
  rw [neverWaits_iff_spent follows list mirrors]
  apply spent_iff _ filled (by decide)
  intro count member
  rcases List.mem_map.mp member with ⟨read, present, rfl⟩
  exact Nat.le_trans (fits read present) (by decide)

/-- A detector that has read the whole request leaves the session waiting. -/
theorem waits_for_detected :
    ¬ forall storage list, storage ++ list.flatMap Read.data = getScript.header ->
      (launched (scriptedBeast getScript) storage).NeverWaits list := by
  intro never
  refine never getScript.header [] (List.append_nil _) [] List.prefix_rfl (Or.inl ⟨rfl, ?_⟩)
  decide

/-- Reads that end where the elements of the message end, or within one of them. -/
def uploadReads : List Read :=
  [⟨nilUuid, none, octetsOf "UT / HTTP/1.1\r\nContent-"⟩,
    ⟨nilUuid, none, octetsOf "Length: 2\r\n\r\n"⟩,
    ⟨nilUuid, none, octetsOf "a"⟩, ⟨nilUuid, none, octetsOf "b"⟩]

/-- A request with a body that comes in such reads is never waited for. -/
theorem neverWaits_iff_upload :
    (launched (scriptedBeast uploadScript) (octetsOf "P")).NeverWaits uploadReads :=
  (neverWaits_iff (scriptedBeast uploadScript) uploadScript.Expects
    (scriptedBeast_follows uploadScript (by decide)) uploadScript.header uploadScript.elements
    rfl (by decide) (octetsOf "P") uploadReads (by decide) [] (by decide +kernel)).mpr
    ⟨by decide, by decide +kernel⟩

end HttpSession

end EasyProspect
