import EasyProspect.ProxyReads

namespace EasyProspect

/-!
# Positions of the parts

The session hands the header over at position 0 and every continuation at
`current_pos++`.  The counter is a local variable of `operator()`, and the
coroutine is entered by a fresh call for every completed read, so the counter is
1 again whenever a body read has completed.  Over any sequence of reads the
positions are 0 and then as many ones as there were body reads; they number the
parts exactly when there was at most one.
-/

namespace HttpSession

variable {beast : Beast}

/-- The `position` argument of `handle_worker_request`. -/
def position? : Effect beast -> Option Nat
  | .sendWorkerReq _ position _ _ => some position
  | _ => none

/-- The positions handed over, in order. -/
def positions (effects : List (Effect beast)) : List Nat :=
  effects.filterMap position?

/-- The reads of the list that complete in the body loop. -/
def bodyReads (session : HttpSession beast) : List Read -> Nat
  | [] => 0
  | read :: list =>
      (if session.coroutine = .bodyRead then 1 else 0) +
        bodyReads (session.resume read.generated read.completion).1 list

/-- The parts are numbered from 0 on, in order and without repetition. -/
def Numbered (effects : List (Effect beast)) : Prop :=
  positions effects = List.range (positions effects).length

instance (effects : List (Effect beast)) : Decidable (Numbered effects) :=
  inferInstanceAs (Decidable (positions effects = List.range (positions effects).length))

theorem positions_append (before after : List (Effect beast)) :
    positions (before ++ after) = positions before ++ positions after :=
  List.filterMap_append

theorem positions_copyEffects (session : HttpSession beast) (completion : Completion beast) :
    positions (session.copyEffects completion) = [] := by
  unfold copyEffects
  simp only
  split <;> rfl

theorem bodyReads_terminated {session : HttpSession beast}
    (at_point : session.coroutine = .terminated) (list : List Read) :
    session.bodyReads list = 0 := by
  induction list with
  | nil => rfl
  | cons read list inductionHypothesis =>
      rw [bodyReads, resume_terminated at_point, inductionHypothesis, at_point]
      rfl

/-- In the body loop every read hands one part over, at position 1. -/
theorem positions_body {session : HttpSession beast} (at_point : session.coroutine = .bodyRead)
    (list : List Read) :
    positions (session.reads list).2 = List.replicate (session.bodyReads list) 1 := by
  induction list generalizing session with
  | nil => rfl
  | cons read list inductionHypothesis =>
      rw [reads_cons, positions_append, bodyReads, if_pos at_point, Nat.add_comm,
        List.replicate_succ]
      cases done : beast.isDone (session.putStorage read.completion).parser with
      | true =>
          rw [resume_body_last read.generated at_point done, reads_terminated rfl,
            bodyReads_terminated rfl, positions_append, positions_copyEffects]
          rfl
      | false =>
          rw [resume_body_more read.generated at_point done, inductionHypothesis rfl,
            positions_append, positions_copyEffects]
          rfl

/-- In the header loop nothing is handed over before the header is complete. -/
theorem positions_header {session : HttpSession beast}
    (at_point : session.coroutine = .headerRead) (list : List Read) :
    positions (session.reads list).2 = [] ∧ session.bodyReads list = 0 ∨
      positions (session.reads list).2 = 0 :: List.replicate (session.bodyReads list) 1 := by
  have outside : (if session.coroutine = .bodyRead then 1 else 0) = 0 := by
    rw [at_point]
    rfl
  induction list generalizing session with
  | nil => exact Or.inl ⟨rfl, rfl⟩
  | cons read list inductionHypothesis =>
      rw [reads_cons, positions_append, bodyReads, outside, Nat.zero_add]
      cases done : beast.isDone (session.putStorage read.completion).parser with
      | true =>
          rw [resume_header_last read.generated at_point done, reads_terminated rfl,
            bodyReads_terminated rfl]
          exact Or.inr rfl
      | false =>
          cases complete : beast.isHeaderDone (session.putStorage read.completion).parser with
          | true =>
              rw [resume_header_more read.generated at_point complete done, positions_body rfl]
              exact Or.inr rfl
          | false =>
              rw [resume_header_incomplete read.generated at_point complete]
              exact inductionHypothesis rfl rfl

/-- Zero and then ones is a numbering only up to the first one. -/
theorem zero_ones_eq_range_iff (count : Nat) :
    0 :: List.replicate count 1 = List.range (count + 1) <-> count ≤ 1 := by
  constructor
  · intro same
    by_contra many
    have second : (0 :: List.replicate count 1)[2]? = some 1 := by
      rw [List.getElem?_cons_succ, List.getElem?_replicate, if_pos (by omega)]
    rw [same, List.getElem?_range (by omega)] at second
    exact absurd second (by decide)
  · intro few
    rcases Nat.le_one_iff_eq_zero_or_eq_one.mp few with none | one
    · rw [none]
      rfl
    · rw [one]
      rfl

/-! ## Reads behind the header -/

/-- Where two reads follow the completion of the header, the parser is done with
the first of them or before. -/
def OneBodyRead (parser : beast.State) (storage : Octets) (list : List Read) : Prop :=
  forall before first second after, list = before ++ first :: second :: after ->
    before ≠ [] -> beast.isHeaderDone (fed parser storage before).1 = true ->
      Completes parser storage (before ++ [first])

theorem bodyReads_body_le_one_iff {session : HttpSession beast}
    (at_point : session.coroutine = .bodyRead) (list : List Read) :
    session.bodyReads list ≤ 1 <->
      forall first second after, list = first :: second :: after ->
        beast.isDone (session.putStorage first.completion).parser = true := by
  cases list with
  | nil =>
      exact ⟨fun _ _ _ _ other => absurd other (List.cons_ne_nil _ _).symm,
        fun _ => Nat.zero_le 1⟩
  | cons first list =>
      rw [bodyReads, if_pos at_point]
      cases done : beast.isDone (session.putStorage first.completion).parser with
      | true =>
          rw [resume_body_last first.generated at_point done, bodyReads_terminated rfl]
          refine ⟨?_, fun _ => Nat.le_refl 1⟩
          rintro _ _ _ _ ⟨rfl, rfl⟩
          exact done
      | false =>
          rw [resume_body_more first.generated at_point done]
          cases list with
          | nil =>
              refine ⟨fun _ => ?_, fun _ => Nat.le_refl 1⟩
              intro _ second after other
              exact absurd (List.cons.inj other).2 (List.cons_ne_nil _ _).symm
          | cons second after =>
              constructor
              · intro few
                rw [bodyReads, if_pos rfl] at few
                omega
              · intro ends
                exact absurd (done.symm.trans (ends first second after rfl)) Bool.false_ne_true

/-- A read with which the header is complete, and the reads behind it. -/
theorem oneBodyRead_more {session : HttpSession beast} {read : Read}
    (complete : beast.isHeaderDone (session.putStorage read.completion).parser = true)
    (more : beast.isDone (session.putStorage read.completion).parser = false)
    (list : List Read) :
    OneBodyRead session.parser session.storage (read :: list) <->
      forall first second after, list = first :: second :: after ->
        beast.isDone (fed session.parser session.storage [read, first]).1 = true := by
  constructor
  · rintro one first second after rfl
    rcases one [read] first second after rfl (List.cons_ne_nil read []) complete with
      ⟨early, nonempty, prefixed, done⟩
    rcases List.prefix_cons_iff.mp prefixed with empty | ⟨rest, rfl, shorter⟩
    · exact absurd empty nonempty
    · rcases List.prefix_cons_iff.mp shorter with rfl | ⟨behind, rfl, last⟩
      · exact absurd (more.symm.trans done) Bool.false_ne_true
      · rwa [List.prefix_nil.mp last] at done
  · intro ends before first second after split nonempty _
    cases before with
    | nil => exact absurd rfl nonempty
    | cons head before =>
        rcases List.cons.inj split with ⟨rfl, rfl⟩
        cases before with
        | nil =>
            exact ⟨[read, first], List.cons_ne_nil _ _, List.prefix_rfl,
              ends first second after rfl⟩
        | cons next before =>
            refine ⟨[read, next], List.cons_ne_nil _ _, ⟨before ++ [first], rfl⟩, ?_⟩
            cases before with
            | nil => exact ends next first (second :: after) rfl
            | cons other before => exact ends next other (before ++ first :: second :: after) rfl

/-- A read that leaves the header incomplete. -/
theorem oneBodyRead_incomplete {session : HttpSession beast} {read : Read}
    (incomplete : beast.isHeaderDone (session.putStorage read.completion).parser = false)
    (list : List Read) :
    OneBodyRead session.parser session.storage (read :: list) <->
      OneBodyRead (session.consume read.completion).parser
        (session.consume read.completion).storage list := by
  have unfinished : beast.isDone (session.putStorage read.completion).parser = false := by
    cases done : beast.isDone (session.putStorage read.completion).parser with
    | true =>
        have complete := beast.headerDone_of_done _ done
        exact absurd (incomplete.symm.trans complete) Bool.false_ne_true
    | false => rfl
  constructor
  · rintro one before first second after rfl nonempty complete
    rcases one (read :: before) first second after rfl (List.cons_ne_nil read before) complete with
      ⟨early, filled, prefixed, done⟩
    rcases List.prefix_cons_iff.mp prefixed with empty | ⟨rest, rfl, shorter⟩
    · exact absurd empty filled
    · refine ⟨rest, ?_, shorter, done⟩
      rintro rfl
      exact absurd (unfinished.symm.trans done) Bool.false_ne_true
  · intro one before first second after split nonempty complete
    cases before with
    | nil => exact absurd rfl nonempty
    | cons head before =>
        rcases List.cons.inj split with ⟨rfl, rest⟩
        have filled : before ≠ [] := by
          rintro rfl
          exact absurd (incomplete.symm.trans complete) Bool.false_ne_true
        rcases one before first second after rest filled complete with
          ⟨early, _, prefixed, done⟩
        exact ⟨read :: early, List.cons_ne_nil _ _, List.cons_prefix_cons.mpr ⟨rfl, prefixed⟩,
          done⟩

theorem bodyReads_header_le_one_iff {session : HttpSession beast}
    (at_point : session.coroutine = .headerRead) (list : List Read) :
    session.bodyReads list ≤ 1 <-> OneBodyRead session.parser session.storage list := by
  induction list generalizing session with
  | nil =>
      refine ⟨fun _ => ?_, fun _ => Nat.zero_le 1⟩
      intro before first second after split
      exact absurd split.symm (List.append_ne_nil_of_right_ne_nil before (List.cons_ne_nil _ _))
  | cons read list inductionHypothesis =>
      have outside : (if session.coroutine = .bodyRead then 1 else 0) = 0 := by
        rw [at_point]
        rfl
      rw [bodyReads, outside, Nat.zero_add]
      cases done : beast.isDone (session.putStorage read.completion).parser with
      | true =>
          rw [resume_header_last read.generated at_point done, bodyReads_terminated rfl]
          refine ⟨fun _ => ?_, fun _ => Nat.zero_le 1⟩
          intro before first second after split nonempty _
          cases before with
          | nil => exact absurd rfl nonempty
          | cons head before =>
              rcases List.cons.inj split with ⟨rfl, _⟩
              exact ⟨[read], List.cons_ne_nil _ _, ⟨before ++ [first], rfl⟩, done⟩
      | false =>
          cases complete : beast.isHeaderDone (session.putStorage read.completion).parser with
          | true =>
              rw [resume_header_more read.generated at_point complete done,
                bodyReads_body_le_one_iff rfl, oneBodyRead_more complete done]
              exact Iff.rfl
          | false =>
              rw [resume_header_incomplete read.generated at_point complete,
                inductionHypothesis rfl, oneBodyRead_incomplete complete]

/-- The parts of a request are numbered exactly when at most one read completes
behind the header before the parser is done. -/
theorem numbered_iff (beast : Beast) (storage : Octets) (list : List Read) :
    Numbered ((launched beast storage).reads list).2 <->
      OneBodyRead beast.emplaced storage list := by
  have start : (launched beast storage).coroutine = .headerRead := rfl
  have few := bodyReads_header_le_one_iff start list
  change _ <-> OneBodyRead beast.emplaced storage list at few
  rw [← few]
  unfold Numbered
  rcases positions_header start list with ⟨nothing, none⟩ | parts
  · rw [nothing, none]
    exact ⟨fun _ => Nat.zero_le 1, fun _ => rfl⟩
  · rw [parts, List.length_cons, List.length_replicate]
    exact zero_ones_eq_range_iff _

/-- The second octet is handed over at the position of the first. -/
theorem upload_not_numbered :
    ¬ forall storage list,
      Numbered ((launched (scriptedBeast uploadScript) storage).reads list).2 := by
  intro numbered
  have two := numbered [] [⟨nilUuid, none, uploadScript.header⟩, ⟨nilUuid, none, octetsOf "a"⟩,
    ⟨nilUuid, none, octetsOf "b"⟩]
  exact absurd two (by decide +kernel)

end HttpSession

end EasyProspect
