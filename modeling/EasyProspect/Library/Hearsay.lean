import EasyProspect.Library.Broadcast

namespace Broadcast

/-!
# What the members of a room hear

A copy of the members is older than the hands that follow it, so a party may be told of a
change after others have happened.  Still a member that stays hears of every change of
another party once and in order, because that party does one thing after the other.

The second part is about those who leave for good.
-/

universe u v w

variable {Party : Type u} {Text : Type v} [DecidableEq Party]

namespace Room

variable {room next : Room Party Text}

/-! ## What one member hears of another -/

/-- What has been heard last is the last change, or the one before while that is pending. -/
structure Heard (room : Room Party Text) (receiver about : Party)
    (period : List (Event Party Text)) : Prop where
  alternates : (heard period receiver about).IsChain (fun early late => early ≠ late)
  pending : (room.phase (some about)).Pending receiver ->
    forall last, (heard period receiver about).getLast? = some last ->
      lastChange room.log about = some last.opposite
  settled : ¬ (room.phase (some about)).Pending receiver ->
    forall last, (heard period receiver about).getLast? = some last ->
      lastChange room.log about = some last

/-- For each member, from any point on since which it has not changed. -/
def Alternating (room : Room Party Text) : Prop :=
  forall receiver about before period, receiver ≠ about -> room.log = before ++ period ->
    receiver ∈ room.members -> changes period receiver = [] ->
      room.Heard receiver about period

section Heard

variable {receiver about : Party} {period : List (Event Party Text)}

theorem Heard.same (before : room.Heard receiver about period)
    {more : List (Event Party Text)}
    (heardMore : heard (period ++ more) receiver about = heard period receiver about)
    (last : lastChange next.log about = lastChange room.log about)
    (pending : (next.phase (some about)).Pending receiver <->
      (room.phase (some about)).Pending receiver) :
    next.Heard receiver about (period ++ more) := by
  refine ⟨?_, ?_, ?_⟩
  · rw [heardMore]
    exact before.alternates
  · rw [heardMore, last, pending]
    exact before.pending
  · rw [heardMore, last, pending]
    exact before.settled

/-- Nothing is heard of one party when another one, or the room, acts. -/
theorem heard_other (delivering : room.Delivering) {speaker : Option Party}
    {phase : Phase Party Text} {events : List (Event Party Text)} {members : List Party}
    (before : room.Heard receiver about period)
    (act : room.Act speaker phase events members) (other : some about ≠ speaker) :
    (room.after speaker phase events members).Heard receiver about (period ++ events) := by
  refine before.same ?_ (act_lastChange act other) ?_
  · cases act with
    | say => rw [List.append_nil]
    | finish => rw [List.append_nil]
    | hand number notice party rest handing =>
        have announces := (delivering.handing speaker number notice _ handing).1
        have silent : (Event.handed number notice party).heardBy receiver about = none :=
          if_neg fun same => other (same.2.symm.trans announces.speaks)
        rw [heard_concat, silent]
        exact List.append_nil _
    | _ =>
        rw [heard_concat]
        exact List.append_nil _
  · rw [after_phase_other other]

/-- The change that a party makes is not the one it made last. -/
theorem heard_changed (before : room.Heard receiver about period) (change : Change)
    (flips : forall last, lastChange room.log about = some last -> change = last.opposite)
    (idle : room.phase (some about) = .idle) (text : Text) (members : List Party) :
    (room.after (some about) (.announce ⟨some about, some change, text⟩)
      [.changed about change] members).Heard receiver about (period ++ [.changed about change]) := by
  have silent : heard (period ++ [.changed about change]) receiver about =
      heard period receiver about := by
    rw [heard_concat]
    exact List.append_nil _
  have pending : ((room.after (some about) (.announce ⟨some about, some change, text⟩)
      [.changed about change] members).phase (some about)).Pending receiver := by
    rw [after_phase_self]
    exact Option.some_ne_none change
  have settled : ¬ (room.phase (some about)).Pending receiver := by
    rw [idle]
    exact id
  refine ⟨?_, fun _ last found => ?_, fun done => absurd pending done⟩
  · rw [silent]
    exact before.alternates
  · rw [silent] at found
    have earlier := before.settled settled last found
    show lastChange (room.log ++ [_]) about = some last.opposite
    rw [lastChange_changed, flips last earlier]

/-- A hand to the receiver itself. -/
theorem heard_handed (before : room.Heard receiver about period) {broadcast : Nat}
    {notice : Notice Party Text} {rest : List Party} (gone : receiver ∉ rest)
    (handing : room.phase (some about) = .handing broadcast notice (receiver :: rest))
    (announces : room.Announces (some about) notice) :
    (room.after (some about) (.handing broadcast notice rest)
      [.handed broadcast notice receiver] room.members).Heard receiver about
        (period ++ [.handed broadcast notice receiver]) := by
  have last : lastChange (room.log ++ [.handed broadcast notice receiver]) about =
      lastChange room.log about := lastChange_concat rfl
  have done : ¬ ((room.after (some about) (.handing broadcast notice rest)
      [.handed broadcast notice receiver] room.members).phase (some about)).Pending receiver := by
    rw [after_phase_self]
    exact fun pending => gone pending.2
  have told : (Event.handed broadcast notice receiver).heardBy receiver about = notice.change :=
    if_pos ⟨rfl, announces.speaks⟩
  cases change : notice.change with
  | none =>
      refine before.same ?_ last ⟨fun pending => absurd pending done, fun pending => ?_⟩
      · rw [heard_concat, told, change]
        exact List.append_nil _
      · rw [handing] at pending
        exact absurd change pending.1
  | some change' =>
      have current : lastChange room.log about = some change' := by
        rcases announces.current change' change with ⟨party, self, current⟩
        cases self
        exact current
      have pending : (room.phase (some about)).Pending receiver := by
        rw [handing]
        exact ⟨change ▸ Option.some_ne_none change', List.mem_cons_self⟩
      have more : heard (period ++ [.handed broadcast notice receiver]) receiver about =
          heard period receiver about ++ [change'] := by
        rw [heard_concat, told, change]
        rfl
      refine ⟨?_, fun pending => absurd pending done, fun _ found => ?_⟩
      · rw [more]
        refine List.IsChain.append before.alternates (List.IsChain.singleton change') ?_
        intro early found late here
        cases here
        have earlier := before.pending pending early found
        have opposite : change' = early.opposite := Option.some.inj (current.symm.trans earlier)
        rw [opposite]
        exact (Change.opposite_ne early).symm
      · intro same
        rw [more, List.getLast?_concat] at same
        exact last.trans (current.trans same)

/-- What the receiver has heard, after an act of the party that it is about. -/
theorem heard_self (roster : room.Roster) (delivering : room.Delivering) (copied : room.Copied)
    {phase : Phase Party Text} {events : List (Event Party Text)} {members : List Party}
    (before : room.Heard receiver about period) (inside : receiver ∈ room.members)
    (act : room.Act (some about) phase events members) :
    (room.after (some about) phase events members).Heard receiver about (period ++ events) := by
  have silent : lastChange (room.log ++ []) about = lastChange room.log about := by
    rw [List.append_nil]
  cases act with
  | join party text self idle outside =>
      cases self
      refine heard_changed before .join (fun last found => ?_) idle text _
      cases last with
      | join => exact absurd ((roster.listed about).mpr found) outside
      | leave => rfl
  | leave party text self idle member =>
      cases self
      refine heard_changed before .leave (fun last found => ?_) idle text _
      cases Option.some.inj (((roster.listed about).mp member).symm.trans found)
      rfl
  | say text idle =>
      refine before.same (by rw [List.append_nil]) silent ?_
      rw [after_phase_self, idle]
      exact ⟨fun pending => absurd rfl pending, False.elim⟩
  | take notice announcing =>
      refine before.same ?_ (lastChange_concat rfl) ?_
      · rw [heard_concat]
        exact List.append_nil _
      · rw [after_phase_self, announcing]
        exact ⟨And.left, fun pending => ⟨pending, inside⟩⟩
  | hand broadcast notice party rest handing =>
      rcases delivering.handing _ broadcast notice _ handing with ⟨announces, _, taken⟩
      have distinct : (party :: rest).Nodup :=
        (copied broadcast notice _ taken).1.of_append_right
      by_cases own : party = receiver
      · cases own
        exact heard_handed before (List.nodup_cons.mp distinct).1 handing announces
      · have silent : (Event.handed broadcast notice party).heardBy receiver about = none :=
          if_neg fun same => own same.1
        refine before.same ?_ (lastChange_concat rfl) ?_
        · rw [heard_concat, silent]
          exact List.append_nil _
        · rw [after_phase_self, handing]
          refine ⟨fun pending => ⟨pending.1, List.mem_cons_of_mem _ pending.2⟩, fun pending => ?_⟩
          exact ⟨pending.1, (List.mem_cons.mp pending.2).resolve_left (Ne.symm own)⟩
  | finish broadcast notice handing stays =>
      refine before.same (by rw [List.append_nil]) silent ?_
      rw [after_phase_self, handing]
      exact ⟨False.elim, fun pending => nomatch pending.2⟩
  | tell broadcast notice party self handing left =>
      refine before.same ?_ (lastChange_concat rfl) ?_
      · rw [heard_concat]
        exact List.append_nil _
      · rw [after_phase_self, handing]
        exact ⟨False.elim, fun pending => nomatch pending.2⟩
  | gone party self idle =>
      refine before.same ?_ (lastChange_concat rfl) ?_
      · rw [heard_concat]
        exact List.append_nil _
      · rw [after_phase_self, idle]
        exact Iff.rfl

end Heard

theorem heard_nil (room : Room Party Text) (receiver about : Party) :
    room.Heard receiver about [] :=
  ⟨List.IsChain.nil, fun _ _ => nofun, fun _ _ => nofun⟩

theorem heard_act (roster : room.Roster) (delivering : room.Delivering) (copied : room.Copied)
    {receiver about : Party} {period : List (Event Party Text)} {speaker : Option Party}
    {phase : Phase Party Text} {events : List (Event Party Text)} {members : List Party}
    (before : room.Heard receiver about period) (inside : receiver ∈ room.members)
    (act : room.Act speaker phase events members) :
    (room.after speaker phase events members).Heard receiver about (period ++ events) := by
  by_cases own : some about = speaker
  · cases own
    exact heard_self roster delivering copied before inside act
  · exact heard_other delivering before act own

/-- One who is a member after an act and has not changed by it was a member before. -/
theorem member_before {receiver : Party} {speaker : Option Party} {phase : Phase Party Text}
    {events : List (Event Party Text)} {members : List Party}
    (act : room.Act speaker phase events members) (unchanged : changes events receiver = [])
    (inside : receiver ∈ members) : receiver ∈ room.members := by
  cases act with
  | join party text self idle outside =>
      rcases List.mem_append.mp inside with before | here
      · exact before
      · cases List.mem_singleton.mp here
        have changed : (Event.changed receiver .join : Event Party Text).changeOf receiver =
            some .join := if_pos rfl
        rw [changes, List.filterMap_cons_some changed] at unchanged
        cases unchanged
  | leave party text self idle member => exact List.mem_of_mem_erase inside
  | _ => exact inside

/-- The events of an act are none or one. -/
theorem events_act {speaker : Option Party} {phase : Phase Party Text}
    {events : List (Event Party Text)} {members : List Party}
    (act : room.Act speaker phase events members) :
    events = [] ∨ Exists fun event => events = [event] := by
  cases act with
  | say => exact Or.inl rfl
  | finish => exact Or.inl rfl
  | _ => exact Or.inr ⟨_, rfl⟩

theorem alternating_act (roster : room.Roster) (delivering : room.Delivering)
    (copied : room.Copied) (alternating : room.Alternating) {speaker : Option Party}
    {phase : Phase Party Text} {events : List (Event Party Text)} {members : List Party}
    (act : room.Act speaker phase events members) :
    (room.after speaker phase events members).Alternating := by
  intro receiver about before period apart parts inside unchanged
  have extended : forall early, room.log = before ++ early -> period = early ++ events ->
      (room.after speaker phase events members).Heard receiver about period := by
    rintro early earlier rfl
    rw [changes, List.filterMap_append] at unchanged
    rcases List.append_eq_nil_iff.mp unchanged with ⟨unchangedEarly, unchangedNow⟩
    have member := member_before act unchangedNow inside
    have known := alternating receiver about before early apart earlier member unchangedEarly
    exact heard_act roster delivering copied known member act
  rcases events_act act with rfl | ⟨event, rfl⟩
  · exact extended period ((List.append_nil room.log).symm.trans parts) (List.append_nil _).symm
  · rcases suffix_concat parts with rfl | ⟨early, here, earlier⟩
    · exact heard_nil _ _ _
    · exact extended early earlier here

theorem alternating_reachable {Label : Type w}
    (reachable : (system Label : Transition.System (Room Party Text) Label).Reachable room) :
    room.Alternating := by
  refine reachable.invariant_reachable ?_ ?_
  · rintro room rfl receiver about before period apart parts inside
    cases inside
  · rintro room label next reachable alternating ⟨act⟩
    exact alternating_act (roster_reachable reachable) (delivering_reachable reachable)
      (copied_reachable reachable) alternating act

/-! ## Histories -/

/-- Each part of the log up to some point is the log of a room that can be reached. -/
def Recorded (Label : Type w) (room : Room Party Text) : Prop :=
  forall early, List.IsPrefix early room.log -> Exists fun earlier : Room Party Text =>
    (system Label : Transition.System (Room Party Text) Label).Reachable earlier ∧
      earlier.log = early

/-- The log only grows, by one event at a time. -/
theorem recorded_reachable {Label : Type w}
    (reachable : (system Label : Transition.System (Room Party Text) Label).Reachable room) :
    room.Recorded Label := by
  refine reachable.invariant_reachable ?_ ?_
  · rintro room rfl early nothing
    exact ⟨create, .initially rfl, (List.prefix_nil.mp nothing).symm⟩
  · rintro room label next reachable known step early before
    have reached := reachable.extend (.single step)
    cases step with
    | @act speaker phase events members act =>
        rcases events_act act with rfl | ⟨event, rfl⟩
        · exact known early (by simpa only [after, List.append_nil] using before)
        · rcases List.prefix_concat_iff.mp before with whole | earlier
          · exact ⟨_, reached, whole.symm⟩
          · exact known early earlier

/-- While one party is a member, what it hears of the changes of another alternates. -/
theorem heard_alternates {Label : Type w}
    (reachable : (system Label : Transition.System (Room Party Text) Label).Reachable room)
    {receiver about : Party} (apart : receiver ≠ about)
    {before period rest : List (Event Party Text)} (parts : room.log = before ++ period ++ rest)
    (inside : lastChange before receiver = some .join)
    (unchanged : changes period receiver = []) :
    (heard period receiver about).IsChain (fun early late => early ≠ late) := by
  rcases recorded_reachable reachable (before ++ period) ⟨rest, parts.symm⟩ with
    ⟨earlier, reached, log⟩
  have member : receiver ∈ earlier.members := by
    refine ((roster_reachable reached).listed receiver).mpr ?_
    rw [log, lastChange_append unchanged, inside]
  exact (alternating_reachable reached receiver about before period apart log member
    unchanged).alternates

/-! ## Departures -/

/-- The last change of a party is being announced, or it has been. -/
def Followed (room : Room Party Text) : Prop :=
  forall before party change rest, room.log = before ++ .changed party change :: rest ->
    changes rest party = [] ->
      (Exists fun notice : Notice Party Text =>
        room.phase (some party) = .announce notice ∧ notice.change = some change) ∨
      Exists fun broadcast => Exists fun notice : Notice Party Text => Exists fun snapshot =>
        before.length < broadcast ∧ room.log[broadcast]? = some (.taken notice snapshot) ∧
          notice.speaker = some party ∧ notice.change = some change

/-- One who has gone does nothing any more. -/
def Departed (room : Room Party Text) : Prop :=
  forall before party rest, room.log = before ++ .gone party :: rest ->
    changes rest party = [] ∧ room.phase (some party) = .gone

section Acts

variable {speaker : Option Party} {phase : Phase Party Text}
variable {events : List (Event Party Text)} {members : List Party}

/-- An event of the log after an act was there before, or it is the one of the act. -/
theorem parts_act (act : room.Act speaker phase events members)
    {before rest : List (Event Party Text)} {event : Event Party Text}
    (parts : room.log ++ events = before ++ event :: rest) :
    (Exists fun early => room.log = before ++ event :: early ∧ rest = early ++ events) ∨
      events = [event] ∧ rest = [] := by
  rcases events_act act with rfl | ⟨added, rfl⟩
  · exact Or.inl ⟨rest, (List.append_nil _).symm.trans parts, (List.append_nil _).symm⟩
  · rcases suffix_concat parts with none | ⟨early, here, known⟩
    · cases none
    · cases early with
      | nil =>
          cases here
          exact Or.inr ⟨rfl, rfl⟩
      | cons first early =>
          rw [List.cons_append, List.cons.injEq] at here
          rcases here with ⟨rfl, rfl⟩
          exact Or.inl ⟨early, known, rfl⟩

/-- One who has gone does not act. -/
theorem not_gone_act (act : room.Act speaker phase events members) :
    room.phase speaker ≠ .gone := by
  intro left
  cases act with
  | join _ _ _ idle => cases left.symm.trans idle
  | leave _ _ _ idle => cases left.symm.trans idle
  | say _ idle => cases left.symm.trans idle
  | take _ announcing => cases left.symm.trans announcing
  | hand _ _ _ _ handing => cases left.symm.trans handing
  | finish _ _ handing => cases left.symm.trans handing
  | tell _ _ _ _ handing => cases left.symm.trans handing
  | gone _ _ idle => cases left.symm.trans idle

/-- One who announces something goes on with the copy. -/
theorem take_of_announcing (act : room.Act speaker phase events members)
    {notice : Notice Party Text} (announcing : room.phase speaker = .announce notice) :
    events = [.taken notice room.members] := by
  cases act with
  | take other same =>
      cases announcing.symm.trans same
      rfl
  | join _ _ _ idle => cases announcing.symm.trans idle
  | leave _ _ _ idle => cases announcing.symm.trans idle
  | say _ idle => cases announcing.symm.trans idle
  | hand _ _ _ _ handing => cases announcing.symm.trans handing
  | finish _ _ handing => cases announcing.symm.trans handing
  | tell _ _ _ _ handing => cases announcing.symm.trans handing
  | gone _ _ idle => cases announcing.symm.trans idle

/-- Others do not change by an act. -/
theorem changes_act {party : Party} (act : room.Act speaker phase events members)
    (other : some party ≠ speaker) : changes events party = [] := by
  cases act with
  | join actor _ self =>
      exact List.filterMap_eq_nil_iff.mpr fun event member => by
        cases List.mem_singleton.mp member
        exact if_neg fun same => other ((congrArg some same.symm).trans self.symm)
  | leave actor _ self =>
      exact List.filterMap_eq_nil_iff.mpr fun event member => by
        cases List.mem_singleton.mp member
        exact if_neg fun same => other ((congrArg some same.symm).trans self.symm)
  | _ => rfl

theorem departed_act (departed : room.Departed)
    (act : room.Act speaker phase events members) :
    (room.after speaker phase events members).Departed := by
  intro before party rest parts
  rcases parts_act act parts with ⟨early, known, rfl⟩ | ⟨rfl, rfl⟩
  · rcases departed before party early known with ⟨unchanged, left⟩
    have other : some party ≠ speaker := fun same => not_gone_act act (same ▸ left)
    refine ⟨?_, (after_phase_other other _ _ _).trans left⟩
    rw [changes, List.filterMap_append]
    exact List.append_eq_nil_iff.mpr ⟨unchanged, changes_act act other⟩
  · cases act with
    | gone actor self idle =>
        cases self
        exact ⟨rfl, after_phase_self _ _ _ _⟩

/-- A change that was followed stays so. -/
theorem followed_before (delivering : room.Delivering) (followed : room.Followed)
    (act : room.Act speaker phase events members) {before early : List (Event Party Text)}
    {party : Party} {change : Change}
    (known : room.log = before ++ .changed party change :: early)
    (quiet : changes early party = []) :
    (Exists fun notice : Notice Party Text =>
      (room.after speaker phase events members).phase (some party) = .announce notice ∧
        notice.change = some change) ∨
    Exists fun broadcast => Exists fun notice : Notice Party Text => Exists fun snapshot =>
      before.length < broadcast ∧
        (room.log ++ events)[broadcast]? = some (.taken notice snapshot) ∧
          notice.speaker = some party ∧ notice.change = some change := by
  rcases followed before party change early known quiet with
    ⟨notice, announcing, told⟩ | ⟨broadcast, notice, snapshot, later, taken, spoken⟩
  · by_cases own : some party = speaker
    · cases own
      rw [take_of_announcing act announcing]
      refine Or.inr ⟨room.log.length, notice, room.members, ?_, List.getElem?_concat_length,
        (delivering.announcing _ notice announcing).speaks, told⟩
      rw [known, List.length_append, List.length_cons]
      omega
    · exact Or.inl ⟨notice, (after_phase_other own _ _ _).trans announcing, told⟩
  · exact Or.inr ⟨broadcast, notice, snapshot, later, Cells.getElem?_append_of_some taken, spoken⟩

theorem followed_act (delivering : room.Delivering) (followed : room.Followed)
    (act : room.Act speaker phase events members) :
    (room.after speaker phase events members).Followed := by
  intro before party change rest parts unchanged
  rcases parts_act act parts with ⟨early, known, rfl⟩ | ⟨rfl, rfl⟩
  · rw [changes, List.filterMap_append] at unchanged
    exact followed_before delivering followed act known (List.append_eq_nil_iff.mp unchanged).1
  · cases act with
    | join actor text self =>
        cases self
        exact Or.inl ⟨_, after_phase_self _ _ _ _, rfl⟩
    | leave actor text self =>
        cases self
        exact Or.inl ⟨_, after_phase_self _ _ _ _, rfl⟩

end Acts

theorem followed_reachable {Label : Type w}
    (reachable : (system Label : Transition.System (Room Party Text) Label).Reachable room) :
    room.Followed := by
  refine reachable.invariant_reachable ?_ ?_
  · rintro room rfl before party change rest parts
    cases before <;> cases parts
  · rintro room label next reachable followed ⟨act⟩
    exact followed_act (delivering_reachable reachable) followed act

theorem departed_reachable {Label : Type w}
    (reachable : (system Label : Transition.System (Room Party Text) Label).Reachable room) :
    room.Departed := by
  refine reachable.invariant ?_ ?_
  · rintro room rfl before party rest parts
    cases before <;> cases parts
  · rintro room label next departed ⟨act⟩
    exact departed_act departed act

/-- One who is no member when it goes is in no later copy. -/
theorem not_copied_after {Label : Type w}
    (reachable : (system Label : Transition.System (Room Party Text) Label).Reachable room)
    {before rest : List (Event Party Text)} {party : Party}
    (parts : room.log = before ++ .gone party :: rest)
    (outside : lastChange before party ≠ some .join) {notice : Notice Party Text}
    {snapshot : List Party} (taken : .taken notice snapshot ∈ rest) : party ∉ snapshot := by
  intro member
  rcases List.append_of_mem taken with ⟨between, later, here⟩
  have number : room.log[(before ++ .gone party :: between).length]? =
      some (.taken notice snapshot) := by
    rw [parts, here, ← List.cons_append, ← List.append_assoc, List.getElem?_append_right
      (Nat.le_refl _), Nat.sub_self]
    rfl
  have copied := (copied_reachable reachable _ notice snapshot number).2 party
  have earlier : room.log.take (before ++ .gone party :: between).length =
      before ++ .gone party :: between := by
    rw [parts, here, ← List.cons_append, ← List.append_assoc, List.take_left]
  have unchanged := (departed_reachable reachable before party rest parts).1
  have quiet : changes (.gone party :: between) party = [] := by
    rw [here, changes, List.filterMap_append] at unchanged
    exact (List.append_eq_nil_iff.mp unchanged).1
  rw [earlier, lastChange_append quiet] at copied
  exact outside (copied.mp member)

/-- What one who does nothing any more has announced is complete. -/
theorem complete_of_quiet {Label : Type w}
    (reachable : (system Label : Transition.System (Room Party Text) Label).Reachable room)
    {speaker : Option Party}
    (quiet : forall broadcast notice rest, room.phase speaker ≠ .handing broadcast notice rest)
    {broadcast : Nat} {notice : Notice Party Text} {snapshot : List Party}
    (taken : room.log[broadcast]? = some (.taken notice snapshot))
    (spoken : notice.speaker = speaker) :
    receivers room.log broadcast = snapshot ∧ tellings room.log broadcast = notice.owed := by
  rcases (delivering_reachable reachable).finished broadcast notice snapshot taken with
    ⟨rest, handing⟩ | done
  · exact absurd (spoken ▸ handing) (quiet broadcast notice rest)
  · exact done

/-- What has been handed out of a broadcast was in its copy. -/
theorem received_of_taken {Label : Type w}
    (reachable : (system Label : Transition.System (Room Party Text) Label).Reachable room)
    {broadcast : Nat} {notice : Notice Party Text} {snapshot : List Party}
    (taken : room.log[broadcast]? = some (.taken notice snapshot)) {receiver : Party}
    (received : receiver ∈ receivers room.log broadcast) : receiver ∈ snapshot := by
  have delivering := delivering_reachable reachable
  rcases delivering.finished broadcast notice snapshot taken with ⟨rest, handing⟩ | ⟨done, _⟩
  · rcases delivering.handing _ broadcast notice rest handing with ⟨_, _, same⟩
    have copied : snapshot = receivers room.log broadcast ++ rest :=
      (Event.taken.inj (Option.some.inj (taken.symm.trans same))).2
    rw [copied]
    exact List.mem_append_left rest received
  · exact done ▸ received

/-- What one who is no member when it goes is handed later was copied before. -/
theorem handed_after {Label : Type w}
    (reachable : (system Label : Transition.System (Room Party Text) Label).Reachable room)
    {before rest : List (Event Party Text)} {party : Party}
    (parts : room.log = before ++ .gone party :: rest)
    (outside : lastChange before party ≠ some .join) {broadcast : Nat}
    {notice : Notice Party Text} (handed : .handed broadcast notice party ∈ rest) :
    broadcast < before.length := by
  by_contra late
  have member : .handed broadcast notice party ∈ room.log := by
    rw [parts]
    exact List.mem_append_right before (List.mem_cons_of_mem _ handed)
  rcases (delivering_reachable reachable).sourced _ broadcast notice member rfl with
    ⟨snapshot, taken⟩
  have received : party ∈ receivers room.log broadcast :=
    List.mem_filterMap.mpr ⟨_, member, if_pos rfl⟩
  have copied := received_of_taken reachable taken received
  rw [parts] at taken
  rcases Cells.getElem?_append_cases taken with early | ⟨_, here⟩
  · exact late (List.getElem?_eq_some_iff.mp early).1
  · rcases List.mem_cons.mp here with same | later
    · cases same
    · exact not_copied_after reachable parts outside later copied

/-- The log of one who has gone says so. -/
def Noted (room : Room Party Text) : Prop :=
  forall party, room.phase (some party) = .gone -> .gone party ∈ room.log

theorem noted_reachable {Label : Type w}
    (reachable : (system Label : Transition.System (Room Party Text) Label).Reachable room) :
    room.Noted := by
  refine reachable.invariant ?_ ?_
  · rintro room rfl party left
    cases left
  · rintro room label next noted ⟨act⟩ party left
    rename_i speaker phase events members
    by_cases own : some party = speaker
    · cases own
      rw [after_phase_self] at left
      cases act with
      | gone actor self idle =>
          cases self
          exact List.mem_append_right _ (List.mem_singleton.mpr rfl)
      | _ => cases left
    · rw [after_phase_other own] at left
      exact List.mem_append_left events (noted party left)

/-- One who has gone does not become a member any more. -/
theorem outside_step {party : Party} (left : room.phase (some party) = .gone)
    (outside : party ∉ room.members) (step : room.Step next) : party ∉ next.members := by
  rcases step with ⟨act⟩
  rename_i speaker phase events members
  intro member
  have inside : party ∈ members := member
  cases act with
  | join actor text self idle =>
      rcases List.mem_append.mp inside with before | here
      · exact outside before
      · cases List.mem_singleton.mp here
        rw [self] at idle
        cases left.symm.trans idle
  | leave actor text self idle => exact outside (List.mem_of_mem_erase inside)
  | _ => exact outside inside

/-- The last change of one who has gone has been told to all who have stayed since: its notice
was copied after the change, and has been handed out to the members of that moment. -/
theorem told_of_gone {Label : Type w}
    (reachable : (system Label : Transition.System (Room Party Text) Label).Reachable room)
    {party : Party} (left : room.phase (some party) = .gone)
    {before rest : List (Event Party Text)} {change : Change}
    (parts : room.log = before ++ .changed party change :: rest)
    (last : changes rest party = []) :
    Exists fun broadcast => Exists fun notice : Notice Party Text => Exists fun snapshot =>
      before.length < broadcast ∧ room.log[broadcast]? = some (.taken notice snapshot) ∧
        notice.speaker = some party ∧ notice.change = some change ∧
          receivers room.log broadcast = snapshot ∧
            forall receiver, receiver ≠ party -> lastChange before receiver = some .join ->
              changes rest receiver = [] -> receiver ∈ snapshot := by
  rcases followed_reachable reachable before party change rest parts last with
    ⟨notice, announcing, _⟩ | ⟨broadcast, notice, snapshot, later, taken, spoken, told⟩
  · cases left.symm.trans announcing
  · have quiet : forall number (other : Notice Party Text) remaining,
        room.phase (some party) ≠ .handing number other remaining := by
      intro number other remaining handing
      cases left.symm.trans handing
    refine ⟨broadcast, notice, snapshot, later, taken, spoken, told,
      (complete_of_quiet reachable quiet taken spoken).1, fun receiver apart inside stays => ?_⟩
    rw [(copied_reachable reachable broadcast notice snapshot taken).2 receiver]
    have early : room.log.take broadcast = before ++ .changed party change ::
        rest.take (broadcast - before.length - 1) := by
      have more : broadcast - before.length = broadcast - before.length - 1 + 1 := by omega
      rw [parts, List.take_append, List.take_of_length_le (Nat.le_of_lt later), more,
        List.take_succ_cons]
      rfl
    have silent : changes (.changed party change ::
        rest.take (broadcast - before.length - 1)) receiver = [] := by
      have elsewhere : (Event.changed party change : Event Party Text).changeOf receiver = none :=
        if_neg (Ne.symm apart)
      rw [changes, List.filterMap_cons_none elsewhere]
      refine List.filterMap_eq_nil_iff.mpr fun event member => ?_
      exact List.filterMap_eq_nil_iff.mp stays event (List.mem_of_mem_take member)
    rw [early, lastChange_append silent]
    exact inside

end Room

end Broadcast
