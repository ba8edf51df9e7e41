import EasyProspect.Library.Cells
import EasyProspect.Library.Transition
import Mathlib.Data.List.Chain
import Mathlib.Data.List.Nodup
import Mathlib.Logic.Function.Basic

namespace Broadcast

/-!
# Rooms whose members are told of each other

Parties enter and leave a room, and each of them announces its change, or anything else,
to the members.  The set of the members is changed in one section under the lock of the
room and copied in another; the copies are then handed out one by one without the lock.
The room itself may make announcements, too.  A party does one thing after the other, but
different parties interleave at will.

The log keeps the changes, the copies and the hands in the order in which they happen; a
broadcast is known by the place of its copy in the log.  The results are the roster (who
is a member is said by the log), the delivery of each broadcast to exactly those in its
copy, and the alternation of what one member hears about the changes of another.
-/

universe u v w

inductive Change
  | join
  | leave
deriving DecidableEq

namespace Change

def opposite : Change -> Change
  | join => leave
  | leave => join

theorem opposite_ne (change : Change) : change.opposite ≠ change := by
  cases change <;> decide

end Change

/-- What is announced, by a party or by the room, and which change of the party it tells. -/
structure Notice (Party : Type u) (Text : Type v) where
  speaker : Option Party
  change : Option Change
  text : Text

inductive Event (Party : Type u) (Text : Type v)
  | changed (party : Party) (change : Change)
  | taken (notice : Notice Party Text) (snapshot : List Party)
  | handed (broadcast : Nat) (notice : Notice Party Text) (receiver : Party)
  /-- One who leaves is told of it as well. -/
  | told (broadcast : Nat) (notice : Notice Party Text) (party : Party)
  | gone (party : Party)

/-- What a party, or the room, is doing. -/
inductive Phase (Party : Type u) (Text : Type v)
  | idle
  | announce (notice : Notice Party Text)
  | handing (broadcast : Nat) (notice : Notice Party Text) (remaining : List Party)
  | gone

@[ext]
structure Room (Party : Type u) (Text : Type v) where
  members : List Party
  phase : Option Party -> Phase Party Text
  log : List (Event Party Text)

/-! ## Reading the log -/

theorem filterMap_concat {Item : Type u} {Value : Type v} (value : Item -> Option Value)
    (items : List Item) (item : Item) :
    (items ++ [item]).filterMap value = items.filterMap value ++ (value item).toList := by
  rw [List.filterMap_append]
  cases found : value item with
  | none => rw [List.filterMap_cons_none found]; rfl
  | some result => rw [List.filterMap_cons_some found]; rfl

/-- A final part of a longer list is empty, or it ends with what was added. -/
theorem suffix_concat {Item : Type u} {items before period : List Item} {item : Item}
    (parts : items ++ [item] = before ++ period) :
    period = [] ∨ Exists fun early => period = early ++ [item] ∧ items = before ++ early := by
  rcases List.eq_nil_or_concat period with empty | ⟨early, last, rfl⟩
  · exact Or.inl empty
  · rw [List.concat_eq_append, ← List.append_assoc] at parts
    have ends := List.append_inj' parts rfl
    refine Or.inr ⟨early, ?_, ends.1⟩
    rw [List.concat_eq_append, ends.2]

variable {Party : Type u} {Text : Type v}

namespace Event

def receiverIn (broadcast : Nat) : Event Party Text -> Option Party
  | handed other _ receiver => if other = broadcast then some receiver else none
  | _ => none

def toldIn (broadcast : Nat) : Event Party Text -> Option Party
  | told other _ party => if other = broadcast then some party else none
  | _ => none

def notice : Event Party Text -> Option (Notice Party Text)
  | taken notice _ => some notice
  | handed _ notice _ => some notice
  | told _ notice _ => some notice
  | _ => none

/-- The broadcast that an event is part of. -/
def source : Event Party Text -> Option (Nat × Notice Party Text)
  | handed broadcast notice _ => some (broadcast, notice)
  | told broadcast notice _ => some (broadcast, notice)
  | _ => none

end Event

/-- Who is told besides the members: one who leaves. -/
def Notice.owed (notice : Notice Party Text) : List Party :=
  if notice.change = some .leave then notice.speaker.toList else []

section Deliveries

variable (log : List (Event Party Text))

def receivers (broadcast : Nat) : List Party :=
  log.filterMap (Event.receiverIn broadcast)

def tellings (broadcast : Nat) : List Party :=
  log.filterMap (Event.toldIn broadcast)

theorem receivers_handed (broadcast : Nat) (notice : Notice Party Text) (receiver : Party) :
    receivers (log ++ [.handed broadcast notice receiver]) broadcast =
      receivers log broadcast ++ [receiver] := by
  have here : (Event.handed broadcast notice receiver).receiverIn broadcast = some receiver :=
    if_pos rfl
  rw [receivers, filterMap_concat, here]
  rfl

theorem tellings_told (broadcast : Nat) (notice : Notice Party Text) (party : Party) :
    tellings (log ++ [.told broadcast notice party]) broadcast =
      tellings log broadcast ++ [party] := by
  have here : (Event.told broadcast notice party).toldIn broadcast = some party := if_pos rfl
  rw [tellings, filterMap_concat, here]
  rfl

end Deliveries

/-- What is being announced or handed out. -/
def Phase.notice : Phase Party Text -> Option (Notice Party Text)
  | .announce notice => some notice
  | .handing _ notice _ => some notice
  | _ => none

/-- A change is announced, and the receiver has still to be told. -/
def Phase.Pending (receiver : Party) : Phase Party Text -> Prop
  | .announce notice => notice.change ≠ none
  | .handing _ notice rest => notice.change ≠ none ∧ receiver ∈ rest
  | _ => False

variable [DecidableEq Party]

namespace Event

def changeOf (party : Party) : Event Party Text -> Option Change
  | changed other change => if other = party then some change else none
  | _ => none

/-- The change of one party that another is told of. -/
def heardBy (receiver about : Party) : Event Party Text -> Option Change
  | handed _ notice other =>
      if other = receiver ∧ notice.speaker = some about then notice.change else none
  | _ => none

end Event

variable (log : List (Event Party Text))

def changes (party : Party) : List Change :=
  log.filterMap (Event.changeOf party)

def lastChange (party : Party) : Option Change :=
  (changes log party).getLast?

def heard (receiver about : Party) : List Change :=
  log.filterMap (Event.heardBy receiver about)

variable {log}

theorem changes_concat (event : Event Party Text) (party : Party) :
    changes (log ++ [event]) party = changes log party ++ (event.changeOf party).toList :=
  filterMap_concat _ log event

theorem heard_concat (event : Event Party Text) (receiver about : Party) :
    heard (log ++ [event]) receiver about =
      heard log receiver about ++ (event.heardBy receiver about).toList :=
  filterMap_concat _ log event

theorem lastChange_concat {event : Event Party Text} {party : Party}
    (unchanged : event.changeOf party = none) :
    lastChange (log ++ [event]) party = lastChange log party := by
  rw [lastChange, changes_concat, unchanged, Option.toList_none, List.append_nil]
  rfl

theorem lastChange_append {more : List (Event Party Text)} {party : Party}
    (unchanged : changes more party = []) :
    lastChange (log ++ more) party = lastChange log party := by
  rw [changes] at unchanged
  rw [lastChange, changes, List.filterMap_append, unchanged, List.append_nil]
  rfl

theorem lastChange_changed (party : Party) (change : Change) :
    lastChange (log ++ [.changed party change]) party = some change := by
  have here : (Event.changed party change : Event Party Text).changeOf party = some change :=
    if_pos rfl
  rw [lastChange, changes_concat, here]
  exact List.getLast?_concat

theorem lastChange_other {party other : Party} (apart : other ≠ party) (change : Change) :
    lastChange (log ++ [.changed party change]) other = lastChange log other := by
  have elsewhere : (Event.changed party change : Event Party Text).changeOf other = none :=
    if_neg (Ne.symm apart)
  exact lastChange_concat elsewhere

/-! ## Steps -/

namespace Room

/-- One thing a speaker does: its next phase, what is logged, and the members after it. -/
inductive Act (room : Room Party Text) (speaker : Option Party) :
    Phase Party Text -> List (Event Party Text) -> List Party -> Prop
  | join (party : Party) (text : Text) (self : speaker = some party)
      (idle : room.phase speaker = .idle) (outside : party ∉ room.members) :
      Act room speaker (.announce ⟨speaker, some .join, text⟩) [.changed party .join]
        (room.members ++ [party])
  | leave (party : Party) (text : Text) (self : speaker = some party)
      (idle : room.phase speaker = .idle) (inside : party ∈ room.members) :
      Act room speaker (.announce ⟨speaker, some .leave, text⟩) [.changed party .leave]
        (room.members.erase party)
  | say (text : Text) (idle : room.phase speaker = .idle) :
      Act room speaker (.announce ⟨speaker, none, text⟩) [] room.members
  | take (notice : Notice Party Text) (announcing : room.phase speaker = .announce notice) :
      Act room speaker (.handing room.log.length notice room.members)
        [.taken notice room.members] room.members
  | hand (broadcast : Nat) (notice : Notice Party Text) (receiver : Party)
      (rest : List Party)
      (handing : room.phase speaker = .handing broadcast notice (receiver :: rest)) :
      Act room speaker (.handing broadcast notice rest) [.handed broadcast notice receiver]
        room.members
  | finish (broadcast : Nat) (notice : Notice Party Text)
      (handing : room.phase speaker = .handing broadcast notice [])
      (stays : notice.change ≠ some .leave) :
      Act room speaker .idle [] room.members
  | tell (broadcast : Nat) (notice : Notice Party Text) (party : Party)
      (self : speaker = some party)
      (handing : room.phase speaker = .handing broadcast notice [])
      (left : notice.change = some .leave) :
      Act room speaker .idle [.told broadcast notice party] room.members
  | gone (party : Party) (self : speaker = some party) (idle : room.phase speaker = .idle) :
      Act room speaker .gone [.gone party] room.members

/-- The room after a speaker has acted. -/
def after (room : Room Party Text) (speaker : Option Party) (phase : Phase Party Text)
    (events : List (Event Party Text)) (members : List Party) : Room Party Text where
  members := members
  phase := Function.update room.phase speaker phase
  log := room.log ++ events

def create : Room Party Text where
  members := []
  phase := fun _ => .idle
  log := []

/-- Each step is one act. -/
inductive Step (room : Room Party Text) : Room Party Text -> Prop
  | act {speaker : Option Party} {phase : Phase Party Text}
      {events : List (Event Party Text)} {members : List Party}
      (act : room.Act speaker phase events members) :
      Step room (room.after speaker phase events members)

/-- The labels are those of the system the room is part of. -/
def system (Label : Type w) : Transition.System (Room Party Text) Label where
  initial := fun room => room = create
  step := fun room _ next => room.Step next

variable {room next : Room Party Text}

/-! ## The roster -/

/-- The members are those whose last change was to join. -/
structure Roster (room : Room Party Text) : Prop where
  nodup : room.members.Nodup
  listed : forall party, party ∈ room.members <-> lastChange room.log party = some .join

theorem roster_same {events : List (Event Party Text)} {speaker : Option Party}
    {phase : Phase Party Text} (roster : room.Roster)
    (unchanged : forall party, changes events party = []) :
    (room.after speaker phase events room.members).Roster := by
  refine ⟨roster.nodup, fun party => (roster.listed party).trans ?_⟩
  show _ <-> lastChange (room.log ++ events) party = some .join
  rw [lastChange_append (unchanged party)]

theorem roster_join (roster : room.Roster) {party : Party} (outside : party ∉ room.members)
    (speaker : Option Party) (phase : Phase Party Text) :
    (room.after speaker phase [.changed party .join] (room.members ++ [party])).Roster := by
  refine ⟨List.Nodup.append roster.nodup (List.nodup_singleton party)
    (List.disjoint_singleton.mpr outside), fun other => ?_⟩
  show other ∈ room.members ++ [party] <-> lastChange (room.log ++ [_]) other = some .join
  rw [List.mem_append, List.mem_singleton]
  by_cases same : other = party
  · rw [same, lastChange_changed]
    exact ⟨fun _ => rfl, fun _ => Or.inr rfl⟩
  · rw [lastChange_other same, ← roster.listed]
    exact ⟨fun member => member.resolve_right same, Or.inl⟩

theorem roster_leave (roster : room.Roster) (party : Party) (speaker : Option Party)
    (phase : Phase Party Text) :
    (room.after speaker phase [.changed party .leave] (room.members.erase party)).Roster := by
  refine ⟨roster.nodup.erase party, fun other => ?_⟩
  show other ∈ room.members.erase party <-> lastChange (room.log ++ [_]) other = some .join
  rw [roster.nodup.mem_erase_iff]
  by_cases same : other = party
  · rw [same, lastChange_changed]
    exact ⟨fun member => absurd rfl member.1, nofun⟩
  · rw [lastChange_other same, ← roster.listed]
    exact ⟨And.right, fun member => ⟨same, member⟩⟩

theorem roster_step (roster : room.Roster) (step : room.Step next) : next.Roster := by
  cases step with
  | act act =>
      cases act with
      | join party text self idle outside => exact roster_join roster outside _ _
      | leave party text self idle inside => exact roster_leave roster party _ _
      | _ => exact roster_same roster fun _ => rfl

theorem roster_reachable {Label : Type w}
    (reachable : (system Label : Transition.System (Room Party Text) Label).Reachable room) :
    room.Roster := by
  refine reachable.invariant ?_ ?_
  · rintro room rfl
    exact ⟨List.nodup_nil, fun party => ⟨nofun, nofun⟩⟩
  · exact fun room label next roster step => roster_step roster step

/-! ## Deliveries -/

/-- A notice is made by its speaker, and the change it tells is the last one. -/
structure Announces (room : Room Party Text) (speaker : Option Party)
    (notice : Notice Party Text) : Prop where
  speaks : notice.speaker = speaker
  current : forall change, notice.change = some change ->
    Exists fun party => speaker = some party ∧ lastChange room.log party = some change

/-- What has been handed out of a broadcast, and what is left of it. -/
structure Delivering (room : Room Party Text) : Prop where
  announcing : forall speaker notice, room.phase speaker = .announce notice ->
    room.Announces speaker notice
  handing : forall speaker broadcast notice rest,
    room.phase speaker = .handing broadcast notice rest ->
      room.Announces speaker notice ∧ tellings room.log broadcast = [] ∧
        room.log[broadcast]? =
          some (.taken notice (receivers room.log broadcast ++ rest))
  finished : forall broadcast notice snapshot,
    room.log[broadcast]? = some (.taken notice snapshot) ->
      (Exists fun rest => room.phase notice.speaker = .handing broadcast notice rest) ∨
        receivers room.log broadcast = snapshot ∧ tellings room.log broadcast = notice.owed
  sourced : forall event broadcast notice, event ∈ room.log ->
    event.source = some (broadcast, notice) ->
      Exists fun snapshot => room.log[broadcast]? = some (.taken notice snapshot)

theorem after_phase_self (speaker : Option Party) (phase : Phase Party Text)
    (events : List (Event Party Text)) (members : List Party) :
    (room.after speaker phase events members).phase speaker = phase := by
  simp only [after, Function.update_self]

theorem after_phase_other {speaker other : Option Party} (apart : other ≠ speaker)
    (phase : Phase Party Text) (events : List (Event Party Text)) (members : List Party) :
    (room.after speaker phase events members).phase other = room.phase other := by
  simp only [after, Function.update_of_ne apart]

section Acts

variable {speaker : Option Party} {phase : Phase Party Text}
variable {events : List (Event Party Text)} {members : List Party}

/-- An act changes the last change of its speaker only. -/
theorem act_lastChange (act : room.Act speaker phase events members) {party : Party}
    (other : some party ≠ speaker) :
    lastChange (room.log ++ events) party = lastChange room.log party := by
  cases act with
  | join actor text self =>
      exact lastChange_other (fun same => other ((congrArg some same).trans self.symm)) _
  | leave actor text self =>
      exact lastChange_other (fun same => other ((congrArg some same).trans self.symm)) _
  | say => rw [List.append_nil]
  | finish => rw [List.append_nil]
  | _ => exact lastChange_concat rfl

/-- An act adds only to the broadcast that its speaker is handing out. -/
theorem act_deliveries (act : room.Act speaker phase events members) {broadcast : Nat}
    (other : forall notice rest, room.phase speaker ≠ .handing broadcast notice rest) :
    receivers (room.log ++ events) broadcast = receivers room.log broadcast ∧
      tellings (room.log ++ events) broadcast = tellings room.log broadcast := by
  cases act with
  | say => rw [List.append_nil]; exact ⟨rfl, rfl⟩
  | finish => rw [List.append_nil]; exact ⟨rfl, rfl⟩
  | hand number notice receiver rest handing =>
      have apart : number ≠ broadcast := fun same => other notice _ (same ▸ handing)
      have elsewhere : (Event.handed number notice receiver).receiverIn broadcast = none :=
        if_neg apart
      rw [receivers, filterMap_concat, elsewhere, tellings, filterMap_concat]
      exact ⟨List.append_nil _, List.append_nil _⟩
  | tell number notice party self handing =>
      have apart : number ≠ broadcast := fun same => other notice _ (same ▸ handing)
      have elsewhere : (Event.told number notice party).toldIn broadcast = none := if_neg apart
      rw [receivers, filterMap_concat, tellings, filterMap_concat, elsewhere]
      exact ⟨List.append_nil _, List.append_nil _⟩
  | _ =>
      rw [receivers, filterMap_concat, tellings, filterMap_concat]
      exact ⟨List.append_nil _, List.append_nil _⟩

/-- What is announced by one that does not act stays announced. -/
theorem Announces.other {teller : Option Party} {notice : Notice Party Text}
    (announces : room.Announces teller notice) (act : room.Act speaker phase events members)
    (apart : teller ≠ speaker) :
    (room.after speaker phase events members).Announces teller notice := by
  refine ⟨announces.speaks, fun change told => ?_⟩
  rcases announces.current change told with ⟨party, self, last⟩
  refine ⟨party, self, ?_⟩
  exact (act_lastChange act fun same => apart (self.trans same)).trans last

/-- The notice that an act begins to announce. -/
theorem announces_act (act : room.Act speaker phase events members)
    {notice : Notice Party Text} (announce : phase = .announce notice) :
    (room.after speaker phase events members).Announces speaker notice := by
  cases act with
  | join party text self =>
      cases announce
      refine ⟨rfl, fun change told => ⟨party, self, ?_⟩⟩
      cases told
      exact lastChange_changed party .join
  | leave party text self =>
      cases announce
      refine ⟨rfl, fun change told => ⟨party, self, ?_⟩⟩
      cases told
      exact lastChange_changed party .leave
  | say text =>
      cases announce
      exact ⟨rfl, nofun⟩
  | _ => cases announce

/-- What is handed out by one that does not act stays as it is. -/
theorem handing_other (delivering : room.Delivering)
    (act : room.Act speaker phase events members) {teller : Option Party}
    (apart : teller ≠ speaker) {broadcast : Nat} {notice : Notice Party Text}
    {rest : List Party} (handing : room.phase teller = .handing broadcast notice rest) :
    receivers (room.log ++ events) broadcast = receivers room.log broadcast ∧
      tellings (room.log ++ events) broadcast = tellings room.log broadcast := by
  rcases delivering.handing teller broadcast notice rest handing with ⟨announces, _, taken⟩
  refine act_deliveries act fun other remaining own => ?_
  rcases delivering.handing speaker broadcast other remaining own with ⟨also, _, same⟩
  have notices : notice = other :=
    (Event.taken.inj (Option.some.inj (taken.symm.trans same))).1
  exact apart (announces.speaks.symm.trans (notices ▸ also.speaks))

/-- A number that is not used yet has no hands. -/
theorem receivers_fresh (delivering : room.Delivering) :
    receivers room.log room.log.length = [] ∧ tellings room.log room.log.length = [] := by
  have unused : forall event notice, event ∈ room.log ->
      event.source ≠ some (room.log.length, notice) := by
    intro event notice member source
    rcases delivering.sourced event _ notice member source with ⟨snapshot, taken⟩
    rcases List.getElem?_eq_some_iff.mp taken with ⟨within, _⟩
    exact Nat.lt_irrefl _ within
  constructor
  · refine List.filterMap_eq_nil_iff.mpr fun event member => ?_
    cases event with
    | handed number notice receiver =>
        exact if_neg fun same => unused _ notice member (by rw [← same]; rfl)
    | _ => rfl
  · refine List.filterMap_eq_nil_iff.mpr fun event member => ?_
    cases event with
    | told number notice party =>
        exact if_neg fun same => unused _ notice member (by rw [← same]; rfl)
    | _ => rfl

/-- What the acting speaker hands out after its act. -/
theorem handing_act (delivering : room.Delivering)
    (act : room.Act speaker phase events members) {broadcast : Nat}
    {notice : Notice Party Text} {rest : List Party}
    (handing : phase = .handing broadcast notice rest) :
    (room.after speaker phase events members).Announces speaker notice ∧
      tellings (room.log ++ events) broadcast = [] ∧
      (room.log ++ events)[broadcast]? =
        some (.taken notice (receivers (room.log ++ events) broadcast ++ rest)) := by
  cases act with
  | take announced announcing =>
      cases handing
      have announces := delivering.announcing speaker notice announcing
      rcases receivers_fresh delivering with ⟨none_handed, none_told⟩
      refine ⟨⟨announces.speaks, fun change told => ?_⟩, ?_, ?_⟩
      · rcases announces.current change told with ⟨party, self, last⟩
        exact ⟨party, self, (lastChange_concat rfl).trans last⟩
      · rw [tellings, filterMap_concat]
        exact (List.append_nil _).trans none_told
      · have received : receivers (room.log ++ [.taken notice room.members])
            room.log.length = [] := by
          rw [receivers, filterMap_concat]
          exact (List.append_nil _).trans none_handed
        rw [received]
        exact List.getElem?_concat_length
  | hand number announced receiver remaining before =>
      cases handing
      rcases delivering.handing speaker broadcast notice _ before with ⟨announces, told, taken⟩
      refine ⟨⟨announces.speaks, fun change told => ?_⟩, ?_, ?_⟩
      · rcases announces.current change told with ⟨party, self, last⟩
        exact ⟨party, self, (lastChange_concat rfl).trans last⟩
      · rw [tellings, filterMap_concat]
        exact (List.append_nil _).trans told
      · rw [receivers_handed, List.append_assoc]
        exact Cells.getElem?_append_of_some taken
  | _ => cases handing

/-- A broadcast that the speaker has finished or finishes by its act is complete. -/
theorem finished_act (delivering : room.Delivering)
    (act : room.Act speaker phase events members) {broadcast : Nat}
    {notice : Notice Party Text} {rest : List Party}
    (handing : room.phase speaker = .handing broadcast notice rest) :
    (Exists fun left => phase = .handing broadcast notice left) ∨
      receivers (room.log ++ events) broadcast = receivers room.log broadcast ++ rest ∧
        tellings (room.log ++ events) broadcast = notice.owed := by
  rcases delivering.handing speaker broadcast notice rest handing with ⟨announces, told, _⟩
  cases act with
  | hand number other receiver remaining before =>
      cases handing.symm.trans before
      exact Or.inl ⟨remaining, rfl⟩
  | finish number other before stays =>
      cases handing.symm.trans before
      rw [List.append_nil, List.append_nil, told, Notice.owed, if_neg stays]
      exact Or.inr ⟨rfl, rfl⟩
  | tell number other party self before left =>
      cases handing.symm.trans before
      refine Or.inr ⟨?_, ?_⟩
      · rw [receivers, filterMap_concat]
        rfl
      · rw [tellings_told, told, Notice.owed, if_pos left, announces.speaks, self]
        rfl
  | join party text self idle => cases handing.symm.trans idle
  | leave party text self idle => cases handing.symm.trans idle
  | say text idle => cases handing.symm.trans idle
  | take other announcing => cases handing.symm.trans announcing
  | gone party self idle => cases handing.symm.trans idle

/-- A copy in the log after an act was there before, or the act made it. -/
theorem taken_act (act : room.Act speaker phase events members) {broadcast : Nat}
    {notice : Notice Party Text} {snapshot : List Party}
    (taken : (room.log ++ events)[broadcast]? = some (.taken notice snapshot)) :
    room.log[broadcast]? = some (.taken notice snapshot) ∨
      broadcast = room.log.length ∧ snapshot = room.members ∧
        room.phase speaker = .announce notice ∧
        phase = .handing broadcast notice room.members := by
  rcases Cells.getElem?_append_cases taken with before | ⟨behind, here⟩
  · exact Or.inl before
  · cases act with
    | take other announcing =>
        cases List.mem_singleton.mp here
        rcases List.getElem?_eq_some_iff.mp taken with ⟨within, _⟩
        rw [List.length_append, List.length_singleton] at within
        have number : broadcast = room.log.length := Nat.le_antisymm (Nat.le_of_lt_succ within) behind
        exact Or.inr ⟨number, rfl, announcing, by rw [number]⟩
    | say => cases here
    | finish => cases here
    | _ => cases List.mem_singleton.mp here

/-- What is handed out after an act, by whoever does it. -/
theorem handing_after (delivering : room.Delivering)
    (act : room.Act speaker phase events members) (teller : Option Party) (broadcast : Nat)
    (notice : Notice Party Text) (rest : List Party)
    (handing : (room.after speaker phase events members).phase teller =
      .handing broadcast notice rest) :
    (room.after speaker phase events members).Announces teller notice ∧
      tellings (room.log ++ events) broadcast = [] ∧
      (room.log ++ events)[broadcast]? =
        some (.taken notice (receivers (room.log ++ events) broadcast ++ rest)) := by
  by_cases same : teller = speaker
  · rw [same, after_phase_self] at handing
    rw [same]
    exact handing_act delivering act handing
  · rw [after_phase_other same] at handing
    rcases handing_other delivering act same handing with ⟨received, others⟩
    rcases delivering.handing teller broadcast notice rest handing with ⟨announces, told, taken⟩
    refine ⟨announces.other act same, others.trans told, ?_⟩
    rw [received]
    exact Cells.getElem?_append_of_some taken

/-- An earlier copy whose speaker acts. -/
theorem finished_before (delivering : room.Delivering)
    (act : room.Act speaker phase events members) {broadcast : Nat}
    {notice : Notice Party Text} {snapshot : List Party}
    (before : room.log[broadcast]? = some (.taken notice snapshot)) :
    (Exists fun rest => (room.after speaker phase events members).phase notice.speaker =
      .handing broadcast notice rest) ∨
        receivers (room.log ++ events) broadcast = snapshot ∧
          tellings (room.log ++ events) broadcast = notice.owed := by
  by_cases own : Exists fun rest => room.phase speaker = .handing broadcast notice rest
  · rcases own with ⟨rest, handing⟩
    rcases delivering.handing speaker broadcast notice rest handing with ⟨announces, _, same⟩
    have copied : snapshot = receivers room.log broadcast ++ rest :=
      (Event.taken.inj (Option.some.inj (before.symm.trans same))).2
    rw [announces.speaks, after_phase_self, copied]
    exact finished_act delivering act handing
  · have apart : forall other rest, room.phase speaker ≠ .handing broadcast other rest := by
      intro other rest handing
      rcases delivering.handing speaker broadcast other rest handing with ⟨_, _, same⟩
      have notices : notice = other :=
        (Event.taken.inj (Option.some.inj (before.symm.trans same))).1
      exact own ⟨rest, notices ▸ handing⟩
    rcases act_deliveries act apart with ⟨received, told⟩
    rw [received, told]
    rcases delivering.finished broadcast notice snapshot before with ⟨rest, handing⟩ | done
    · have other : notice.speaker ≠ speaker := fun same => apart notice rest (same ▸ handing)
      exact Or.inl ⟨rest, (after_phase_other other _ _ _).trans handing⟩
    · exact Or.inr done

/-- What an act hands out is part of a broadcast. -/
theorem sourced_act (delivering : room.Delivering)
    (act : room.Act speaker phase events members) {event : Event Party Text} {broadcast : Nat}
    {notice : Notice Party Text} (here : event ∈ events)
    (source : event.source = some (broadcast, notice)) :
    Exists fun snapshot => room.log[broadcast]? = some (.taken notice snapshot) := by
  cases act with
  | say => cases here
  | finish => cases here
  | hand number other receiver remaining before =>
      cases List.mem_singleton.mp here
      cases source
      rcases delivering.handing speaker broadcast notice _ before with ⟨_, _, taken⟩
      exact ⟨_, taken⟩
  | tell number other party self before left =>
      cases List.mem_singleton.mp here
      cases source
      rcases delivering.handing speaker broadcast notice _ before with ⟨_, _, taken⟩
      exact ⟨_, taken⟩
  | _ =>
      cases List.mem_singleton.mp here
      cases source

theorem delivering_act (delivering : room.Delivering)
    (act : room.Act speaker phase events members) :
    (room.after speaker phase events members).Delivering := by
  refine ⟨?_, handing_after delivering act, ?_, ?_⟩
  · intro teller notice announcing
    by_cases same : teller = speaker
    · rw [same, after_phase_self] at announcing
      rw [same]
      exact announces_act act announcing
    · rw [after_phase_other same] at announcing
      exact (delivering.announcing teller notice announcing).other act same
  · intro broadcast notice snapshot taken
    rcases taken_act act taken with before | ⟨_, _, announcing, handing⟩
    · exact finished_before delivering act before
    · have announces := delivering.announcing speaker notice announcing
      refine Or.inl ⟨room.members, ?_⟩
      rw [announces.speaks, after_phase_self]
      exact handing
  · intro event broadcast notice member source
    rcases List.mem_append.mp member with before | here
    · rcases delivering.sourced event broadcast notice before source with ⟨snapshot, taken⟩
      exact ⟨snapshot, Cells.getElem?_append_of_some taken⟩
    · rcases sourced_act delivering act here source with ⟨snapshot, taken⟩
      exact ⟨snapshot, Cells.getElem?_append_of_some taken⟩

end Acts

theorem delivering_reachable {Label : Type w}
    (reachable : (system Label : Transition.System (Room Party Text) Label).Reachable room) :
    room.Delivering := by
  refine reachable.invariant ?_ ?_
  · rintro room rfl
    exact ⟨nofun, nofun, nofun, nofun⟩
  · rintro room label next delivering ⟨act⟩
    exact delivering_act delivering act

/-! ## Copies -/

/-- Each copy holds, once each, those who were members when it was made. -/
def Copied (room : Room Party Text) : Prop :=
  forall broadcast notice snapshot, room.log[broadcast]? = some (.taken notice snapshot) ->
    snapshot.Nodup ∧ forall party, party ∈ snapshot <->
      lastChange (room.log.take broadcast) party = some .join

theorem copied_act {speaker : Option Party} {phase : Phase Party Text}
    {events : List (Event Party Text)} {members : List Party} (copied : room.Copied)
    (roster : room.Roster) (act : room.Act speaker phase events members) :
    (room.after speaker phase events members).Copied := by
  intro broadcast notice snapshot taken
  rcases taken_act act taken with before | ⟨number, own, _, _⟩
  · rcases List.getElem?_eq_some_iff.mp before with ⟨within, _⟩
    have same : (room.log ++ events).take broadcast = room.log.take broadcast :=
      List.take_append_of_le_length (Nat.le_of_lt within)
    show snapshot.Nodup ∧ forall party, party ∈ snapshot <->
      lastChange ((room.log ++ events).take broadcast) party = some .join
    rw [same]
    exact copied broadcast notice snapshot before
  · have whole : (room.log ++ events).take broadcast = room.log := by
      rw [number, List.take_left]
    show snapshot.Nodup ∧ forall party, party ∈ snapshot <->
      lastChange ((room.log ++ events).take broadcast) party = some .join
    rw [whole, own]
    exact ⟨roster.nodup, roster.listed⟩

theorem copied_reachable {Label : Type w}
    (reachable : (system Label : Transition.System (Room Party Text) Label).Reachable room) :
    room.Copied := by
  refine reachable.invariant_reachable ?_ ?_
  · rintro room rfl broadcast notice snapshot taken
    cases taken
  · rintro room label next reachable copied ⟨act⟩
    exact copied_act copied (roster_reachable reachable) act

/-! ## Notices -/

/-- All notices that are pending or have been handed out are proper. -/
structure Proper (proper : Notice Party Text -> Prop) (room : Room Party Text) : Prop where
  pending : forall speaker notice, (room.phase speaker).notice = some notice -> proper notice
  logged : forall event notice, event ∈ room.log -> event.notice = some notice -> proper notice

/-- A notice that a room hands out was pending, or it is announced by one who was idle. -/
theorem Proper.act {proper : Notice Party Text -> Prop} (before : room.Proper proper)
    {speaker : Option Party} {phase : Phase Party Text} {events : List (Event Party Text)}
    {members : List Party} (act : room.Act speaker phase events members)
    (fresh : room.phase speaker = .idle ->
      forall notice, phase.notice = some notice -> proper notice) :
    (room.after speaker phase events members).Proper proper := by
  have known : forall notice, (room.phase speaker).notice = some notice -> proper notice :=
    before.pending speaker
  refine ⟨fun other notice announced => ?_, fun event notice among told => ?_⟩
  · by_cases own : other = speaker
    · rw [own, after_phase_self] at announced
      cases act with
      | take other announcing => exact known notice (by rw [announcing]; exact announced)
      | hand _ _ _ _ handing => exact known notice (by rw [handing]; exact announced)
      | join _ _ _ idle => exact fresh idle notice announced
      | leave _ _ _ idle => exact fresh idle notice announced
      | say _ idle => exact fresh idle notice announced
      | _ => cases announced
    · rw [after_phase_other own] at announced
      exact before.pending other notice announced
  · rcases List.mem_append.mp among with earlier | here
    · exact before.logged event notice earlier told
    · cases act with
      | take other announcing =>
          cases List.mem_singleton.mp here
          exact known notice (by rw [announcing]; exact told)
      | hand _ _ _ _ handing =>
          cases List.mem_singleton.mp here
          exact known notice (by rw [handing]; exact told)
      | tell _ _ _ _ handing =>
          cases List.mem_singleton.mp here
          exact known notice (by rw [handing]; exact told)
      | say => cases here
      | finish => cases here
      | _ =>
          cases List.mem_singleton.mp here
          cases told

end Room

end Broadcast
