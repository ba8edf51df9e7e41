import EasyProspect.Library.Cells
import EasyProspect.Library.Transition
import Mathlib.Logic.Function.Basic

namespace EasyProspect

/-!
# The registry of the channels

`channel_list_impl` keeps a shared pointer to each channel in the slot of its id.  The
destructor of a channel calls `erase` of the registry, which takes the mutex `m_`.  A
shared pointer that is overwritten under the mutex may be the last one.

Channels are referred to by the order in which they are made, a slot holds such a number.
The memory for more slots is always found.
-/

/-- How a call ends that does not return. -/
inductive RegistryFault
  /-- `m_` is taken by the thread that holds it. -/
  | deadlock
  | undefined
deriving DecidableEq

/-- A channel, with the number of pointers to it outside of the registry. -/
structure OwnedChannel where
  cid : UInt64
  owners : Nat
deriving DecidableEq

structure ChannelRegistry where
  v : List (Option Nat)
  channels : List OwnedChannel
  fault : Option RegistryFault
deriving DecidableEq

inductive RegistryLabel
  | make (cid : UInt64)
  | copy (channel : Nat)
  | lookup (cid : UInt64)
  | insert (channel : Nat)
  | release (channel : Nat)

namespace ChannelRegistry

/-- The first slot is not used. -/
def create : ChannelRegistry where
  v := [none]
  channels := []
  fault := none

variable (registry : ChannelRegistry)

/-- `at`. -/
def channelAt (cid : UInt64) : Option Nat :=
  (registry.v[cid.toNat]?).join

def owners (channel : Nat) : Nat :=
  (registry.channels[channel]?.map OwnedChannel.owners).getD 0

/-- No pointer to the channel is left. -/
def Orphaned (channel : Nat) : Prop :=
  registry.owners channel = 0 ∧ some channel ∉ registry.v

instance (channel : Nat) : Decidable (registry.Orphaned channel) :=
  inferInstanceAs (Decidable (registry.owners channel = 0 ∧ some channel ∉ registry.v))

def addOwner (channel : Nat) : ChannelRegistry :=
  { registry with
    channels := registry.channels.modify channel fun found =>
      { found with owners := found.owners + 1 } }

def removeOwner (channel : Nat) : ChannelRegistry :=
  { registry with
    channels := registry.channels.modify channel fun found =>
      { found with owners := found.owners - 1 } }

/-- A slot gives up its pointer while the mutex is held; the destructor takes it again. -/
def dropLocked (old : Option Nat) : ChannelRegistry :=
  match old with
  | none => registry
  | some channel =>
      if registry.Orphaned channel then { registry with fault := some .deadlock } else registry

/-- A pointer is written into a slot while the mutex is held.  The assertions on the slot are
not compiled into a release build. -/
def assign (cid : UInt64) (c : Option Nat) : ChannelRegistry :=
  match registry.v[cid.toNat]? with
  | none => { registry with fault := some .undefined }
  | some old => { registry with v := registry.v.set cid.toNat c }.dropLocked old

def resize (size : Nat) : ChannelRegistry :=
  { registry with v := registry.v ++ List.replicate (size - registry.v.length) none }

/-- `insert`. -/
def insert (channel : Nat) (cid : UInt64) : ChannelRegistry :=
  (registry.resize (max (cid + 1).toNat registry.v.length)).assign cid (some channel)

/-- `erase`. -/
def erase (cid : UInt64) : ChannelRegistry :=
  registry.assign cid none

/-- A pointer outside of the registry is given up; the last one destroys the channel. -/
def release (channel : Nat) (cid : UInt64) : ChannelRegistry :=
  if registry.Orphaned channel then registry.erase cid else registry

def step (label : RegistryLabel) : Option ChannelRegistry :=
  if registry.fault ≠ none then
    none
  else
    match label with
    | .make cid => some { registry with channels := registry.channels ++ [⟨cid, 1⟩] }
    | .copy channel =>
        if registry.owners channel = 0 then none else some (registry.addOwner channel)
    | .lookup cid => (registry.channelAt cid).map registry.addOwner
    | .insert channel =>
        registry.channels[channel]?.bind fun found =>
          if found.owners = 0 then none
          else some ((registry.removeOwner channel).insert channel found.cid)
    | .release channel =>
        registry.channels[channel]?.bind fun found =>
          if found.owners = 0 then none
          else some ((registry.removeOwner channel).release channel found.cid)

/-! ## The map it stands for -/

/-- What has been inserted last for each id. -/
abbrev Registrations := UInt64 -> Option Nat

/-- Only `insert` changes what is registered, and only for the id of its channel. -/
def register (registered : Registrations) (label : RegistryLabel) : Registrations :=
  match label with
  | .insert channel =>
      match registry.channels[channel]? with
      | none => registered
      | some found => Function.update registered found.cid (some channel)
  | _ => registered

/-- The call has returned, and `at` gives for each id what was inserted last. -/
def Represents (registered : Registrations) : Prop :=
  registry.fault = none ∧ forall cid, registry.channelAt cid = registered cid

/-- An insertion does not overwrite the last pointer to another channel and has an id that is
not the greatest one; a channel is destroyed while the slot of its id is there and empty. -/
def KeepsSlots (label : RegistryLabel) : Prop :=
  match label with
  | .insert channel =>
      forall found, registry.channels[channel]? = some found ->
        found.cid + 1 ≠ 0 ∧
          forall old, registry.channelAt found.cid = some old -> old ≠ channel ->
            registry.owners old ≠ 0
  | .release channel =>
      forall found, registry.channels[channel]? = some found ->
        found.owners = 1 -> some channel ∉ registry.v ->
          registry.v[found.cid.toNat]? = some none
  | _ => True

instance (label : RegistryLabel) : Decidable (registry.KeepsSlots label) :=
  match label with
  | .make _ => .isTrue trivial
  | .copy _ => .isTrue trivial
  | .lookup _ => .isTrue trivial
  | .insert channel =>
      inferInstanceAs (Decidable (forall found, registry.channels[channel]? = some found ->
        found.cid + 1 ≠ 0 ∧
          forall old, registry.channelAt found.cid = some old -> old ≠ channel ->
            registry.owners old ≠ 0))
  | .release channel =>
      inferInstanceAs (Decidable (forall found, registry.channels[channel]? = some found ->
        found.owners = 1 -> some channel ∉ registry.v ->
          registry.v[found.cid.toNat]? = some none))

/-- Each channel is only in the slot of its id, and there are no more slots than ids. -/
structure Placed : Prop where
  at_id : forall index channel, registry.v[index]? = some (some channel) ->
    Exists fun found : OwnedChannel =>
      registry.channels[channel]? = some found ∧ found.cid.toNat = index
  size : registry.v.length < UInt64.size

variable {registry}

/-! ## Lookups -/

theorem join_set {v : List (Option Nat)} {index : Nat} (within : index < v.length)
    (c : Option Nat) (other : Nat) :
    ((v.set index c)[other]?).join = if other = index then c else (v[other]?).join := by
  by_cases same : other = index
  · rw [if_pos same, same, List.getElem?_set_self within]
    rfl
  · rw [if_neg same, List.getElem?_set_ne (Ne.symm same)]

theorem join_resize (v : List (Option Nat)) (more index : Nat) :
    ((v ++ List.replicate more none)[index]?).join = (v[index]?).join := by
  by_cases within : index < v.length
  · rw [List.getElem?_append_left within]
  · have outside : v.length ≤ index := Nat.le_of_not_lt within
    rw [List.getElem?_append_right outside, List.getElem?_eq_none outside,
      List.getElem?_replicate]
    split <;> rfl

theorem channelAt_resize (size : Nat) (cid : UInt64) :
    (registry.resize size).channelAt cid = registry.channelAt cid :=
  join_resize _ _ _

theorem dropLocked_some (channel : Nat) :
    registry.dropLocked (some channel) =
      if registry.Orphaned channel then { registry with fault := some .deadlock }
      else registry := rfl

theorem dropLocked_channelAt (old : Option Nat) (cid : UInt64) :
    (registry.dropLocked old).channelAt cid = registry.channelAt cid := by
  cases old with
  | none => rfl
  | some channel =>
      rw [dropLocked_some]
      split <;> rfl

theorem dropLocked_fault (running : registry.fault = none) (old : Option Nat) :
    (registry.dropLocked old).fault = none <->
      forall channel, old = some channel -> ¬ registry.Orphaned channel := by
  cases old with
  | none => exact ⟨fun _ => nofun, fun _ => running⟩
  | some channel =>
      rw [dropLocked_some]
      by_cases orphaned : registry.Orphaned channel
      · rw [if_pos orphaned]
        exact ⟨nofun, fun kept => absurd orphaned (kept channel rfl)⟩
      · rw [if_neg orphaned]
        refine ⟨fun _ other same => ?_, fun _ => running⟩
        rw [← Option.some.inj same]
        exact orphaned

theorem owners_of_found {channel : Nat} {found : OwnedChannel}
    (present : registry.channels[channel]? = some found) :
    registry.owners channel = found.owners := by
  unfold owners
  rw [present]
  rfl

theorem removeOwner_self {channel : Nat} {found : OwnedChannel}
    (present : registry.channels[channel]? = some found) :
    (registry.removeOwner channel).owners channel = found.owners - 1 := by
  have changed : (registry.removeOwner channel).channels[channel]? =
      some { found with owners := found.owners - 1 } := Cells.getElem?_modify_self present _
  exact owners_of_found changed

theorem removeOwner_other {channel other : Nat} (apart : other ≠ channel) :
    (registry.removeOwner channel).owners other = registry.owners other := by
  unfold owners removeOwner
  rw [List.getElem?_modify_ne _ _ (Ne.symm apart)]

/-! ## Assigning a slot -/

theorem assign_eq {cid : UInt64} {old : Option Nat} (slot : registry.v[cid.toNat]? = some old)
    (c : Option Nat) :
    registry.assign cid c =
      { registry with v := registry.v.set cid.toNat c }.dropLocked old := by
  unfold assign
  rw [slot]

theorem assign_channelAt {cid : UInt64} {old : Option Nat}
    (slot : registry.v[cid.toNat]? = some old) (c : Option Nat) (other : UInt64) :
    (registry.assign cid c).channelAt other =
      if other = cid then c else registry.channelAt other := by
  rcases List.getElem?_eq_some_iff.mp slot with ⟨within, _⟩
  rw [assign_eq slot, dropLocked_channelAt]
  have assigned := join_set within c other.toNat
  simp only [UInt64.toNat_inj] at assigned
  exact assigned

theorem assign_undefined {cid : UInt64} (outside : registry.v[cid.toNat]? = none)
    (c : Option Nat) : (registry.assign cid c).fault = some .undefined := by
  unfold assign
  rw [outside]

/-- A channel other than the one written is only in the slot that is overwritten. -/
theorem Placed.overwritten (placed : registry.Placed) {cid : UInt64} {channel : Nat}
    (slot : registry.v[cid.toNat]? = some (some channel)) (c : Option Nat) :
    some channel ∉ registry.v.set cid.toNat c <-> some channel ≠ c := by
  rcases List.getElem?_eq_some_iff.mp slot with ⟨within, _⟩
  constructor
  · intro gone same
    refine gone ?_
    rw [same]
    exact List.mem_set within c
  · intro other member
    rcases List.mem_iff_getElem?.mp member with ⟨index, found⟩
    rw [List.getElem?_set] at found
    split at found
    · exact other (Option.some.inj found).symm
    · rename_i apart
      rcases placed.at_id index channel found with ⟨here, present, here_id⟩
      rcases placed.at_id cid.toNat channel slot with ⟨there, also, there_id⟩
      cases Option.some.inj (present.symm.trans also)
      exact apart (there_id.symm.trans here_id)

theorem placed_dropLocked (placed : registry.Placed) (old : Option Nat) :
    (registry.dropLocked old).Placed := by
  cases old with
  | none => exact placed
  | some channel =>
      rw [dropLocked_some]
      split
      · exact ⟨placed.at_id, placed.size⟩
      · exact placed

theorem placed_assign (placed : registry.Placed) (cid : UInt64) (c : Option Nat)
    (at_id : forall channel, c = some channel -> Exists fun found : OwnedChannel =>
      registry.channels[channel]? = some found ∧ found.cid = cid) :
    (registry.assign cid c).Placed := by
  unfold assign
  split
  · exact ⟨placed.at_id, placed.size⟩
  · refine placed_dropLocked ⟨fun index channel slot => ?_, ?_⟩ _
    · rw [List.getElem?_set] at slot
      split at slot
      · rename_i same
        split at slot
        · rcases at_id channel (Option.some.inj slot) with ⟨found, present, id⟩
          exact ⟨found, present, by rw [id, same]⟩
        · cases slot
      · exact placed.at_id index channel slot
    · rw [List.length_set]
      exact placed.size

theorem placed_resize (placed : registry.Placed) {size : Nat} (fits : size < UInt64.size) :
    (registry.resize size).Placed := by
  refine ⟨fun index channel slot => ?_, ?_⟩
  · rcases Cells.getElem?_append_cases slot with old | ⟨_, new⟩
    · exact placed.at_id index channel old
    · cases List.eq_of_mem_replicate new
  · have grown : (registry.resize size).v.length =
        registry.v.length + (size - registry.v.length) := by
      simp only [resize, List.length_append, List.length_replicate]
    have before := placed.size
    omega

/-- The channels keep their ids. -/
theorem placed_modify (placed : registry.Placed) (channel : Nat)
    (change : OwnedChannel -> OwnedChannel) (kept : forall found, (change found).cid = found.cid) :
    { registry with channels := registry.channels.modify channel change }.Placed := by
  refine ⟨fun index other slot => ?_, placed.size⟩
  rcases placed.at_id index other slot with ⟨found, present, id⟩
  by_cases same : channel = other
  · rw [same]
    exact ⟨change found, Cells.getElem?_modify_self present change, by rw [kept, id]⟩
  · exact ⟨found, by rw [List.getElem?_modify_ne _ _ same]; exact present, id⟩

theorem placed_removeOwner (placed : registry.Placed) (channel : Nat) :
    (registry.removeOwner channel).Placed :=
  placed_modify placed channel _ fun _ => rfl

theorem placed_addOwner (placed : registry.Placed) (channel : Nat) :
    (registry.addOwner channel).Placed :=
  placed_modify placed channel _ fun _ => rfl

/-! ## Insertions -/

theorem toNat_add_one {cid : UInt64} (smaller : cid + 1 ≠ 0) :
    (cid + 1).toNat = cid.toNat + 1 := by
  have bound := cid.toNat_lt
  have value : (cid + 1).toNat = (cid.toNat + 1) % 2 ^ 64 := UInt64.toNat_add cid 1
  have nonzero : (cid + 1).toNat ≠ 0 := fun zero => smaller (UInt64.toNat_inj.mp zero)
  omega

theorem toNat_of_add_one_eq_zero {cid : UInt64} (greatest : cid + 1 = 0) :
    cid.toNat + 1 = UInt64.size := by
  have bound := cid.toNat_lt
  have value : (cid + 1).toNat = (cid.toNat + 1) % 2 ^ 64 := UInt64.toNat_add cid 1
  rw [greatest] at value
  have size : UInt64.size = 2 ^ 64 := rfl
  have zero : (0 : UInt64).toNat = 0 := rfl
  omega

/-- With the greatest id the vector does not grow, and the slot is outside of it. -/
theorem insert_greatest (placed : registry.Placed) (channel : Nat) {cid : UInt64}
    (greatest : cid + 1 = 0) : (registry.insert channel cid).fault = some .undefined := by
  refine assign_undefined ?_ _
  have same : (registry.resize (max (cid + 1).toNat registry.v.length)).v = registry.v := by
    have none_more : max (cid + 1).toNat registry.v.length - registry.v.length = 0 := by
      have zero : (cid + 1).toNat = 0 := by rw [greatest]; rfl
      omega
    unfold resize
    rw [none_more, List.replicate_zero, List.append_nil]
  have last := toNat_of_add_one_eq_zero greatest
  have size := placed.size
  rw [same]
  exact List.getElem?_eq_none (by omega)

/-- The slot of the id after the vector has grown. -/
theorem resized_slot (registry : ChannelRegistry) {cid : UInt64} (smaller : cid + 1 ≠ 0) :
    (registry.resize (max (cid + 1).toNat registry.v.length)).v[cid.toNat]? =
      some (registry.channelAt cid) := by
  generalize enough : max (cid + 1).toNat registry.v.length = size
  have next := toNat_add_one smaller
  have grown : (registry.resize size).v.length =
      registry.v.length + (size - registry.v.length) := by
    simp only [resize, List.length_append, List.length_replicate]
  have within : cid.toNat < (registry.resize size).v.length := by omega
  have slot := List.getElem?_eq_getElem within
  have same : ((registry.resize size).v[cid.toNat]?).join = registry.channelAt cid :=
    channelAt_resize size cid
  rw [slot] at same
  rw [slot]
  exact congrArg some same

theorem insert_fault (placed : registry.Placed) (running : registry.fault = none)
    (channel : Nat) {cid : UInt64} (smaller : cid + 1 ≠ 0) :
    (registry.insert channel cid).fault = none <->
      forall old, registry.channelAt cid = some old -> old ≠ channel ->
        registry.owners old ≠ 0 := by
  have slot := resized_slot registry smaller
  unfold insert
  rw [assign_eq slot]
  refine (dropLocked_fault ?_ _).trans ?_
  · exact running
  have fits : max (cid + 1).toNat registry.v.length < UInt64.size := by
    have id := (cid + 1).toNat_lt
    have size := placed.size
    exact Nat.max_lt.mpr ⟨id, size⟩
  constructor
  · intro kept old here apart unowned
    rw [here] at slot
    have gone := ((placed_resize placed fits).overwritten slot (some channel)).mpr
      fun same => apart (Option.some.inj same)
    exact kept old here ⟨unowned, gone⟩
  · rintro kept old here ⟨unowned, gone⟩
    rw [here] at slot
    have other := ((placed_resize placed fits).overwritten slot (some channel)).mp gone
    exact kept old here (fun same => other (congrArg some same)) unowned

theorem insert_represents {registered : Registrations} (placed : registry.Placed)
    (represents : registry.Represents registered) {channel : Nat} {found : OwnedChannel}
    (present : registry.channels[channel]? = some found) :
    ((registry.removeOwner channel).insert channel found.cid).Represents
        (registry.register registered (.insert channel)) <->
      registry.KeepsSlots (.insert channel) := by
  rcases represents with ⟨running, same⟩
  have rest := placed_removeOwner placed channel
  have registers : registry.register registered (.insert channel) =
      Function.update registered found.cid (some channel) := by
    unfold register
    simp only [present]
  have keeps : registry.KeepsSlots (.insert channel) <->
      found.cid + 1 ≠ 0 ∧ forall old, registry.channelAt found.cid = some old ->
        old ≠ channel -> registry.owners old ≠ 0 := by
    refine ⟨fun kept => kept found present, fun kept other also => ?_⟩
    cases Option.some.inj (present.symm.trans also)
    exact kept
  rw [keeps]
  by_cases greatest : found.cid + 1 = 0
  · have undefined := insert_greatest rest channel greatest
    refine ⟨fun kept => ?_, fun kept => absurd greatest kept.1⟩
    cases undefined.symm.trans kept.1
  · have returns := insert_fault rest running channel greatest
    have owned : (forall old, registry.channelAt found.cid = some old -> old ≠ channel ->
        (registry.removeOwner channel).owners old ≠ 0) <->
          forall old, registry.channelAt found.cid = some old -> old ≠ channel ->
            registry.owners old ≠ 0 := by
      refine forall_congr' fun old => forall_congr' fun _ => forall_congr' fun apart => ?_
      rw [removeOwner_other apart]
    refine ⟨fun kept => ⟨greatest, owned.mp (returns.mp kept.1)⟩, fun kept => ?_⟩
    refine ⟨returns.mpr (owned.mpr kept.2), fun cid => ?_⟩
    have slot := resized_slot (registry.removeOwner channel) greatest
    have assigned := assign_channelAt slot (some channel) cid
    rw [channelAt_resize] at assigned
    rw [registers]
    refine assigned.trans ?_
    by_cases here : cid = found.cid
    · rw [if_pos here, here, Function.update_self]
    · rw [if_neg here, Function.update_of_ne here]
      exact same cid

/-! ## Destructions -/

theorem erase_represents {registered : Registrations} {cid : UInt64}
    (represents : registry.Represents registered) :
    (registry.erase cid).Represents registered <-> registry.v[cid.toNat]? = some none := by
  rcases represents with ⟨running, same⟩
  cases slot : registry.v[cid.toNat]? with
  | none =>
      refine ⟨fun kept => ?_, nofun⟩
      cases (assign_undefined slot none).symm.trans kept.1
  | some old =>
      have assigned := assign_channelAt slot none
      cases old with
      | none =>
          refine ⟨fun _ => rfl, fun _ => ⟨?_, fun other => ?_⟩⟩
          · unfold erase
            rw [assign_eq slot]
            exact running
          · refine (assigned other).trans ?_
            by_cases here : other = cid
            · rw [if_pos here, ← same, here, channelAt, slot]
              rfl
            · rw [if_neg here, same]
      | some new =>
          refine ⟨fun kept => ?_, fun empty => by cases Option.some.inj empty⟩
          have cleared := (assigned cid).symm.trans ((kept.2 cid).trans (same cid).symm)
          rw [if_pos rfl, channelAt, slot] at cleared
          cases cleared

theorem release_represents {registered : Registrations}
    (represents : registry.Represents registered) {channel : Nat} {found : OwnedChannel}
    (present : registry.channels[channel]? = some found) (owned : found.owners ≠ 0) :
    ((registry.removeOwner channel).release channel found.cid).Represents registered <->
      registry.KeepsSlots (.release channel) := by
  have rest : (registry.removeOwner channel).Represents registered := represents
  have keeps : registry.KeepsSlots (.release channel) <->
      (found.owners = 1 -> some channel ∉ registry.v ->
        registry.v[found.cid.toNat]? = some none) := by
    refine ⟨fun kept => kept found present, fun kept other also => ?_⟩
    cases Option.some.inj (present.symm.trans also)
    exact kept
  have left := removeOwner_self present
  rw [keeps]
  unfold release
  by_cases orphaned : (registry.removeOwner channel).Orphaned channel
  · rw [if_pos orphaned]
    rw [Orphaned, left] at orphaned
    have last : found.owners = 1 := by omega
    exact (erase_represents rest).trans
      ⟨fun empty _ _ => empty, fun kept => kept last orphaned.2⟩
  · rw [if_neg orphaned]
    refine ⟨fun _ last gone => ?_, fun _ => rest⟩
    refine absurd ⟨?_, gone⟩ orphaned
    rw [left, last]

/-! ## Steps -/

theorem placed_insert (placed : registry.Placed) {channel : Nat} {found : OwnedChannel}
    (present : registry.channels[channel]? = some found) :
    ((registry.removeOwner channel).insert channel found.cid).Placed := by
  refine placed_assign (placed_resize (placed_removeOwner placed channel) ?_) _ _ ?_
  · exact Nat.max_lt.mpr ⟨(found.cid + 1).toNat_lt, placed.size⟩
  · intro other same
    cases Option.some.inj same
    exact ⟨_, Cells.getElem?_modify_self present _, rfl⟩

theorem placed_release (placed : registry.Placed) (channel : Nat) (cid : UInt64) :
    ((registry.removeOwner channel).release channel cid).Placed := by
  unfold release
  split
  · exact placed_assign (placed_removeOwner placed channel) cid none nofun
  · exact placed_removeOwner placed channel

theorem placed_append (placed : registry.Placed) (more : List OwnedChannel) :
    { registry with channels := registry.channels ++ more }.Placed := by
  refine ⟨fun index channel slot => ?_, placed.size⟩
  rcases placed.at_id index channel slot with ⟨found, present, id⟩
  exact ⟨found, Cells.getElem?_append_of_some present, id⟩

theorem placed_step {next : ChannelRegistry} {label : RegistryLabel} (placed : registry.Placed)
    (taken : registry.step label = some next) : next.Placed := by
  rcases Option.ite_none_left_eq_some.mp taken with ⟨_, taken⟩
  cases label with
  | make cid =>
      cases Option.some.inj taken
      exact placed_append placed [⟨cid, 1⟩]
  | copy channel =>
      rcases Option.ite_none_left_eq_some.mp taken with ⟨_, copied⟩
      cases Option.some.inj copied
      exact placed_addOwner placed channel
  | lookup cid =>
      rcases Option.map_eq_some_iff.mp taken with ⟨channel, _, rfl⟩
      exact placed_addOwner placed channel
  | insert channel =>
      rcases Option.bind_eq_some_iff.mp taken with ⟨found, present, taken⟩
      rcases Option.ite_none_left_eq_some.mp taken with ⟨_, inserted⟩
      cases Option.some.inj inserted
      exact placed_insert placed present
  | release channel =>
      rcases Option.bind_eq_some_iff.mp taken with ⟨found, _, taken⟩
      rcases Option.ite_none_left_eq_some.mp taken with ⟨_, released⟩
      cases Option.some.inj released
      exact placed_release placed channel found.cid

/-- A step keeps the map exactly under the condition. -/
theorem represents_step {registered : Registrations} {next : ChannelRegistry}
    {label : RegistryLabel} (placed : registry.Placed)
    (represents : registry.Represents registered) (taken : registry.step label = some next) :
    next.Represents (registry.register registered label) <-> registry.KeepsSlots label := by
  rcases Option.ite_none_left_eq_some.mp taken with ⟨_, taken⟩
  cases label with
  | make cid =>
      cases Option.some.inj taken
      exact ⟨fun _ => trivial, fun _ => represents⟩
  | copy channel =>
      rcases Option.ite_none_left_eq_some.mp taken with ⟨_, copied⟩
      cases Option.some.inj copied
      exact ⟨fun _ => trivial, fun _ => represents⟩
  | lookup cid =>
      rcases Option.map_eq_some_iff.mp taken with ⟨channel, _, rfl⟩
      exact ⟨fun _ => trivial, fun _ => represents⟩
  | insert channel =>
      rcases Option.bind_eq_some_iff.mp taken with ⟨found, present, taken⟩
      rcases Option.ite_none_left_eq_some.mp taken with ⟨_, inserted⟩
      cases Option.some.inj inserted
      exact insert_represents placed represents present
  | release channel =>
      rcases Option.bind_eq_some_iff.mp taken with ⟨found, present, taken⟩
      rcases Option.ite_none_left_eq_some.mp taken with ⟨owned, released⟩
      cases Option.some.inj released
      exact release_represents represents present owned

end ChannelRegistry

/-- The registry beside the map it stands for. -/
structure RegistryRun where
  registry : ChannelRegistry
  registered : ChannelRegistry.Registrations

namespace RegistryRun

def create : RegistryRun where
  registry := .create
  registered := fun _ => none

def step (run : RegistryRun) (label : RegistryLabel) : Option RegistryRun :=
  (run.registry.step label).map fun next =>
    { registry := next, registered := run.registry.register run.registered label }

def system : Transition.System RegistryRun RegistryLabel :=
  .ofStep (fun run => run = create) step

def Represents (run : RegistryRun) : Prop :=
  run.registry.Represents run.registered

def KeepsSlots (run : RegistryRun) (label : RegistryLabel) : Prop :=
  run.registry.KeepsSlots label

instance (run : RegistryRun) (label : RegistryLabel) : Decidable (run.KeepsSlots label) :=
  inferInstanceAs (Decidable (run.registry.KeepsSlots label))

structure Kept (run : RegistryRun) : Prop where
  placed : run.registry.Placed
  represents : run.Represents

theorem represents_step {run next : RegistryRun} {label : RegistryLabel} (kept : run.Kept)
    (taken : run.step label = some next) : next.Represents <-> run.KeepsSlots label := by
  rcases Option.map_eq_some_iff.mp taken with ⟨registry, stepped, rfl⟩
  exact ChannelRegistry.represents_step kept.placed kept.represents stepped

theorem kept_reachable {run : RegistryRun}
    (reachable : (system.restrict KeepsSlots).Reachable run) : run.Kept := by
  refine reachable.invariant ?_ ?_
  · rintro run rfl
    refine ⟨⟨fun index channel slot => ?_, by decide⟩, rfl, fun cid => ?_⟩
    · cases index <;> cases slot
    · have empty : ((.create : ChannelRegistry).v[cid.toNat]?).join = none := by
        cases cid.toNat <;> rfl
      exact empty
  · rintro run label next kept ⟨keeps, taken⟩
    refine ⟨?_, (represents_step kept taken).mpr keeps⟩
    rcases Option.map_eq_some_iff.mp taken with ⟨registry, stepped, rfl⟩
    exact ChannelRegistry.placed_step kept.placed stepped

/-- The registry is the map of what was inserted last, exactly as long as no pointer that is
overwritten is the last one and no slot is given to a channel before its predecessor is gone. -/
theorem represents_iff (run : RegistryRun)
    (reachable : (system.restrict KeepsSlots).Reachable run) :
    run.Represents ∧ forall label next, run.step label = some next ->
      (next.Represents <-> run.KeepsSlots label) :=
  ⟨(kept_reachable reachable).represents,
    fun _ _ taken => represents_step (kept_reachable reachable) taken⟩

/-- The room is replaced by another with the same id while a request still holds it. -/
def heldLabels : List RegistryLabel :=
  [.make 2, .insert 0, .lookup 2, .make 2, .insert 1]

theorem held_taken :
    (Transition.System.execute (Transition.System.guarded KeepsSlots step) create
      heldLabels).isSome = true := by
  decide

def held : RegistryRun :=
  (Transition.System.execute (Transition.System.guarded KeepsSlots step) create
    heldLabels).get held_taken

theorem held_reachable : (system.restrict KeepsSlots).Reachable held := by
  refine .of_execute_guarded ?_ held_taken
  rfl

theorem held_represents :
    held.registry.channelAt 2 = some 1 ∧ held.Represents ∧
      forall label next, held.step label = some next ->
        (next.Represents <-> held.KeepsSlots label) :=
  ⟨by decide, represents_iff held held_reachable⟩

/-- Two rooms are made with the reserved id. -/
def twoRoomsLabels : List RegistryLabel :=
  [.make 2, .insert 0, .make 2, .insert 1]

theorem twoRooms_taken :
    (Transition.System.execute step create twoRoomsLabels).isSome = true := by
  decide

def twoRooms : RegistryRun :=
  (Transition.System.execute step create twoRoomsLabels).get twoRooms_taken

theorem twoRooms_reachable : system.Reachable twoRooms := by
  refine .of_execute ?_ twoRooms_taken
  rfl

/-- The second insertion destroys the first room and waits for its own mutex. -/
theorem insert_deadlocks : ¬ forall run, system.Reachable run -> run.Represents := by
  intro kept
  have deadlocked : twoRooms.registry.fault = some .deadlock := by decide
  cases deadlocked.symm.trans (kept twoRooms twoRooms_reachable).1

end RegistryRun

end EasyProspect
