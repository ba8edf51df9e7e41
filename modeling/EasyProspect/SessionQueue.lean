import EasyProspect.Library.SwapRemoval
import EasyProspect.Library.Transition

namespace EasyProspect

/-!
# The write queue of a WebSocket session

A session queues its messages in a vector and writes one at a time.  The completion of a
write knows its message only by the index that was bound when the write was started.  All
of this runs on the strand of the session.
-/

universe u

/-- The vector, the operations in flight, and what has been accepted, started and written. -/
structure SessionQueue (Message : Type u) where
  isOpen : Bool
  mq : List Message
  /-- The index bound to the completion, and the message the operation is writing. -/
  writes : List (Nat × Message)
  accepted : List Message
  started : List Message
  completed : List Message
deriving DecidableEq

inductive QueueLabel (Message : Type u)
  | doSend (m : Message)
  /-- A write in flight completes, with an error or without. -/
  | onWrite (operation : Nat) (ec : Bool)
  | close
deriving DecidableEq

/-- A write completes with an error. -/
def QueueLabel.fails {Message : Type u} : QueueLabel Message -> Bool
  | .onWrite _ ec => ec
  | _ => false

namespace SessionQueue

variable {Message : Type u}

def create : SessionQueue Message where
  isOpen := true
  mq := []
  writes := []
  accepted := []
  started := []
  completed := []

/-- The assertion that the vector is not empty is not compiled into a release build. -/
def doWrite (queue : SessionQueue Message) : Option (SessionQueue Message) :=
  queue.mq.getLast?.map fun back =>
    { queue with
      writes := queue.writes ++ [(queue.mq.length - 1, back)]
      started := queue.started ++ [back] }

def doSend (queue : SessionQueue Message) (m : Message) : Option (SessionQueue Message) :=
  if !queue.isOpen then
    some queue
  else
    let longer := { queue with mq := queue.mq ++ [m], accepted := queue.accepted ++ [m] }
    if longer.mq.length = 1 then longer.doWrite else some longer

/-- `fail` writes to the log and does nothing else. -/
def onWrite (queue : SessionQueue Message) (idx : Nat) (ec : Bool) :
    Option (SessionQueue Message) :=
  if ec then
    some queue
  else if queue.mq.isEmpty then
    none
  else
    (SwapRemoval.remove queue.mq idx).bind fun mq =>
      let shorter := { queue with mq := mq }
      if !shorter.mq.isEmpty then shorter.doWrite else some shorter

/-- A step that is not defined in the source gives no state. -/
def step (queue : SessionQueue Message) : QueueLabel Message -> Option (SessionQueue Message)
  | .doSend m => queue.doSend m
  | .onWrite operation ec =>
      queue.writes[operation]?.bind fun write =>
        let rest :=
          { queue with
            writes := queue.writes.eraseIdx operation
            completed := if ec then queue.completed else queue.completed ++ [write.2] }
        rest.onWrite write.1 ec
  | .close => some { queue with isOpen := false }

def system : Transition.System (SessionQueue Message) (QueueLabel Message) :=
  .ofStep (fun queue => queue = create) step

/-! ## What the steps do -/

theorem doWrite_concat {queue : SessionQueue Message} {others : List Message} {back : Message}
    (stored : queue.mq = others ++ [back]) :
    queue.doWrite = some
      { queue with
        writes := queue.writes ++ [(others.length, back)]
        started := queue.started ++ [back] } := by
  unfold doWrite
  rw [stored, List.getLast?_concat, Option.map_some, List.length_append, List.length_singleton,
    Nat.add_sub_cancel]

/-- An operation is in flight exactly for a vector that is not empty, and then only one,
for the message at its index. -/
def Tracked (queue : SessionQueue Message) : Prop :=
  queue.mq = [] ∧ queue.writes = [] ∨
    Exists fun idx => Exists fun m => queue.writes = [(idx, m)] ∧ queue.mq[idx]? = some m

/-- The effect of a step on a queue whose operation in flight is tracked. -/
inductive Effect (queue : SessionQueue Message) :
    QueueLabel Message -> SessionQueue Message -> Prop
  | refused (m : Message) (closed : queue.isOpen = false) : Effect queue (.doSend m) queue
  | first (m : Message) (opened : queue.isOpen = true) (empty : queue.mq = []) :
      Effect queue (.doSend m)
        { queue with
          mq := [m], writes := [(0, m)], accepted := queue.accepted ++ [m]
          started := queue.started ++ [m] }
  | behind (m : Message) (opened : queue.isOpen = true) (waiting : queue.mq ≠ []) :
      Effect queue (.doSend m)
        { queue with mq := queue.mq ++ [m], accepted := queue.accepted ++ [m] }
  | failed {idx : Nat} {m : Message} (flight : queue.writes = [(idx, m)]) :
      Effect queue (.onWrite 0 true) { queue with writes := [] }
  | last {m : Message} (flight : queue.writes = [(0, m)]) (only : queue.mq = [m]) :
      Effect queue (.onWrite 0 false)
        { queue with mq := [], writes := [], completed := queue.completed ++ [m] }
  | next {idx : Nat} {m : Message} (others : List Message) (back : Message)
      (flight : queue.writes = [(idx, m)]) (at_index : queue.mq[idx]? = some m)
      (removed : SwapRemoval.remove queue.mq idx = some (others ++ [back])) :
      Effect queue (.onWrite 0 false)
        { queue with
          mq := others ++ [back], writes := [(others.length, back)]
          completed := queue.completed ++ [m], started := queue.started ++ [back] }
  | close : Effect queue .close { queue with isOpen := false }

theorem effect_doSend {queue next : SessionQueue Message} {m : Message} (tracked : queue.Tracked)
    (taken : queue.doSend m = some next) : queue.Effect (.doSend m) next := by
  unfold doSend at taken
  cases opened : queue.isOpen with
  | false =>
      rw [opened] at taken
      cases Option.some.inj taken
      exact .refused m opened
  | true =>
      have accepting : (!queue.isOpen) = false := by rw [opened]; rfl
      simp only [accepting, Bool.false_eq_true, if_false] at taken
      by_cases empty : queue.mq = []
      · have idle : queue.writes = [] := by
          rcases tracked with ⟨_, idle⟩ | ⟨idx, message, _, found⟩
          · exact idle
          · rw [empty] at found
            cases found
        have only : queue.mq ++ [m] = [] ++ [m] := by rw [empty]
        rw [if_pos (by rw [empty]; rfl), doWrite_concat only] at taken
        have effect := Effect.first m opened empty
        cases Option.some.inj taken
        rw [empty, idle]
        exact effect
      · have several : (queue.mq ++ [m]).length ≠ 1 := by
          rw [List.length_append, List.length_singleton]
          have some := List.length_pos_of_ne_nil empty
          omega
        rw [if_neg several] at taken
        cases Option.some.inj taken
        exact .behind m opened empty

theorem effect_onWrite {queue next : SessionQueue Message} {operation : Nat} {ec : Bool}
    (tracked : queue.Tracked) (taken : queue.step (.onWrite operation ec) = some next) :
    queue.Effect (.onWrite operation ec) next := by
  rcases Option.bind_eq_some_iff.mp taken with ⟨write, found, completes⟩
  rcases tracked with ⟨_, idle⟩ | ⟨idx, m, flight, at_index⟩
  · rw [idle] at found
    cases found
  · rw [flight] at found
    cases operation with
    | succ => cases found
    | zero =>
        rw [← Option.some.inj found, flight] at completes
        unfold onWrite at completes
        cases ec with
        | true =>
            cases Option.some.inj completes
            exact .failed flight
        | false =>
            rcases SwapRemoval.remove_perm at_index with ⟨rest, removed, balanced⟩
            have some : queue.mq ≠ [] := fun empty => by rw [empty] at at_index; cases at_index
            simp only [Bool.false_eq_true, if_false, List.isEmpty_iff, some, removed,
              Option.bind_some, List.eraseIdx_cons_zero] at completes
            rcases List.eq_nil_or_concat rest with rfl | ⟨others, back, rfl⟩
            · have only : queue.mq = [m] := List.perm_singleton.mp balanced.symm
              have first : idx = 0 := by
                rw [only] at at_index
                rcases List.getElem?_eq_some_iff.mp at_index with ⟨within, _⟩
                exact Nat.lt_one_iff.mp within
              rw [first] at flight
              cases Option.some.inj completes
              exact .last flight only
            · rw [List.concat_eq_append] at removed completes
              have filled : (!(others ++ [back]).isEmpty) = true := by
                rw [List.isEmpty_eq_false_iff.mpr (List.append_ne_nil_of_right_ne_nil others
                  (List.cons_ne_nil back []))]
                rfl
              rw [if_pos filled, doWrite_concat rfl] at completes
              cases Option.some.inj completes
              exact .next others back flight at_index removed

theorem effect_of_step {queue next : SessionQueue Message} {label : QueueLabel Message}
    (tracked : queue.Tracked) (taken : queue.step label = some next) :
    queue.Effect label next := by
  cases label with
  | doSend m => exact effect_doSend tracked taken
  | onWrite operation ec => exact effect_onWrite tracked taken
  | close =>
      cases Option.some.inj taken
      exact .close

/-! ## One operation for a queue that is not empty -/

/-- Every write completes without an error. -/
def WritesSucceed (_ : SessionQueue Message) (label : QueueLabel Message) : Prop :=
  label.fails = false

instance (queue : SessionQueue Message) (label : QueueLabel Message) :
    Decidable (queue.WritesSucceed label) :=
  inferInstanceAs (Decidable (label.fails = false))

theorem tracked_effect {queue next : SessionQueue Message} {label : QueueLabel Message}
    (tracked : queue.Tracked) (effect : queue.Effect label next)
    (succeeds : queue.WritesSucceed label) : next.Tracked := by
  cases effect with
  | refused => exact tracked
  | first m => exact Or.inr ⟨0, m, rfl, rfl⟩
  | behind m opened waiting =>
      rcases tracked with ⟨empty, _⟩ | ⟨idx, ahead, flight, at_index⟩
      · exact False.elim (waiting empty)
      · rcases List.getElem?_eq_some_iff.mp at_index with ⟨within, _⟩
        refine Or.inr ⟨idx, ahead, flight, ?_⟩
        rw [← at_index]
        exact List.getElem?_append_left within
  | failed => exact Bool.noConfusion succeeds
  | last => exact Or.inl ⟨rfl, rfl⟩
  | next others back => exact Or.inr ⟨others.length, back, rfl, List.getElem?_concat_length⟩
  | close => exact tracked

/-- What has been accepted is what has been written and what is still in the vector. -/
structure Balanced (queue : SessionQueue Message) : Prop where
  accounted : queue.accepted.Perm (queue.completed ++ queue.mq)
  in_flight : queue.started = queue.completed ++ queue.writes.map Prod.snd

theorem balanced_effect {queue next : SessionQueue Message} {label : QueueLabel Message}
    (tracked : queue.Tracked) (effect : queue.Effect label next)
    (succeeds : queue.WritesSucceed label) (balanced : queue.Balanced) : next.Balanced := by
  rcases balanced with ⟨accounted, in_flight⟩
  cases effect with
  | refused => exact ⟨accounted, in_flight⟩
  | first m opened empty =>
      rcases tracked with ⟨_, idle⟩ | ⟨idx, ahead, _, at_index⟩
      · rw [empty, List.append_nil] at accounted
        rw [idle, List.map_nil, List.append_nil] at in_flight
        exact ⟨accounted.append_right [m], congrArg (fun started => started ++ [m]) in_flight⟩
      · rw [empty] at at_index
        cases at_index
  | behind m opened waiting =>
      refine ⟨?_, in_flight⟩
      rw [← List.append_assoc]
      exact accounted.append_right [m]
  | failed => exact Bool.noConfusion succeeds
  | @last m flight only =>
      rw [only] at accounted
      rw [flight] at in_flight
      exact ⟨by rw [List.append_nil]; exact accounted, by rw [in_flight, List.map_nil, List.append_nil]; rfl⟩
  | @next idx m others back flight at_index removed =>
      rcases SwapRemoval.remove_perm at_index with ⟨rest, same, moved⟩
      cases Option.some.inj (same.symm.trans removed)
      rw [flight] at in_flight
      refine ⟨?_, by rw [in_flight]; rfl⟩
      rw [List.append_assoc]
      exact accounted.trans (moved.symm.append_left queue.completed)
  | close => exact ⟨accounted, in_flight⟩

structure Kept (queue : SessionQueue Message) : Prop where
  tracked : queue.Tracked
  balanced : queue.Balanced

theorem kept_reachable {queue : SessionQueue Message}
    (reachable : (system.restrict WritesSucceed).Reachable queue) : queue.Kept := by
  refine reachable.invariant ?_ ?_
  · rintro queue rfl
    exact ⟨Or.inl ⟨rfl, rfl⟩, List.Perm.nil, rfl⟩
  · rintro queue label next ⟨tracked, balanced⟩ ⟨succeeds, taken⟩
    have effect := effect_of_step tracked taken
    exact ⟨tracked_effect tracked effect succeeds,
      balanced_effect tracked effect succeeds balanced⟩

/-- While writes succeed, the operation in flight, its index and the vector agree. -/
theorem writes_each_once {queue : SessionQueue Message}
    (reachable : (system.restrict WritesSucceed).Reachable queue) :
    queue.writes.length ≤ 1 ∧ (queue.writes.length = 1 <-> queue.mq ≠ []) ∧
      (forall write, write ∈ queue.writes ->
        write.1 < queue.mq.length ∧ queue.mq[write.1]? = some write.2) ∧
      queue.accepted.Perm (queue.completed ++ queue.mq) ∧
      queue.started = queue.completed ++ queue.writes.map Prod.snd := by
  rcases kept_reachable reachable with ⟨tracked, balanced⟩
  rcases tracked with ⟨empty, idle⟩ | ⟨idx, m, flight, at_index⟩
  · refine ⟨by rw [idle]; exact Nat.zero_le 1, by simp only [idle, empty, List.length_nil, ne_eq,
      not_true_eq_false, Nat.zero_ne_one], ?_,
      balanced.accounted, balanced.in_flight⟩
    intro write member
    rw [idle] at member
    cases member
  · have some : queue.mq ≠ [] := fun empty => by rw [empty] at at_index; cases at_index
    refine ⟨by rw [flight]; exact Nat.le_refl 1, ?_, ?_, balanced.accounted, balanced.in_flight⟩
    · rw [flight]
      exact ⟨fun _ => some, fun _ => rfl⟩
    · intro write member
      rw [flight] at member
      cases List.mem_singleton.mp member
      rcases List.getElem?_eq_some_iff.mp at_index with ⟨within, _⟩
      exact ⟨within, at_index⟩

/-- Three messages and the completion of the first. -/
def threeSent : List (QueueLabel Nat) :=
  [.doSend 1, .doSend 2, .doSend 3, .onWrite 0 false]

def threeQueue : SessionQueue Nat where
  isOpen := true
  mq := [3, 2]
  writes := [(1, 2)]
  accepted := [1, 2, 3]
  started := [1, 2]
  completed := [1]

theorem threeQueue_reachable : (system.restrict WritesSucceed).Reachable threeQueue :=
  ⟨create, rfl, threeSent, Transition.System.Run.of_execute_guarded (by decide)⟩

theorem threeQueue_each_once :
    threeQueue.writes.length ≤ 1 ∧ (threeQueue.writes.length = 1 <-> threeQueue.mq ≠ []) ∧
      (forall write, write ∈ threeQueue.writes ->
        write.1 < threeQueue.mq.length ∧ threeQueue.mq[write.1]? = some write.2) ∧
      threeQueue.accepted.Perm (threeQueue.completed ++ threeQueue.mq) ∧
      threeQueue.started = threeQueue.completed ++ threeQueue.writes.map Prod.snd :=
  writes_each_once threeQueue_reachable

/-! ## The order of the messages -/

/-- The writes that have been started are the first messages accepted, in their order. -/
def InOrder (queue : SessionQueue Message) : Prop :=
  List.IsPrefix queue.started queue.accepted

/-- A write completes, without an error, with at most one message waiting, or with two when it
is the first of the vector. -/
def ShortQueue (queue : SessionQueue Message) (label : QueueLabel Message) : Prop :=
  match label with
  | .onWrite operation ec =>
      ec = false ∧
        (queue.mq.length ≤ 2 ∨
          queue.mq.length = 3 ∧ queue.writes[operation]?.map Prod.fst = some 0)
  | _ => True

instance (queue : SessionQueue Message) (label : QueueLabel Message) :
    Decidable (queue.ShortQueue label) :=
  match label with
  | .doSend _ => .isTrue trivial
  | .onWrite operation ec =>
      inferInstanceAs (Decidable (ec = false ∧
        (queue.mq.length ≤ 2 ∨
          queue.mq.length = 3 ∧ queue.writes[operation]?.map Prod.fst = some 0)))
  | .close => .isTrue trivial

/-- Where the messages accepted last are found: behind a swap, the one that was last
stands before the one that is being written. -/
inductive Arranged (queue : SessionQueue Message) : Prop
  | idle (empty : queue.mq = []) (flight : queue.writes = [])
      (order : queue.accepted = queue.completed)
  | straight (m : Message) (waiting : List Message) (stored : queue.mq = m :: waiting)
      (flight : queue.writes = [(0, m)])
      (order : queue.accepted = queue.completed ++ m :: waiting)
  | swapped (moved m : Message) (waiting : List Message)
      (stored : queue.mq = moved :: m :: waiting) (flight : queue.writes = [(1, m)])
      (order : queue.accepted = queue.completed ++ m :: moved :: waiting)

namespace Arranged

theorem tracked {queue : SessionQueue Message} (arranged : queue.Arranged) : queue.Tracked := by
  cases arranged with
  | idle empty flight => exact Or.inl ⟨empty, flight⟩
  | straight m waiting stored flight => exact Or.inr ⟨0, m, flight, by rw [stored]; rfl⟩
  | swapped moved m waiting stored flight => exact Or.inr ⟨1, m, flight, by rw [stored]; rfl⟩

theorem inOrder {queue : SessionQueue Message} (arranged : queue.Arranged)
    (in_flight : queue.started = queue.completed ++ queue.writes.map Prod.snd) :
    queue.InOrder := by
  unfold InOrder
  rw [in_flight]
  cases arranged with
  | idle _ flight order =>
      refine ⟨[], ?_⟩
      rw [flight, order, List.map_nil, List.append_nil, List.append_nil]
  | straight m waiting _ flight order =>
      rw [flight, order]
      exact ⟨waiting, List.append_assoc _ _ _⟩
  | swapped moved m waiting _ flight order =>
      rw [flight, order]
      exact ⟨moved :: waiting, List.append_assoc _ _ _⟩

theorem doSend {queue next : SessionQueue Message} {m : Message} (arranged : queue.Arranged)
    (effect : queue.Effect (.doSend m) next) : next.Arranged := by
  cases effect with
  | refused => exact arranged
  | first _ opened empty =>
      cases arranged with
      | idle _ _ order => exact .straight m [] rfl rfl (by rw [order])
      | straight _ _ stored => cases empty.symm.trans stored
      | swapped _ _ _ stored => cases empty.symm.trans stored
  | behind _ opened waiting =>
      cases arranged with
      | idle empty => exact False.elim (waiting empty)
      | straight ahead waiting stored flight order =>
          refine .straight ahead (waiting ++ [m]) ?_ flight ?_
          · exact congrArg (fun mq => mq ++ [m]) stored
          · exact (congrArg (fun accepted => accepted ++ [m]) order).trans
              (List.append_assoc _ _ _)
      | swapped moved ahead waiting stored flight order =>
          refine .swapped moved ahead (waiting ++ [m]) ?_ flight ?_
          · exact congrArg (fun mq => mq ++ [m]) stored
          · exact (congrArg (fun accepted => accepted ++ [m]) order).trans
              (List.append_assoc _ _ _)

/-- A completion that the guard allows leaves one or two messages behind, at most. -/
theorem onWrite {queue next : SessionQueue Message} (arranged : queue.Arranged)
    (effect : queue.Effect (.onWrite 0 false) next)
    (short : queue.ShortQueue (.onWrite 0 false)) : next.Arranged := by
  cases effect with
  | @last m flight only =>
      refine .idle rfl rfl ?_
      cases arranged with
      | idle empty => cases empty.symm.trans only
      | straight ahead waiting stored _ order =>
          cases stored.symm.trans only
          exact order
      | swapped _ _ _ stored => cases stored.symm.trans only
  | @next idx m others back flight at_index removed =>
      cases arranged with
      | idle empty =>
          rw [empty] at at_index
          cases at_index
      | straight ahead waiting stored atFirst order =>
          cases flight.symm.trans atFirst
          rcases short with ⟨_, few⟩
          rw [stored] at removed few
          rcases waiting with _ | ⟨second, _ | ⟨third, _ | ⟨fourth, more⟩⟩⟩
          · cases others <;> cases Option.some.inj removed
          · have rest : [second] = others ++ [back] := Option.some.inj removed
            rcases List.append_eq_singleton_iff.mp rest.symm with ⟨rfl, ⟨⟩⟩ | ⟨_, ⟨⟩⟩
            exact .straight back [] rfl rfl
              (order.trans (List.append_assoc queue.completed [m] [back]).symm)
          · have rest : [third, second] = others ++ [back] := Option.some.inj removed
            rcases others with _ | ⟨first, _ | ⟨other, others⟩⟩
            · cases rest
            · cases rest
              exact .swapped third back [] rfl rfl
                (order.trans (List.append_assoc queue.completed [m] [back, third]).symm)
            · cases others <;> cases rest
          · simp only [List.length_cons] at few
            omega
      | swapped moved ahead waiting stored atSecond order =>
          cases flight.symm.trans atSecond
          rcases short with ⟨_, few⟩
          rw [stored, flight] at few
          rcases waiting with _ | ⟨third, more⟩
          · rw [stored] at removed
            have rest : [moved] = others ++ [back] := Option.some.inj removed
            rcases List.append_eq_singleton_iff.mp rest.symm with ⟨rfl, ⟨⟩⟩ | ⟨_, ⟨⟩⟩
            exact .straight back [] rfl rfl
              (order.trans (List.append_assoc queue.completed [m] [back]).symm)
          · rcases few with few | ⟨_, first⟩
            · simp only [List.length_cons] at few
              omega
            · cases first

theorem effect {queue next : SessionQueue Message} {label : QueueLabel Message}
    (arranged : queue.Arranged) (effect : queue.Effect label next)
    (short : queue.ShortQueue label) : next.Arranged := by
  cases label with
  | doSend m => exact arranged.doSend effect
  | onWrite operation ec =>
      rcases short with ⟨rfl, few⟩
      have atFront : operation = 0 := by cases effect <;> rfl
      cases atFront
      exact arranged.onWrite effect ⟨rfl, few⟩
  | close =>
      cases effect
      cases arranged with
      | idle empty flight order => exact .idle empty flight order
      | straight m waiting stored flight order => exact .straight m waiting stored flight order
      | swapped moved m waiting stored flight order =>
          exact .swapped moved m waiting stored flight order

end Arranged

theorem succeeds_of_short {queue : SessionQueue Message} {label : QueueLabel Message}
    (short : queue.ShortQueue label) : queue.WritesSucceed label := by
  cases label with
  | onWrite operation ec => exact short.1
  | _ => rfl

structure InTurn (queue : SessionQueue Message) : Prop where
  arranged : queue.Arranged
  balanced : queue.Balanced

theorem inTurn_reachable {queue : SessionQueue Message}
    (reachable : (system.restrict ShortQueue).Reachable queue) : queue.InTurn := by
  refine reachable.invariant ?_ ?_
  · rintro queue rfl
    exact ⟨.idle rfl rfl rfl, List.Perm.nil, rfl⟩
  · rintro queue label next ⟨arranged, balanced⟩ ⟨short, taken⟩
    have effect := effect_of_step arranged.tracked taken
    exact ⟨arranged.effect effect short,
      balanced_effect arranged.tracked effect (succeeds_of_short short) balanced⟩

/-- Messages leave in their order as long as completions find few of them waiting. -/
theorem starts_in_order (queue : SessionQueue Message)
    (reachable : (system.restrict ShortQueue).Reachable queue) : queue.InOrder :=
  (inTurn_reachable reachable).arranged.inOrder (inTurn_reachable reachable).balanced.in_flight

theorem threeQueue_short : (system.restrict ShortQueue).Reachable threeQueue :=
  ⟨create, rfl, threeSent, Transition.System.Run.of_execute_guarded (by decide)⟩

theorem threeQueue_in_order : threeQueue.started = [1, 2] ∧ threeQueue.InOrder :=
  ⟨rfl, starts_in_order threeQueue threeQueue_short⟩

/-- With a fourth message the third is overtaken: the completion of the first writes it. -/
def overtaken : SessionQueue Nat where
  isOpen := true
  mq := [4, 2, 3]
  writes := [(2, 3)]
  accepted := [1, 2, 3, 4]
  started := [1, 3]
  completed := [1]

theorem overtaken_reachable : (system.restrict WritesSucceed).Reachable overtaken :=
  ⟨create, rfl, [.doSend 1, .doSend 2, .doSend 3, .doSend 4, .onWrite 0 false],
    Transition.System.Run.of_execute_guarded (by decide)⟩

theorem starts_out_of_order : ¬ forall queue : SessionQueue Nat,
    (system.restrict WritesSucceed).Reachable queue -> queue.InOrder := by
  intro ordered
  rcases ordered overtaken overtaken_reachable with ⟨later, accepted⟩
  cases accepted

/-! ## Writes that fail -/

/-- A write is in flight for what is queued, or the session is closed for good. -/
def NotStalled (queue : SessionQueue Message) : Prop :=
  (queue.mq ≠ [] -> queue.writes ≠ []) ∨
    queue.isOpen = false ∧ forall m, queue.doSend m = some queue

/-- A write fails only after the socket has been closed. -/
def FailsClosed (queue : SessionQueue Message) (label : QueueLabel Message) : Prop :=
  label.fails = true -> queue.isOpen = false

instance (queue : SessionQueue Message) (label : QueueLabel Message) :
    Decidable (queue.FailsClosed label) :=
  inferInstanceAs (Decidable (label.fails = true -> queue.isOpen = false))

theorem doSend_closed {queue : SessionQueue Message} (closed : queue.isOpen = false)
    (m : Message) : queue.doSend m = some queue := by
  unfold doSend
  rw [closed]
  rfl

theorem notStalled_of_closed {queue : SessionQueue Message} (closed : queue.isOpen = false) :
    queue.NotStalled :=
  Or.inr ⟨closed, doSend_closed closed⟩

theorem notStalled_of_tracked {queue : SessionQueue Message} (tracked : queue.Tracked) :
    queue.NotStalled := by
  refine Or.inl fun waiting => ?_
  rcases tracked with ⟨empty, _⟩ | ⟨idx, m, flight, _⟩
  · exact False.elim (waiting empty)
  · rw [flight]
    exact List.cons_ne_nil _ _

theorem doWrite_isOpen {queue next : SessionQueue Message}
    (taken : queue.doWrite = some next) : next.isOpen = queue.isOpen := by
  rcases Option.map_eq_some_iff.mp taken with ⟨_, _, rfl⟩
  rfl

theorem onWrite_isOpen {queue next : SessionQueue Message} {idx : Nat} {ec : Bool}
    (taken : queue.onWrite idx ec = some next) : next.isOpen = queue.isOpen := by
  unfold onWrite at taken
  split at taken
  · cases Option.some.inj taken
    rfl
  · split at taken
    · cases taken
    · rcases Option.bind_eq_some_iff.mp taken with ⟨mq, _, rest⟩
      simp only at rest
      split at rest
      · have kept := doWrite_isOpen rest
        exact kept
      · cases Option.some.inj rest
        rfl

/-- No step opens a socket that has been closed. -/
theorem closed_step {queue next : SessionQueue Message} {label : QueueLabel Message}
    (closed : queue.isOpen = false) (taken : queue.step label = some next) :
    next.isOpen = false := by
  cases label with
  | doSend m =>
      cases Option.some.inj ((doSend_closed closed m).symm.trans taken)
      exact closed
  | onWrite operation ec =>
      rcases Option.bind_eq_some_iff.mp taken with ⟨write, _, completes⟩
      exact (onWrite_isOpen completes).trans closed
  | close =>
      cases Option.some.inj taken
      rfl

/-- Until the socket is closed the operation in flight is tracked. -/
def TrackedOpen (queue : SessionQueue Message) : Prop :=
  queue.isOpen = true -> queue.Tracked

theorem trackedOpen_reachable {queue : SessionQueue Message}
    (reachable : (system.restrict FailsClosed).Reachable queue) : queue.TrackedOpen := by
  refine reachable.invariant ?_ ?_
  · rintro queue rfl _
    exact Or.inl ⟨rfl, rfl⟩
  · rintro queue label next tracked ⟨fails, taken⟩ stillOpen
    cases opened : queue.isOpen with
    | false => cases (closed_step opened taken).symm.trans stillOpen
    | true =>
        have effect := effect_of_step (tracked opened) taken
        have succeeds : label.fails = false := by
          cases failed : label.fails with
          | false => rfl
          | true => cases (fails failed).symm.trans opened
        exact tracked_effect (tracked opened) effect succeeds

/-- A session goes on writing exactly until a write fails on an open socket. -/
theorem notStalled_iff (queue : SessionQueue Message)
    (reachable : (system.restrict FailsClosed).Reachable queue) :
    queue.NotStalled ∧ forall label next, queue.step label = some next ->
      (next.NotStalled <-> queue.FailsClosed label) := by
  have tracked := trackedOpen_reachable reachable
  cases opened : queue.isOpen with
  | false =>
      refine ⟨notStalled_of_closed opened, fun label next taken => ?_⟩
      exact ⟨fun _ _ => opened, fun _ => notStalled_of_closed (closed_step opened taken)⟩
  | true =>
      refine ⟨notStalled_of_tracked (tracked opened), fun label next taken => ?_⟩
      have effect := effect_of_step (tracked opened) taken
      cases failed : label.fails with
      | false =>
          refine ⟨fun _ fails => Bool.noConfusion (failed.symm.trans fails), fun _ => ?_⟩
          exact notStalled_of_tracked (tracked_effect (tracked opened) effect failed)
      | true =>
          refine ⟨fun kept _ => ?_, fun fails => Bool.noConfusion ((fails failed).symm.trans opened)⟩
          cases effect with
          | @failed idx m flight =>
              have waiting : queue.mq ≠ [] := by
                rcases tracked opened with ⟨_, idle⟩ | ⟨bound, _, _, at_index⟩
                · cases idle.symm.trans flight
                · intro empty
                  rw [empty] at at_index
                  cases at_index
              rcases kept with writing | ⟨closed, _⟩
              · exact False.elim (writing waiting rfl)
              · exact closed
          | _ => cases failed

/-- The socket is closed, and then the write in flight fails. -/
def abandoned : SessionQueue Nat where
  isOpen := false
  mq := [1, 2]
  writes := []
  accepted := [1, 2]
  started := [1]
  completed := []

theorem abandoned_reachable : (system.restrict FailsClosed).Reachable abandoned :=
  ⟨create, rfl, [.doSend 1, .doSend 2, .close, .onWrite 0 true],
    Transition.System.Run.of_execute_guarded (by decide)⟩

theorem abandoned_notStalled :
    abandoned.NotStalled ∧ forall label next, abandoned.step label = some next ->
      (next.NotStalled <-> abandoned.FailsClosed label) :=
  notStalled_iff abandoned abandoned_reachable

/-- The write fails on an open socket, and what is sent after that is only queued. -/
def stalled : SessionQueue Nat where
  isOpen := true
  mq := [1, 2]
  writes := []
  accepted := [1, 2]
  started := [1]
  completed := []

theorem stalled_reachable : system.Reachable stalled :=
  ⟨create, rfl, [.doSend 1, .onWrite 0 true, .doSend 2],
    Transition.System.Run.of_execute (by decide)⟩

theorem stalls : ¬ forall queue : SessionQueue Nat, system.Reachable queue ->
    queue.NotStalled := by
  intro kept
  rcases kept stalled stalled_reachable with writing | ⟨closed, _⟩
  · exact writing (List.cons_ne_nil _ _) rfl
  · cases closed

end SessionQueue

end EasyProspect
