import Mathlib.Data.List.Basic

namespace Transition

/-!
# Labelled transition systems

A component that takes one step after another is given by its initial states
and a labelled step relation.  A run is a finite sequence of steps; its labels
are kept, because a condition on a run is a condition on the labels and on the
states they leave.

The two rules used throughout are the invariant rule (what holds initially and
is preserved by a step holds of every reachable state) and the restriction of a
system to the steps that meet a guard.  An executable system is presented by a
partial step function, and then a run can be computed.
-/

universe u v w x

/-- Initial states and labelled steps of a component. -/
structure System (State : Type u) (Label : Type v) where
  initial : State -> Prop
  step : State -> Label -> State -> Prop

namespace System

variable {State : Type u} {Label : Type v}

/-- A finite run.  The last step is the outermost constructor, so induction
over a run follows the order in which the steps are taken. -/
inductive Run (system : System State Label) : State -> List Label -> State -> Prop
  | refl (state : State) : Run system state [] state
  | snoc {first middle last : State} {labels : List Label} {label : Label} :
      Run system first labels middle -> system.step middle label last ->
        Run system first (labels ++ [label]) last

/-- A state is reachable when a run from some initial state ends in it. -/
def Reachable (system : System State Label) (state : State) : Prop :=
  Exists fun first => system.initial first ∧ Exists fun labels => system.Run first labels state

variable {system : System State Label}

theorem Run.single {first last : State} {label : Label}
    (taken : system.step first label last) : system.Run first [label] last :=
  Run.snoc (Run.refl first) taken

theorem Run.trans {first middle last : State} {before after : List Label}
    (early : system.Run first before middle) (late : system.Run middle after last) :
    system.Run first (before ++ after) last := by
  induction late with
  | refl => simpa only [List.append_nil] using early
  | snoc run taken inductionHypothesis =>
      rw [← List.append_assoc]
      exact Run.snoc inductionHypothesis taken

/-- What every step preserves, a run preserves. -/
theorem Run.preserves {invariant : State -> Prop}
    (preserved : forall state label next, invariant state -> system.step state label next ->
      invariant next)
    {first last : State} {labels : List Label} (run : system.Run first labels last)
    (start : invariant first) : invariant last := by
  induction run with
  | refl => exact start
  | snoc run taken inductionHypothesis => exact preserved _ _ _ inductionHypothesis taken

/-- The invariant rule. -/
theorem Reachable.invariant {invariant : State -> Prop}
    (initially : forall state, system.initial state -> invariant state)
    (preserved : forall state label next, invariant state -> system.step state label next ->
      invariant next)
    {state : State} (reachable : system.Reachable state) : invariant state := by
  rcases reachable with ⟨first, start, labels, run⟩
  exact run.preserves preserved (initially first start)

theorem Reachable.initially {state : State} (start : system.initial state) :
    system.Reachable state :=
  ⟨state, start, [], Run.refl state⟩

theorem Reachable.extend {state last : State} {labels : List Label}
    (reachable : system.Reachable state) (run : system.Run state labels last) :
    system.Reachable last := by
  rcases reachable with ⟨first, start, before, early⟩
  exact ⟨first, start, before ++ labels, early.trans run⟩

/-- The invariant rule for steps from reachable states only. -/
theorem Reachable.invariant_reachable {invariant : State -> Prop}
    (initially : forall state, system.initial state -> invariant state)
    (preserved : forall state label next, system.Reachable state -> invariant state ->
      system.step state label next -> invariant next)
    {state : State} (reachable : system.Reachable state) : invariant state := by
  rcases reachable with ⟨first, start, labels, run⟩
  induction run with
  | refl => exact initially _ start
  | snoc run taken inductionHypothesis =>
      exact preserved _ _ _ ⟨_, start, _, run⟩ inductionHypothesis taken

/-! ## Runs whose steps all meet a condition -/

/-- Keep only the steps whose source state and label meet the guard. -/
def restrict (system : System State Label) (guard : State -> Label -> Prop) :
    System State Label where
  initial := system.initial
  step := fun state label next => guard state label ∧ system.step state label next

theorem Run.of_restrict {guard : State -> Label -> Prop} {first last : State}
    {labels : List Label} (run : (system.restrict guard).Run first labels last) :
    system.Run first labels last := by
  induction run with
  | refl => exact Run.refl _
  | snoc run taken inductionHypothesis => exact Run.snoc inductionHypothesis taken.2

theorem Reachable.of_restrict {guard : State -> Label -> Prop} {state : State}
    (reachable : (system.restrict guard).Reachable state) : system.Reachable state := by
  rcases reachable with ⟨first, start, labels, run⟩
  exact ⟨first, start, labels, run.of_restrict⟩

/-- A run under labels that meet the guard in every state. -/
theorem Run.restrict_of {guard : State -> Label -> Prop} {first last : State}
    {labels : List Label} (run : system.Run first labels last)
    (met : forall label, label ∈ labels -> forall state, guard state label) :
    (system.restrict guard).Run first labels last := by
  induction run with
  | refl => exact Run.refl _
  | snoc run taken inductionHypothesis =>
      refine Run.snoc (inductionHypothesis fun label among => ?_) ⟨?_, taken⟩
      · exact met label (List.mem_append_left _ among)
      · exact met _ (List.mem_append_right _ (List.mem_singleton.mpr rfl)) _

theorem Run.weaken {guard weaker : State -> Label -> Prop}
    (implied : forall state label, guard state label -> weaker state label)
    {first last : State} {labels : List Label}
    (run : (system.restrict guard).Run first labels last) :
    (system.restrict weaker).Run first labels last := by
  induction run with
  | refl => exact Run.refl _
  | snoc run taken inductionHypothesis =>
      exact Run.snoc inductionHypothesis ⟨implied _ _ taken.1, taken.2⟩

/-- A run under a stronger guard is one under a weaker guard. -/
theorem Reachable.weaken {guard weaker : State -> Label -> Prop}
    (implied : forall state label, guard state label -> weaker state label) {state : State}
    (reachable : (system.restrict guard).Reachable state) :
    (system.restrict weaker).Reachable state := by
  rcases reachable with ⟨first, start, labels, run⟩
  exact ⟨first, start, labels, run.weaken implied⟩

/-! ## Components -/

/-- A component sees each step of the whole system as a step of its own with the same
label, or does not see it at all; so it is only ever seen in states it can reach. -/
theorem Reachable.component_reachable {Part : Type w} (component : System Part Label)
    (view : State -> Part)
    (initially : forall state, system.initial state -> component.initial (view state))
    (seen : forall state label next, system.Reachable state -> system.step state label next ->
      view next = view state ∨ component.step (view state) label (view next))
    {state : State} (reachable : system.Reachable state) :
    component.Reachable (view state) := by
  rcases reachable with ⟨first, start, labels, run⟩
  induction run with
  | refl => exact .initially (initially _ start)
  | snoc run taken inductionHypothesis =>
      rcases seen _ _ _ ⟨_, start, _, run⟩ taken with same | own
      · rw [same]
        exact inductionHypothesis
      · exact inductionHypothesis.extend (Run.single own)

theorem Reachable.component {Part : Type w} (component : System Part Label)
    (view : State -> Part)
    (initially : forall state, system.initial state -> component.initial (view state))
    (seen : forall state label next, system.step state label next ->
      view next = view state ∨ component.step (view state) label (view next))
    {state : State} (reachable : system.Reachable state) :
    component.Reachable (view state) :=
  reachable.component_reachable component view initially fun state label next _ =>
    seen state label next

/-- The same for a component with labels of its own. -/
theorem Reachable.projected {Part : Type w} {PartLabel : Type x}
    (component : System Part PartLabel) (view : State -> Part)
    (initially : forall state, system.initial state -> component.initial (view state))
    (seen : forall state label next, system.step state label next ->
      view next = view state ∨
        Exists fun own => component.step (view state) own (view next))
    {state : State} (reachable : system.Reachable state) :
    component.Reachable (view state) := by
  rcases reachable with ⟨first, start, labels, run⟩
  induction run with
  | refl => exact .initially (initially _ start)
  | snoc run taken inductionHypothesis =>
      rcases seen _ _ _ taken with same | ⟨own, taken⟩
      · rw [same]
        exact inductionHypothesis
      · exact inductionHypothesis.extend (Run.single taken)

/-! ## Executable systems -/

/-- The system of a partial step function; a label that is not enabled gives `none`. -/
def ofStep (initial : State -> Prop) (step : State -> Label -> Option State) :
    System State Label where
  initial := initial
  step := fun state label next => step state label = some next

/-- Take a list of steps in order, stopping where one is not enabled. -/
def execute (step : State -> Label -> Option State) : State -> List Label -> Option State
  | state, [] => some state
  | state, label :: labels => (step state label).bind fun next => execute step next labels

/-- A computed run passes through what its first part computes. -/
theorem execute_append {step : State -> Label -> Option State} {first last : State}
    {before after : List Label} (computed : execute step first (before ++ after) = some last) :
    Exists fun middle => execute step first before = some middle ∧
      execute step middle after = some last := by
  induction before generalizing first with
  | nil => exact ⟨first, rfl, computed⟩
  | cons label before inductionHypothesis =>
      rcases Option.bind_eq_some_iff.mp computed with ⟨next, taken, rest⟩
      rcases inductionHypothesis rest with ⟨middle, early, late⟩
      exact ⟨middle, Option.bind_eq_some_iff.mpr ⟨next, taken, early⟩, late⟩

/-- A computed run is a run of the relation. -/
theorem Run.of_execute {initial : State -> Prop} {step : State -> Label -> Option State}
    {first last : State} {labels : List Label} (computed : execute step first labels = some last) :
    (ofStep initial step).Run first labels last := by
  induction labels generalizing first with
  | nil =>
      have same : first = last := Option.some.inj computed
      exact same ▸ Run.refl first
  | cons label labels inductionHypothesis =>
      rcases Option.bind_eq_some_iff.mp computed with ⟨next, taken, rest⟩
      have head : (ofStep initial step).Run first [label] next := Run.single taken
      exact head.trans (inductionHypothesis rest)

/-- A step function that checks the guard first. -/
def guarded (guard : State -> Label -> Prop) [forall state label, Decidable (guard state label)]
    (step : State -> Label -> Option State) (state : State) (label : Label) : Option State :=
  if guard state label then step state label else none

/-- A computed run that checks the guard is a run of the restricted system. -/
theorem Run.of_execute_guarded {initial : State -> Prop} {step : State -> Label -> Option State}
    {guard : State -> Label -> Prop} [forall state label, Decidable (guard state label)]
    {first last : State} {labels : List Label}
    (computed : execute (guarded guard step) first labels = some last) :
    ((ofStep initial step).restrict guard).Run first labels last := by
  induction labels generalizing first with
  | nil =>
      have same : first = last := Option.some.inj computed
      exact same ▸ Run.refl first
  | cons label labels inductionHypothesis =>
      rcases Option.bind_eq_some_iff.mp computed with ⟨next, taken, rest⟩
      rcases Option.ite_none_right_eq_some.mp taken with ⟨met, stepped⟩
      have head : ((ofStep initial step).restrict guard).Run first [label] next :=
        Run.single ⟨met, stepped⟩
      exact head.trans (inductionHypothesis rest)

/-- Where a computed run ends is reachable. -/
theorem Reachable.of_execute {initial : State -> Prop} {step : State -> Label -> Option State}
    {first : State} {labels : List Label} (start : initial first)
    (taken : (execute step first labels).isSome = true) :
    (ofStep initial step).Reachable ((execute step first labels).get taken) :=
  ⟨first, start, labels, .of_execute (Option.some_get taken).symm⟩

theorem Reachable.of_execute_guarded {initial : State -> Prop}
    {step : State -> Label -> Option State} {guard : State -> Label -> Prop}
    [forall state label, Decidable (guard state label)] {first : State} {labels : List Label}
    (start : initial first)
    (taken : (execute (guarded guard step) first labels).isSome = true) :
    ((ofStep initial step).restrict guard).Reachable
      ((execute (guarded guard step) first labels).get taken) :=
  ⟨first, start, labels, .of_execute_guarded (Option.some_get taken).symm⟩

/-- A check of the state that a computed run ends in shows that there is such a run. -/
theorem taken_of_checked {computed : Option State} {check : State -> Bool}
    (checked : computed.map check = some true) : computed.isSome = true := by
  rcases Option.map_eq_some_iff.mp checked with ⟨last, ends, _⟩
  rw [ends]
  rfl

theorem checked_get {computed : Option State} {check : State -> Bool}
    (checked : computed.map check = some true) (taken : computed.isSome = true) :
    check (computed.get taken) = true := by
  rcases Option.map_eq_some_iff.mp checked with ⟨last, ends, holds⟩
  rw [Option.get_of_eq_some taken ends]
  exact holds

end System

/-! ## Machines with outputs -/

namespace Machine

variable {State : Type u} {Input : Type v} {Output : Type w}
variable (step : State -> Input -> State × List Output)

/-- Feed a list of inputs to a deterministic machine and collect its outputs. -/
def run : State -> List Input -> State × List Output
  | state, [] => (state, [])
  | state, input :: inputs =>
      let first := step state input
      let later := run first.1 inputs
      (later.1, first.2 ++ later.2)

variable {step}

theorem run_cons (state : State) (input : Input) (inputs : List Input) :
    run step state (input :: inputs) =
      ((run step (step state input).1 inputs).1,
        (step state input).2 ++ (run step (step state input).1 inputs).2) := rfl

/-- A state that ignores every input is never left and gives no output. -/
theorem run_of_absorbing {state : State} (absorbing : forall input, step state input = (state, []))
    (inputs : List Input) : run step state inputs = (state, []) := by
  induction inputs with
  | nil => rfl
  | cons input inputs inductionHypothesis =>
      rw [run_cons, absorbing, inductionHypothesis, List.append_nil]

theorem run_append (state : State) (early late : List Input) :
    run step state (early ++ late) =
      ((run step (run step state early).1 late).1,
        (run step state early).2 ++ (run step (run step state early).1 late).2) := by
  induction early generalizing state with
  | nil => rfl
  | cons input early inductionHypothesis =>
      rw [List.cons_append, run_cons, run_cons, inductionHypothesis, List.append_assoc]

end Machine

end Transition
