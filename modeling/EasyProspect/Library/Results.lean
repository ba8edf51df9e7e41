import Mathlib.Data.List.Forall2

namespace Results

/-!
# Computations that fail with an error

A computation in several parts succeeds when each of its parts does.
-/

universe u

variable {Fault First Result : Type u}

/-- Both parts of a computation that succeeds have succeeded. -/
theorem ok_of_bind {result : Except Fault First} {next : First -> Except Fault Result}
    {last : Result} (succeeds : result >>= next = .ok last) :
    Exists fun value => result = .ok value ∧ next value = .ok last := by
  cases result with
  | ok value => exact ⟨value, rfl, succeeds⟩
  | error fault => cases succeeds

/-- One of the parts of a computation that fails has failed. -/
theorem error_of_bind {result : Except Fault First} {next : First -> Except Fault Result}
    {fault : Fault} (failed : result >>= next = .error fault) :
    result = .error fault ∨
      Exists fun value => result = .ok value ∧ next value = .error fault := by
  cases result with
  | error other => exact Or.inl (congrArg Except.error (Except.error.inj failed))
  | ok value => exact Or.inr ⟨value, rfl, failed⟩

/-- A computation that succeeds does so whatever its errors are made to be. -/
theorem ok_of_mapError {Other : Type u} {result : Except Fault Result} {wrap : Fault -> Other}
    {value : Result} (succeeds : result.mapError wrap = .ok value) : result = .ok value := by
  cases result with
  | ok _ => exact congrArg Except.ok (Except.ok.inj succeeds)
  | error _ => cases succeeds

/-- Each result of a loop comes from the input at its place. -/
theorem ok_of_mapM {function : First -> Except Fault Result} {inputs : List First}
    {outputs : List Result} (succeeds : inputs.mapM function = .ok outputs) :
    List.Forall₂ (fun input output => function input = .ok output) inputs outputs := by
  induction inputs generalizing outputs with
  | nil =>
      cases succeeds
      exact .nil
  | cons input inputs inductionHypothesis =>
      rw [List.mapM_cons] at succeeds
      rcases ok_of_bind succeeds with ⟨output, computed, rest⟩
      rcases ok_of_bind rest with ⟨others, later, collected⟩
      cases collected
      exact .cons computed (inductionHypothesis later)

/-- What holds of every result of a function holds of every result of a loop. -/
theorem all_of_mapM {function : First -> Except Fault Result} {property : Result -> Prop}
    {inputs : List First} {outputs : List Result} (succeeds : inputs.mapM function = .ok outputs)
    (each : forall input output, input ∈ inputs -> function input = .ok output ->
      property output) :
    forall output, output ∈ outputs -> property output := by
  have pairs := ok_of_mapM succeeds
  clear succeeds
  induction pairs with
  | nil => exact fun _ none => absurd none List.not_mem_nil
  | cons computed _ inductionHypothesis =>
      intro output member
      rcases List.mem_cons.mp member with rfl | later
      · exact each _ _ List.mem_cons_self computed
      · refine inductionHypothesis (fun input output inside => ?_) output later
        exact each input output (List.mem_cons_of_mem _ inside)

/-- A loop that computes a result for each input succeeds when each computation does. -/
theorem mapM_ok {function : First -> Except Fault Result} {inputs : List First}
    (each : forall input, input ∈ inputs -> Exists fun output => function input = .ok output) :
    Exists fun outputs => inputs.mapM function = .ok outputs := by
  induction inputs with
  | nil => exact ⟨[], rfl⟩
  | cons input inputs inductionHypothesis =>
      rcases each input List.mem_cons_self with ⟨output, computed⟩
      rcases inductionHypothesis fun other member =>
        each other (List.mem_cons_of_mem _ member) with ⟨outputs, later⟩
      refine ⟨output :: outputs, ?_⟩
      rw [List.mapM_cons, computed, later]
      rfl

/-- A loop succeeds when each of its steps does and keeps what the next one needs. -/
theorem foldlM_ok {State Input : Type u} {step : State -> Input -> Except Fault State}
    {invariant : State -> Prop} {inputs : List Input} {state : State} (start : invariant state)
    (kept : forall state input, input ∈ inputs -> invariant state ->
      Exists fun next => step state input = .ok next ∧ invariant next) :
    Exists fun last => inputs.foldlM step state = .ok last ∧ invariant last := by
  induction inputs generalizing state with
  | nil => exact ⟨state, rfl, start⟩
  | cons input inputs inductionHypothesis =>
      rcases kept state input List.mem_cons_self start with ⟨next, stepped, holds⟩
      rcases inductionHypothesis holds fun state input member =>
        kept state input (List.mem_cons_of_mem _ member) with ⟨last, looped, ended⟩
      refine ⟨last, ?_, ended⟩
      rw [List.foldlM_cons, stepped]
      exact looped

/-- A loop that computes each result twice and collects it. -/
theorem ok_of_collect {function : First -> Except Fault Result} {inputs : List First}
    {before outputs : List Result}
    (succeeds : inputs.foldlM (fun collected input => do
      let _ <- function input
      let output <- function input
      .ok (collected ++ [output])) before = .ok outputs) :
    Exists fun collected => outputs = before ++ collected ∧
      List.Forall₂ (fun input output => function input = .ok output) inputs collected := by
  induction inputs generalizing before with
  | nil =>
      cases succeeds
      exact ⟨[], (List.append_nil _).symm, .nil⟩
  | cons input inputs inductionHypothesis =>
      rw [List.foldlM_cons] at succeeds
      rcases ok_of_bind succeeds with ⟨middle, step, rest⟩
      rcases ok_of_bind step with ⟨output, computed, again⟩
      rw [computed] at again
      cases again
      rcases inductionHypothesis rest with ⟨collected, whole, each⟩
      refine ⟨output :: collected, ?_, .cons computed each⟩
      rw [whole, List.append_assoc]
      rfl

/-- The results that are found are those computed. -/
theorem filterMap_of_forall₂ {relation : First -> Result -> Prop} {find : First -> Option Result}
    {inputs : List First} {outputs : List Result}
    (finds : forall input output, relation input output -> find input = some output)
    (pairs : List.Forall₂ relation inputs outputs) :
    inputs.filterMap find = outputs ∧
      forall input, input ∈ inputs -> (find input).isSome = true := by
  induction pairs with
  | nil => exact ⟨rfl, fun _ none => absurd none List.not_mem_nil⟩
  | @cons input output inputs outputs related _ inductionHypothesis =>
      have found := finds input output related
      refine ⟨?_, fun other member => ?_⟩
      · rw [List.filterMap_cons_some found, inductionHypothesis.1]
      · rcases List.mem_cons.mp member with rfl | later
        · exact Option.isSome_of_eq_some found
        · exact inductionHypothesis.2 other later

end Results
