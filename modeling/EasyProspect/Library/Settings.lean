import EasyProspect.Library.Results
import Mathlib.Data.List.Infix
import Mathlib.Logic.Function.Basic

namespace EasyProspect

/-!
# Settings that are changed by calls

The settings of an object have values of different types.  A call is to change one setting, the
one it is named after.  What it does change is one setting as well, but maybe another one.

After a list of calls each setting ought to have what the calls that are named after it have made
of its initial value.  Where some calls that are named after one setting assign another instead,
this is so exactly as long as they only assign what is there anyhow, and the calls without them
leave the first setting in the same state as all calls ought to.
-/

namespace Settings

universe u v w x

variable {Setting : Type u} [DecidableEq Setting] {Value : Setting -> Type v}

structure Change (Value : Setting -> Type v) where
  setting : Setting
  change : Value setting -> Value setting

def Change.apply (values : forall setting, Value setting) (change : Change Value) :
    forall setting, Value setting :=
  Function.update values change.setting (change.change (values change.setting))

def after (initial : forall setting, Value setting) (changes : List (Change Value)) :
    forall setting, Value setting :=
  changes.foldl Change.apply initial

variable {initial : forall setting, Value setting} {setting : Setting}

theorem after_concat (changes : List (Change Value)) (last : Change Value) :
    after initial (changes ++ [last]) = last.apply (after initial changes) := by
  rw [after, List.foldl_append]
  rfl

theorem Change.apply_other (values : forall setting, Value setting) {change : Change Value}
    (other : setting ≠ change.setting) : change.apply values setting = values setting :=
  Function.update_of_ne other _ values

/-- Two states that agree on a setting agree on it after a change. -/
theorem Change.apply_congr {left right : forall setting, Value setting}
    (agree : left setting = right setting) (change : Change Value) :
    change.apply left setting = change.apply right setting := by
  by_cases same : setting = change.setting
  · subst same
    rw [apply, apply, Function.update_self, Function.update_self, agree]
  · rw [apply_other left same, apply_other right same, agree]

theorem after_append (first second : List (Change Value)) :
    after initial (first ++ second) = after (after initial first) second :=
  List.foldl_append

/-- A setting that no change is about stays as it was. -/
theorem after_other {changes : List (Change Value)}
    (other : forall change, change ∈ changes -> setting ≠ change.setting) :
    after initial changes setting = initial setting := by
  induction changes generalizing initial with
  | nil => rfl
  | cons change changes inductionHypothesis =>
      have rest : after (change.apply initial) changes setting =
          change.apply initial setting :=
        inductionHypothesis fun later member => other later (List.mem_cons_of_mem change member)
      exact rest.trans (Change.apply_other initial (other change List.mem_cons_self))

/-! ## Sources of changes -/

/-- What is given to a source changes one setting. -/
structure Source (Given : Type w) (Value : Setting -> Type v) where
  target : Setting
  change : Given -> Value target -> Value target

namespace Source

variable {Given : Type w}

/-- The change for what may be given. -/
def changes (source : Source Given Value) (given : Option Given) : List (Change Value) :=
  given.toList.map fun value => ⟨source.target, source.change value⟩

/-- The setting with what is given, or as it was. -/
def settled (source : Source Given Value) (given : Option Given) (old : Value source.target) :
    Value source.target :=
  match given with
  | none => old
  | some value => source.change value old

theorem after_changes (source : Source Given Value) (given : Option Given) :
    after initial (source.changes given) source.target =
      source.settled given (initial source.target) := by
  cases given with
  | none => rfl
  | some value => exact Function.update_self ..

omit [DecidableEq Setting] in
theorem target_of_mem {source : Source Given Value} {given : Option Given}
    {change : Change Value} (member : change ∈ source.changes given) :
    change.setting = source.target := by
  rcases List.mem_map.mp member with ⟨value, _, rfl⟩
  rfl

section Family

variable {Index : Type x} {source : Index -> Source Given Value} {indices : List Index}

/-- Sources of different settings do not interfere. -/
theorem after_sources (distinct : (indices.map fun index => (source index).target).Nodup)
    (given : Index -> Option Given) {index : Index} (listed : index ∈ indices) :
    after initial (indices.flatMap fun index => (source index).changes (given index))
        (source index).target =
      (source index).settled (given index) (initial (source index).target) := by
  induction indices generalizing initial with
  | nil => exact absurd listed List.not_mem_nil
  | cons first others inductionHypothesis =>
      rw [List.map_cons, List.nodup_cons] at distinct
      rw [List.flatMap_cons, after_append]
      rcases List.mem_cons.mp listed with rfl | later
      · rw [after_other, after_changes]
        intro change member same
        rcases List.mem_flatMap.mp member with ⟨other, inside, changed⟩
        rw [target_of_mem changed] at same
        exact distinct.1 (List.mem_map.mpr ⟨other, inside, same.symm⟩)
      · rw [inductionHypothesis distinct.2 later, after_other]
        intro change member same
        rw [target_of_mem member] at same
        exact distinct.1 (List.mem_map.mpr ⟨index, later, same⟩)

/-- Other settings stay as they were. -/
theorem after_unlisted (given : Index -> Option Given)
    (unlisted : forall index, index ∈ indices -> setting ≠ (source index).target) :
    after initial (indices.flatMap fun index => (source index).changes (given index)) setting =
      initial setting := by
  refine after_other fun change member same => ?_
  rcases List.mem_flatMap.mp member with ⟨index, inside, changed⟩
  exact unlisted index inside (same.trans (target_of_mem changed))

end Family

end Source

section Lift

variable {Wider : Type w} [DecidableEq Wider] {WiderValue : Wider -> Type v}
  (shared : Setting -> Wider)

/-- A change of one of the settings that an object shares with a part of it. -/
def Change.lift (change : Change fun setting => WiderValue (shared setting)) :
    Change WiderValue :=
  ⟨shared change.setting, change.change⟩

variable {shared}

theorem Change.lift_apply (injective : Function.Injective shared)
    (change : Change fun setting => WiderValue (shared setting))
    (values : forall setting, WiderValue setting) (setting : Setting) :
    (change.lift shared).apply values (shared setting) =
      change.apply (fun setting => values (shared setting)) setting := by
  by_cases same : setting = change.setting
  · subst same
    rw [apply, apply, Function.update_self]
    exact Function.update_self ..
  · rw [apply_other _ same]
    exact apply_other values fun other => same (injective other)

/-- An object is changed where the change of its part changes the part. -/
theorem Change.eq_lift_apply (injective : Function.Injective shared)
    {change : Change fun setting => WiderValue (shared setting)}
    {values next : forall setting, WiderValue setting}
    (part : forall setting, next (shared setting) =
      change.apply (fun setting => values (shared setting)) setting)
    (rest : forall wider, (forall setting, wider ≠ shared setting) -> next wider = values wider) :
    next = (change.lift shared).apply values := by
  funext wider
  by_cases inside : Exists fun setting => wider = shared setting
  · rcases inside with ⟨setting, same⟩
    subst same
    rw [lift_apply injective, part]
  · have own : forall setting, wider ≠ shared setting := fun setting same =>
      inside ⟨setting, same⟩
    rw [rest wider own]
    exact (apply_other values (own change.setting)).symm

end Lift

/-! ## Misdirected calls -/

/-- What the calls are named after and what they do.  Some calls that are named after one setting
assign another. -/
structure Misdirection (Call : Type w) (Value : Setting -> Type v) where
  named : Call -> Change Value
  missed : Setting
  hit : Setting
  different : hit ≠ missed
  /-- What a misdirected call assigns. -/
  slips : Call -> Option (Value hit)
  slipped : forall call value, slips call = some value -> (named call).setting = missed

namespace Misdirection

variable {Call : Type w} (calls : Misdirection Call Value)
variable (initial) (made : List Call)

def actual (call : Call) : Change Value :=
  match calls.slips call with
  | none => calls.named call
  | some value => ⟨calls.hit, fun _ => value⟩

omit [DecidableEq Setting] in
theorem actual_proper {call : Call} (proper : calls.slips call = none) :
    calls.actual call = calls.named call := by
  rw [actual, proper]

omit [DecidableEq Setting] in
theorem actual_slip {call : Call} {value : Value calls.hit} (slip : calls.slips call = some value) :
    calls.actual call = ⟨calls.hit, fun _ => value⟩ := by
  rw [actual, slip]

/-- What the calls ought to make of a setting: for one that they assign, the value last set. -/
def lastSet : forall setting, Value setting :=
  after initial (made.map calls.named)

def reached : forall setting, Value setting :=
  after initial (made.map calls.actual)

/-- Each call changes only the setting it is named after. -/
def OnlyNamed : Prop :=
  forall before call, before ++ [call] <+: made -> forall setting,
    setting ≠ (calls.named call).setting ->
      calls.reached initial (before ++ [call]) setting = calls.reached initial before setting

/-- A misdirected call assigns what the setting that it hits was last set to. -/
def Harmless : Prop :=
  forall before call, before ++ [call] <+: made -> forall value, calls.slips call = some value ->
    value = calls.lastSet initial before calls.hit

/-- The calls that are not misdirected. -/
def properCalls : List Call :=
  made.filter fun call => (calls.slips call).isNone

/-- The misdirected calls make no difference. -/
structure Unnoticed : Prop where
  harmless : calls.Harmless initial made
  missed : calls.lastSet initial (calls.properCalls made) calls.missed =
    calls.lastSet initial made calls.missed

variable {calls} {initial} {made}

theorem reached_concat (made : List Call) (call : Call) :
    calls.reached initial (made ++ [call]) =
      (calls.actual call).apply (calls.reached initial made) := by
  rw [reached, List.map_append, List.map_singleton, after_concat]
  rfl

theorem lastSet_concat (made : List Call) (call : Call) :
    calls.lastSet initial (made ++ [call]) =
      (calls.named call).apply (calls.lastSet initial made) := by
  rw [lastSet, List.map_append, List.map_singleton, after_concat]
  rfl

/-- As long as the misdirected calls do no harm, all settings but one have the values last
set. -/
theorem reached_of_harmless (harmless : calls.Harmless initial made)
    (other : setting ≠ calls.missed) :
    calls.reached initial made setting = calls.lastSet initial made setting := by
  induction made using List.reverseRecOn with
  | nil => rfl
  | append_singleton made call before =>
      have early : calls.Harmless initial made := fun earlier other within =>
        harmless earlier other (within.trans (List.prefix_append made [call]))
      rw [reached_concat, lastSet_concat]
      cases slip : calls.slips call with
      | none =>
          rw [calls.actual_proper slip]
          exact Change.apply_congr (before early) _
      | some value =>
          have missedOther : setting ≠ (calls.named call).setting := by
            rwa [calls.slipped call value slip]
          rw [calls.actual_slip slip, Change.apply_other _ missedOther]
          by_cases target : setting = calls.hit
          · subst target
            rw [harmless made call (List.prefix_refl _) value slip]
            exact Function.update_self ..
          · exact (Change.apply_other _ target).trans (before early)

theorem harmless_of_onlyNamed (own : calls.OnlyNamed initial made) :
    calls.Harmless initial made := by
  induction made using List.reverseRecOn with
  | nil =>
      intro before call within
      have short := within.length_le
      rw [List.length_append] at short
      exact absurd short (Nat.not_succ_le_zero _)
  | append_singleton made last inductionHypothesis =>
      have early := inductionHypothesis fun before call within =>
        own before call (within.trans (List.prefix_append made [last]))
      intro before call within value slip
      rcases List.prefix_concat_iff.mp within with whole | inside
      · rcases List.append_inj' whole rfl with ⟨rfl, ends⟩
        cases ends
        have elsewhere : calls.hit ≠ (calls.named last).setting := by
          rw [calls.slipped last value slip]
          exact calls.different
        have unchanged := own before last (List.prefix_refl _) calls.hit elsewhere
        rw [reached_concat, calls.actual_slip slip,
          reached_of_harmless early calls.different] at unchanged
        exact (Function.update_self ..).symm.trans unchanged
      · exact early before call inside value slip

theorem onlyNamed_of_harmless (harmless : calls.Harmless initial made) :
    calls.OnlyNamed initial made := by
  intro before call within setting other
  rw [reached_concat]
  cases slip : calls.slips call with
  | none =>
      rw [calls.actual_proper slip]
      exact Change.apply_other _ other
  | some value =>
      rw [calls.actual_slip slip]
      by_cases target : setting = calls.hit
      · subst target
        have early : calls.Harmless initial before := fun earlier other inside =>
          harmless earlier other (inside.trans ((List.prefix_append before [call]).trans within))
        rw [reached_of_harmless early calls.different,
          ← harmless before call within value slip]
        exact Function.update_self ..
      · exact Change.apply_other _ target

/-- The setting that is missed has what the other calls make of it. -/
theorem reached_missed :
    calls.reached initial made calls.missed =
      calls.lastSet initial (calls.properCalls made) calls.missed := by
  induction made using List.reverseRecOn with
  | nil => rfl
  | append_singleton made call before =>
      rw [reached_concat, properCalls, List.filter_append]
      cases slip : calls.slips call with
      | none =>
          have proper : [call].filter (fun call => (calls.slips call).isNone) = [call] := by
            rw [List.filter_cons_of_pos (by rw [slip]; rfl)]
            rfl
          rw [proper, lastSet_concat, calls.actual_proper slip]
          exact Change.apply_congr before _
      | some value =>
          have dropped : [call].filter (fun call => (calls.slips call).isNone) = [] := by
            rw [List.filter_cons_of_neg (by rw [slip]; exact Bool.false_ne_true)]
            rfl
          rw [dropped, List.append_nil, calls.actual_slip slip]
          exact (Change.apply_other _ calls.different.symm).trans before

theorem unnoticed_of_proper (proper : forall call, call ∈ made -> calls.slips call = none) :
    calls.Unnoticed initial made := by
  refine ⟨fun before call within value slip => ?_, ?_⟩
  · have none := proper call (within.subset (List.mem_concat_self ..))
    cases none.symm.trans slip
  · have whole : calls.properCalls made = made :=
      List.filter_eq_self.mpr fun call member => by rw [proper call member]; rfl
    rw [whole]

end Misdirection

/-! ## Readers -/

/-- A source of one setting that is read by calling a setter.  A value that changes nothing may be
read without a call. -/
structure Reader (Key Given Fault : Type w) {Call : Type w} (calls : Misdirection Call Value)
    extends Source Given Value where
  key : Key
  read : Given -> Except Fault (Option Call)
  called : forall given call, read given = .ok (some call) ->
    calls.actual call = ⟨target, change given⟩
  skipped : forall given, read given = .ok none -> change given = id

namespace Reader

variable {Key Given Fault Call Builder : Type w} {calls : Misdirection Call Value}
  (apply : Builder -> Call -> Except Fault Builder) (given : Key -> Option Given)

def step (builder : Builder) (reader : Reader Key Given Fault calls) : Except Fault Builder :=
  match given reader.key with
  | none => .ok builder
  | some value => do
      match <- reader.read value with
      | none => .ok builder
      | some call => apply builder call

/-- Readers of one source after the other. -/
def run (readers : List (Reader Key Given Fault calls)) (builder : Builder) :
    Except Fault Builder :=
  readers.foldlM (step apply given) builder

variable {apply} {given} {reader : Reader Key Given Fault calls} {builder next : Builder}
  {readers : List (Reader Key Given Fault calls)}

omit [DecidableEq Setting] in
theorem step_cases (stepped : step apply given builder reader = .ok next) :
    given reader.key = none ∧ next = builder ∨
      Exists fun value => given reader.key = some value ∧
        (reader.read value = .ok none ∧ next = builder ∨
          Exists fun call => reader.read value = .ok (some call) ∧
            apply builder call = .ok next) := by
  rw [step] at stepped
  cases found : given reader.key with
  | none =>
      rw [found] at stepped
      cases stepped
      exact Or.inl ⟨rfl, rfl⟩
  | some value =>
      rw [found] at stepped
      rcases Results.ok_of_bind stepped with ⟨made, reads, last⟩
      refine Or.inr ⟨value, rfl, ?_⟩
      cases made with
      | none =>
          cases last
          exact Or.inl ⟨reads, rfl⟩
      | some call => exact Or.inr ⟨call, reads, last⟩

variable {values : Builder -> forall setting, Value setting}

theorem values_step (acts : forall builder call next, apply builder call = .ok next ->
      values next = (calls.actual call).apply (values builder))
    (stepped : step apply given builder reader = .ok next) :
    values next = after (values builder) (reader.changes (given reader.key)) := by
  rcases step_cases stepped with ⟨nothing, rfl⟩ | ⟨value, found, ⟨reads, rfl⟩ | ⟨call, reads, made⟩⟩
  · rw [nothing]
    rfl
  · rw [found]
    funext setting
    change _ = Change.apply (values next) ⟨reader.target, reader.change value⟩ setting
    rw [reader.skipped value reads]
    exact (congrFun (Function.update_eq_self reader.target (values next)) setting).symm
  · rw [found, acts builder call next made, reader.called value call reads]
    rfl

theorem values_run (acts : forall builder call next, apply builder call = .ok next ->
      values next = (calls.actual call).apply (values builder))
    (ran : run apply given readers builder = .ok next) :
    values next =
      after (values builder) (readers.flatMap fun reader => reader.changes (given reader.key)) := by
  induction readers generalizing builder with
  | nil =>
      cases ran
      rfl
  | cons reader readers inductionHypothesis =>
      rw [run, List.foldlM_cons] at ran
      rcases Results.ok_of_bind ran with ⟨middle, stepped, rest⟩
      rw [List.flatMap_cons, after_append, ← values_step acts stepped]
      exact inductionHypothesis rest

omit [DecidableEq Setting] in
/-- What is given can be read, where the readers succeed. -/
theorem readable_of_run (ran : run apply given readers builder = .ok next)
    (listed : reader ∈ readers) {value : Given} (found : given reader.key = some value) :
    Exists fun made => reader.read value = .ok made := by
  induction readers generalizing builder with
  | nil => exact absurd listed List.not_mem_nil
  | cons first readers inductionHypothesis =>
      rw [run, List.foldlM_cons] at ran
      rcases Results.ok_of_bind ran with ⟨middle, stepped, rest⟩
      rcases List.mem_cons.mp listed with rfl | later
      · rcases step_cases stepped with ⟨nothing, _⟩ | ⟨same, again, read⟩
        · cases nothing.symm.trans found
        · cases found.symm.trans again
          rcases read with ⟨reads, _⟩ | ⟨call, reads, _⟩
          · exact ⟨none, reads⟩
          · exact ⟨some call, reads⟩
      · exact inductionHypothesis rest later

theorem settled_of_run (acts : forall builder call next, apply builder call = .ok next ->
      values next = (calls.actual call).apply (values builder))
    (distinct : (readers.map fun reader => reader.target).Nodup)
    (ran : run apply given readers builder = .ok next) (listed : reader ∈ readers) :
    values next reader.target =
      reader.settled (given reader.key) (values builder reader.target) := by
  rw [values_run acts ran]
  exact Source.after_sources distinct (fun reader : Reader Key Given Fault calls =>
    given reader.key) listed

theorem kept_of_run (acts : forall builder call next, apply builder call = .ok next ->
      values next = (calls.actual call).apply (values builder))
    (ran : run apply given readers builder = .ok next)
    (unlisted : forall reader, reader ∈ readers -> setting ≠ reader.target) :
    values next setting = values builder setting := by
  rw [values_run acts ran]
  exact Source.after_unlisted (fun reader : Reader Key Given Fault calls => given reader.key)
    unlisted

/-- A setter is called with what is read, if anything. -/
def ofSetter {Argument : Type w} (key : Key) (target : Setting)
    (read : Given -> Except Fault (Option Argument)) (set : Argument -> Call)
    (change : Argument -> Value target -> Value target)
    (sets : forall argument, calls.actual (set argument) = ⟨target, change argument⟩) :
    Reader Key Given Fault calls where
  target := target
  change := fun given =>
    match read given with
    | .ok (some argument) => change argument
    | _ => id
  key := key
  read := fun given => (read given).map (Option.map set)
  called := by
    intro given call reads
    cases result : read given with
    | error fault =>
        rw [result] at reads
        cases reads
    | ok made =>
        cases made with
        | none =>
            rw [result] at reads
            cases reads
        | some argument =>
            rw [result] at reads
            cases reads
            exact sets argument
  skipped := by
    intro given reads
    cases result : read given with
    | error fault => rfl
    | ok made =>
        cases made with
        | none => rfl
        | some argument =>
            rw [result] at reads
            cases reads

section Lift

variable {Wider : Type u} [DecidableEq Wider] {WiderValue : Wider -> Type v}
  {shared : Setting -> Wider} {WiderCall : Type w}
  {inner : Misdirection Call fun setting => WiderValue (shared setting)}
  {outer : Misdirection WiderCall WiderValue}

/-- A reader of a part of an object is one of the object. -/
def lift (wrap : Call -> WiderCall)
    (lifts : forall call, outer.actual (wrap call) = (inner.actual call).lift shared)
    (reader : Reader Key Given Fault inner) : Reader Key Given Fault outer where
  target := shared reader.target
  change := reader.change
  key := reader.key
  read := fun given => (reader.read given).map (Option.map wrap)
  called := by
    intro given call reads
    cases read : reader.read given with
    | error fault =>
        rw [read] at reads
        cases reads
    | ok made =>
        cases made with
        | none =>
            rw [read] at reads
            cases reads
        | some inside =>
            rw [read] at reads
            cases reads
            rw [lifts, reader.called given inside read]
            rfl
  skipped := by
    intro given reads
    cases read : reader.read given with
    | error fault =>
        rw [read] at reads
        cases reads
    | ok made =>
        cases made with
        | none => exact reader.skipped given read
        | some inside =>
            rw [read] at reads
            cases reads

end Lift

end Reader

/-! ## Builders -/

/-- A class of builders: its setters, which may throw, and the settings of a builder. -/
structure Setters (Call : Type w) (Value : Setting -> Type v) (Builder Fault : Type w)
    extends Misdirection Call Value where
  create : Builder
  call : Builder -> Call -> Except Fault Builder
  values : Builder -> forall setting, Value setting
  /-- The call passes a valid value. -/
  Valid : Call -> Prop
  acts : forall builder made, Valid made -> Exists fun next => call builder made = .ok next ∧
    values next = (toMisdirection.actual made).apply (values builder)

namespace Setters

variable {Call Builder Fault : Type w} (setters : Setters Call Value Builder Fault)

def run (made : List Call) : Except Fault Builder :=
  made.foldlM setters.call setters.create

/-- The settings of a new builder. -/
def defaults : forall setting, Value setting :=
  setters.values setters.create

/-- Each setter changes only the setting that it is named after. -/
def ChangesOnlyNamed (made : List Call) : Prop :=
  forall before call, before ++ [call] <+: made -> forall builder next,
    setters.run before = .ok builder -> setters.call builder call = .ok next ->
      forall setting, setting ≠ (setters.named call).setting ->
        setters.values next setting = setters.values builder setting

variable {setters} {made : List Call}

/-- Valid calls do not throw, and the settings are what the calls do. -/
theorem run_values (valid : forall call, call ∈ made -> setters.Valid call) :
    Exists fun builder => setters.run made = .ok builder ∧
      setters.values builder = setters.reached setters.defaults made := by
  induction made using List.reverseRecOn with
  | nil => exact ⟨setters.create, rfl, rfl⟩
  | append_singleton made call before =>
      rcases before fun other member => valid other (List.mem_append_left [call] member) with
        ⟨builder, ran, values⟩
      rcases setters.acts builder call (valid call (List.mem_concat_self ..)) with
        ⟨next, called, changed⟩
      refine ⟨next, ?_, ?_⟩
      · rw [run, List.foldlM_append]
        change setters.run made >>= _ = _
        rw [ran]
        change setters.call builder call >>= Except.ok = _
        rw [called]
        rfl
      · rw [changed, values, Misdirection.reached_concat]

theorem changesOnlyNamed_iff (valid : forall call, call ∈ made -> setters.Valid call) :
    setters.ChangesOnlyNamed made <-> setters.Harmless setters.defaults made := by
  have acted : forall before call, before ++ [call] <+: made -> Exists fun builder =>
      Exists fun next => setters.run before = .ok builder ∧ setters.call builder call = .ok next ∧
        setters.values builder = setters.reached setters.defaults before ∧
          setters.values next = setters.reached setters.defaults (before ++ [call]) := by
    intro before call within
    rcases run_values fun other member =>
        valid other (within.subset (List.mem_append_left [call] member)) with
      ⟨builder, ran, values⟩
    rcases setters.acts builder call
        (valid call (within.subset (List.mem_concat_self ..))) with ⟨next, called, changed⟩
    refine ⟨builder, next, ran, called, values, ?_⟩
    rw [changed, values, Misdirection.reached_concat]
  constructor
  · intro own
    refine Misdirection.harmless_of_onlyNamed fun before call within setting other => ?_
    rcases acted before call within with ⟨builder, next, ran, called, values, changed⟩
    rw [← values, ← changed]
    exact own before call within builder next ran called setting other
  · intro harmless before call within builder next ran called setting other
    rcases acted before call within with ⟨same, again, ranSame, calledSame, values, changed⟩
    cases ran.symm.trans ranSame
    cases called.symm.trans calledSame
    rw [values, changed]
    exact Misdirection.onlyNamed_of_harmless harmless before call within setting other

/-! ## Objects that are made by a builder -/

section Made

variable {Object : Type w} (setters) (make : Builder -> Option Object)
  (returns : Object -> (forall setting, Value setting) -> Prop)

/-- Each setter changes only its setting, and the object that is made returns the values last
set. -/
structure Carries (made : List Call) : Prop where
  own : setters.ChangesOnlyNamed made
  returned : Exists fun builder => Exists fun object => setters.run made = .ok builder ∧
    make builder = some object ∧ returns object (setters.lastSet setters.defaults made)

variable {setters} {make} {returns}

/-- `others` is what the object needs besides. -/
theorem carries_iff (others : (forall setting, Value setting) -> Prop)
    (passed : forall builder values, (forall setting, setting ≠ setters.missed ->
      setters.values builder setting = values setting) ->
        ((Exists fun object => make builder = some object ∧ returns object values) <->
          setters.values builder setters.missed = values setters.missed ∧ others values))
    (valid : forall call, call ∈ made -> setters.Valid call) :
    setters.Carries make returns made <->
      setters.Unnoticed setters.defaults made ∧ others (setters.lastSet setters.defaults made) := by
  rcases run_values valid with ⟨builder, ran, values⟩
  have agree (harmless : setters.Harmless setters.defaults made) :=
    passed builder (setters.lastSet setters.defaults made) fun setting other => by
      rw [values]
      exact Misdirection.reached_of_harmless harmless other
  have missed : setters.values builder setters.missed =
      setters.lastSet setters.defaults (setters.properCalls made) setters.missed := by
    rw [values]
    exact Misdirection.reached_missed
  constructor
  · intro carries
    have harmless := (changesOnlyNamed_iff valid).mp carries.own
    rcases carries.returned with ⟨same, object, again, found, returned⟩
    cases ran.symm.trans again
    rcases (agree harmless).mp ⟨object, found, returned⟩ with ⟨version, rest⟩
    exact ⟨⟨harmless, missed.symm.trans version⟩, rest⟩
  · rintro ⟨unnoticed, rest⟩
    refine ⟨(changesOnlyNamed_iff valid).mpr unnoticed.harmless, ?_⟩
    rcases (agree unnoticed.harmless).mpr ⟨missed.trans unnoticed.missed, rest⟩ with
      ⟨object, found, returned⟩
    exact ⟨builder, object, ran, found, returned⟩

end Made

end Setters

end Settings

end EasyProspect
