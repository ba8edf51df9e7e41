import EasyProspect.Library.Transition
import Mathlib.Logic.Function.Basic

namespace EasyProspect

/-!
# The contexts of scripts

`easyprospect_v8` has its contexts in a map whose keys come from a 32-bit counter.  The callback
for epjs pages makes a context for a page, runs the page in it and removes it again.
-/

inductive ResultCode
  | success
  | contextNotFound
  | compileError
  | runtimeError
deriving DecidableEq, Repr

/-- What the callback and `run_javascript` throw. -/
inductive ScriptException
  | logicError (what : String)
  /-- Thrown by `boost::filesystem::exists`. -/
  | filesystemError
deriving DecidableEq, Repr

/-- V8: the globals of a new context, whether a script compiles, and what a run leaves and gives.
A run that is caught by the `TryCatch` gives nothing. -/
structure ScriptEngine (Globals : Type) where
  fresh : Globals
  compiles : String -> Bool
  run : Globals -> String -> Globals × Option String

/-- The map and the counter; a context is named by how many were made before it. -/
structure EasyprospectV8 (Globals : Type) where
  contexts : UInt32 -> Option Nat
  nextId : UInt32
  made : Nat
  globals : Nat -> Globals

namespace EasyprospectV8

variable {Globals : Type} (engine : ScriptEngine Globals)

def create : EasyprospectV8 Globals where
  contexts := fun _ => none
  nextId := 1
  made := 0
  globals := fun _ => engine.fresh

variable (v8 : EasyprospectV8 Globals)

/-- `make_shared<v8pp::context>`. -/
def makeContext : Nat × EasyprospectV8 Globals :=
  (v8.made, { v8 with
    made := v8.made + 1
    globals := Function.update v8.globals v8.made engine.fresh })

def getNextContextId : UInt32 × EasyprospectV8 Globals :=
  (v8.nextId, { v8 with nextId := v8.nextId + 1 })

/-- `std::map::insert`: an entry that is there already stays. -/
def insert (id : UInt32) (context : Nat) : EasyprospectV8 Globals :=
  match v8.contexts id with
  | some _ => v8
  | none => { v8 with contexts := Function.update v8.contexts id (some context) }

def createContext : ResultCode × UInt32 × EasyprospectV8 Globals :=
  let context := v8.makeContext engine
  let id := context.2.getNextContextId
  (.success, id.1, id.2.insert id.1 context.1)

/-- `contexts.at`, which throws if there is none. -/
def getContext (id : UInt32) : Option Nat :=
  v8.contexts id

/-- `~v8pp::context` is taken to return, in whatever order the contexts are destroyed.  A debug
build of V8 complains when the context is not the one that was entered last. -/
def removeContext (id : UInt32) : ResultCode × EasyprospectV8 Globals :=
  match v8.contexts id with
  | none => (.contextNotFound, v8)
  | some _ => (.success, { v8 with contexts := Function.update v8.contexts id none })

/-- An empty script is only warned about. -/
def runJavascript (id : UInt32) (script : String) :
    Except ScriptException String × EasyprospectV8 Globals :=
  match v8.contexts id with
  | none => (.error (.logicError "context not found"), v8)
  | some context =>
      if engine.compiles script then
        let ran := engine.run (v8.globals context) script
        let after := { v8 with globals := Function.update v8.globals context ran.1 }
        match ran.2 with
        | none => (.error (.logicError "run error"), after)
        | some value => (.ok value, after)
      else
        (.error (.logicError "compile error"), v8)

end EasyprospectV8

/-- What is found at the resolved path of a page. -/
inductive PageFile
  /-- The status cannot be read, and the path is not missing. -/
  | unknown
  | missing
  | present (text : String)
deriving DecidableEq, Repr

/-- A stream that could not be opened reads as an empty script. -/
def PageFile.script : PageFile -> String
  | .present text => text
  | _ => ""

/-- The callback that `application_impl` installs. -/
def epjsProcessReq {Globals : Type} (engine : ScriptEngine Globals) (v8 : EasyprospectV8 Globals)
    (page : PageFile) : Except ScriptException String × EasyprospectV8 Globals :=
  match page with
  | .unknown => (.error .filesystemError, v8)
  | _ =>
      let created := v8.createContext engine
      if created.1 ≠ .success then
        (.error (.logicError "Context error"), created.2.2)
      else
        match created.2.2.runJavascript engine created.2.1 page.script with
        | (.error exception, after) => (.error exception, after)
        | (.ok res, after) => (.ok res, (after.removeContext created.2.1).2)

/-! ## The operations on the map -/

namespace EasyprospectV8

variable {Globals : Type} {engine : ScriptEngine Globals} {v8 : EasyprospectV8 Globals}
variable {id other : UInt32} {script : String}

theorem insert_free {context : Nat} (free : v8.contexts id = none) :
    (v8.insert id context).contexts = Function.update v8.contexts id (some context) := by
  simp only [insert, free]

theorem insert_nextId (context : Nat) : (v8.insert id context).nextId = v8.nextId := by
  rw [insert]
  split <;> rfl

theorem insert_made (context : Nat) : (v8.insert id context).made = v8.made := by
  rw [insert]
  split <;> rfl

theorem insert_globals (context : Nat) : (v8.insert id context).globals = v8.globals := by
  rw [insert]
  split <;> rfl

theorem createContext_nextId : (v8.createContext engine).2.2.nextId = v8.nextId + 1 :=
  insert_nextId v8.made

theorem createContext_made : (v8.createContext engine).2.2.made = v8.made + 1 :=
  insert_made v8.made

theorem createContext_globals : (v8.createContext engine).2.2.globals =
    Function.update v8.globals v8.made engine.fresh :=
  insert_globals v8.made

/-- With an id that is free, the new context is added under it. -/
theorem createContext_free (engine : ScriptEngine Globals) (free : v8.contexts v8.nextId = none) :
    (v8.createContext engine).2.2.contexts =
      Function.update v8.contexts v8.nextId (some v8.made) :=
  insert_free free

theorem removeContext_contexts :
    (v8.removeContext id).2.contexts = Function.update v8.contexts id none := by
  rw [removeContext]
  cases found : v8.contexts id with
  | none =>
      have same := Function.update_eq_self id v8.contexts
      rw [found] at same
      exact same.symm
  | some context => rfl

theorem removeContext_nextId : (v8.removeContext id).2.nextId = v8.nextId := by
  rw [removeContext]
  split <;> rfl

theorem removeContext_made : (v8.removeContext id).2.made = v8.made := by
  rw [removeContext]
  split <;> rfl

theorem runJavascript_contexts :
    (v8.runJavascript engine id script).2.contexts = v8.contexts := by
  rw [runJavascript]
  cases v8.contexts id with
  | none => rfl
  | some context =>
      dsimp only
      split
      · split <;> rfl
      · rfl

theorem runJavascript_made : (v8.runJavascript engine id script).2.made = v8.made := by
  rw [runJavascript]
  cases v8.contexts id with
  | none => rfl
  | some context =>
      dsimp only
      split
      · split <;> rfl
      · rfl

/-- A script changes the globals of the context that its id stands for, and no others. -/
theorem runJavascript_globals {context : Nat} (different : v8.contexts id ≠ some context) :
    (v8.runJavascript engine id script).2.globals context = v8.globals context := by
  rw [runJavascript]
  cases found : v8.contexts id with
  | none => rfl
  | some own =>
      have apart : context ≠ own := by
        rintro rfl
        exact different found
      dsimp only
      split
      · split <;> exact Function.update_of_ne apart _ _
      · rfl

/-- Whether a script returns a value, where its id stands for a context. -/
theorem runJavascript_isOk {context : Nat} (found : v8.contexts id = some context) :
    (v8.runJavascript engine id script).1.isOk = true <->
      engine.compiles script = true ∧
        (engine.run (v8.globals context) script).2.isSome = true := by
  simp only [runJavascript, found]
  cases engine.compiles script with
  | false => simp [Except.isOk, Except.toBool]
  | true =>
      cases (engine.run (v8.globals context) script).2 <;> simp [Except.isOk, Except.toBool]

end EasyprospectV8

/-! ## The store over a run -/

/-- The store, and for each id the context made by the last `create_context` that returned it. -/
structure ScriptRun (Globals : Type) where
  v8 : EasyprospectV8 Globals
  owner : UInt32 -> Option Nat

inductive ScriptLabel
  | createContext
  | removeContext (id : UInt32)
  | runJavascript (id : UInt32) (script : String)
deriving DecidableEq, Repr

namespace ScriptRun

variable {Globals : Type} (engine : ScriptEngine Globals)

def create : ScriptRun Globals := ⟨.create engine, fun _ => none⟩

variable (run : ScriptRun Globals)

def step : ScriptLabel -> Option (ScriptRun Globals)
  | .createContext =>
      let created := run.v8.createContext engine
      some ⟨created.2.2, Function.update run.owner created.2.1 (some run.v8.made)⟩
  | .removeContext id => some { run with v8 := (run.v8.removeContext id).2 }
  | .runJavascript id script => some { run with v8 := (run.v8.runJavascript engine id script).2 }

def system : Transition.System (ScriptRun Globals) ScriptLabel :=
  .ofStep (fun run => run = create engine) (step engine)

/-- What each call does to the map: a new context under an id that was not in use, exactly the
entry removed, and scripts only in the context made for the caller that has got the id. -/
def Lawful : ScriptLabel -> Prop
  | .createContext =>
      let created := run.v8.createContext engine
      created.1 = .success ∧ run.v8.getContext created.2.1 = none ∧
        (forall id, run.v8.getContext id ≠ some run.v8.made) ∧
        created.2.2.getContext created.2.1 = some run.v8.made ∧
        forall other, other ≠ created.2.1 ->
          created.2.2.getContext other = run.v8.getContext other
  | .removeContext id =>
      let removed := run.v8.removeContext id
      (removed.1 = .success <-> run.v8.getContext id ≠ none) ∧
        (run.v8.getContext id = none -> removed = (.contextNotFound, run.v8)) ∧
        removed.2.getContext id = none ∧
        forall other, other ≠ id -> removed.2.getContext other = run.v8.getContext other
  | .runJavascript id script =>
      let ran := run.v8.runJavascript engine id script
      (forall other, ran.2.getContext other = run.v8.getContext other) ∧
        (forall context, run.v8.getContext id = some context -> run.owner id = some context) ∧
        forall context, run.owner id ≠ some context ->
          ran.2.globals context = run.v8.globals context

/-- A context is only created while the counter is at an id that is not in use. -/
def FreshId : ScriptLabel -> Prop
  | .createContext => run.v8.contexts run.v8.nextId = none
  | _ => True

/-- Each entry is the context that was made for it. -/
structure Owned : Prop where
  owner : forall id context, run.v8.contexts id = some context -> run.owner id = some context
  made : forall id context, run.v8.contexts id = some context -> context < run.v8.made

variable {engine} {run} {next : ScriptRun Globals} {label : ScriptLabel}

theorem owned_step (owned : run.Owned) (fresh : run.FreshId label)
    (taken : run.step engine label = some next) : next.Owned := by
  cases label with
  | createContext =>
      cases taken
      have contexts := EasyprospectV8.createContext_free engine fresh
      constructor
      · intro id context present
        change (run.v8.createContext engine).2.2.contexts id = some context at present
        change Function.update run.owner run.v8.nextId (some run.v8.made) id = some context
        rw [contexts] at present
        by_cases same : id = run.v8.nextId
        · rw [same, Function.update_self] at present ⊢
          exact present
        · rw [Function.update_of_ne same] at present ⊢
          exact owned.owner id context present
      · intro id context present
        change (run.v8.createContext engine).2.2.contexts id = some context at present
        change context < (run.v8.createContext engine).2.2.made
        rw [contexts] at present
        rw [EasyprospectV8.createContext_made]
        by_cases same : id = run.v8.nextId
        · rw [same, Function.update_self] at present
          cases present
          exact Nat.lt_succ_self _
        · rw [Function.update_of_ne same] at present
          exact Nat.lt_succ_of_lt (owned.made id context present)
  | removeContext removed =>
      cases taken
      have left : forall id context, (run.v8.removeContext removed).2.contexts id = some context ->
          run.v8.contexts id = some context := by
        intro id context present
        rw [EasyprospectV8.removeContext_contexts] at present
        by_cases same : id = removed
        · rw [same, Function.update_self] at present
          cases present
        · rwa [Function.update_of_ne same] at present
      refine ⟨fun id context present => owned.owner id context (left id context present), ?_⟩
      intro id context present
      rw [EasyprospectV8.removeContext_made]
      exact owned.made id context (left id context present)
  | runJavascript id script =>
      cases taken
      constructor
      · intro other context present
        rw [EasyprospectV8.runJavascript_contexts] at present
        exact owned.owner other context present
      · intro other context present
        rw [EasyprospectV8.runJavascript_contexts] at present
        rw [EasyprospectV8.runJavascript_made]
        exact owned.made other context present

theorem owned_reachable (reachable : ((system engine).restrict FreshId).Reachable run) :
    run.Owned := by
  refine reachable.invariant ?_ ?_
  · rintro _ rfl
    exact ⟨fun _ _ => nofun, fun _ _ => nofun⟩
  · exact fun _ _ _ owned taken => owned_step owned taken.1 taken.2

/-- As long as contexts are only created with ids that are not in use, every call does what it
should, and the next one does exactly if that still holds. -/
theorem lawful_iff (run : ScriptRun Globals)
    (reachable : ((system engine).restrict FreshId).Reachable run) (label : ScriptLabel) :
    run.Lawful engine label <-> run.FreshId label := by
  have owned := owned_reachable reachable
  cases label with
  | createContext =>
      constructor
      · exact fun lawful => lawful.2.1
      · intro fresh
        have contexts := EasyprospectV8.createContext_free engine fresh
        refine ⟨rfl, fresh, fun id made => Nat.lt_irrefl _ (owned.made id _ made), ?_, ?_⟩
        · change (run.v8.createContext engine).2.2.contexts run.v8.nextId = _
          rw [contexts, Function.update_self]
        · intro other different
          change (run.v8.createContext engine).2.2.contexts other = _
          rw [contexts]
          exact Function.update_of_ne different _ _
  | removeContext id =>
      refine ⟨fun _ => trivial, fun _ => ⟨?_, ?_, ?_, ?_⟩⟩
      · change (run.v8.removeContext id).1 = _ <-> run.v8.contexts id ≠ none
        rw [EasyprospectV8.removeContext]
        cases run.v8.contexts id <;> simp
      · intro absent
        change run.v8.contexts id = none at absent
        simp only [EasyprospectV8.removeContext, absent]
      · change (run.v8.removeContext id).2.contexts id = none
        rw [EasyprospectV8.removeContext_contexts, Function.update_self]
      · intro other different
        change (run.v8.removeContext id).2.contexts other = _
        rw [EasyprospectV8.removeContext_contexts]
        exact Function.update_of_ne different _ _
  | runJavascript id script =>
      refine ⟨fun _ => trivial, fun _ => ⟨?_, owned.owner id, ?_⟩⟩
      · intro other
        change (run.v8.runJavascript engine id script).2.contexts other = _
        rw [EasyprospectV8.runJavascript_contexts]
        rfl
      · intro context foreign
        exact EasyprospectV8.runJavascript_globals fun own => foreign (owned.owner id context own)

/-! ### Runs that come back to an id -/

/-- A context that is created with a fresh id and removed at once leaves nothing but the counters
behind. -/
theorem createThenRemove (engine : ScriptEngine Globals)
    (fresh : run.v8.contexts run.v8.nextId = none) :
    Exists fun last => (system engine).Run run
        [.createContext, .removeContext run.v8.nextId] last ∧
      last.v8.contexts = run.v8.contexts ∧ last.v8.nextId = run.v8.nextId + 1 := by
  have created : (system engine).step run .createContext _ := rfl
  refine ⟨_, (Transition.System.Run.single created).trans (.single rfl), ?_, ?_⟩
  · change ((run.v8.createContext engine).2.2.removeContext run.v8.nextId).2.contexts = _
    rw [EasyprospectV8.removeContext_contexts, EasyprospectV8.createContext_free engine fresh,
      Function.update_idem, ← fresh]
    exact Function.update_eq_self _ _
  · change ((run.v8.createContext engine).2.2.removeContext run.v8.nextId).2.nextId = _
    rw [EasyprospectV8.removeContext_nextId, EasyprospectV8.createContext_nextId]

/-- As many pages as there are ids but one, after one context that stays. -/
theorem counter_reachable (engine : ScriptEngine Globals) (count : Nat)
    (within : count < UInt32.size) : Exists fun run => (system engine).Reachable run ∧
      run.v8.contexts = Function.update (fun _ => none) 1 (some 0) ∧
      run.v8.nextId = 2 + .ofNat count := by
  induction count with
  | zero =>
      have created : (system engine).step (create engine) .createContext _ := rfl
      exact ⟨_, ⟨create engine, rfl, _, .single created⟩, rfl, rfl⟩
  | succ count inductionHypothesis =>
      rcases inductionHypothesis (Nat.lt_of_succ_lt within) with ⟨run, reachable, kept, counted⟩
      have apart : run.v8.nextId ≠ 1 := by
        rw [counted]
        intro same
        have value := congrArg UInt32.toNat same
        rw [UInt32.toNat_add, UInt32.toNat_ofNat'] at value
        change (2 + count % 2 ^ 32) % 2 ^ 32 = 1 at value
        rw [UInt32.size] at within
        omega
      have fresh : run.v8.contexts run.v8.nextId = none := by
        rw [kept]
        exact Function.update_of_ne apart _ _
      rcases createThenRemove engine fresh with ⟨last, taken, same, next⟩
      refine ⟨last, reachable.extend taken, same.trans kept, ?_⟩
      rw [next, counted, UInt32.add_assoc, UInt32.ofNat_add]
      rfl

/-- V8 on a few scripts: a literal gives its text, `throw 1` is caught, `(` does not compile. -/
def pageEngine : ScriptEngine Unit where
  fresh := ⟨⟩
  compiles := fun script => script ≠ "("
  run := fun globals script => (globals, if script = "throw 1" then none else some script)

def oneContext : ScriptRun Unit :=
  ⟨((EasyprospectV8.create pageEngine).createContext pageEngine).2.2,
    Function.update (fun _ => none) 1 (some 0)⟩

theorem oneContext_reachable : ((system pageEngine).restrict FreshId).Reachable oneContext :=
  ⟨create pageEngine, rfl, [.createContext], .single ⟨rfl, rfl⟩⟩

theorem oneContext_lawful : oneContext.Lawful pageEngine .createContext := by
  have free : oneContext.v8.contexts oneContext.v8.nextId = none := by decide
  exact (lawful_iff oneContext oneContext_reachable .createContext).mpr free

/-- The counter comes back to the id of the context that has stayed. -/
theorem createContext_reuses : ¬ forall run : ScriptRun Unit, (system pageEngine).Reachable run ->
    forall label, run.Lawful pageEngine label := by
  intro lawful
  rcases counter_reachable pageEngine (UInt32.size - 1) (by decide) with
    ⟨run, reachable, kept, counted⟩
  have back : run.v8.nextId = 1 := counted
  have unused : run.v8.contexts run.v8.nextId = none := (lawful run reachable .createContext).2.1
  rw [back, kept, Function.update_self] at unused
  cases unused

end ScriptRun

/-! ## Pages -/

section Pages

variable {Globals : Type} {engine : ScriptEngine Globals} {v8 : EasyprospectV8 Globals}
variable {page : PageFile}

/-- The ids in use are the same. -/
def SameIds (v8 after : EasyprospectV8 Globals) : Prop :=
  forall id, (after.getContext id).isSome = (v8.getContext id).isSome

/-- The script of a page runs to its end in a new context, or it is not read. -/
def Completes (engine : ScriptEngine Globals) (page : PageFile) : Prop :=
  page = .unknown ∨ engine.compiles page.script = true ∧
    (engine.run engine.fresh page.script).2.isSome = true

/-- The store goes from page to page. -/
def pageSystem (engine : ScriptEngine Globals) :
    Transition.System (EasyprospectV8 Globals) PageFile :=
  .ofStep (fun v8 => v8 = .create engine) fun v8 page => some (epjsProcessReq engine v8 page).2

/-- What the callback does after it has made a context. -/
theorem epjsProcessReq_known (known : page ≠ .unknown) :
    epjsProcessReq engine v8 page =
      match (v8.createContext engine).2.2.runJavascript engine v8.nextId page.script with
      | (.error exception, after) => (.error exception, after)
      | (.ok res, after) => (.ok res, (after.removeContext v8.nextId).2) := by
  cases page with
  | unknown => exact absurd rfl known
  | missing => rfl
  | present text => rfl

/-- A script that returns has its context removed, one that throws has not. -/
theorem epjsProcessReq_contexts (known : page ≠ .unknown) :
    (epjsProcessReq engine v8 page).2.contexts =
      if ((v8.createContext engine).2.2.runJavascript engine v8.nextId page.script).1.isOk then
        Function.update (v8.createContext engine).2.2.contexts v8.nextId none
      else
        (v8.createContext engine).2.2.contexts := by
  have kept : ((v8.createContext engine).2.2.runJavascript engine v8.nextId
      page.script).2.contexts = (v8.createContext engine).2.2.contexts :=
    EasyprospectV8.runJavascript_contexts
  rw [epjsProcessReq_known known]
  generalize (v8.createContext engine).2.2.runJavascript engine v8.nextId page.script = ran
    at kept ⊢
  rcases ran with ⟨exception | res, after⟩
  · exact kept
  · change (after.removeContext v8.nextId).2.contexts = Function.update _ v8.nextId none
    rw [EasyprospectV8.removeContext_contexts]
    exact congrArg (fun contexts => Function.update contexts v8.nextId none) kept

/-- With an id that is free, a script runs in the new context. -/
theorem returns_iff (free : v8.contexts v8.nextId = none) (known : page ≠ .unknown) :
    ((v8.createContext engine).2.2.runJavascript engine v8.nextId page.script).1.isOk = true <->
      Completes engine page := by
  have found : (v8.createContext engine).2.2.contexts v8.nextId = some v8.made := by
    rw [EasyprospectV8.createContext_free engine free, Function.update_self]
  rw [EasyprospectV8.runJavascript_isOk found, EasyprospectV8.createContext_globals,
    Function.update_self]
  exact (or_iff_right known).symm

/-- With an id that is free, a page leaves the map as it was if its script returns. -/
theorem contexts_of_completes (free : v8.contexts v8.nextId = none)
    (completes : Completes engine page) :
    (epjsProcessReq engine v8 page).2.contexts = v8.contexts := by
  by_cases known : page = .unknown
  · rw [known]
    rfl
  · rw [epjsProcessReq_contexts known, if_pos ((returns_iff free known).mpr completes),
      EasyprospectV8.createContext_free engine free, Function.update_idem, ← free]
    exact Function.update_eq_self _ _

/-- It leaves the same ids behind only then. -/
theorem sameIds_iff (free : v8.contexts v8.nextId = none) :
    SameIds v8 (epjsProcessReq engine v8 page).2 <-> Completes engine page := by
  constructor
  · intro same
    by_contra fails
    have known : page ≠ .unknown := fun unknown => fails (Or.inl unknown)
    have left : (epjsProcessReq engine v8 page).2.contexts v8.nextId = some v8.made := by
      rw [epjsProcessReq_contexts known, if_neg fun returns => fails
        ((returns_iff free known).mp returns), EasyprospectV8.createContext_free engine free,
        Function.update_self]
    have ids := same v8.nextId
    rw [EasyprospectV8.getContext, EasyprospectV8.getContext, left, free] at ids
    cases ids
  · intro completes id
    rw [EasyprospectV8.getContext, contexts_of_completes free completes]
    rfl

/-- No id is in use. -/
def Unused (v8 : EasyprospectV8 Globals) : Prop :=
  forall id, v8.contexts id = none

/-- No page leaves a context behind as long as every script returns. -/
theorem unused_reachable (reachable : ((pageSystem engine).restrict fun _ page =>
      Completes engine page).Reachable v8) : Unused v8 := by
  refine reachable.invariant ?_ ?_
  · rintro _ rfl id
    rfl
  · rintro v8 page next unused ⟨completes, taken⟩ id
    cases taken
    rw [contexts_of_completes (unused v8.nextId) completes]
    exact unused id

/-- In runs of pages whose scripts return, the next page leaves the same ids behind exactly if its
script returns too. -/
theorem page_sameIds_iff (v8 : EasyprospectV8 Globals) (reachable : ((pageSystem engine).restrict
      fun _ page => Completes engine page).Reachable v8) (page : PageFile) :
    SameIds v8 (epjsProcessReq engine v8 page).2 <-> Completes engine page :=
  sameIds_iff (unused_reachable reachable v8.nextId)

end Pages

/-- After a page that is the literal 1. -/
def onePage : EasyprospectV8 Unit :=
  (epjsProcessReq ScriptRun.pageEngine (.create ScriptRun.pageEngine) (.present "1")).2

theorem onePage_reachable : ((pageSystem ScriptRun.pageEngine).restrict fun _ page =>
    Completes ScriptRun.pageEngine page).Reachable onePage :=
  ⟨.create ScriptRun.pageEngine, rfl, [.present "1"],
    .single ⟨Or.inr ⟨by decide +kernel, by decide +kernel⟩, rfl⟩⟩

theorem onePage_sameIds :
    SameIds onePage (epjsProcessReq ScriptRun.pageEngine onePage (.present "")).2 :=
  (page_sameIds_iff onePage onePage_reachable (.present "")).mpr
    (Or.inr ⟨by decide +kernel, by decide +kernel⟩)

/-- A page that does not compile leaves its context behind. -/
theorem page_leaks : ¬ forall v8, (pageSystem ScriptRun.pageEngine).Reachable v8 ->
    forall page, SameIds v8 (epjsProcessReq ScriptRun.pageEngine v8 page).2 := by
  intro same
  have ids := same (.create ScriptRun.pageEngine) (.initially rfl) (.present "(") 1
  have left : ((epjsProcessReq ScriptRun.pageEngine (.create ScriptRun.pageEngine)
      (.present "(")).2.getContext 1).isSome = true := by decide +kernel
  cases left.symm.trans ids

end EasyProspect
