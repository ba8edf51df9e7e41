import EasyProspect.CoreConfig

namespace EasyProspect

/-!
# The configurations of a service and of worker control

Each class of configurations extends the one before it, and so does its builder.  The builder for
worker control passes the log file where its base class wants the listen file, and two of its
members have no value until they are set.
-/

namespace Config

open Settings (Change Misdirection Setters)

/-! ## Configurations -/

/-- `easyprospect_config_service_core`.  There are no getters for the last two members. -/
structure ServiceConfig extends CoreConfig where
  numThreads : Int
  webrootDir : Option Path
  listeners : List ListenerConf
  listenFile : Option Path
  listenDirPath : Option Path
deriving DecidableEq

/-- The constructor. -/
def ServiceConfig.create (dh dv : Bool) (nt : Int) (verb : Verbosity) (db : DebugLevel)
    (remArgs : Option (List String)) (epjsUpr : List Regex) (epjsUprStr : List String)
    (mtypes : List MimeType) (of lf af cf pf pd sf lstfile lstdir : Option Path)
    (ls : List ListenerConf) : ServiceConfig where
  toCoreConfig := .create dh dv verb db remArgs epjsUpr epjsUprStr mtypes of lf af cf pf pd
  numThreads := nt
  listenFile := lstfile
  listenDirPath := lstdir
  webrootDir := sf
  listeners := ls

/-- `easyprospect_config_wcntl_core`. -/
structure WcntlConfig extends ServiceConfig where
  workerExeUsePath : Bool
  numWorkers : Int
  workerArgs : String
  workerConf : Option Path
  workerArgsFile : Option Path
  workerExe : Option Path
deriving DecidableEq

/-- The constructor. -/
def WcntlConfig.create (dh dv wkup : Bool) (nt np : Int) (wargs : String) (verb : Verbosity)
    (db : DebugLevel) (remArgs : Option (List String)) (epjsUpr : List Regex)
    (epjsUprStr : List String) (mtypes : List MimeType)
    (of lf af cf pf pd sf lstfile lstdir wkconf wkargs wkexe : Option Path)
    (ls : List ListenerConf) : WcntlConfig where
  toServiceConfig := .create dh dv nt verb db remArgs epjsUpr epjsUprStr mtypes of lf af cf pf pd
    sf lstfile lstdir ls
  numWorkers := np
  workerExe := wkexe
  workerExeUsePath := wkup
  workerArgs := wargs
  workerConf := wkconf
  workerArgsFile := wkargs

/-! ## Builders -/

/-- `easyprospect_config_service_core_builder`. -/
structure ServiceBuilder extends CoreBuilder where
  numThreads : Int
  webrootDir : Option Path
  listeners : List ListenerConf
  listenFile : Option Path
  listenDirPath : Option Path
deriving DecidableEq

namespace ServiceBuilder

def create : ServiceBuilder where
  toCoreBuilder := .create
  webrootDir := some "wwwroot"
  numThreads := 1
  listeners := []
  listenFile := none
  listenDirPath := none

variable (ext : Externals) (builder : ServiceBuilder)

def toConfig : ServiceConfig :=
  .create builder.displayHelp builder.displayVersion builder.numThreads builder.verbosity
    builder.debugLevel builder.remainderArgs builder.epjsUrlPathRegex
    builder.epjsUrlPathRegexStr builder.mimeTypes builder.outFile builder.logFile
    builder.argFile builder.cnfFile builder.pidFile builder.pidDirPath builder.webrootDir
    builder.listenFile builder.listenDirPath builder.listeners

def setWebrootDir (sf : Option Path) : ServiceBuilder :=
  { builder with webrootDir := sf }

def setWebrootDirText (sf : String) : ServiceBuilder :=
  builder.setWebrootDir (some sf)

def setNumThreads (nt : Int) : ServiceBuilder :=
  { builder with numThreads := nt }

def setNumThreadsText (nt : String) : Except Fault ServiceBuilder := do
  let res <- (stoi nt).mapError Fault.stoi
  .ok (builder.setNumThreads res)

def setListeners (l : List ListenerConf) : ServiceBuilder :=
  { builder with listeners := l }

def setListenersText (l : String) : Except Fault ServiceBuilder := do
  let c <- (ListenerConf.parse ext.tokenizer l).mapError Fault.parse
  .ok { builder with listeners := builder.listeners ++ [c] }

/-- `parse` for several texts: each is parsed twice. -/
def parseListeners (s : List String) : Except Fault (List ListenerConf) :=
  s.foldlM
    (fun res i => do
      let _l <- (ListenerConf.parse ext.tokenizer i).mapError Fault.parse
      let conf <- (ListenerConf.parse ext.tokenizer i).mapError Fault.parse
      .ok (res ++ [conf]))
    []

def setListenersTexts (l : List String) : Except Fault ServiceBuilder := do
  let la <- parseListeners ext l
  .ok { builder with listeners := builder.listeners ++ la }

def setListenFile (sf : Option Path) : ServiceBuilder :=
  { builder with listenFile := sf }

def setListenFileText (sf : String) : ServiceBuilder :=
  builder.setListenFile (some sf)

def setListenDir (sf : Option Path) : ServiceBuilder :=
  { builder with listenDirPath := sf }

def setListenDirText (sf : String) : ServiceBuilder :=
  builder.setListenDir (some sf)

end ServiceBuilder

/-- `easyprospect_config_wcntl_core_builder`.  Two members are not initialised: they are `none`
until they are set. -/
structure WcntlBuilder extends ServiceBuilder where
  workerExeUsePath : Option Bool
  numWorkers : Option Int
  workerArgs : String
  workerConf : Option Path
  workerArgsFile : Option Path
  workerExe : Option Path
deriving DecidableEq

namespace WcntlBuilder

def create : WcntlBuilder where
  toServiceBuilder := .create
  workerExeUsePath := none
  numWorkers := none
  workerArgs := ""
  workerConf := none
  workerArgsFile := none
  workerExe := none

variable (ext : Externals) (builder : WcntlBuilder)

/-- There is no defined result while a member without a value is read. -/
def toConfig : Option WcntlConfig := do
  let workerExeUsePath <- builder.workerExeUsePath
  let numWorkers <- builder.numWorkers
  some (.create builder.displayHelp builder.displayVersion workerExeUsePath builder.numThreads
    numWorkers builder.workerArgs builder.verbosity builder.debugLevel builder.remainderArgs
    builder.epjsUrlPathRegex builder.epjsUrlPathRegexStr builder.mimeTypes builder.outFile
    builder.logFile builder.argFile builder.cnfFile builder.pidFile builder.pidDirPath
    builder.webrootDir builder.logFile builder.listenDirPath builder.workerConf
    builder.workerArgsFile builder.workerExe builder.listeners)

def setWorkerExeUsePath (u : Bool) : WcntlBuilder :=
  { builder with workerExeUsePath := some u }

def setWorkerExeUsePathText (u : String) : Except Fault WcntlBuilder :=
  match ext.lexicalBool u with
  | some value => .ok { builder with workerExeUsePath := some value }
  | none => .error .badLexicalCast

def setWorkerArgs (u : String) : WcntlBuilder :=
  { builder with workerArgs := u }

def setNumWorkers (nw : Int) : WcntlBuilder :=
  { builder with numWorkers := some nw }

def setNumWorkersText (nw : String) : Except Fault WcntlBuilder := do
  let res <- (stoi nw).mapError Fault.stoi
  .ok (builder.setNumWorkers res)

def setWorkerExe (sf : Option Path) : WcntlBuilder :=
  { builder with workerExe := sf }

def setWorkerExeText (sf : String) : WcntlBuilder :=
  builder.setWorkerExe (some sf)

def setWorkerConf (sf : Option Path) : WcntlBuilder :=
  { builder with workerConf := sf }

def setWorkerConfText (sf : String) : WcntlBuilder :=
  builder.setWorkerConf (some sf)

def setWorkerArgsFile (sf : Option Path) : WcntlBuilder :=
  { builder with workerArgsFile := sf }

def setWorkerArgsFileText (sf : String) : WcntlBuilder :=
  builder.setWorkerArgsFile (some sf)

end WcntlBuilder

/-! ## Settings -/

inductive ServiceSetting
  | core (setting : CoreSetting)
  | numThreads
  | webrootDir
  | listeners
  | listenFile
  | listenDirPath
deriving DecidableEq, Repr

abbrev ServiceSetting.Value : ServiceSetting -> Type
  | .core setting => setting.Value
  | .numThreads => Int
  | .listeners => List ListenerConf
  | .webrootDir | .listenFile | .listenDirPath => Option Path

inductive WcntlSetting
  | service (setting : ServiceSetting)
  | workerExeUsePath
  | numWorkers
  | workerArgs
  | workerConf
  | workerArgsFile
  | workerExe
deriving DecidableEq, Repr

/-- Without a default, a setting may have no value. -/
abbrev WcntlSetting.Value : WcntlSetting -> Type
  | .service setting => setting.Value
  | .workerExeUsePath => Option Bool
  | .numWorkers => Option Int
  | .workerArgs => String
  | .workerConf | .workerArgsFile | .workerExe => Option Path

def ServiceBuilder.values (builder : ServiceBuilder) :
    forall setting, ServiceSetting.Value setting
  | .core setting => builder.toCoreBuilder.values setting
  | .numThreads => builder.numThreads
  | .webrootDir => builder.webrootDir
  | .listeners => builder.listeners
  | .listenFile => builder.listenFile
  | .listenDirPath => builder.listenDirPath

def WcntlBuilder.values (builder : WcntlBuilder) : forall setting, WcntlSetting.Value setting
  | .service setting => builder.toServiceBuilder.values setting
  | .workerExeUsePath => builder.workerExeUsePath
  | .numWorkers => builder.numWorkers
  | .workerArgs => builder.workerArgs
  | .workerConf => builder.workerConf
  | .workerArgsFile => builder.workerArgsFile
  | .workerExe => builder.workerExe

structure ServiceConfig.Returns (config : ServiceConfig)
    (values : forall setting, ServiceSetting.Value setting) : Prop where
  core : config.toCoreConfig.Returns fun setting => values (.core setting)
  numThreads : config.numThreads = values .numThreads
  webrootDir : config.webrootDir = values .webrootDir
  listeners : config.listeners = values .listeners
  listenFile : config.listenFile = values .listenFile
  listenDirPath : config.listenDirPath = values .listenDirPath

structure WcntlConfig.Returns (config : WcntlConfig)
    (values : forall setting, WcntlSetting.Value setting) : Prop where
  service : config.toServiceConfig.Returns fun setting => values (.service setting)
  workerExeUsePath : some config.workerExeUsePath = values .workerExeUsePath
  numWorkers : some config.numWorkers = values .numWorkers
  workerArgs : config.workerArgs = values .workerArgs
  workerConf : config.workerConf = values .workerConf
  workerArgsFile : config.workerArgsFile = values .workerArgsFile
  workerExe : config.workerExe = values .workerExe

/-! ## Calls -/

inductive ServiceCall
  | core (call : CoreCall)
  | setWebrootDir (sf : Arg (Option Path))
  | setNumThreads (nt : Arg Int)
  | setListeners (l : List ListenerConf)
  | setListenersText (l : String)
  | setListenersTexts (l : List String)
  | setListenFile (sf : Arg (Option Path))
  | setListenDir (sf : Arg (Option Path))
deriving DecidableEq, Repr

inductive WcntlCall
  | service (call : ServiceCall)
  | setWorkerExeUsePath (u : Arg Bool)
  | setWorkerArgs (u : String)
  | setNumWorkers (nw : Arg Int)
  | setWorkerExe (sf : Arg (Option Path))
  | setWorkerConf (sf : Arg (Option Path))
  | setWorkerArgsFile (sf : Arg (Option Path))
deriving DecidableEq, Repr

variable (ext : Externals)

def ServiceBuilder.call (builder : ServiceBuilder) : ServiceCall -> Except Fault ServiceBuilder
  | .core call => do
      let core <- builder.toCoreBuilder.call ext call
      .ok { builder with toCoreBuilder := core }
  | .setWebrootDir (.typed sf) => .ok (builder.setWebrootDir sf)
  | .setWebrootDir (.text sf) => .ok (builder.setWebrootDirText sf)
  | .setNumThreads (.typed nt) => .ok (builder.setNumThreads nt)
  | .setNumThreads (.text nt) => builder.setNumThreadsText nt
  | .setListeners l => .ok (builder.setListeners l)
  | .setListenersText l => builder.setListenersText ext l
  | .setListenersTexts l => builder.setListenersTexts ext l
  | .setListenFile (.typed sf) => .ok (builder.setListenFile sf)
  | .setListenFile (.text sf) => .ok (builder.setListenFileText sf)
  | .setListenDir (.typed sf) => .ok (builder.setListenDir sf)
  | .setListenDir (.text sf) => .ok (builder.setListenDirText sf)

def WcntlBuilder.call (builder : WcntlBuilder) : WcntlCall -> Except Fault WcntlBuilder
  | .service call => do
      let service <- builder.toServiceBuilder.call ext call
      .ok { builder with toServiceBuilder := service }
  | .setWorkerExeUsePath (.typed u) => .ok (builder.setWorkerExeUsePath u)
  | .setWorkerExeUsePath (.text u) => builder.setWorkerExeUsePathText ext u
  | .setWorkerArgs u => .ok (builder.setWorkerArgs u)
  | .setNumWorkers (.typed nw) => .ok (builder.setNumWorkers nw)
  | .setNumWorkers (.text nw) => builder.setNumWorkersText nw
  | .setWorkerExe (.typed sf) => .ok (builder.setWorkerExe sf)
  | .setWorkerExe (.text sf) => .ok (builder.setWorkerExeText sf)
  | .setWorkerConf (.typed sf) => .ok (builder.setWorkerConf sf)
  | .setWorkerConf (.text sf) => .ok (builder.setWorkerConfText sf)
  | .setWorkerArgsFile (.typed sf) => .ok (builder.setWorkerArgsFile sf)
  | .setWorkerArgsFile (.text sf) => .ok (builder.setWorkerArgsFileText sf)

def intOf (text : String) : Option Int :=
  (stoi text).toOption

def listenerOf (text : String) : Option ListenerConf :=
  (ListenerConf.parse ext.tokenizer text).toOption

/-- A listener that is given as a text is added to the others. -/
def ServiceCall.named : ServiceCall -> Change ServiceSetting.Value
  | .core call => (call.named ext).lift .core
  | .setWebrootDir sf => ⟨.webrootDir, sf.sets pathOf⟩
  | .setNumThreads nt => ⟨.numThreads, nt.sets intOf⟩
  | .setListeners l => ⟨.listeners, fun _ => l⟩
  | .setListenersText l => ⟨.listeners, fun old => old ++ (listenerOf ext l).toList⟩
  | .setListenersTexts l => ⟨.listeners, fun old => old ++ l.filterMap (listenerOf ext)⟩
  | .setListenFile sf => ⟨.listenFile, sf.sets pathOf⟩
  | .setListenDir sf => ⟨.listenDirPath, sf.sets pathOf⟩

def WcntlCall.named : WcntlCall -> Change WcntlSetting.Value
  | .service call => (call.named ext).lift .service
  | .setWorkerExeUsePath u =>
      ⟨.workerExeUsePath, fun old => (u.value? ext.lexicalBool).or old⟩
  | .setWorkerArgs u => ⟨.workerArgs, fun _ => u⟩
  | .setNumWorkers nw => ⟨.numWorkers, fun old => (nw.value? intOf).or old⟩
  | .setWorkerExe sf => ⟨.workerExe, sf.sets pathOf⟩
  | .setWorkerConf sf => ⟨.workerConf, sf.sets pathOf⟩
  | .setWorkerArgsFile sf => ⟨.workerArgsFile, sf.sets pathOf⟩

def ServiceCall.Valid : ServiceCall -> Prop
  | .core call => call.Valid ext
  | .setNumThreads nt => (nt.value? intOf).isSome
  | .setListenersText l => (listenerOf ext l).isSome
  | .setListenersTexts l => forall text, text ∈ l -> (listenerOf ext text).isSome
  | _ => True

def WcntlCall.Valid : WcntlCall -> Prop
  | .service call => call.Valid ext
  | .setWorkerExeUsePath u => (u.value? ext.lexicalBool).isSome
  | .setNumWorkers nw => (nw.value? intOf).isSome
  | _ => True

def ServiceCall.slips : ServiceCall -> Option Bool
  | .core call => call.slips ext
  | _ => none

def WcntlCall.slips : WcntlCall -> Option Bool
  | .service call => call.slips ext
  | _ => none

variable {ext}

/-! ## What the setters do -/

theorem mapError_of_toOption {Error Result : Type} {result : Except Error Result} {value : Result}
    (found : result.toOption = some value) (wrap : Error -> Fault) :
    result.mapError wrap = .ok value := by
  cases result with
  | error _ => cases found
  | ok _ =>
      cases found
      rfl

/-- A setter that is given a number as a text. -/
theorem stoi_then {Builder : Type} (set : Int -> Builder) {s : String} {number : Int}
    (found : intOf s = some number) :
    ((stoi s).mapError Fault.stoi >>= fun res => .ok (set res)) = .ok (set number) := by
  rw [mapError_of_toOption found]
  rfl

theorem ServiceCall.named_of_slip {call : ServiceCall} {value : Bool}
    (slip : call.slips ext = some value) :
    (call.named ext).setting = .core .displayVersion := by
  cases call with
  | core _ => exact congrArg ServiceSetting.core (CoreCall.named_of_slip slip)
  | _ => cases slip

theorem WcntlCall.named_of_slip {call : WcntlCall} {value : Bool}
    (slip : call.slips ext = some value) :
    (call.named ext).setting = .service (.core .displayVersion) := by
  cases call with
  | service _ => exact congrArg WcntlSetting.service (ServiceCall.named_of_slip slip)
  | _ => cases slip

/-- The calls of a service builder. -/
def serviceCalls (ext : Externals) : Misdirection ServiceCall ServiceSetting.Value where
  named := ServiceCall.named ext
  missed := .core .displayVersion
  hit := .core .displayHelp
  different := by decide
  slips := ServiceCall.slips ext
  slipped := fun _ _ slip => ServiceCall.named_of_slip slip

/-- The calls of a builder for worker control. -/
def wcntlCalls (ext : Externals) : Misdirection WcntlCall WcntlSetting.Value where
  named := WcntlCall.named ext
  missed := .service (.core .displayVersion)
  hit := .service (.core .displayHelp)
  different := by decide
  slips := WcntlCall.slips ext
  slipped := fun _ _ slip => WcntlCall.named_of_slip slip

theorem actual_core (ext : Externals) (call : CoreCall) :
    (serviceCalls ext).actual (.core call) = ((coreCalls ext).actual call).lift .core := by
  have same : (serviceCalls ext).slips (.core call) = (coreCalls ext).slips call := rfl
  cases slip : (coreCalls ext).slips call with
  | none =>
      rw [(coreCalls ext).actual_proper slip, (serviceCalls ext).actual_proper (same.trans slip)]
      rfl
  | some value =>
      rw [(coreCalls ext).actual_slip slip, (serviceCalls ext).actual_slip (same.trans slip)]
      rfl

theorem actual_service (ext : Externals) (call : ServiceCall) :
    (wcntlCalls ext).actual (.service call) = ((serviceCalls ext).actual call).lift .service := by
  have same : (wcntlCalls ext).slips (.service call) = (serviceCalls ext).slips call := rfl
  cases slip : (serviceCalls ext).slips call with
  | none =>
      rw [(serviceCalls ext).actual_proper slip,
        (wcntlCalls ext).actual_proper (same.trans slip)]
      rfl
  | some value =>
      rw [(serviceCalls ext).actual_slip slip, (wcntlCalls ext).actual_slip (same.trans slip)]
      rfl

/-- A list of valid texts is read to its configurations. -/
theorem parseListeners_ok {s : List String}
    (valid : forall text, text ∈ s -> (listenerOf ext text).isSome) :
    ServiceBuilder.parseListeners ext s = .ok (s.filterMap (listenerOf ext)) := by
  induction s using List.reverseRecOn with
  | nil => rfl
  | append_singleton s last before =>
      have early := before fun text member => valid text (List.mem_append_left [last] member)
      rcases Option.isSome_iff_exists.mp (valid last (List.mem_concat_self ..)) with ⟨conf, found⟩
      have parsed := mapError_of_toOption found Fault.parse
      rw [ServiceBuilder.parseListeners] at early
      rw [ServiceBuilder.parseListeners, List.foldlM_append, early, List.filterMap_append,
        List.filterMap_cons_some found]
      simp only [List.foldlM_cons, List.foldlM_nil, bind, Except.bind, parsed]
      rfl

/-- A call for the base class changes the part that belongs to it. -/
theorem ServiceBuilder.acts_core (builder : ServiceBuilder) (call : CoreCall)
    (valid : call.Valid ext) :
    Exists fun next => builder.call ext (.core call) = .ok next ∧
      next.values = ((serviceCalls ext).actual (.core call)).apply builder.values := by
  rcases builder.toCoreBuilder.acts call valid with ⟨core, called, changed⟩
  refine ⟨{ builder with toCoreBuilder := core }, ?_, ?_⟩
  · change builder.toCoreBuilder.call ext call >>= _ = _
    rw [called]
    rfl
  · rw [actual_core]
    refine Change.eq_lift_apply (fun _ _ same => ServiceSetting.core.inj same)
      (congrFun changed) fun setting own => ?_
    cases setting with
    | core setting => exact absurd rfl (own setting)
    | _ => rfl

theorem ServiceBuilder.acts (builder : ServiceBuilder) (call : ServiceCall)
    (valid : call.Valid ext) :
    Exists fun next => builder.call ext call = .ok next ∧
      next.values = ((serviceCalls ext).actual call).apply builder.values := by
  cases call with
  | core call => exact builder.acts_core call valid
  | setWebrootDir sf =>
      cases sf with
      | typed _ => exact ⟨_, rfl, funext fun setting => by cases setting <;> rfl⟩
      | text _ => exact ⟨_, rfl, funext fun setting => by cases setting <;> rfl⟩
  | setListenFile sf =>
      cases sf with
      | typed _ => exact ⟨_, rfl, funext fun setting => by cases setting <;> rfl⟩
      | text _ => exact ⟨_, rfl, funext fun setting => by cases setting <;> rfl⟩
  | setListenDir sf =>
      cases sf with
      | typed _ => exact ⟨_, rfl, funext fun setting => by cases setting <;> rfl⟩
      | text _ => exact ⟨_, rfl, funext fun setting => by cases setting <;> rfl⟩
  | setNumThreads nt =>
      rcases Option.isSome_iff_exists.mp valid with ⟨number, found⟩
      have called : builder.call ext (.setNumThreads nt) = .ok (builder.setNumThreads number) := by
        cases nt with
        | typed _ =>
            cases found
            rfl
        | text s => exact stoi_then builder.setNumThreads found
      refine ⟨_, called, funext fun setting => ?_⟩
      rw [(serviceCalls ext).actual_proper rfl]
      change _ = (ServiceCall.named ext _).apply _ _
      rw [ServiceCall.named, Arg.sets_of found]
      cases setting <;> rfl
  | setListeners _ => exact ⟨_, rfl, funext fun setting => by cases setting <;> rfl⟩
  | setListenersText l =>
      rcases Option.isSome_iff_exists.mp valid with ⟨conf, found⟩
      have called : builder.call ext (.setListenersText l) =
          .ok { builder with listeners := builder.listeners ++ [conf] } := by
        change (ListenerConf.parse ext.tokenizer l).mapError Fault.parse >>= _ = _
        rw [mapError_of_toOption found]
        rfl
      refine ⟨_, called, funext fun setting => ?_⟩
      rw [(serviceCalls ext).actual_proper rfl]
      change _ = (ServiceCall.named ext _).apply _ _
      rw [ServiceCall.named, found]
      cases setting <;> rfl
  | setListenersTexts l =>
      have called : builder.call ext (.setListenersTexts l) =
          .ok { builder with
            listeners := builder.listeners ++ l.filterMap (listenerOf ext) } := by
        change parseListeners ext l >>= _ = _
        rw [parseListeners_ok valid]
        rfl
      exact ⟨_, called, funext fun setting => by cases setting <;> rfl⟩

theorem WcntlBuilder.acts_service (builder : WcntlBuilder) (call : ServiceCall)
    (valid : call.Valid ext) :
    Exists fun next => builder.call ext (.service call) = .ok next ∧
      next.values = ((wcntlCalls ext).actual (.service call)).apply builder.values := by
  rcases builder.toServiceBuilder.acts call valid with ⟨service, called, changed⟩
  refine ⟨{ builder with toServiceBuilder := service }, ?_, ?_⟩
  · change builder.toServiceBuilder.call ext call >>= _ = _
    rw [called]
    rfl
  · rw [actual_service]
    refine Change.eq_lift_apply (fun _ _ same => WcntlSetting.service.inj same)
      (congrFun changed) fun setting own => ?_
    cases setting with
    | service setting => exact absurd rfl (own setting)
    | _ => rfl

theorem WcntlBuilder.acts (builder : WcntlBuilder) (call : WcntlCall)
    (valid : call.Valid ext) :
    Exists fun next => builder.call ext call = .ok next ∧
      next.values = ((wcntlCalls ext).actual call).apply builder.values := by
  cases call with
  | service call => exact builder.acts_service call valid
  | setWorkerExe sf =>
      cases sf with
      | typed _ => exact ⟨_, rfl, funext fun setting => by cases setting <;> rfl⟩
      | text _ => exact ⟨_, rfl, funext fun setting => by cases setting <;> rfl⟩
  | setWorkerConf sf =>
      cases sf with
      | typed _ => exact ⟨_, rfl, funext fun setting => by cases setting <;> rfl⟩
      | text _ => exact ⟨_, rfl, funext fun setting => by cases setting <;> rfl⟩
  | setWorkerArgsFile sf =>
      cases sf with
      | typed _ => exact ⟨_, rfl, funext fun setting => by cases setting <;> rfl⟩
      | text _ => exact ⟨_, rfl, funext fun setting => by cases setting <;> rfl⟩
  | setWorkerArgs _ => exact ⟨_, rfl, funext fun setting => by cases setting <;> rfl⟩
  | setWorkerExeUsePath u =>
      rcases Option.isSome_iff_exists.mp valid with ⟨value, found⟩
      have called : builder.call ext (.setWorkerExeUsePath u) =
          .ok (builder.setWorkerExeUsePath value) := by
        cases u with
        | typed _ =>
            cases found
            rfl
        | text s =>
            change ext.lexicalBool s = some value at found
            change builder.setWorkerExeUsePathText ext s = _
            rw [setWorkerExeUsePathText, found]
            rfl
      refine ⟨_, called, funext fun setting => ?_⟩
      rw [(wcntlCalls ext).actual_proper rfl]
      change _ = (WcntlCall.named ext _).apply _ _
      rw [WcntlCall.named, found]
      cases setting <;> rfl
  | setNumWorkers nw =>
      rcases Option.isSome_iff_exists.mp valid with ⟨number, found⟩
      have called : builder.call ext (.setNumWorkers nw) = .ok (builder.setNumWorkers number) := by
        cases nw with
        | typed _ =>
            cases found
            rfl
        | text s => exact stoi_then builder.setNumWorkers found
      refine ⟨_, called, funext fun setting => ?_⟩
      rw [(wcntlCalls ext).actual_proper rfl]
      change _ = (WcntlCall.named ext _).apply _ _
      rw [WcntlCall.named, found]
      cases setting <;> rfl

/-- The setters of a service builder. -/
def serviceSetters (ext : Externals) :
    Setters ServiceCall ServiceSetting.Value ServiceBuilder Fault where
  toMisdirection := serviceCalls ext
  create := .create
  call := ServiceBuilder.call ext
  values := ServiceBuilder.values
  Valid := ServiceCall.Valid ext
  acts := ServiceBuilder.acts

/-- The setters of a builder for worker control. -/
def wcntlSetters (ext : Externals) :
    Setters WcntlCall WcntlSetting.Value WcntlBuilder Fault where
  toMisdirection := wcntlCalls ext
  create := .create
  call := WcntlBuilder.call ext
  values := WcntlBuilder.values
  Valid := WcntlCall.Valid ext
  acts := WcntlBuilder.acts

/-! ## What gets to a configuration -/

/-- But for the version, a configuration has what the builder has. -/
theorem CoreBuilder.returns_iff {builder : CoreBuilder}
    {values : forall setting, CoreSetting.Value setting}
    (agree : forall setting, setting ≠ .displayVersion ->
      builder.values setting = values setting) :
    builder.toConfigCore.Returns values <->
      builder.values .displayVersion = values .displayVersion := by
  have patterns := agree .epjsUrlPathRegex (by decide)
  constructor
  · exact fun returns => returns.displayVersion
  · intro version
    exact {
      displayHelp := agree .displayHelp (by decide)
      displayVersion := version
      verbosity := agree .verbosity (by decide)
      debugLevel := agree .debugLevel (by decide)
      epjsUrlPathRegex := congrArg Prod.fst patterns
      epjsUrlPathRegexStr := congrArg Prod.snd patterns
      mimeTypes := agree .mimeTypes (by decide)
      remainderArgs := agree .remainderArgs (by decide)
      outFile := agree .outFile (by decide)
      logFile := agree .logFile (by decide)
      argFile := agree .argFile (by decide)
      cnfFile := agree .cnfFile (by decide)
      pidFile := agree .pidFile (by decide)
      pidDirPath := agree .pidDirPath (by decide) }

theorem ServiceBuilder.returns_iff {builder : ServiceBuilder}
    {values : forall setting, ServiceSetting.Value setting}
    (agree : forall setting, setting ≠ .core .displayVersion ->
      builder.values setting = values setting) :
    builder.toConfig.Returns values <->
      builder.values (.core .displayVersion) = values (.core .displayVersion) := by
  have core : builder.toConfigCore.Returns (fun setting => values (.core setting)) <->
      builder.values (.core .displayVersion) = values (.core .displayVersion) :=
    CoreBuilder.returns_iff fun setting other =>
      agree (.core setting) fun same => other (ServiceSetting.core.inj same)
  constructor
  · exact fun returns => core.mp returns.core
  · intro version
    exact {
      core := core.mpr version
      numThreads := agree .numThreads (by decide)
      webrootDir := agree .webrootDir (by decide)
      listeners := agree .listeners (by decide)
      listenFile := agree .listenFile (by decide)
      listenDirPath := agree .listenDirPath (by decide) }

/-- What a configuration for worker control needs besides the version. -/
structure WcntlReady (values : forall setting, WcntlSetting.Value setting) : Prop where
  listenFile : values (.service (.core .logFile)) = values (.service .listenFile)
  workerExeUsePath : values .workerExeUsePath ≠ none
  numWorkers : values .numWorkers ≠ none

/-- A configuration for worker control is that of the base class, with another listen file. -/
theorem WcntlBuilder.toConfig_of_set {builder : WcntlBuilder} {u : Bool} {np : Int}
    (usePath : builder.workerExeUsePath = some u) (number : builder.numWorkers = some np) :
    builder.toConfig = some {
      toServiceConfig := { builder.toServiceBuilder.toConfig with listenFile := builder.logFile }
      workerExeUsePath := u
      numWorkers := np
      workerArgs := builder.workerArgs
      workerConf := builder.workerConf
      workerArgsFile := builder.workerArgsFile
      workerExe := builder.workerExe } := by
  rw [toConfig, usePath, number]
  rfl

theorem WcntlBuilder.returns_iff {builder : WcntlBuilder}
    {values : forall setting, WcntlSetting.Value setting}
    (agree : forall setting, setting ≠ .service (.core .displayVersion) ->
      builder.values setting = values setting) :
    (Exists fun config => builder.toConfig = some config ∧ config.Returns values) <->
      builder.values (.service (.core .displayVersion)) =
        values (.service (.core .displayVersion)) ∧ WcntlReady values := by
  have core : builder.toConfigCore.Returns (fun setting => values (.service (.core setting))) <->
      builder.values (.service (.core .displayVersion)) =
        values (.service (.core .displayVersion)) :=
    CoreBuilder.returns_iff fun setting other => agree (.service (.core setting)) fun same =>
      other (ServiceSetting.core.inj (WcntlSetting.service.inj same))
  have logFile : builder.logFile = values (.service (.core .logFile)) :=
    agree (.service (.core .logFile)) (by decide)
  have usePath : builder.workerExeUsePath = values .workerExeUsePath :=
    agree .workerExeUsePath (by decide)
  have number : builder.numWorkers = values .numWorkers := agree .numWorkers (by decide)
  constructor
  · rintro ⟨config, made, returns⟩
    rcases Option.bind_eq_some_iff.mp made with ⟨u, usePathSet, rest⟩
    rcases Option.bind_eq_some_iff.mp rest with ⟨np, numberSet, last⟩
    cases last
    refine ⟨core.mp returns.service.core, logFile.symm.trans returns.service.listenFile, ?_, ?_⟩
    · rw [← usePath, usePathSet]
      exact Option.some_ne_none u
    · rw [← number, numberSet]
      exact Option.some_ne_none np
  · rintro ⟨version, ready⟩
    rcases Option.ne_none_iff_exists'.mp ready.workerExeUsePath with ⟨u, usePathSet⟩
    rcases Option.ne_none_iff_exists'.mp ready.numWorkers with ⟨np, numberSet⟩
    refine ⟨_, toConfig_of_set (usePath.trans usePathSet) (number.trans numberSet), ?_⟩
    exact {
      service := {
        core := core.mpr version
        numThreads := agree (.service .numThreads) (by decide)
        webrootDir := agree (.service .webrootDir) (by decide)
        listeners := agree (.service .listeners) (by decide)
        listenFile := logFile.trans ready.listenFile
        listenDirPath := agree (.service .listenDirPath) (by decide) }
      workerExeUsePath := usePathSet.symm
      numWorkers := numberSet.symm
      workerArgs := agree .workerArgs (by decide)
      workerConf := agree .workerConf (by decide)
      workerArgsFile := agree .workerArgsFile (by decide)
      workerExe := agree .workerExe (by decide) }

/-! ## The three builders -/

def CoreCarries (ext : Externals) : List CoreCall -> Prop :=
  (coreSetters ext).Carries (fun builder => some builder.toConfigCore) CoreConfig.Returns

def ServiceCarries (ext : Externals) : List ServiceCall -> Prop :=
  (serviceSetters ext).Carries (fun builder => some builder.toConfig) ServiceConfig.Returns

def WcntlCarries (ext : Externals) : List WcntlCall -> Prop :=
  (wcntlSetters ext).Carries WcntlBuilder.toConfig WcntlConfig.Returns

theorem coreCarries_iff (ext : Externals) (calls : List CoreCall)
    (valid : forall call, call ∈ calls -> call.Valid ext) :
    CoreCarries ext calls <-> (coreSetters ext).Unnoticed (coreSetters ext).defaults calls := by
  refine (Setters.carries_iff (fun _ => True) ?_ valid).trans (and_iff_left True.intro)
  intro builder values agree
  simp only [Option.some.injEq, exists_eq_left', and_true]
  exact CoreBuilder.returns_iff agree

theorem serviceCarries_iff (ext : Externals) (calls : List ServiceCall)
    (valid : forall call, call ∈ calls -> call.Valid ext) :
    ServiceCarries ext calls <->
      (serviceSetters ext).Unnoticed (serviceSetters ext).defaults calls := by
  refine (Setters.carries_iff (fun _ => True) ?_ valid).trans (and_iff_left True.intro)
  intro builder values agree
  simp only [Option.some.injEq, exists_eq_left', and_true]
  exact ServiceBuilder.returns_iff agree

theorem wcntlCarries_iff (ext : Externals) (calls : List WcntlCall)
    (valid : forall call, call ∈ calls -> call.Valid ext) :
    WcntlCarries ext calls <->
      (wcntlSetters ext).Unnoticed (wcntlSetters ext).defaults calls ∧
        WcntlReady ((wcntlSetters ext).lastSet (wcntlSetters ext).defaults calls) :=
  Setters.carries_iff WcntlReady (fun _ _ agree => WcntlBuilder.returns_iff agree) valid

/-- The settings reach the configurations exactly if each text that is passed for the version
says what the help was last set to, and the version is the same without these calls.  For worker
control, moreover, the log file and the listen file must be last set to the same, and the two
settings without a default must be set. -/
theorem builders_carry_iff (ext : Externals) (core : List CoreCall) (service : List ServiceCall)
    (wcntl : List WcntlCall) (coreValid : forall call, call ∈ core -> call.Valid ext)
    (serviceValid : forall call, call ∈ service -> call.Valid ext)
    (wcntlValid : forall call, call ∈ wcntl -> call.Valid ext) :
    (CoreCarries ext core <->
      (coreSetters ext).Unnoticed (coreSetters ext).defaults core) ∧
    (ServiceCarries ext service <->
      (serviceSetters ext).Unnoticed (serviceSetters ext).defaults service) ∧
    (WcntlCarries ext wcntl <->
      (wcntlSetters ext).Unnoticed (wcntlSetters ext).defaults wcntl ∧
        WcntlReady ((wcntlSetters ext).lastSet (wcntlSetters ext).defaults wcntl)) :=
  ⟨coreCarries_iff ext core coreValid, serviceCarries_iff ext service serviceValid,
    wcntlCarries_iff ext wcntl wcntlValid⟩

/-! ## Calls of the three builders -/

def bitOf (text : String) : Option Bool :=
  if text = "0" then some false else if text = "1" then some true else none

def plainExternals : Externals where
  convertBool := bitOf
  lexicalBool := bitOf
  regexError := fun _ => none
  tokenizer := EndpointSpecs.documentedTokenizer

def plainCore : List CoreCall :=
  [.setVerbosity (.text "Debug"), .setDisplayHelp (.text "1"), .setEpjsUrlPathRegex ["a$"] false]

def plainService : List ServiceCall :=
  [.core (.setLogFile (.text "worker.log")), .setNumThreads (.text "4"),
    .setListenersText "name=public,address=127.0.0.1,port=8080"]

/-- The log file and the listen file are the same. -/
def plainWcntl : List WcntlCall :=
  [.service (.core (.setLogFile (.text "worker.out"))),
    .service (.setListenFile (.text "worker.out")), .setWorkerExeUsePath (.text "1"),
    .setNumWorkers (.text "2")]

theorem plainCalls_carried : CoreCarries plainExternals plainCore ∧
    ServiceCarries plainExternals plainService ∧ WcntlCarries plainExternals plainWcntl := by
  have carried := builders_carry_iff plainExternals plainCore plainService plainWcntl
    (by
      intro call member
      fin_cases member
      · exact (by decide +kernel : (verbosityNamed "Debug").isSome = true)
      · exact (by decide +kernel : (bitOf "1").isSome = true)
      · exact fun _ _ => rfl)
    (by
      intro call member
      fin_cases member
      · exact True.intro
      · exact (by decide +kernel : (intOf "4").isSome = true)
      · exact (by decide +kernel : (listenerOf plainExternals
          "name=public,address=127.0.0.1,port=8080").isSome = true))
    (by
      intro call member
      fin_cases member
      · exact True.intro
      · exact True.intro
      · exact (by decide +kernel : (bitOf "1").isSome = true)
      · exact (by decide +kernel : (intOf "2").isSome = true))
  refine ⟨carried.1.mpr ?_, carried.2.1.mpr ?_, carried.2.2.mpr ⟨?_, ?_⟩⟩
  · exact Misdirection.unnoticed_of_proper (by decide +kernel)
  · exact Misdirection.unnoticed_of_proper (by decide +kernel)
  · exact Misdirection.unnoticed_of_proper (by decide +kernel)
  · exact ⟨rfl, Option.some_ne_none true, Option.some_ne_none 2⟩

/-- The version given as a text turns the help on. -/
theorem versionText_not_carried :
    ¬CoreCarries plainExternals [.setDisplayVersion (.text "1")] := by
  intro carries
  have slip : CoreCall.slips plainExternals (.setDisplayVersion (.text "1")) = some true := by
    decide +kernel
  have changed := carries.own [] _ (List.prefix_refl _) .create _ rfl
    (CoreBuilder.call_slip .create slip) .displayHelp (by decide)
  cases changed

end Config

end EasyProspect
