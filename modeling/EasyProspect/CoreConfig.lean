import EasyProspect.EndpointSpecs
import EasyProspect.Library.Settings
import EasyProspect.ListenerPorts

namespace EasyProspect

/-!
# The core configuration and its builder

A builder has a value for each setting, and `to_config_core` passes them to the constructor of
the configuration by position.  Most setters come in two overloads; the one for a text converts
it and calls the other, and the one for the version calls the setter for the help.

A path is kept as its text, and a regular expression as its pattern.  The conversions of Boost,
and what `std::regex` says about a pattern, are parameters.
-/

namespace Config

open Settings (Change Misdirection Setters)

abbrev Path := String

/-- `std::regex`. -/
structure Regex where
  pattern : String
deriving DecidableEq, Repr

/-- `ep_mime_type`. -/
structure MimeType where
  mext : String
  mtype : String
deriving DecidableEq, Repr

/-- What leaves a setter as an exception. -/
inductive Fault
  | logicError (what : String)
  /-- `throw new`. -/
  | logicErrorPointer (what : String)
  | stoi (exception : OpenException)
  | badLexicalCast
  | parse (failure : EndpointSpecs.Failure)
deriving DecidableEq

/-- What the setters call. -/
structure Externals where
  /-- `boost::convert<bool>` with a stream. -/
  convertBool : String -> Option Bool
  /-- `boost::lexical_cast<bool>`. -/
  lexicalBool : String -> Option Bool
  /-- What `regex_error` says about a pattern. -/
  regexError : String -> Option String
  tokenizer : EndpointSpecs.Tokenizer

/-! ## Levels -/

/-- `boost::iequals`. -/
def iequals (left right : String) : Bool :=
  fieldToken left = fieldToken right

/-- `ep_verbosity_type`. -/
inductive Verbosity
  | none
  | quiet
  | minimum
  | normal
  | debug
  | maximum
deriving DecidableEq, Repr

/-- `ep_debug_level_type`. -/
inductive DebugLevel
  | epNone
  | epOff
  | epFatal
  | epError
  | epWarn
  | epInfo
  | epDebug
  | epTrace
  | epAll
deriving DecidableEq, Repr

def verbosityFrom (v : String) : Except Fault Verbosity :=
  if iequals v "none" then .ok .none
  else if iequals v "quiet" then .ok .quiet
  else if iequals v "minimum" then .ok .minimum
  else if iequals v "normal" then .ok .normal
  else if iequals v "maximum" then .ok .maximum
  else if iequals v "debug" then .ok .debug
  else .error (.logicError "Invalid verbosity")

def debugLevelFrom (d : String) : Except Fault DebugLevel :=
  if iequals d "ep_none" then .ok .epNone
  else if iequals d "ep_all" then .ok .epAll
  else if iequals d "ep_debug" then .ok .epDebug
  else if iequals d "ep_trace" then .ok .epTrace
  else if iequals d "ep_info" then .ok .epInfo
  else if iequals d "ep_warn" then .ok .epWarn
  else if iequals d "ep_error" then .ok .epError
  else if iequals d "ep_fatal" then .ok .epFatal
  else if iequals d "ep_off" then .ok .epOff
  else .error (.logicError "Invalid debug level")

/-! ## Configurations -/

/-- `easyprospect_config_core`. -/
structure CoreConfig where
  displayHelp : Bool
  displayVersion : Bool
  verbosity : Verbosity
  debugLevel : DebugLevel
  epjsUrlPathRegex : List Regex
  epjsUrlPathRegexStr : List String
  mimeTypes : List MimeType
  remainderArgs : Option (List String)
  outFile : Option Path
  logFile : Option Path
  argFile : Option Path
  cnfFile : Option Path
  pidFile : Option Path
  pidDirPath : Option Path
deriving DecidableEq

/-- The constructor. -/
def CoreConfig.create (dh dv : Bool) (verb : Verbosity) (db : DebugLevel)
    (remArgs : Option (List String)) (epjsUpr : List Regex) (epjsUprStr : List String)
    (mtypes : List MimeType) (of lf af cf pf pd : Option Path) : CoreConfig where
  displayHelp := dh
  displayVersion := dv
  verbosity := verb
  debugLevel := db
  remainderArgs := remArgs
  epjsUrlPathRegex := epjsUpr
  epjsUrlPathRegexStr := epjsUprStr
  mimeTypes := mtypes
  outFile := of
  logFile := lf
  argFile := af
  cnfFile := cf
  pidFile := pf
  pidDirPath := pd

/-- `easyprospect_config_core_builder`. -/
structure CoreBuilder where
  displayHelp : Bool
  displayVersion : Bool
  verbosity : Verbosity
  debugLevel : DebugLevel
  epjsUrlPathRegex : List Regex
  epjsUrlPathRegexStr : List String
  mimeTypes : List MimeType
  remainderArgs : Option (List String)
  outFile : Option Path
  logFile : Option Path
  argFile : Option Path
  cnfFile : Option Path
  pidFile : Option Path
  pidDirPath : Option Path
  helpStr : String
deriving DecidableEq

def defaultEpjsUrlPathRegex01 : String := ".*\\.epjs$"

def defaultEpjsUrlPathRegex02 : String := ".*\\.ep.js$"

namespace CoreBuilder

def create : CoreBuilder where
  displayHelp := false
  displayVersion := false
  verbosity := .none
  debugLevel := .epNone
  remainderArgs := none
  epjsUrlPathRegex := [⟨defaultEpjsUrlPathRegex01⟩, ⟨defaultEpjsUrlPathRegex02⟩]
  epjsUrlPathRegexStr := [defaultEpjsUrlPathRegex01, defaultEpjsUrlPathRegex02]
  mimeTypes := []
  outFile := none
  logFile := none
  argFile := none
  cnfFile := none
  pidFile := none
  pidDirPath := none
  helpStr := ""

variable (ext : Externals) (builder : CoreBuilder)

def toConfigCore : CoreConfig :=
  CoreConfig.create builder.displayHelp builder.displayVersion builder.verbosity
    builder.debugLevel builder.remainderArgs builder.epjsUrlPathRegex
    builder.epjsUrlPathRegexStr builder.mimeTypes builder.outFile builder.logFile
    builder.argFile builder.cnfFile builder.pidFile builder.pidDirPath

/-! ## The setters -/

def setVerbosity (verbosity : Verbosity) : CoreBuilder :=
  { builder with verbosity := verbosity }

def setVerbosityText (verbosity : String) : Except Fault CoreBuilder := do
  let v <- verbosityFrom verbosity
  .ok (builder.setVerbosity v)

def setDebugLevel (debugLevel : DebugLevel) : CoreBuilder :=
  { builder with debugLevel := debugLevel }

def setDebugLevelText (debugLevel : String) : Except Fault CoreBuilder := do
  let d <- debugLevelFrom debugLevel
  .ok (builder.setDebugLevel d)

def setLogFile (logFile : Option Path) : CoreBuilder :=
  { builder with logFile := logFile }

def setLogFileText (logFile : String) : CoreBuilder :=
  builder.setLogFile (some logFile)

def setOutFile (outFile : Option Path) : CoreBuilder :=
  { builder with outFile := outFile }

def setOutFileText (outFile : String) : CoreBuilder :=
  builder.setOutFile (some outFile)

def setArgFile (argFile : Option Path) : CoreBuilder :=
  { builder with argFile := argFile }

def setArgFileText (argFile : String) : CoreBuilder :=
  builder.setArgFile (some argFile)

def setCnfFile (cnf : Option Path) : CoreBuilder :=
  { builder with cnfFile := cnf }

def setCnfFileText (cnfFile : String) : CoreBuilder :=
  builder.setCnfFile (some cnfFile)

def setPidFile (pidFile : Option Path) : CoreBuilder :=
  { builder with pidFile := pidFile }

def setPidFileText (pidFile : String) : CoreBuilder :=
  builder.setPidFile (some pidFile)

def setPidDirPath (pidDirPath : Option Path) : CoreBuilder :=
  { builder with pidDirPath := pidDirPath }

def setPidDirPathText (pidDirPath : String) : CoreBuilder :=
  builder.setPidDirPath (some pidDirPath)

def setDisplayHelp (displayHelp : Bool) : CoreBuilder :=
  { builder with displayHelp := displayHelp }

def setDisplayHelpText (displayHelp : String) : Except Fault CoreBuilder :=
  match ext.convertBool displayHelp with
  | some d => .ok (builder.setDisplayHelp d)
  | none => .error (.logicErrorPointer "Invalid display help option")

def setDisplayVersion (displayVersion : Bool) : CoreBuilder :=
  { builder with displayVersion := displayVersion }

/-- The converted value goes to `set_display_help`. -/
def setDisplayVersionText (displayVersion : String) : Except Fault CoreBuilder :=
  match ext.convertBool displayVersion with
  | some v => .ok (builder.setDisplayHelp v)
  | none => .error (.logicErrorPointer "Invalid display version option")

def setRemainderArgs (remainderArgs : List String) : CoreBuilder :=
  { builder with remainderArgs := some remainderArgs }

def setHelpStr (s : String) : CoreBuilder :=
  { builder with helpStr := s }

/-- The body of the loop over the patterns. -/
def addEpjsUrlPathRegex (s : String) : Except Fault CoreBuilder :=
  match ext.regexError s with
  | some what => .error (.logicError s!"Error parsing regex '{what}'")
  | none =>
      .ok { builder with
        epjsUrlPathRegex := builder.epjsUrlPathRegex ++ [⟨s⟩]
        epjsUrlPathRegexStr := builder.epjsUrlPathRegexStr ++ [s] }

def setEpjsUrlPathRegex (cses : List String) (clear : Bool) : Except Fault CoreBuilder :=
  cses.foldlM (addEpjsUrlPathRegex ext)
    (if clear then { builder with epjsUrlPathRegex := [], epjsUrlPathRegexStr := [] }
    else builder)

def setMimeTypes (val : List MimeType) : CoreBuilder :=
  { builder with mimeTypes := val }

end CoreBuilder

/-! ## Settings -/

inductive CoreSetting
  | displayHelp
  | displayVersion
  | verbosity
  | debugLevel
  | epjsUrlPathRegex
  | mimeTypes
  | remainderArgs
  | outFile
  | logFile
  | argFile
  | cnfFile
  | pidFile
  | pidDirPath
  | helpStr
deriving DecidableEq, Repr

/-- The patterns of the paths are kept twice, once as regular expressions. -/
abbrev CoreSetting.Value : CoreSetting -> Type
  | .displayHelp | .displayVersion => Bool
  | .verbosity => Verbosity
  | .debugLevel => DebugLevel
  | .epjsUrlPathRegex => List Regex × List String
  | .mimeTypes => List MimeType
  | .remainderArgs => Option (List String)
  | .outFile | .logFile | .argFile | .cnfFile | .pidFile | .pidDirPath => Option Path
  | .helpStr => String

def CoreBuilder.values (builder : CoreBuilder) : forall setting, CoreSetting.Value setting
  | .displayHelp => builder.displayHelp
  | .displayVersion => builder.displayVersion
  | .verbosity => builder.verbosity
  | .debugLevel => builder.debugLevel
  | .epjsUrlPathRegex => (builder.epjsUrlPathRegex, builder.epjsUrlPathRegexStr)
  | .mimeTypes => builder.mimeTypes
  | .remainderArgs => builder.remainderArgs
  | .outFile => builder.outFile
  | .logFile => builder.logFile
  | .argFile => builder.argFile
  | .cnfFile => builder.cnfFile
  | .pidFile => builder.pidFile
  | .pidDirPath => builder.pidDirPath
  | .helpStr => builder.helpStr

/-- What the getters of a configuration return; the text of the help stays in the builder. -/
structure CoreConfig.Returns (config : CoreConfig)
    (values : forall setting, CoreSetting.Value setting) : Prop where
  displayHelp : config.displayHelp = values .displayHelp
  displayVersion : config.displayVersion = values .displayVersion
  verbosity : config.verbosity = values .verbosity
  debugLevel : config.debugLevel = values .debugLevel
  epjsUrlPathRegex : config.epjsUrlPathRegex = (values .epjsUrlPathRegex).1
  epjsUrlPathRegexStr : config.epjsUrlPathRegexStr = (values .epjsUrlPathRegex).2
  mimeTypes : config.mimeTypes = values .mimeTypes
  remainderArgs : config.remainderArgs = values .remainderArgs
  outFile : config.outFile = values .outFile
  logFile : config.logFile = values .logFile
  argFile : config.argFile = values .argFile
  cnfFile : config.cnfFile = values .cnfFile
  pidFile : config.pidFile = values .pidFile
  pidDirPath : config.pidDirPath = values .pidDirPath

/-! ## Calls -/

/-- The argument of a setter with two overloads. -/
inductive Arg (Argument : Type)
  | typed (value : Argument)
  | text (s : String)
deriving DecidableEq, Repr

/-- The value that an argument stands for. -/
def Arg.value? {Argument : Type} (read : String -> Option Argument) :
    Arg Argument -> Option Argument
  | .typed value => some value
  | .text s => read s

/-- A setting is to have the value that the argument stands for. -/
def Arg.sets {Argument : Type} (read : String -> Option Argument) (arg : Arg Argument)
    (old : Argument) : Argument :=
  (arg.value? read).getD old

/-- The level that a text names, out of a table of them. -/
def named? {Level : Type} (text : String) : List (String × Level) -> Option Level
  | [] => none
  | (name, level) :: others => if iequals text name then some level else named? text others

def verbosityNamed (text : String) : Option Verbosity :=
  named? text [("none", .none), ("quiet", .quiet), ("minimum", .minimum), ("normal", .normal),
    ("maximum", .maximum), ("debug", .debug)]

def debugLevelNamed (text : String) : Option DebugLevel :=
  named? text [("ep_none", .epNone), ("ep_all", .epAll), ("ep_debug", .epDebug),
    ("ep_trace", .epTrace), ("ep_info", .epInfo), ("ep_warn", .epWarn), ("ep_error", .epError),
    ("ep_fatal", .epFatal), ("ep_off", .epOff)]

/-- Every text is a path. -/
def pathOf (text : String) : Option (Option Path) :=
  some (some text)

inductive CoreCall
  | setVerbosity (verbosity : Arg Verbosity)
  | setDebugLevel (debugLevel : Arg DebugLevel)
  | setLogFile (logFile : Arg (Option Path))
  | setOutFile (outFile : Arg (Option Path))
  | setArgFile (argFile : Arg (Option Path))
  | setCnfFile (cnf : Arg (Option Path))
  | setPidFile (pidFile : Arg (Option Path))
  | setPidDirPath (pidDirPath : Arg (Option Path))
  | setDisplayHelp (displayHelp : Arg Bool)
  | setDisplayVersion (displayVersion : Arg Bool)
  | setRemainderArgs (remainderArgs : List String)
  | setHelpStr (s : String)
  | setEpjsUrlPathRegex (cses : List String) (clear : Bool)
  | setMimeTypes (val : List MimeType)
deriving DecidableEq, Repr

variable (ext : Externals)

def CoreBuilder.call (builder : CoreBuilder) : CoreCall -> Except Fault CoreBuilder
  | .setVerbosity (.typed verbosity) => .ok (builder.setVerbosity verbosity)
  | .setVerbosity (.text verbosity) => builder.setVerbosityText verbosity
  | .setDebugLevel (.typed debugLevel) => .ok (builder.setDebugLevel debugLevel)
  | .setDebugLevel (.text debugLevel) => builder.setDebugLevelText debugLevel
  | .setLogFile (.typed logFile) => .ok (builder.setLogFile logFile)
  | .setLogFile (.text logFile) => .ok (builder.setLogFileText logFile)
  | .setOutFile (.typed outFile) => .ok (builder.setOutFile outFile)
  | .setOutFile (.text outFile) => .ok (builder.setOutFileText outFile)
  | .setArgFile (.typed argFile) => .ok (builder.setArgFile argFile)
  | .setArgFile (.text argFile) => .ok (builder.setArgFileText argFile)
  | .setCnfFile (.typed cnf) => .ok (builder.setCnfFile cnf)
  | .setCnfFile (.text cnfFile) => .ok (builder.setCnfFileText cnfFile)
  | .setPidFile (.typed pidFile) => .ok (builder.setPidFile pidFile)
  | .setPidFile (.text pidFile) => .ok (builder.setPidFileText pidFile)
  | .setPidDirPath (.typed pidDirPath) => .ok (builder.setPidDirPath pidDirPath)
  | .setPidDirPath (.text pidDirPath) => .ok (builder.setPidDirPathText pidDirPath)
  | .setDisplayHelp (.typed displayHelp) => .ok (builder.setDisplayHelp displayHelp)
  | .setDisplayHelp (.text displayHelp) => builder.setDisplayHelpText ext displayHelp
  | .setDisplayVersion (.typed displayVersion) => .ok (builder.setDisplayVersion displayVersion)
  | .setDisplayVersion (.text displayVersion) => builder.setDisplayVersionText ext displayVersion
  | .setRemainderArgs remainderArgs => .ok (builder.setRemainderArgs remainderArgs)
  | .setHelpStr s => .ok (builder.setHelpStr s)
  | .setEpjsUrlPathRegex cses clear => builder.setEpjsUrlPathRegex ext cses clear
  | .setMimeTypes val => .ok (builder.setMimeTypes val)

/-- The setting that a setter is named after, and what it is to have after the call. -/
def CoreCall.named : CoreCall -> Change CoreSetting.Value
  | .setVerbosity verbosity => ⟨.verbosity, verbosity.sets verbosityNamed⟩
  | .setDebugLevel debugLevel => ⟨.debugLevel, debugLevel.sets debugLevelNamed⟩
  | .setLogFile logFile => ⟨.logFile, logFile.sets pathOf⟩
  | .setOutFile outFile => ⟨.outFile, outFile.sets pathOf⟩
  | .setArgFile argFile => ⟨.argFile, argFile.sets pathOf⟩
  | .setCnfFile cnf => ⟨.cnfFile, cnf.sets pathOf⟩
  | .setPidFile pidFile => ⟨.pidFile, pidFile.sets pathOf⟩
  | .setPidDirPath pidDirPath => ⟨.pidDirPath, pidDirPath.sets pathOf⟩
  | .setDisplayHelp displayHelp => ⟨.displayHelp, displayHelp.sets ext.convertBool⟩
  | .setDisplayVersion displayVersion => ⟨.displayVersion, displayVersion.sets ext.convertBool⟩
  | .setRemainderArgs remainderArgs => ⟨.remainderArgs, fun _ => some remainderArgs⟩
  | .setHelpStr s => ⟨.helpStr, fun _ => s⟩
  | .setEpjsUrlPathRegex cses clear =>
      ⟨.epjsUrlPathRegex, fun old =>
        if clear then (cses.map Regex.mk, cses) else (old.1 ++ cses.map Regex.mk, old.2 ++ cses)⟩
  | .setMimeTypes val => ⟨.mimeTypes, fun _ => val⟩

/-- The text that a call passes can be converted. -/
def CoreCall.Valid : CoreCall -> Prop
  | .setVerbosity verbosity => (verbosity.value? verbosityNamed).isSome
  | .setDebugLevel debugLevel => (debugLevel.value? debugLevelNamed).isSome
  | .setDisplayHelp value | .setDisplayVersion value => (value.value? ext.convertBool).isSome
  | .setEpjsUrlPathRegex cses _ => forall s, s ∈ cses -> ext.regexError s = none
  | _ => True

/-- What `set_display_version` with a text assigns to the setting for the help. -/
def CoreCall.slips : CoreCall -> Option Bool
  | .setDisplayVersion (.text displayVersion) => ext.convertBool displayVersion
  | _ => none

variable {ext}

/-! ## What the setters do -/

theorem Arg.sets_of {Argument : Type} {read : String -> Option Argument} {arg : Arg Argument}
    {value : Argument} (found : arg.value? read = some value) :
    arg.sets read = fun _ => value := by
  funext old
  rw [sets, found]
  rfl

theorem named?_cons {Level Result : Type} (text name : String) (level : Level)
    (others : List (String × Level)) (unknown : Result) (known : Level -> Result) :
    (named? text ((name, level) :: others)).elim unknown known =
      if iequals text name then known level else (named? text others).elim unknown known := by
  rw [named?]
  split
  · rfl
  · rfl

theorem verbosityFrom_eq (v : String) : verbosityFrom v =
    (verbosityNamed v).elim (.error (.logicError "Invalid verbosity")) .ok := by
  simp only [verbosityNamed, named?_cons]
  rfl

theorem debugLevelFrom_eq (d : String) : debugLevelFrom d =
    (debugLevelNamed d).elim (.error (.logicError "Invalid debug level")) .ok := by
  simp only [debugLevelNamed, named?_cons]
  rfl

namespace CoreBuilder

variable {builder : CoreBuilder}

theorem foldlM_addEpjsUrlPathRegex {cses : List String} :
    forall {builder : CoreBuilder}, (forall s, s ∈ cses -> ext.regexError s = none) ->
      cses.foldlM (addEpjsUrlPathRegex ext) builder =
        .ok { builder with
          epjsUrlPathRegex := builder.epjsUrlPathRegex ++ cses.map Regex.mk
          epjsUrlPathRegexStr := builder.epjsUrlPathRegexStr ++ cses } := by
  induction cses with
  | nil =>
      intro builder _
      rw [List.map_nil, List.append_nil, List.append_nil]
      rfl
  | cons s cses later =>
      intro builder compile
      have rest := fun other member => compile other (List.mem_cons_of_mem s member)
      rw [List.foldlM_cons, addEpjsUrlPathRegex, compile s List.mem_cons_self]
      change cses.foldlM (addEpjsUrlPathRegex ext) _ = _
      rw [later rest, List.append_assoc, List.append_assoc]
      rfl

theorem acts_of {call : CoreCall} {next : CoreBuilder} (called : builder.call ext call = .ok next)
    (changed : forall setting,
      next.values setting = (call.named ext).apply builder.values setting) :
    Exists fun next => builder.call ext call = .ok next ∧
      next.values = (call.named ext).apply builder.values :=
  ⟨next, called, funext changed⟩

/-- But for the version given as a text, the setters do what they are named after. -/
theorem call_proper (builder : CoreBuilder) {call : CoreCall} (valid : call.Valid ext)
    (proper : call.slips ext = none) :
    Exists fun next => builder.call ext call = .ok next ∧
      next.values = (call.named ext).apply builder.values := by
  cases call with
  | setVerbosity verbosity =>
      rcases Option.isSome_iff_exists.mp valid with ⟨v, found⟩
      have called : builder.call ext (.setVerbosity verbosity) = .ok (builder.setVerbosity v) := by
        cases verbosity with
        | typed _ =>
            cases found
            rfl
        | text s =>
            change verbosityNamed s = some v at found
            change verbosityFrom s >>= _ = _
            rw [verbosityFrom_eq, found]
            rfl
      refine acts_of called fun setting => ?_
      rw [CoreCall.named, Arg.sets_of found]
      cases setting <;> rfl
  | setDebugLevel debugLevel =>
      rcases Option.isSome_iff_exists.mp valid with ⟨d, found⟩
      have called : builder.call ext (.setDebugLevel debugLevel) =
          .ok (builder.setDebugLevel d) := by
        cases debugLevel with
        | typed _ =>
            cases found
            rfl
        | text s =>
            change debugLevelNamed s = some d at found
            change debugLevelFrom s >>= _ = _
            rw [debugLevelFrom_eq, found]
            rfl
      refine acts_of called fun setting => ?_
      rw [CoreCall.named, Arg.sets_of found]
      cases setting <;> rfl
  | setLogFile logFile =>
      cases logFile with
      | typed _ => exact acts_of rfl fun setting => by cases setting <;> rfl
      | text _ => exact acts_of rfl fun setting => by cases setting <;> rfl
  | setOutFile outFile =>
      cases outFile with
      | typed _ => exact acts_of rfl fun setting => by cases setting <;> rfl
      | text _ => exact acts_of rfl fun setting => by cases setting <;> rfl
  | setArgFile argFile =>
      cases argFile with
      | typed _ => exact acts_of rfl fun setting => by cases setting <;> rfl
      | text _ => exact acts_of rfl fun setting => by cases setting <;> rfl
  | setCnfFile cnf =>
      cases cnf with
      | typed _ => exact acts_of rfl fun setting => by cases setting <;> rfl
      | text _ => exact acts_of rfl fun setting => by cases setting <;> rfl
  | setPidFile pidFile =>
      cases pidFile with
      | typed _ => exact acts_of rfl fun setting => by cases setting <;> rfl
      | text _ => exact acts_of rfl fun setting => by cases setting <;> rfl
  | setPidDirPath pidDirPath =>
      cases pidDirPath with
      | typed _ => exact acts_of rfl fun setting => by cases setting <;> rfl
      | text _ => exact acts_of rfl fun setting => by cases setting <;> rfl
  | setDisplayHelp displayHelp =>
      rcases Option.isSome_iff_exists.mp valid with ⟨d, found⟩
      have called : builder.call ext (.setDisplayHelp displayHelp) =
          .ok (builder.setDisplayHelp d) := by
        cases displayHelp with
        | typed _ =>
            cases found
            rfl
        | text s =>
            change ext.convertBool s = some d at found
            change builder.setDisplayHelpText ext s = _
            rw [setDisplayHelpText, found]
      refine acts_of called fun setting => ?_
      rw [CoreCall.named, Arg.sets_of found]
      cases setting <;> rfl
  | setDisplayVersion displayVersion =>
      cases displayVersion with
      | typed _ => exact acts_of rfl fun setting => by cases setting <;> rfl
      | text s =>
          change ext.convertBool s = none at proper
          change (ext.convertBool s).isSome = true at valid
          rw [proper] at valid
          cases valid
  | setRemainderArgs _ => exact acts_of rfl fun setting => by cases setting <;> rfl
  | setHelpStr _ => exact acts_of rfl fun setting => by cases setting <;> rfl
  | setEpjsUrlPathRegex cses clear =>
      cases clear with
      | true =>
          exact acts_of (foldlM_addEpjsUrlPathRegex valid) fun setting => by
            cases setting <;> rfl
      | false =>
          exact acts_of (foldlM_addEpjsUrlPathRegex valid) fun setting => by
            cases setting <;> rfl
  | setMimeTypes _ => exact acts_of rfl fun setting => by cases setting <;> rfl

/-- The version given as a text is assigned to the setting for the help. -/
theorem call_slip (builder : CoreBuilder) {call : CoreCall} {value : Bool}
    (slip : call.slips ext = some value) :
    builder.call ext call = .ok (builder.setDisplayHelp value) := by
  cases call with
  | setDisplayVersion displayVersion =>
      cases displayVersion with
      | typed _ => cases slip
      | text s =>
          change ext.convertBool s = some value at slip
          change builder.setDisplayVersionText ext s = _
          rw [setDisplayVersionText, slip]
  | _ => cases slip

end CoreBuilder

theorem CoreCall.named_of_slip {call : CoreCall} {value : Bool}
    (slip : call.slips ext = some value) : (call.named ext).setting = .displayVersion := by
  cases call with
  | setDisplayVersion _ => rfl
  | _ => cases slip

/-- The calls of a core builder. -/
def coreCalls (ext : Externals) : Misdirection CoreCall CoreSetting.Value where
  named := CoreCall.named ext
  missed := .displayVersion
  hit := .displayHelp
  different := by decide
  slips := CoreCall.slips ext
  slipped := fun _ _ slip => CoreCall.named_of_slip slip

theorem CoreBuilder.acts (builder : CoreBuilder) (call : CoreCall) (valid : call.Valid ext) :
    Exists fun next => builder.call ext call = .ok next ∧
      next.values = ((coreCalls ext).actual call).apply builder.values := by
  cases slip : call.slips ext with
  | none =>
      rw [(coreCalls ext).actual_proper slip]
      exact builder.call_proper valid slip
  | some value =>
      refine ⟨_, builder.call_slip slip, ?_⟩
      rw [(coreCalls ext).actual_slip slip]
      funext setting
      cases setting <;> rfl

/-- The setters of a core builder. -/
def coreSetters (ext : Externals) : Setters CoreCall CoreSetting.Value CoreBuilder Fault where
  toMisdirection := coreCalls ext
  create := .create
  call := CoreBuilder.call ext
  values := CoreBuilder.values
  Valid := CoreCall.Valid ext
  acts := CoreBuilder.acts

end Config

end EasyProspect
