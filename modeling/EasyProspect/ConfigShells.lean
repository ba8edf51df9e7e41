import EasyProspect.Json
import EasyProspect.ServerBuilders
import Mathlib.Data.List.DropRight

namespace EasyProspect

/-!
# The command line, the files and the configurations

`init_args` of a shell reads the options of the command line, and if there is an `arg-file`
those of its first line.  The configuration file goes to the builder first, and then every
option that is there goes to the setter it belongs to.

`boost::program_options`, `std::regex`, the files and the parser of `nlohmann::json` are
parameters.  A map of options keeps the value that is stored first.
-/

namespace Config

open Settings (Change Misdirection Reader Setters)

/-! ## Options -/

/-- What an option takes. -/
inductive OptionKind
  | switch
  | bool
  | text
  | texts
deriving DecidableEq

structure OptionDesc where
  name : String
  kind : OptionKind
deriving DecidableEq

/-- The value of an option. -/
inductive Stored
  | switch
  | bool (value : Bool)
  | text (s : String)
  | texts (l : List String)
deriving DecidableEq

def Stored.kind : Stored -> OptionKind
  | .switch => .switch
  | .bool _ => .bool
  | .text _ => .text
  | .texts _ => .texts

/-- `variables_map`. -/
abbrev VariablesMap := String -> Option Stored

inductive BoostError
  | unknownOption
  | multipleOccurrences
  | other (what : String)
deriving DecidableEq

/-- `store(command_line_parser(args).options(desc).run(), vm)`, where texts without an option
may belong to the option `--`.  What is given for an option is what is stored for it, unless
there is something already. -/
structure ProgramOptions where
  store : List OptionDesc -> Bool -> List String -> VariablesMap -> Except BoostError VariablesMap
  given : List OptionDesc -> Bool -> List String -> VariablesMap
  keeps : forall desc positional args vm next, store desc positional args vm = .ok next ->
    forall name, next name = (vm name).or (given desc positional args name)
  typed : forall desc positional args name stored,
    given desc positional args name = some stored -> ⟨name, stored.kind⟩ ∈ desc

/-- What leaves `init_args` as an exception. -/
inductive ShellFault
  | logicError (what : String)
  | boost (error : BoostError)
  | badAnyCast
  | typeError
  | tokens (failure : EndpointSpecs.Failure)
  | builder (fault : Fault)
deriving DecidableEq

/-- What a shell is run with. -/
structure Surroundings where
  options : ProgramOptions
  /-- The text of a description of options. -/
  helpText : List OptionDesc -> String
  /-- `std::regex_replace`, given the text, the pattern and the format. -/
  regexReplace : String -> String -> String -> String
  /-- `boost::tokenizer` with an `escaped_list_separator` for spaces. -/
  fields : String -> Except EndpointSpecs.Failure (List String)
  readable : Path -> Option String
  exists_ : Path -> Bool
  /-- `nlohmann::json::parse` of a file, with the text of the exception. -/
  parseFile : Path -> Except String Json

/-- `as<std::string>()`. -/
def asText : Stored -> Except ShellFault String
  | .text s => .ok s
  | _ => .error .badAnyCast

/-- `as<std::vector<std::string>>()`. -/
def asTexts : Stored -> Except ShellFault (List String)
  | .texts l => .ok l
  | _ => .error .badAnyCast

/-- `as<bool>()`. -/
def asBool : Stored -> Except ShellFault Bool
  | .bool value => .ok value
  | _ => .error .badAnyCast

/-! ## `get_map` -/

section GetMap

variable (env : Surroundings)

/-- The text of the `arg-file` without line breaks of Windows, escaped line breaks, comments
and empty lines. -/
def argText (text : String) : String :=
  [("(\r\n)", "\n"), ("(\\\\\n)", ""), ("^(.*?)([^\\\\])#.*$", "$1$2"), ("^#(.*)$", ""),
    ("\\\\#", "#"), ("^\\s*\n", "")].foldl
    (fun sstr replaced => env.regexReplace sstr replaced.1 replaced.2) text

/-- The first line that is not blank. -/
def argLine (text : String) : Option String :=
  ((text.toList.splitOn '\n').find? fun line => !line.all isSpace).map String.ofList

/-- The options of the command line: only an unknown option is caught. -/
def firstFault : BoostError -> ShellFault
  | .unknownOption => .logicError "invalid option"
  | error => .boost error

/-- The options of the `arg-file`. -/
def secondFault : BoostError -> ShellFault
  | .unknownOption => .logicError "invalid option"
  | .multipleOccurrences => .logicError "multiple occurrences"
  | error => .boost error

/-- The options of the `arg-file` are stored behind the others. -/
def storeArgFile (desc : List OptionDesc) (vm : VariablesMap) (argFile : Path) :
    Except ShellFault VariablesMap :=
  match env.readable argFile with
  | none => .error (.logicError s!"Could not open the response file '{argFile}'")
  | some text =>
      match argLine (argText env text) with
      | none => .ok vm
      | some line => do
          let args <- (env.fields line).mapError .tokens
          (env.options.store desc false args vm).mapError secondFault

def getMap (desc : List OptionDesc) (args : List String) : Except ShellFault VariablesMap := do
  let vm <- (env.options.store desc true args fun _ => none).mapError firstFault
  match vm "arg-file" with
  | none => .ok vm
  | some stored => do
      let argFile <- asText stored
      storeArgFile env desc vm argFile

end GetMap

/-! ## Readers

A reader is what is done with one option, or with one member of the configuration file. -/

variable {Setting Call : Type} {Value : Setting -> Type}

abbrev OptionReader (calls : Misdirection Call Value) :=
  Reader String Stored ShellFault calls

abbrev FileReader (calls : Misdirection Call Value) :=
  Reader String Json ShellFault calls

/-- The value is read as one type, and a setter is called with it. -/
def optionReader {Argument : Type} {calls : Misdirection Call Value} (name : String)
    (as : Stored -> Except ShellFault Argument) (target : Setting) (set : Argument -> Call)
    (change : Argument -> Value target -> Value target)
    (sets : forall argument, calls.actual (set argument) = ⟨target, change argument⟩) :
    OptionReader calls :=
  .ofSetter name target (fun stored => (as stored).map some) set change sets

/-! ## `read_from_file` -/

/-- `empty()`. -/
def isEmpty : Json -> Bool
  | .null => true
  | .array elements => elements.isEmpty
  | .object members => members.isEmpty
  | _ => false

/-- The values of `items()`. -/
def items : Json -> List Json
  | .null => []
  | .array elements => elements
  | .object members => members.map Prod.snd
  | value => [value]

/-- `get<std::string>()`. -/
def getText : Json -> Except ShellFault String
  | .string value => .ok value
  | _ => .error .typeError

/-- The members that `operator[]` finds. -/
def membersOf : Json -> Except ShellFault (List (String × Json))
  | .null => .ok []
  | .object members => .ok members
  | _ => .error .typeError

/-- `operator[]`. -/
def at_ (value : Json) (key : String) : Except ShellFault Json :=
  (membersOf value).map fun members => Json.member members key

/-- `boost::trim`. -/
def trim (text : String) : String :=
  String.ofList ((text.toList.dropWhile isSpace).rdropWhile isSpace)

/-- The level, unless it is blank. -/
def debugLevelIn (dl : Json) : Except ShellFault (Option String) := do
  let text <- getText dl
  let dls := trim text
  .ok (if dls.isEmpty then none else some dls)

def epjsUrlPathRegexIn (eupr : Json) : Except ShellFault (Option (List String)) := do
  let euprArray <- (items eupr).mapM getText
  .ok (if euprArray.isEmpty then none else some euprArray)

/-- The types of one element: one for each of its extensions. -/
def mimeTypesOf (el : Json) : Except ShellFault (List MimeType) := do
  let currType <- at_ el "type"
  let typeStr <- getText currType
  let exts <- at_ el "ext"
  (items exts).mapM fun et => (getText et).map fun ext => ⟨ext, typeStr⟩

def mimeTypesIn (mt : Json) : Except ShellFault (Option (List MimeType)) := do
  let mtArray <- (items mt).mapM mimeTypesOf
  .ok (some mtArray.flatten)

/-- What is done with the members of the file. -/
def fileReaders (ext : Externals) : List (FileReader (coreCalls ext)) :=
  [.ofSetter "debug_level" .debugLevel debugLevelIn (fun dls => .setDebugLevel (.text dls))
      (fun dls old => (debugLevelNamed dls).getD old) (fun _ => rfl),
    .ofSetter "epjs_url_path_regex" .epjsUrlPathRegex epjsUrlPathRegexIn
      (fun euprArray => .setEpjsUrlPathRegex euprArray true)
      (fun euprArray _ => (euprArray.map Regex.mk, euprArray)) (fun _ => rfl),
    .ofSetter "mime_types" .mimeTypes mimeTypesIn .setMimeTypes (fun mtArray _ => mtArray)
      (fun _ => rfl)]

/-- A member that is not empty. -/
def memberIn (members : List (String × Json)) (key : String) : Option Json :=
  let value := Json.member members key
  if isEmpty value then none else some value

/-- The members of the configuration file; none if it does not exist. -/
def fileMembers (env : Surroundings) (filePath : Path) :
    Except ShellFault (List (String × Json)) :=
  if env.exists_ filePath then
    match env.parseFile filePath with
    | .error what => .error (.logicError s!"Error parsing config {filePath}\n{what}")
    | .ok conf => membersOf conf
  else
    .ok []

/-! ## `parse_options` -/

/-- `count` is enough. -/
def asSwitch (_ : Stored) : Except ShellFault Unit :=
  .ok ()

/-- A list that must not be empty. -/
def asGiven (what : String) (stored : Stored) : Except ShellFault (List String) := do
  let texts <- asTexts stored
  if texts.isEmpty then .error (.logicError what) else .ok texts

/-- The option `config-file`, which is read twice. -/
def cnfFileReader (ext : Externals) : OptionReader (coreCalls ext) :=
  optionReader "config-file" asText .cnfFile (fun s => .setCnfFile (.text s)) (fun s _ => some s)
    (fun _ => rfl)

def coreReaders (ext : Externals) : List (OptionReader (coreCalls ext)) :=
  [optionReader "help" asSwitch .displayHelp (fun _ => .setDisplayHelp (.typed true))
      (fun _ _ => true) (fun _ => rfl),
    optionReader "version" asSwitch .displayVersion (fun _ => .setDisplayVersion (.typed true))
      (fun _ _ => true) (fun _ => rfl),
    optionReader "verbosity" asText .verbosity (fun s => .setVerbosity (.text s))
      (fun s old => (verbosityNamed s).getD old) (fun _ => rfl),
    optionReader "debug-level" asText .debugLevel (fun s => .setDebugLevel (.text s))
      (fun s old => (debugLevelNamed s).getD old) (fun _ => rfl),
    optionReader "log-file" asText .logFile (fun s => .setLogFile (.text s))
      (fun s _ => some s) (fun _ => rfl),
    optionReader "output-file" asText .outFile (fun s => .setOutFile (.text s))
      (fun s _ => some s) (fun _ => rfl),
    optionReader "arg-file" asText .argFile (fun s => .setArgFile (.text s))
      (fun s _ => some s) (fun _ => rfl),
    cnfFileReader ext,
    optionReader "pid-file" asText .pidFile (fun s => .setPidFile (.text s))
      (fun s _ => some s) (fun _ => rfl),
    optionReader "pid-file-dir" asText .pidDirPath (fun s => .setPidDirPath (.text s))
      (fun s _ => some s) (fun _ => rfl),
    optionReader "--" asTexts .remainderArgs .setRemainderArgs (fun texts _ => some texts)
      (fun _ => rfl)]

def serviceReaders (ext : Externals) : List (OptionReader (serviceCalls ext)) :=
  [optionReader "webroot-dir" asText .webrootDir (fun s => .setWebrootDir (.text s))
      (fun s _ => some s) (fun _ => rfl),
    optionReader "num-threads" asText .numThreads (fun s => .setNumThreads (.text s))
      (fun s old => (intOf s).getD old) (fun _ => rfl),
    optionReader "listener"
      (asGiven "Missing Listener configuration 'name,address,port'") .listeners
      .setListenersTexts (fun texts old => old ++ texts.filterMap (listenerOf ext))
      (fun _ => rfl)]

/-- The option is stored as a truth value and read as a text. -/
def workerExeUsePathReader (ext : Externals) : OptionReader (wcntlCalls ext) :=
  optionReader "worker-exe-use-path" asText .workerExeUsePath
    (fun s => .setWorkerExeUsePath (.text s)) (fun s old => (ext.lexicalBool s).or old)
    (fun _ => rfl)

def wcntlReaders (ext : Externals) : List (OptionReader (wcntlCalls ext)) :=
  [workerExeUsePathReader ext,
    optionReader "num-workers" asText .numWorkers (fun s => .setNumWorkers (.text s))
      (fun s old => (intOf s).or old) (fun _ => rfl),
    optionReader "worker-exe" asText .workerExe (fun s => .setWorkerExe (.text s))
      (fun s _ => some s) (fun _ => rfl),
    optionReader "worker-args" asText .workerArgs .setWorkerArgs (fun s _ => s) (fun _ => rfl),
    optionReader "worker-conf" asText .workerConf (fun s => .setWorkerConf (.text s))
      (fun s _ => some s) (fun _ => rfl),
    optionReader "worker-args-file" asText .workerArgsFile (fun s => .setWorkerArgsFile (.text s))
      (fun s _ => some s) (fun _ => rfl)]

def serverReaders (ext : Externals) : List (OptionReader (serverCalls ext)) :=
  [optionReader "backend"
      (asGiven "Backend configurations. e.g. be1=127.0.0.1:9101,be2=127.0.0.1:9102") .backends
      .setBackendsTexts (fun texts old => old ++ texts.filterMap (backendOf ext))
      (fun _ => rfl)]

def controlProtocolReader (ext : Externals) : OptionReader (workerCalls ext) :=
  optionReader "control-protocol" asBool .controlProtocol
    (fun c => .setControlProtocol (.typed c)) (fun c _ => some c) (fun _ => rfl)

def workerReaders (ext : Externals) : List (OptionReader (workerCalls ext)) :=
  [controlProtocolReader ext]

/-! ## The descriptions -/

def coreOptions : List OptionDesc :=
  [⟨"help", .switch⟩, ⟨"version", .switch⟩, ⟨"verbosity", .text⟩, ⟨"debug-level", .text⟩,
    ⟨"log-file", .text⟩, ⟨"output-file", .text⟩, ⟨"arg-file", .text⟩, ⟨"config-file", .text⟩,
    ⟨"pid-file", .text⟩, ⟨"pid-file-dir", .text⟩, ⟨"--", .texts⟩]

/-- Nothing reads the last two. -/
def serviceOptions : List OptionDesc :=
  coreOptions ++
    [⟨"webroot-dir", .text⟩, ⟨"num-threads", .text⟩, ⟨"listener", .texts⟩, ⟨"listen-file", .text⟩,
      ⟨"listen-exe-dir", .text⟩]

def wcntlOptions : List OptionDesc :=
  serviceOptions ++
    [⟨"worker-exe-use-path", .bool⟩, ⟨"num-workers", .text⟩, ⟨"worker-args", .text⟩,
      ⟨"worker-conf", .text⟩, ⟨"worker-args-file", .text⟩, ⟨"worker-exe", .text⟩]

def serverOptions : List OptionDesc :=
  serviceOptions ++ [⟨"backend", .texts⟩]

def workerOptions : List OptionDesc :=
  serviceOptions ++ [⟨"control-protocol", .bool⟩]

/-! ## Shells -/

/-- A class of shells: the options that it describes, its builder, and what is read by which
setters.  No two options are for one setting. -/
structure Shell [DecidableEq Setting] (calls : Misdirection Call Value) (Builder : Type) where
  options : List OptionDesc
  create : Builder
  call : Builder -> Call -> Except Fault Builder
  values : Builder -> forall setting, Value setting
  acts : forall builder made next, call builder made = .ok next ->
    values next = (calls.actual made).apply (values builder)
  /-- `set_help_str`. -/
  helpStr : Reader String String ShellFault calls
  cnfFile : OptionReader calls
  file : List (FileReader calls)
  /-- What `parse_options` reads before the options of `easyprospect_config_cmd`. -/
  own : List (OptionReader calls)
  core : List (OptionReader calls)
  distinct : ((own ++ core).map fun reader => reader.target).Nodup
  fileDistinct : (file.map fun reader => reader.target).Nodup
  helpApart : helpStr.target ∉ (own ++ core).map fun reader => reader.target
  cnfKey : cnfFile.key = "config-file"
  cnfListed : cnfFile ∈ core
  cnfApart : cnfFile.target ∉ file.map fun reader => reader.target
  cnfAgain : forall stored old,
    cnfFile.change stored (cnfFile.change stored old) = cnfFile.change stored old

namespace Shell

variable [DecidableEq Setting] {calls : Misdirection Call Value} {Builder : Type}
  (shell : Shell calls Builder) (env : Surroundings)

def apply (builder : Builder) (made : Call) : Except ShellFault Builder :=
  (shell.call builder made).mapError .builder

def readFromFile (filePath : Path) (builder : Builder) : Except ShellFault Builder := do
  let members <- fileMembers env filePath
  Reader.run shell.apply (memberIn members) shell.file builder

/-- The configuration file comes first, so that it has the lowest precedence. -/
def readConfigFile (vm : VariablesMap) (builder : Builder) : Except ShellFault Builder :=
  match vm "config-file" with
  | none => .ok builder
  | some stored => do
      let cf <- asText stored
      let named <- Reader.step shell.apply vm builder shell.cnfFile
      shell.readFromFile env cf named

def parseOptions (vm : VariablesMap) (builder : Builder) : Except ShellFault Builder := do
  let own <- Reader.run shell.apply vm shell.own builder
  let helped <- Reader.step shell.apply (fun _ => some (env.helpText shell.options)) own
    shell.helpStr
  Reader.run shell.apply vm shell.core helped

def initArgs (args : List String) : Except ShellFault Builder := do
  let vm <- getMap env shell.options args
  let read <- shell.readConfigFile env vm shell.create
  shell.parseOptions env vm read

end Shell

/-- `set_help_str`, with the text of the description. -/
def helpStrReader (ext : Externals) : Reader String String ShellFault (coreCalls ext) :=
  .ofSetter "help" .helpStr (fun text => .ok (some text)) .setHelpStr (fun text _ => text)
    (fun _ => rfl)

/-! ## The four shells -/

section Shells

variable (ext : Externals)

/-- What a service reads like every shell. -/
def ofCore {Given : Type} (reader : Reader String Given ShellFault (coreCalls ext)) :
    Reader String Given ShellFault (serviceCalls ext) :=
  reader.lift .core (actual_core ext)

def serviceShell : Shell (serviceCalls ext) ServiceBuilder where
  options := serviceOptions
  create := .create
  call := ServiceBuilder.call ext
  values := ServiceBuilder.values
  acts := fun builder made next called => ServiceBuilder.acts_of_ok builder next made called
  helpStr := ofCore ext (helpStrReader ext)
  cnfFile := ofCore ext (cnfFileReader ext)
  file := (fileReaders ext).map (ofCore ext)
  own := serviceReaders ext
  core := (coreReaders ext).map (ofCore ext)
  distinct := of_decide_eq_true rfl
  fileDistinct := of_decide_eq_true rfl
  helpApart := of_decide_eq_true rfl
  cnfKey := rfl
  cnfListed := List.mem_map_of_mem (by simp [coreReaders])
  cnfApart := of_decide_eq_true rfl
  cnfAgain := fun stored _ => by cases stored <;> rfl

def ofServiceToWcntl {Given : Type} (reader : Reader String Given ShellFault (serviceCalls ext)) :
    Reader String Given ShellFault (wcntlCalls ext) :=
  reader.lift .service (actual_service ext)

def wcntlShell : Shell (wcntlCalls ext) WcntlBuilder where
  options := wcntlOptions
  create := .create
  call := WcntlBuilder.call ext
  values := WcntlBuilder.values
  acts := fun builder made next called => WcntlBuilder.acts_of_ok builder next made called
  helpStr := ofServiceToWcntl ext (serviceShell ext).helpStr
  cnfFile := ofServiceToWcntl ext (serviceShell ext).cnfFile
  file := (serviceShell ext).file.map (ofServiceToWcntl ext)
  own := wcntlReaders ext ++ (serviceShell ext).own.map (ofServiceToWcntl ext)
  core := (serviceShell ext).core.map (ofServiceToWcntl ext)
  distinct := of_decide_eq_true rfl
  fileDistinct := of_decide_eq_true rfl
  helpApart := of_decide_eq_true rfl
  cnfKey := rfl
  cnfListed := List.mem_map_of_mem (serviceShell ext).cnfListed
  cnfApart := of_decide_eq_true rfl
  cnfAgain := (serviceShell ext).cnfAgain

def ofServiceToServer {Given : Type} (reader : Reader String Given ShellFault (serviceCalls ext)) :
    Reader String Given ShellFault (serverCalls ext) :=
  reader.lift .service (server_actual_service ext)

def serverShell : Shell (serverCalls ext) ServerBuilder where
  options := serverOptions
  create := .create
  call := ServerBuilder.call ext
  values := ServerBuilder.values
  acts := fun builder made next called => ServerBuilder.acts_of_ok builder next made called
  helpStr := ofServiceToServer ext (serviceShell ext).helpStr
  cnfFile := ofServiceToServer ext (serviceShell ext).cnfFile
  file := (serviceShell ext).file.map (ofServiceToServer ext)
  own := serverReaders ext ++ (serviceShell ext).own.map (ofServiceToServer ext)
  core := (serviceShell ext).core.map (ofServiceToServer ext)
  distinct := of_decide_eq_true rfl
  fileDistinct := of_decide_eq_true rfl
  helpApart := of_decide_eq_true rfl
  cnfKey := rfl
  cnfListed := List.mem_map_of_mem (serviceShell ext).cnfListed
  cnfApart := of_decide_eq_true rfl
  cnfAgain := (serviceShell ext).cnfAgain

def ofServiceToWorker {Given : Type} (reader : Reader String Given ShellFault (serviceCalls ext)) :
    Reader String Given ShellFault (workerCalls ext) :=
  reader.lift .service (worker_actual_service ext)

def workerShell : Shell (workerCalls ext) WorkerBuilder where
  options := workerOptions
  create := .create
  call := WorkerBuilder.call ext
  values := WorkerBuilder.values
  acts := fun builder made next called => WorkerBuilder.acts_of_ok builder next made called
  helpStr := ofServiceToWorker ext (serviceShell ext).helpStr
  cnfFile := ofServiceToWorker ext (serviceShell ext).cnfFile
  file := (serviceShell ext).file.map (ofServiceToWorker ext)
  own := workerReaders ext ++ (serviceShell ext).own.map (ofServiceToWorker ext)
  core := (serviceShell ext).core.map (ofServiceToWorker ext)
  distinct := of_decide_eq_true rfl
  fileDistinct := of_decide_eq_true rfl
  helpApart := of_decide_eq_true rfl
  cnfKey := rfl
  cnfListed := List.mem_map_of_mem (serviceShell ext).cnfListed
  cnfApart := of_decide_eq_true rfl
  cnfAgain := (serviceShell ext).cnfAgain

end Shells

end Config

end EasyProspect
