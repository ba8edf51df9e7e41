import EasyProspect.ConfigShells

namespace EasyProspect

/-!
# Where a setting comes from

The command line decides about a setting, where its option is given there; otherwise the
`arg-file` does, then the configuration file, and then the default.  This is so for every shell,
since no setter that a shell calls for one setting touches another.

Two settings have no default.  The option for one of them cannot be read at all, so that no control
program ever gets a configuration out of its command line.
-/

namespace Config

open Settings (Misdirection Reader Source)

/-! ## What is given -/

section Given

variable (env : Surroundings) (desc : List OptionDesc) (args : List String)

/-- The arguments in the `arg-file` that the command line names. -/
def argFileArgs : Option (List String) :=
  match env.options.given desc true args "arg-file" with
  | some (.text argFile) => do
      let text <- env.readable argFile
      let line <- argLine (argText env text)
      (env.fields line).toOption
  | _ => none

/-- What is given for an option on the command line, or else in the `arg-file`. -/
def optionGiven (name : String) : Option Stored :=
  (env.options.given desc true args name).or
    ((argFileArgs env desc args).bind fun more => env.options.given desc false more name)

/-- The members of the configuration file that is given. -/
def configMembers : List (String × Json) :=
  match optionGiven env desc args "config-file" with
  | some (.text cf) => (fileMembers env cf).toOption.getD []
  | _ => []

end Given

variable {Setting Call Builder : Type} [DecidableEq Setting] {Value : Setting -> Type}
  {calls : Misdirection Call Value} {env : Surroundings} {desc : List OptionDesc}
  {args : List String} {vm : VariablesMap} {stored : Stored}

/-- The sources of the settings of a builder: the options decide, and below them `fromFile`, which
is what the configuration file makes of the defaults. -/
structure Precedence (shell : Shell calls Builder) (env : Surroundings) (args : List String)
    (builder : Builder) (fromFile : forall setting, Value setting) : Prop where
  option : forall reader, reader ∈ shell.own ++ shell.core ->
    shell.values builder reader.target =
      reader.settled (optionGiven env shell.options args reader.key) (fromFile reader.target)
  file : forall reader, reader ∈ shell.file -> fromFile reader.target =
    reader.settled (memberIn (configMembers env shell.options args) reader.key)
      (shell.values shell.create reader.target)
  default : forall setting, setting ∉ shell.file.map (fun reader => reader.target) ->
    fromFile setting = shell.values shell.create setting
  helpStr : shell.values builder shell.helpStr.target =
    shell.helpStr.settled (some (env.helpText shell.options)) (fromFile shell.helpStr.target)
  unread : forall setting,
    setting ∉ (shell.own ++ shell.core).map (fun reader => reader.target) ->
      setting ≠ shell.helpStr.target -> shell.values builder setting = fromFile setting

/-! ## The options -/

theorem text_of_asText {text : String} (reads : asText stored = .ok text) :
    stored = .text text := by
  cases stored with
  | text s =>
      cases reads
      rfl
  | _ => cases reads

theorem getMap_eq (succeeds : getMap env desc args = .ok vm) : vm = optionGiven env desc args := by
  rcases Results.ok_of_bind succeeds with ⟨first, parsed, rest⟩
  have fromLine : first = env.options.given desc true args := by
    funext name
    rw [env.options.keeps _ _ _ _ _ (Results.ok_of_mapError parsed)]
    exact Option.none_or
  subst fromLine
  funext name
  rw [optionGiven, argFileArgs]
  cases named : env.options.given desc true args "arg-file" with
  | none =>
      rw [named] at rest
      cases rest
      exact Option.or_none.symm
  | some stored =>
      rw [named] at rest
      rcases Results.ok_of_bind rest with ⟨argFile, reads, second⟩
      rw [text_of_asText reads]
      rw [storeArgFile] at second
      cases found : env.readable argFile with
      | none =>
          rw [found] at second
          cases second
      | some text =>
          rw [found] at second
          cases blank : argLine (argText env text) with
          | none =>
              simp only [blank] at second
              cases second
              simp only [found, blank, bind, Option.bind_some, Option.bind_none, Option.or_none]
          | some line =>
              simp only [blank] at second
              rcases Results.ok_of_bind second with ⟨more, split, last⟩
              have fields : (env.fields line).toOption = some more :=
                congrArg Except.toOption (Results.ok_of_mapError split)
              rw [env.options.keeps _ _ _ _ _ (Results.ok_of_mapError last)]
              simp only [found, blank, fields, bind, Option.bind_some]

/-- An option is stored with the type of its description. -/
theorem kind_of_given {name : String} (found : optionGiven env desc args name = some stored) :
    ⟨name, stored.kind⟩ ∈ desc := by
  rcases Option.or_eq_some_iff.mp found with first | ⟨_, second⟩
  · exact env.options.typed _ _ _ _ _ first
  · rcases Option.bind_eq_some_iff.mp second with ⟨more, _, again⟩
    exact env.options.typed _ _ _ _ _ again

namespace Shell

variable {shell : Shell calls Builder} {builder next : Builder}

theorem apply_acts (shell : Shell calls Builder) (builder : Builder) (made : Call) (next : Builder)
    (called : shell.apply builder made = .ok next) :
    shell.values next = (calls.actual made).apply (shell.values builder) :=
  shell.acts builder made next (Results.ok_of_mapError called)

/-! ## The steps of `init_args` -/

/-- What `parse_options` leaves. -/
structure Parsed (shell : Shell calls Builder) (env : Surroundings) (vm : VariablesMap)
    (builder next : Builder) : Prop where
  option : forall reader, reader ∈ shell.own ++ shell.core -> shell.values next reader.target =
    reader.settled (vm reader.key) (shell.values builder reader.target)
  helpStr : shell.values next shell.helpStr.target =
    shell.helpStr.settled (some (env.helpText shell.options))
      (shell.values builder shell.helpStr.target)
  unread : forall setting,
    setting ∉ (shell.own ++ shell.core).map (fun reader => reader.target) ->
      setting ≠ shell.helpStr.target -> shell.values next setting = shell.values builder setting

theorem parseOptions_parsed (succeeds : shell.parseOptions env vm builder = .ok next) :
    shell.Parsed env vm builder next := by
  rcases Results.ok_of_bind succeeds with ⟨own, ownRan, rest⟩
  rcases Results.ok_of_bind rest with ⟨helped, helpRan, coreRan⟩
  have distinct := shell.distinct
  rw [List.map_append, List.nodup_append] at distinct
  rcases distinct with ⟨ownDistinct, coreDistinct, apart⟩
  have helpApart := shell.helpApart
  rw [List.map_append, List.mem_append, not_or] at helpApart
  have helps := Reader.values_step shell.apply_acts helpRan
  have helpElsewhere : forall setting, setting ≠ shell.helpStr.target ->
      shell.values helped setting = shell.values own setting := by
    intro setting other
    rw [helps]
    refine Settings.after_other fun change member => ?_
    rw [Source.target_of_mem member]
    exact other
  have ownElsewhere : forall setting, setting ∉ shell.own.map (fun reader => reader.target) ->
      shell.values own setting = shell.values builder setting := fun setting unlisted =>
    Reader.kept_of_run shell.apply_acts ownRan fun reader inside same =>
      unlisted (List.mem_map.mpr ⟨reader, inside, same.symm⟩)
  have coreElsewhere : forall setting, setting ∉ shell.core.map (fun reader => reader.target) ->
      shell.values next setting = shell.values helped setting := fun setting unlisted =>
    Reader.kept_of_run shell.apply_acts coreRan fun reader inside same =>
      unlisted (List.mem_map.mpr ⟨reader, inside, same.symm⟩)
  refine ⟨fun reader listed => ?_, ?_, fun setting unlisted other => ?_⟩
  · have notHelp : reader.target ≠ shell.helpStr.target := fun same =>
      shell.helpApart (List.mem_map.mpr ⟨reader, listed, same⟩)
    rcases List.mem_append.mp listed with inOwn | inCore
    · have ownTarget := List.mem_map_of_mem (f := fun reader => reader.target) inOwn
      rw [coreElsewhere _ fun inside => apart _ ownTarget _ inside rfl,
        helpElsewhere _ notHelp]
      exact Reader.settled_of_run shell.apply_acts ownDistinct ownRan inOwn
    · have coreTarget := List.mem_map_of_mem (f := fun reader => reader.target) inCore
      rw [Reader.settled_of_run shell.apply_acts coreDistinct coreRan inCore,
        helpElsewhere _ notHelp, ownElsewhere _ fun inside => apart _ inside _ coreTarget rfl]
  · rw [coreElsewhere _ helpApart.2, helps, Source.after_changes, ownElsewhere _ helpApart.1]
  · rw [List.map_append, List.mem_append, not_or] at unlisted
    rw [coreElsewhere _ unlisted.2, helpElsewhere _ other, ownElsewhere _ unlisted.1]

/-- What the configuration file leaves. -/
structure FileRead (shell : Shell calls Builder) (vm : VariablesMap)
    (members : List (String × Json)) (builder next : Builder) : Prop where
  file : forall reader, reader ∈ shell.file -> shell.values next reader.target =
    reader.settled (memberIn members reader.key) (shell.values builder reader.target)
  cnfFile : shell.values next shell.cnfFile.target =
    shell.cnfFile.settled (vm shell.cnfFile.key) (shell.values builder shell.cnfFile.target)
  unread : forall setting, setting ∉ shell.file.map (fun reader => reader.target) ->
    setting ≠ shell.cnfFile.target -> shell.values next setting = shell.values builder setting

theorem memberIn_nil (key : String) : memberIn [] key = none :=
  rfl

/-- Without a file nothing is set. -/
theorem fileRead_nothing (nothing : vm shell.cnfFile.key = none) :
    shell.FileRead vm [] builder builder := by
  refine ⟨fun reader _ => ?_, ?_, fun _ _ _ => rfl⟩
  · rw [memberIn_nil]
    rfl
  · rw [nothing]
    rfl

theorem readConfigFile_read (given : vm = optionGiven env shell.options args)
    (succeeds : shell.readConfigFile env vm builder = .ok next) :
    shell.FileRead vm (configMembers env shell.options args) builder next := by
  rw [configMembers, ← given]
  rw [readConfigFile] at succeeds
  cases found : vm "config-file" with
  | none =>
      rw [found] at succeeds
      cases succeeds
      apply fileRead_nothing
      rw [shell.cnfKey, found]
  | some stored =>
      rw [found] at succeeds
      rcases Results.ok_of_bind succeeds with ⟨cf, reads, rest⟩
      rcases Results.ok_of_bind rest with ⟨named, stepped, fileRan⟩
      rcases Results.ok_of_bind fileRan with ⟨members, opened, readersRan⟩
      have conf : (fileMembers env cf).toOption.getD [] = members := by
        rw [opened]
        rfl
      have cnf := Reader.values_step shell.apply_acts stepped
      have cnfElsewhere : forall setting, setting ≠ shell.cnfFile.target ->
          shell.values named setting = shell.values builder setting := by
        intro setting other
        rw [cnf]
        refine Settings.after_other fun change member => ?_
        rw [Source.target_of_mem member]
        exact other
      have fileElsewhere : forall setting, setting ∉ shell.file.map (fun reader => reader.target) ->
          shell.values next setting = shell.values named setting := fun setting unlisted =>
        Reader.kept_of_run shell.apply_acts readersRan fun reader inside same =>
          unlisted (List.mem_map.mpr ⟨reader, inside, same.symm⟩)
      rw [text_of_asText reads]
      refine ⟨fun reader listed => ?_, ?_, fun setting unlisted other => ?_⟩
      · have notCnf : reader.target ≠ shell.cnfFile.target := fun same =>
          shell.cnfApart (List.mem_map.mpr ⟨reader, listed, same⟩)
        rw [Reader.settled_of_run shell.apply_acts shell.fileDistinct readersRan listed,
          cnfElsewhere _ notCnf]
        simp only [conf]
      · rw [fileElsewhere _ shell.cnfApart, cnf, Source.after_changes]
      · rw [fileElsewhere _ unlisted, cnfElsewhere _ other]

/-! ## `init_args` -/

/-- The options decide, then the configuration file, then the defaults. -/
theorem initArgs_precedence (succeeds : shell.initArgs env args = .ok next) :
    Exists (Precedence shell env args next) := by
  rcases Results.ok_of_bind succeeds with ⟨vm, stored, rest⟩
  rcases Results.ok_of_bind rest with ⟨read, fileRan, optionsRan⟩
  have given := getMap_eq stored
  have file := readConfigFile_read given fileRan
  have parsed := parseOptions_parsed optionsRan
  subst given
  -- The path of the file is set with the file, and once more as an option.
  have cnfListed : shell.cnfFile ∈ shell.own ++ shell.core :=
    List.mem_append_right _ shell.cnfListed
  have helpNotCnf : shell.helpStr.target ≠ shell.cnfFile.target := fun same =>
    shell.helpApart (List.mem_map.mpr ⟨_, cnfListed, same.symm⟩)
  refine ⟨Function.update (shell.values read) shell.cnfFile.target
    (shell.values shell.create shell.cnfFile.target), ?_⟩
  have elsewhere : forall setting, setting ≠ shell.cnfFile.target ->
      Function.update (shell.values read) shell.cnfFile.target
        (shell.values shell.create shell.cnfFile.target) setting = shell.values read setting :=
    fun setting other => Function.update_of_ne other _ _
  refine ⟨fun reader listed => ?_, fun reader listed => ?_, fun setting unlisted => ?_, ?_,
    fun setting unlisted other => ?_⟩
  · rw [parsed.option reader listed]
    by_cases same : reader.target = shell.cnfFile.target
    · have whole : reader = shell.cnfFile :=
        List.inj_on_of_nodup_map shell.distinct listed cnfListed same
      subst whole
      rw [Function.update_self, file.cnfFile]
      cases optionGiven env shell.options args shell.cnfFile.key with
      | none => rfl
      | some stored => exact shell.cnfAgain stored _
    · rw [elsewhere _ same]
  · have notCnf : reader.target ≠ shell.cnfFile.target := fun same =>
      shell.cnfApart (List.mem_map.mpr ⟨reader, listed, same⟩)
    rw [elsewhere _ notCnf, file.file reader listed]
  · by_cases same : setting = shell.cnfFile.target
    · subst same
      exact Function.update_self ..
    · rw [elsewhere _ same, file.unread setting unlisted same]
  · rw [parsed.helpStr, elsewhere _ helpNotCnf]
  · have notCnf : setting ≠ shell.cnfFile.target := fun same =>
      unlisted (List.mem_map.mpr ⟨_, cnfListed, same.symm⟩)
    rw [parsed.unread setting unlisted other, elsewhere _ notCnf]

/-- What is given for an option is of a type that its reader accepts. -/
theorem readable_of_initArgs (succeeds : shell.initArgs env args = .ok next)
    {reader : OptionReader calls} (listed : reader ∈ shell.own ++ shell.core)
    (found : optionGiven env shell.options args reader.key = some stored) :
    Exists fun made => reader.read stored = .ok made := by
  rcases Results.ok_of_bind succeeds with ⟨vm, stores, rest⟩
  rcases Results.ok_of_bind rest with ⟨read, _, optionsRan⟩
  rcases Results.ok_of_bind optionsRan with ⟨own, ownRan, others⟩
  rcases Results.ok_of_bind others with ⟨helped, _, coreRan⟩
  rw [← getMap_eq stores] at found
  rcases List.mem_append.mp listed with inOwn | inCore
  · exact Reader.readable_of_run ownRan inOwn found
  · exact Reader.readable_of_run coreRan inCore found

end Shell

/-- A setting without an option and without a member of the configuration file. -/
abbrev Shell.Unread (shell : Shell calls Builder) (setting : Setting) : Prop :=
  setting ∉ (shell.own ++ shell.core).map (fun reader => reader.target) ∧
    setting ≠ shell.helpStr.target ∧ setting ∉ shell.file.map (fun reader => reader.target)

theorem Precedence.unset {shell : Shell calls Builder} {builder : Builder}
    {fromFile : forall setting, Value setting}
    (precedence : Precedence shell env args builder fromFile) {setting : Setting}
    (unread : shell.Unread setting) :
    shell.values builder setting = shell.values shell.create setting :=
  (precedence.unread setting unread.1 unread.2.1).trans (precedence.default setting unread.2.2)

/-! ## A plain command line -/

theorem ok_of_toOption {Fault Result : Type} {result : Except Fault Result} {value : Result}
    (found : result.toOption = some value) : result = .ok value := by
  cases result with
  | ok _ => exact congrArg Except.ok (Option.some.inj found)
  | error _ => cases found

/-- The value that `--name=value` gives. -/
def valueIn (name arg : String) : Option String :=
  let start := ("--" ++ name ++ "=").toList
  if start.isPrefixOf arg.toList then some (String.ofList (arg.toList.drop start.length)) else none

def plainGiven (desc : List OptionDesc) (args : List String) (name : String) : Option Stored := do
  let found <- desc.find? fun option => option.name == name
  match found.kind, args.filterMap (valueIn name) with
  | .text, [value] => some (.text value)
  | .texts, value :: values => some (.texts (value :: values))
  | .bool, [value] => (bitOf value).map .bool
  | .switch, _ => if args.contains ("--" ++ name) then some .switch else none
  | _, _ => none

theorem plainGiven_typed {name : String} (given : plainGiven desc args name = some stored) :
    ⟨name, stored.kind⟩ ∈ desc := by
  rcases Option.bind_eq_some_iff.mp given with ⟨⟨known, kind⟩, found, chosen⟩
  have listed := List.mem_of_find?_eq_some found
  have same : known = name := by
    have holds := List.find?_some found
    exact eq_of_beq holds
  subst same
  suffices typed : stored.kind = kind by rwa [typed]
  simp only at chosen
  split at chosen
  · cases chosen
    rfl
  · cases chosen
    rfl
  · rcases Option.map_eq_some_iff.mp chosen with ⟨value, _, rfl⟩
    rfl
  · split at chosen
    · cases chosen
      rfl
    · cases chosen
  · cases chosen

/-- Each argument gives a value to an option or is a switch. -/
def plainOptions : ProgramOptions where
  store := fun desc _ args vm =>
    if args.all fun arg => desc.any fun option =>
      (valueIn option.name arg).isSome || arg == "--" ++ option.name then
      .ok fun name => (vm name).or (plainGiven desc args name)
    else
      .error .unknownOption
  given := fun desc _ args => plainGiven desc args
  keeps := by
    intro desc _ args vm next stores name
    split at stores
    · cases stores
      rfl
    · cases stores
  typed := fun _ _ _ _ _ => plainGiven_typed

def plainSurroundings : Surroundings where
  options := plainOptions
  helpText := fun desc => String.intercalate "\n" (desc.map OptionDesc.name)
  regexReplace := fun text _ _ => text
  fields := fun line => .ok ((line.toList.splitOn ' ').map String.ofList)
  readable := fun path =>
    if path = "worker.args" then some "--num-threads=4 --debug-level=ep_info" else none
  exists_ := fun path => path = "worker.json"
  parseFile := fun _ => .ok (.object
    [("debug_level", .string "ep_trace"),
      ("mime_types", .array
        [.object [("ext", .array [.string ".md"]), ("type", .string "text/markdown")]])])

/-- The level is given three times, the number of threads and the types once. -/
def plainArgs : List String :=
  ["--debug-level=ep_warn", "--arg-file=worker.args", "--config-file=worker.json"]

/-- In every shell an option on the command line decides about its setting, then one in the
`arg-file`, then the configuration file, and then the default. -/
theorem settings_by_precedence (env : Surroundings) (ext : Externals) (args : List String) :
    (forall builder, (serviceShell ext).initArgs env args = .ok builder ->
      Exists (Precedence (serviceShell ext) env args builder)) ∧
    (forall builder, (wcntlShell ext).initArgs env args = .ok builder ->
      Exists (Precedence (wcntlShell ext) env args builder)) ∧
    (forall builder, (serverShell ext).initArgs env args = .ok builder ->
      Exists (Precedence (serverShell ext) env args builder)) ∧
    forall builder, (workerShell ext).initArgs env args = .ok builder ->
      Exists (Precedence (workerShell ext) env args builder) :=
  ⟨fun _ => Shell.initArgs_precedence, fun _ => Shell.initArgs_precedence,
    fun _ => Shell.initArgs_precedence, fun _ => Shell.initArgs_precedence⟩

/-- The command line decides about the level, the `arg-file` about the threads, and the
configuration file about the types. -/
theorem settings_by_precedence_plain :
    (Exists fun builder =>
      (serviceShell plainExternals).initArgs plainSurroundings plainArgs = .ok builder ∧
        Exists (Precedence (serviceShell plainExternals) plainSurroundings plainArgs builder) ∧
        (builder.debugLevel, builder.numThreads, builder.mimeTypes) =
          (.epWarn, 4, [⟨".md", "text/markdown"⟩])) ∧
    (Exists fun builder =>
      (wcntlShell plainExternals).initArgs plainSurroundings plainArgs = .ok builder ∧
        Exists (Precedence (wcntlShell plainExternals) plainSurroundings plainArgs builder)) ∧
    (Exists fun builder =>
      (serverShell plainExternals).initArgs plainSurroundings plainArgs = .ok builder ∧
        Exists (Precedence (serverShell plainExternals) plainSurroundings plainArgs builder)) ∧
    Exists fun builder =>
      (workerShell plainExternals).initArgs plainSurroundings plainArgs = .ok builder ∧
        Exists (Precedence (workerShell plainExternals) plainSurroundings plainArgs builder) := by
  have precedence := settings_by_precedence plainSurroundings plainExternals plainArgs
  have service : ((serviceShell plainExternals).initArgs plainSurroundings plainArgs).toOption.map
      (fun builder => (builder.debugLevel, builder.numThreads, builder.mimeTypes)) =
        some (.epWarn, 4, [⟨".md", "text/markdown"⟩]) := by
    decide +kernel
  have wcntl : ((wcntlShell plainExternals).initArgs plainSurroundings
      plainArgs).toOption.isSome = true := by
    decide +kernel
  have server : ((serverShell plainExternals).initArgs plainSurroundings
      plainArgs).toOption.isSome = true := by
    decide +kernel
  have worker : ((workerShell plainExternals).initArgs plainSurroundings
      plainArgs).toOption.isSome = true := by
    decide +kernel
  refine ⟨?_, ?_, ?_, ?_⟩
  · rcases Option.map_eq_some_iff.mp service with ⟨builder, found, values⟩
    have ran := ok_of_toOption found
    exact ⟨builder, ran, precedence.1 builder ran, values⟩
  · rcases Option.isSome_iff_exists.mp wcntl with ⟨builder, found⟩
    have ran := ok_of_toOption found
    exact ⟨builder, ran, precedence.2.1 builder ran⟩
  · rcases Option.isSome_iff_exists.mp server with ⟨builder, found⟩
    have ran := ok_of_toOption found
    exact ⟨builder, ran, precedence.2.2.1 builder ran⟩
  · rcases Option.isSome_iff_exists.mp worker with ⟨builder, found⟩
    have ran := ok_of_toOption found
    exact ⟨builder, ran, precedence.2.2.2 builder ran⟩

/-! ## What no command line sets -/

section Unset

variable {ext : Externals}

/-- There are options for the listen file and for its directory, but nothing reads them. -/
theorem listen_unread (ext : Externals) :
    ((serviceShell ext).Unread .listenFile ∧ (serviceShell ext).Unread .listenDirPath) ∧
    ((wcntlShell ext).Unread (.service .listenFile) ∧
      (wcntlShell ext).Unread (.service .listenDirPath)) ∧
    ((serverShell ext).Unread (.service .listenFile) ∧
      (serverShell ext).Unread (.service .listenDirPath)) ∧
    (workerShell ext).Unread (.service .listenFile) ∧
      (workerShell ext).Unread (.service .listenDirPath) :=
  ⟨of_decide_eq_true rfl, of_decide_eq_true rfl, of_decide_eq_true rfl, of_decide_eq_true rfl⟩

theorem workerExeUsePathReader_listed (ext : Externals) :
    workerExeUsePathReader ext ∈ (wcntlShell ext).own ++ (wcntlShell ext).core := by
  simp [wcntlShell, wcntlReaders]

theorem controlProtocolReader_listed (ext : Externals) :
    controlProtocolReader ext ∈ (workerShell ext).own ++ (workerShell ext).core := by
  simp [workerShell, workerReaders]

/-- For `worker-exe-use-path` a truth value is stored, and a text is read. -/
theorem usePath_not_given {builder : WcntlBuilder}
    (succeeds : (wcntlShell ext).initArgs env args = .ok builder) :
    optionGiven env wcntlOptions args "worker-exe-use-path" = none := by
  cases found : optionGiven env wcntlOptions args "worker-exe-use-path" with
  | none => rfl
  | some stored =>
      have described := kind_of_given found
      simp only [wcntlOptions, serviceOptions, coreOptions, List.mem_append, List.mem_cons,
        OptionDesc.mk.injEq, String.reduceEq, false_and, or_false, false_or, true_and,
        List.not_mem_nil] at described
      rcases Shell.readable_of_initArgs succeeds (workerExeUsePathReader_listed ext) found with
        ⟨made, reads⟩
      cases stored with
      | text s => cases described
      | _ => cases reads

theorem usePath_unset {builder : WcntlBuilder}
    (succeeds : (wcntlShell ext).initArgs env args = .ok builder) :
    builder.workerExeUsePath = none := by
  rcases Shell.initArgs_precedence succeeds with ⟨fromFile, precedence⟩
  have decided := precedence.option _ (workerExeUsePathReader_listed ext)
  have given : optionGiven env (wcntlShell ext).options args
      (workerExeUsePathReader ext).key = none := usePath_not_given succeeds
  rw [given] at decided
  exact decided.trans (precedence.default .workerExeUsePath (of_decide_eq_true rfl))

/-- What the option `control-protocol` says is what a worker has. -/
theorem controlProtocol_eq {builder : WorkerBuilder}
    (succeeds : (workerShell ext).initArgs env args = .ok builder) :
    optionGiven env workerOptions args "control-protocol" =
      builder.controlProtocol.map Stored.bool := by
  rcases Shell.initArgs_precedence succeeds with ⟨fromFile, precedence⟩
  have decided := precedence.option _ (controlProtocolReader_listed ext)
  have below := precedence.default .controlProtocol (of_decide_eq_true rfl)
  cases found : optionGiven env workerOptions args "control-protocol" with
  | none =>
      have given : optionGiven env (workerShell ext).options args
          (controlProtocolReader ext).key = none := found
      rw [given] at decided
      have unset : builder.controlProtocol = none := decided.trans below
      rw [unset]
      rfl
  | some stored =>
      rcases Shell.readable_of_initArgs succeeds (controlProtocolReader_listed ext) found with
        ⟨made, reads⟩
      have given : optionGiven env (workerShell ext).options args
          (controlProtocolReader ext).key = some stored := found
      rw [given] at decided
      cases stored with
      | bool value =>
          have set : builder.controlProtocol = some value := decided
          rw [set]
          rfl
      | _ => cases reads

/-- The control program never gets a configuration out of its command line, and a worker gets one
exactly if `control-protocol` is given.  No shell sets the listen file. -/
theorem configs_defined (env : Surroundings) (ext : Externals) (args : List String) :
    (forall builder, (serviceShell ext).initArgs env args = .ok builder ->
      builder.listenFile = none ∧ builder.listenDirPath = none) ∧
    (forall builder, (wcntlShell ext).initArgs env args = .ok builder ->
      builder.listenFile = none ∧ builder.listenDirPath = none ∧
        optionGiven env wcntlOptions args "worker-exe-use-path" = none ∧
          builder.toConfig = none) ∧
    (forall builder, (serverShell ext).initArgs env args = .ok builder ->
      builder.listenFile = none ∧ builder.listenDirPath = none) ∧
    forall builder, (workerShell ext).initArgs env args = .ok builder ->
      builder.listenFile = none ∧ builder.listenDirPath = none ∧
        optionGiven env workerOptions args "control-protocol" =
          builder.toConfig.map fun config => .bool config.controlProtocol := by
  have unread := listen_unread ext
  refine ⟨fun builder succeeds => ?_, fun builder succeeds => ?_, fun builder succeeds => ?_,
    fun builder succeeds => ?_⟩
  · rcases Shell.initArgs_precedence succeeds with ⟨_, precedence⟩
    exact ⟨precedence.unset unread.1.1, precedence.unset unread.1.2⟩
  · rcases Shell.initArgs_precedence succeeds with ⟨_, precedence⟩
    refine ⟨precedence.unset unread.2.1.1, precedence.unset unread.2.1.2,
      usePath_not_given succeeds, ?_⟩
    rw [WcntlBuilder.toConfig, usePath_unset succeeds]
    rfl
  · rcases Shell.initArgs_precedence succeeds with ⟨_, precedence⟩
    exact ⟨precedence.unset unread.2.2.1.1, precedence.unset unread.2.2.1.2⟩
  · rcases Shell.initArgs_precedence succeeds with ⟨_, precedence⟩
    refine ⟨precedence.unset unread.2.2.2.1, precedence.unset unread.2.2.2.2, ?_⟩
    rw [controlProtocol_eq succeeds, WorkerBuilder.toConfig]
    cases builder.controlProtocol with
    | none => rfl
    | some c => rfl

/-- A worker that is to talk to its control program. -/
theorem configs_defined_plain :
    (Exists fun builder =>
      (wcntlShell plainExternals).initArgs plainSurroundings plainArgs = .ok builder ∧
        builder.toConfig = none) ∧
    Exists fun builder =>
      (workerShell plainExternals).initArgs plainSurroundings ["--control-protocol=1"] =
        .ok builder ∧ optionGiven plainSurroundings workerOptions ["--control-protocol=1"]
          "control-protocol" = builder.toConfig.map fun config => .bool config.controlProtocol := by
  have wcntl : ((wcntlShell plainExternals).initArgs plainSurroundings
      plainArgs).toOption.isSome = true := by
    decide +kernel
  have worker : ((workerShell plainExternals).initArgs plainSurroundings
      ["--control-protocol=1"]).toOption.isSome = true := by
    decide +kernel
  constructor
  · rcases Option.isSome_iff_exists.mp wcntl with ⟨builder, found⟩
    have ran := ok_of_toOption found
    have defined := configs_defined plainSurroundings plainExternals plainArgs
    exact ⟨builder, ran, (defined.2.1 builder ran).2.2.2⟩
  · rcases Option.isSome_iff_exists.mp worker with ⟨builder, found⟩
    have ran := ok_of_toOption found
    have defined := configs_defined plainSurroundings plainExternals ["--control-protocol=1"]
    exact ⟨builder, ran, (defined.2.2.2 builder ran).2.2⟩

end Unset

end Config

end EasyProspect
