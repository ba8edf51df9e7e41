import EasyProspect.Library.EscapedList
import EasyProspect.Library.Results
import EasyProspect.ListenerKind
import Mathlib.Tactic.FinCases

namespace EasyProspect

/-!
# Listener and backend specifications

`parse` splits a specification into tokens, of which there must be three.  A token with a known
key before its first `=` sets the setting of that name, and any other token is ignored; nobody
looks whether the settings that are needed have been set.

The tokenizer belongs to Boost and is a parameter: it gives the fields that the text of an
escaped list spells.
-/

namespace EndpointSpecs

/-- The exceptions that leave `parse`. -/
inductive Failure
  | logicError (what : String)
  | escapedListError (what : String)
deriving DecidableEq, Repr

/-- `boost::tokenizer` with an `escaped_list_separator`. -/
structure Tokenizer where
  tokens : String -> Except Failure (List String)
  documented : forall fields text,
    EscapedList.Spells (fields.map String.toList) text.toList -> tokens text = .ok fields

/-- The texts before and after the first `=`. -/
def keyValue (a : String) : Option (String × String) :=
  match a.toList.dropWhile fun char => char ≠ '=' with
  | [] => none
  | _ :: v => some (String.ofList (a.toList.takeWhile fun char => char ≠ '='), String.ofList v)

/-- A class of configurations: the local variable that each key sets, and the texts of the
exceptions. -/
structure Format (Conf : Type) where
  settings : List (String × (Conf -> String -> Conf))
  unset : Conf
  emptyWhat : String
  formatWhat : String

variable {Conf : Type}

/-- The body of the loop over the tokens. -/
def Format.assign (format : Format Conf) (conf : Conf) (a : String) : Conf :=
  match keyValue a with
  | none => conf
  | some (n, v) =>
      match format.settings.lookup n with
      | some set => set conf v
      | none => conf

def Format.parseTokens (format : Format Conf) (args : List String) : Except Failure Conf :=
  if args = [] then .error (.logicError format.emptyWhat)
  else if args.length < 3 then .error (.logicError format.formatWhat)
  else .ok (args.foldl format.assign format.unset)

def Format.parse (format : Format Conf) (tokenizer : Tokenizer) (s : String) :
    Except Failure Conf := do
  let args <- tokenizer.tokens s
  format.parseTokens args

/-- `easyprospect_config_service_backend_conf`, as it is constructed. -/
structure BackendConf where
  name : String
  address : String
  port : String
deriving DecidableEq, Repr

def listenerFormat : Format ListenerConf where
  settings :=
    [("name", fun conf v => { conf with name := v }),
      ("address", fun conf v => { conf with address := v }),
      ("port", fun conf v => { conf with port := v }),
      ("min-port", fun conf v => { conf with minPort := v }),
      ("max-port", fun conf v => { conf with maxPort := v }),
      ("kind", fun conf v => { conf with kind := v })]
  unset := ⟨"", "", "", "", "", ""⟩
  emptyWhat := "listener config is empty."
  formatWhat := "listener config should be provided in the format " ++
    "'name=<name>,address=<address>,port=<port>[,min-port=<min " ++
    "port>,max-port=<max port>],kind=<kind>' ( without the quote )."

def backendFormat : Format BackendConf where
  settings :=
    [("name", fun conf v => { conf with name := v }),
      ("address", fun conf v => { conf with address := v }),
      ("port", fun conf v => { conf with port := v })]
  unset := ⟨"", "", ""⟩
  emptyWhat := "backend config is empty."
  formatWhat := "backend config should be provided in the format " ++
    "be1=127.0.0.1:9101,be2=127.0.0.1:9102"

end EndpointSpecs

open EndpointSpecs (Tokenizer Failure listenerFormat backendFormat)

def ListenerConf.parse (tokenizer : Tokenizer) (s : String) : Except Failure ListenerConf :=
  listenerFormat.parse tokenizer s

def EndpointSpecs.BackendConf.parse (tokenizer : Tokenizer) (s : String) :
    Except Failure EndpointSpecs.BackendConf :=
  backendFormat.parse tokenizer s

namespace EndpointSpecs

/-! ## The documented formats -/

/-- A token that gives a key a value. -/
def field (key value : String) : String :=
  key ++ "=" ++ value

/-- `name=<name>,address=<address>,port=<port>[,min-port=<min port>,max-port=<max port>]` and
`,kind=<kind>`, with a text for each placeholder. -/
structure ListenerText where
  name : String
  address : String
  port : String
  ports : Option (String × String)
  kind : String

def ListenerText.fields (text : ListenerText) : List String :=
  [field "name" text.name, field "address" text.address, field "port" text.port] ++
    (match text.ports with
      | some (min, max) => [field "min-port" min, field "max-port" max]
      | none => []) ++
    [field "kind" text.kind]

/-- The configuration with the stated values. -/
def ListenerText.conf (text : ListenerText) : ListenerConf where
  name := text.name
  address := text.address
  port := text.port
  minPort := (text.ports.map Prod.fst).getD ""
  maxPort := (text.ports.map Prod.snd).getD ""
  kind := text.kind

/-- A string in the documented format of a listener. -/
structure ListenerText.Documented (text : ListenerText) (s : String) : Prop where
  name : text.name ≠ ""
  address : text.address ≠ ""
  port : text.port ≠ ""
  ports : forall min max, text.ports = some (min, max) -> min ≠ "" ∧ max ≠ ""
  kind : text.kind ≠ ""
  spells : EscapedList.Spells (text.fields.map String.toList) s.toList

/-- `<name>=<address>:<port>`. -/
def BackendConf.text (backend : BackendConf) : String :=
  field backend.name (backend.address ++ ":" ++ backend.port)

/-- A string in the documented format of backends, of which there are one or more. -/
structure BackendsDocumented (backends : List BackendConf) (s : String) : Prop where
  name : forall backend, backend ∈ backends -> backend.name ≠ "" ∧ '=' ∉ backend.name.toList
  address : forall backend, backend ∈ backends -> backend.address ≠ ""
  port : forall backend, backend ∈ backends -> backend.port ≠ "" ∧ ':' ∉ backend.port.toList
  spells : EscapedList.Spells ((backends.map BackendConf.text).map String.toList) s.toList

/-! ## What is to hold -/

/-- A setting was given by a token, and is not empty. -/
def Given (args : List String) (key value : String) : Prop :=
  value ≠ "" ∧ field key value ∈ args

structure ListenerComplete (args : List String) (conf : ListenerConf) : Prop where
  name : Given args "name" conf.name
  address : Given args "address" conf.address
  port : Given args "port" conf.port ∨
    Given args "min-port" conf.minPort ∧ Given args "max-port" conf.maxPort

structure BackendComplete (args : List String) (conf : BackendConf) : Prop where
  name : Given args "name" conf.name
  address : Given args "address" conf.address
  port : Given args "port" conf.port

variable (tokenizer : Tokenizer) (s : String)

structure ListenerSound : Prop where
  complete : forall args conf, tokenizer.tokens s = .ok args ->
    ListenerConf.parse tokenizer s = .ok conf -> ListenerComplete args conf
  documented : forall text : ListenerText, text.Documented s ->
    ListenerConf.parse tokenizer s = .ok text.conf

/-- One configuration is returned, so that it must be one of the documented ones. -/
structure BackendSound : Prop where
  complete : forall args conf, tokenizer.tokens s = .ok args ->
    BackendConf.parse tokenizer s = .ok conf -> BackendComplete args conf
  documented : forall backends, BackendsDocumented backends s ->
    Exists fun conf => conf ∈ backends ∧ BackendConf.parse tokenizer s = .ok conf

variable {tokenizer} {s} {args : List String} {key : String}

/-! ## Keys and values -/

theorem keyValue_field (noEquals : '=' ∉ key.toList) (value : String) :
    keyValue (field key value) = some (key, value) := by
  have before : forall char, char ∈ key.toList -> decide (char ≠ '=') = true := by
    intro char member
    refine decide_eq_true fun equals => ?_
    rw [equals] at member
    exact noEquals member
  have text : (field key value).toList = key.toList ++ '=' :: value.toList := by
    rw [field, String.toList_append, String.toList_append, List.append_assoc]
    rfl
  rw [keyValue, text, List.dropWhile_append_of_pos before, List.takeWhile_append_of_pos before,
    List.dropWhile_cons_of_neg (by decide), List.takeWhile_cons_of_neg (by decide),
    List.append_nil]
  exact congrArg some (Prod.ext (String.ofList_toList) (String.ofList_toList))

theorem keyValue_text {a n v : String} (found : keyValue a = some (n, v)) :
    a = field n v := by
  have whole := @List.takeWhile_append_dropWhile Char (fun char => char ≠ '=') a.toList
  have head := List.head?_dropWhile_not (fun char => char ≠ '=') a.toList
  rw [keyValue] at found
  split at found
  · cases found
  · rename_i first after rest
    have equals : first = '=' := by
      rw [rest] at head
      exact of_not_not (of_decide_eq_false head)
    cases found
    rw [rest, equals] at whole
    apply String.toList_inj.mp
    rw [field, String.toList_append, String.toList_append, List.append_assoc,
      String.toList_ofList, String.toList_ofList, String.toList_ofList]
    exact whole.symm

/-- What a token gives for a key. -/
def valueOf (key a : String) : Option String :=
  (keyValue a).bind fun pair => if pair.1 = key then some pair.2 else none

/-- What the last token with a key gives for it. -/
def lastValue (key : String) (args : List String) : Option String :=
  (args.filterMap (valueOf key)).getLast?

theorem mem_of_lastValue {value : String} (last : lastValue key args = some value) :
    field key value ∈ args := by
  rcases List.mem_filterMap.mp (List.mem_of_getLast? last) with ⟨a, member, gives⟩
  rcases Option.bind_eq_some_iff.mp gives with ⟨⟨n, v⟩, split, chosen⟩
  rcases Option.ite_none_right_eq_some.mp chosen with ⟨same, value⟩
  cases same
  cases value
  rwa [keyValue_text split] at member

/-- A setting is read from the configuration, and of the assignments only those of its key
change it. -/
structure Format.Reads (format : Format Conf) (key : String) (get : Conf -> String) : Prop where
  known : Exists fun set => format.settings.lookup key = some set
  setting : forall entry, entry ∈ format.settings -> forall conf v,
    get (entry.2 conf v) = if entry.1 = key then v else get conf

variable {format : Format Conf} {get : Conf -> String}

theorem Format.Reads.assign (reads : format.Reads key get) (conf : Conf) (a : String) :
    get (format.assign conf a) = (valueOf key a).getD (get conf) := by
  rw [Format.assign, valueOf]
  cases keyValue a with
  | none => rfl
  | some pair =>
      rcases pair with ⟨n, v⟩
      change get (match format.settings.lookup n with
        | some set => set conf v
        | none => conf) = _
      have listed : forall set, format.settings.lookup n = some set ->
          (n, set) ∈ format.settings := by
        intro set found
        rcases List.lookup_eq_some_iff.mp found with ⟨before, after, whole, _⟩
        rw [whole]
        exact List.mem_append_right before List.mem_cons_self
      by_cases same : n = key
      · subst same
        rcases reads.known with ⟨set, found⟩
        have changed := reads.setting _ (listed set found) conf v
        rw [if_pos rfl] at changed
        rw [found, Option.bind_some, if_pos rfl]
        exact changed
      · rw [Option.bind_some, if_neg same]
        cases found : format.settings.lookup n with
        | none => rfl
        | some set =>
            have kept := reads.setting _ (listed set found) conf v
            rw [if_neg same] at kept
            exact kept

/-- The last token with its key decides about a setting. -/
theorem Format.Reads.foldl (reads : format.Reads key get) (args : List String) :
    forall conf, get (args.foldl format.assign conf) = (lastValue key args).getD (get conf) := by
  induction args with
  | nil => exact fun _ => rfl
  | cons a args later =>
      intro conf
      rw [List.foldl_cons, later, reads.assign, lastValue, lastValue]
      cases gives : valueOf key a with
      | none => rw [List.filterMap_cons_none gives]; rfl
      | some value =>
          rw [List.filterMap_cons_some gives, List.getLast?_cons]
          cases (args.filterMap (valueOf key)).getLast? with
          | none => rfl
          | some last => rfl

/-! ## The settings of the two classes -/

def listenerGetters : List (String × (ListenerConf -> String)) :=
  [("name", ListenerConf.name), ("address", ListenerConf.address), ("port", ListenerConf.port),
    ("min-port", ListenerConf.minPort), ("max-port", ListenerConf.maxPort),
    ("kind", ListenerConf.kind)]

def backendGetters : List (String × (BackendConf -> String)) :=
  [("name", BackendConf.name), ("address", BackendConf.address), ("port", BackendConf.port)]

theorem listener_reads {get : ListenerConf -> String} (listed : (key, get) ∈ listenerGetters) :
    listenerFormat.Reads key get := by
  constructor
  · fin_cases listed <;> exact ⟨_, rfl⟩
  · intro entry member conf v
    fin_cases listed <;> fin_cases member <;> rfl

theorem backend_reads {get : BackendConf -> String} (listed : (key, get) ∈ backendGetters) :
    backendFormat.Reads key get := by
  constructor
  · fin_cases listed <;> exact ⟨_, rfl⟩
  · intro entry member conf v
    fin_cases listed <;> fin_cases member <;> rfl

/-! ## What is returned -/

theorem Format.parseTokens_enough (format : Format Conf) (enough : 3 ≤ args.length) :
    format.parseTokens args = .ok (args.foldl format.assign format.unset) := by
  have some : args ≠ [] := by
    rintro rfl
    cases enough
  rw [parseTokens, if_neg some, if_neg (by omega)]

theorem parse_ok_iff {conf : Conf} : format.parse tokenizer s = .ok conf <->
    Exists fun args => tokenizer.tokens s = .ok args ∧ 3 ≤ args.length ∧
      args.foldl format.assign format.unset = conf := by
  constructor
  · intro parsed
    rcases Results.ok_of_bind parsed with ⟨args, split, after⟩
    rw [Format.parseTokens] at after
    split at after
    · cases after
    · split at after
      · cases after
      · cases after
        exact ⟨args, split, by omega, rfl⟩
  · rintro ⟨args, split, enough, rfl⟩
    rw [Format.parse, split]
    exact format.parseTokens_enough enough

/-- A key is given a value by the last token that has it. -/
def LastSet (args : List String) (key : String) : Prop :=
  (lastValue key args).getD "" ≠ ""

theorem given_iff : Given args key ((lastValue key args).getD "") <-> LastSet args key := by
  constructor
  · exact fun given => given.1
  · intro set
    refine ⟨set, ?_⟩
    cases last : lastValue key args with
    | none =>
        rw [LastSet, last] at set
        exact absurd rfl set
    | some value => exact mem_of_lastValue last

theorem given_foldl {get : Conf -> String} (reads : format.Reads key get)
    (unset : get format.unset = "") (args : List String) :
    Given args key (get (args.foldl format.assign format.unset)) <-> LastSet args key := by
  rw [reads.foldl, unset]
  exact given_iff

/-- The tokens give a listener all that it needs. -/
def ListenerSet (args : List String) : Prop :=
  LastSet args "name" ∧ LastSet args "address" ∧
    (LastSet args "port" ∨ LastSet args "min-port" ∧ LastSet args "max-port")

/-- The tokens give a backend all that it needs. -/
def BackendSet (args : List String) : Prop :=
  LastSet args "name" ∧ LastSet args "address" ∧ LastSet args "port"

theorem listenerComplete_iff (args : List String) :
    ListenerComplete args (args.foldl listenerFormat.assign listenerFormat.unset) <->
      ListenerSet args := by
  have given {key : String} {get : ListenerConf -> String} (listed : (key, get) ∈ listenerGetters)
      (unset : get listenerFormat.unset = "") :=
    given_foldl (listener_reads listed) unset args
  have name := given (.head _) rfl
  have address := given (.tail _ (.head _)) rfl
  have port := given (.tail _ (.tail _ (.head _))) rfl
  have minPort := given (.tail _ (.tail _ (.tail _ (.head _)))) rfl
  have maxPort := given (.tail _ (.tail _ (.tail _ (.tail _ (.head _))))) rfl
  rw [ListenerSet, ← name, ← address, ← port, ← minPort, ← maxPort]
  exact ⟨fun complete => ⟨complete.name, complete.address, complete.port⟩,
    fun complete => ⟨complete.1, complete.2.1, complete.2.2⟩⟩

theorem backendComplete_iff (args : List String) :
    BackendComplete args (args.foldl backendFormat.assign backendFormat.unset) <->
      BackendSet args := by
  have given {key : String} {get : BackendConf -> String} (listed : (key, get) ∈ backendGetters)
      (unset : get backendFormat.unset = "") :=
    given_foldl (backend_reads listed) unset args
  have name := given (.head _) rfl
  have address := given (.tail _ (.head _)) rfl
  have port := given (.tail _ (.tail _ (.head _))) rfl
  rw [BackendSet, ← name, ← address, ← port]
  exact ⟨fun complete => ⟨complete.name, complete.address, complete.port⟩,
    fun complete => ⟨complete.1, complete.2.1, complete.2.2⟩⟩

/-- What holds of each returned configuration is a matter of the tokens. -/
theorem forall_parse_iff {complete : List String -> Conf -> Prop} {set : List String -> Prop}
    (decided : forall args, complete args (args.foldl format.assign format.unset) <-> set args) :
    (forall args conf, tokenizer.tokens s = .ok args -> format.parse tokenizer s = .ok conf ->
      complete args conf) <->
      forall args, tokenizer.tokens s = .ok args -> 3 ≤ args.length -> set args := by
  constructor
  · intro always args split enough
    exact (decided args).mp (always args _ split (parse_ok_iff.mpr ⟨args, split, enough, rfl⟩))
  · intro always args conf split parsed
    rcases parse_ok_iff.mp parsed with ⟨others, again, enough, folded⟩
    cases split.symm.trans again
    rw [← folded]
    exact (decided args).mpr (always args split enough)

/-! ## The documented strings -/

theorem Format.assign_field (format : Format Conf) {set : Conf -> String -> Conf}
    (noEquals : '=' ∉ key.toList) (known : format.settings.lookup key = some set) (conf : Conf)
    (value : String) :
    format.assign conf (field key value) = set conf value := by
  rw [Format.assign, keyValue_field noEquals]
  change (match format.settings.lookup key with
    | some set => set conf value
    | none => conf) = _
  rw [known]

/-- The documented fields set what they state. -/
theorem ListenerText.foldl_fields (text : ListenerText) :
    text.fields.foldl listenerFormat.assign listenerFormat.unset = text.conf := by
  have step (key : String) {set : ListenerConf -> String -> ListenerConf}
      (noEquals : '=' ∉ key.toList) (known : listenerFormat.settings.lookup key = some set) :=
    listenerFormat.assign_field noEquals known
  rcases text with ⟨name, address, port, ports, kind⟩
  have one := step "name" (by decide) rfl
  have two := step "address" (by decide) rfl
  have three := step "port" (by decide) rfl
  have four := step "min-port" (by decide) rfl
  have five := step "max-port" (by decide) rfl
  have six := step "kind" (by decide) rfl
  cases ports with
  | none =>
      change [field "name" name, field "address" address, field "port" port,
        field "kind" kind].foldl _ _ = _
      simp only [List.foldl_cons, List.foldl_nil, one, two, three, six]
      rfl
  | some ports =>
      change [field "name" name, field "address" address, field "port" port,
        field "min-port" ports.1, field "max-port" ports.2, field "kind" kind].foldl _ _ = _
      simp only [List.foldl_cons, List.foldl_nil, one, two, three, four, five, six]
      rfl

theorem ListenerText.parse_documented {text : ListenerText} (documented : text.Documented s) :
    ListenerConf.parse tokenizer s = .ok text.conf := by
  refine parse_ok_iff.mpr ⟨text.fields, ?_, ?_, text.foldl_fields⟩
  · exact tokenizer.documented text.fields s documented.spells
  · rw [ListenerText.fields, List.length_append, List.length_append]
    change 3 ≤ 3 + _ + 1
    omega

/-- No documented backend is returned: the port would have a colon in it. -/
theorem not_parse_documented {backends : List BackendConf}
    (documented : BackendsDocumented backends s) {conf : BackendConf} (member : conf ∈ backends) :
    BackendConf.parse tokenizer s ≠ .ok conf := by
  intro parsed
  have split := tokenizer.documented _ s documented.spells
  rcases parse_ok_iff.mp parsed with ⟨args, again, _, folded⟩
  cases split.symm.trans again
  have reads : backendFormat.Reads "port" BackendConf.port :=
    backend_reads (.tail _ (.tail _ (.head _)))
  have port := reads.foldl (backends.map BackendConf.text) backendFormat.unset
  rw [folded] at port
  rcases documented.port conf member with ⟨some, noColon⟩
  cases last : lastValue "port" (backends.map BackendConf.text) with
  | none =>
      rw [last] at port
      exact some port
  | some value =>
      rw [last] at port
      rcases List.mem_map.mp (mem_of_lastValue last) with ⟨backend, listed, text⟩
      have found := keyValue_field (documented.name backend listed).2
        (backend.address ++ ":" ++ backend.port)
      change keyValue backend.text = _ at found
      rw [text, keyValue_field (by decide)] at found
      have same : value = backend.address ++ ":" ++ backend.port :=
        congrArg Prod.snd (Option.some.inj found)
      have colon : ':' ∈ value.toList := by
        rw [same, String.toList_append, String.toList_append]
        exact List.mem_append_left _ (List.mem_append_right _ List.mem_cons_self)
      rw [port] at noColon
      exact noColon colon

/-- A specification of a listener is handled well exactly if the tokens, where there are enough
of them, end up giving a name, an address and a port or both limits.  For a backend they must
give a name, an address and a port, and the string must not be in the documented format. -/
theorem sound_iff (tokenizer : Tokenizer) (s : String) :
    (ListenerSound tokenizer s <-> forall args, tokenizer.tokens s = .ok args ->
      3 ≤ args.length -> ListenerSet args) ∧
    (BackendSound tokenizer s <-> (forall args, tokenizer.tokens s = .ok args ->
      3 ≤ args.length -> BackendSet args) ∧ forall backends, ¬BackendsDocumented backends s) := by
  have listener : (forall args conf, tokenizer.tokens s = .ok args ->
      ListenerConf.parse tokenizer s = .ok conf -> ListenerComplete args conf) <-> _ :=
    forall_parse_iff listenerComplete_iff
  have backend : (forall args conf, tokenizer.tokens s = .ok args ->
      BackendConf.parse tokenizer s = .ok conf -> BackendComplete args conf) <-> _ :=
    forall_parse_iff backendComplete_iff
  rw [← listener, ← backend]
  refine ⟨⟨fun sound => sound.complete, fun complete => ⟨complete, ?_⟩⟩,
    ⟨fun sound => ⟨sound.complete, ?_⟩, fun sound => ⟨sound.1, ?_⟩⟩⟩
  · exact fun text documented => text.parse_documented documented
  · intro backends documented
    rcases sound.documented backends documented with ⟨conf, member, parsed⟩
    exact not_parse_documented documented member parsed
  · intro backends documented
    exact absurd documented (sound.2 backends)

/-! ## A tokenizer -/

def escapedListWhat : EscapedList.Failure -> String
  | .endsWithEscape => "cannot end with escape"
  | .unknownEscape => "unknown escape sequence"

/-- The tokenizer as it is documented. -/
def documentedTokenizer : Tokenizer where
  tokens := fun text =>
    match EscapedList.split text.toList with
    | .ok fields => .ok (fields.map String.ofList)
    | .error failure => .error (.escapedListError (escapedListWhat failure))
  documented := by
    intro fields text spells
    rw [EscapedList.split_of_spells spells]
    change Except.ok ((fields.map String.toList).map String.ofList) = _
    rw [List.map_map]
    refine congrArg Except.ok ((List.map_congr_left fun field _ => ?_).trans (List.map_id fields))
    exact String.ofList_toList

/-- The example in the text of the exception. -/
def exampleBackends : List BackendConf :=
  [⟨"be1", "127.0.0.1", "9101"⟩, ⟨"be2", "127.0.0.1", "9102"⟩]

theorem exampleBackends_documented :
    BackendsDocumented exampleBackends "be1=127.0.0.1:9101,be2=127.0.0.1:9102" where
  name := by decide +kernel
  address := by decide +kernel
  port := by decide +kernel
  spells := by
    refine ⟨by decide +kernel,
      ["be1=127.0.0.1:9101".toList, "be2=127.0.0.1:9102".toList], ?_, by decide +kernel⟩
    exact .cons (EscapedList.spelled_plain (by decide +kernel))
      (.cons (EscapedList.spelled_plain (by decide +kernel)) .nil)

/-- Three tokens with unknown keys are accepted, and the documented example of two backends is
not. -/
theorem unknownKeys_not_sound : ¬ListenerSound documentedTokenizer "a=1,b=2,c=3" ∧
    ¬BackendSound documentedTokenizer "be1=127.0.0.1:9101,be2=127.0.0.1:9102" := by
  constructor
  · intro sound
    have complete := sound.complete ["a=1", "b=2", "c=3"] listenerFormat.unset (by decide +kernel)
      (by decide +kernel)
    exact complete.name.1 rfl
  · intro sound
    rcases sound.documented exampleBackends exampleBackends_documented with ⟨conf, _, parsed⟩
    have refused :
        BackendConf.parse documentedTokenizer "be1=127.0.0.1:9101,be2=127.0.0.1:9102" =
          .error (.logicError backendFormat.formatWhat) := by
      decide +kernel
    cases refused.symm.trans parsed

end EndpointSpecs

end EasyProspect
