import EasyProspect.Library.MessagePack
import EasyProspect.ScriptedBeast

namespace EasyProspect

/-!
# Messages between the control server and its workers

A `process_message_base` and its subclasses are written to a pipe with msgpack
and read back by `process_input`, which chooses the class by looking for a type
tag among the keys and then lets msgpack fill in the members of the object it
made.  msgpack itself is not part of the repository; it is a parameter together
with the C library's calendar and the width of `long`.

What the language leaves undefined is an outcome of its own here: reading the
map of an object that is not one, following a null pointer and casting to a class
that the object does not have.
-/

open MessagePack (Object)

/-- `process_message_type`.  The enumeration can hold any value of its underlying
type. -/
inductive ProcessMessageType
  | none
  | base
  | start
  | ping
  | pong
  | cmdStop
  | cmdResult
  | unlisted (value : BitVec 32) (beyond : 6 < value.toNat)
  deriving DecidableEq

namespace ProcessMessageType

def value : ProcessMessageType -> BitVec 32
  | none => 0
  | base => 1
  | start => 2
  | ping => 3
  | pong => 4
  | cmdStop => 5
  | cmdResult => 6
  | unlisted value _ => value

def ofValue (value : BitVec 32) : ProcessMessageType :=
  if beyond : 6 < value.toNat then
    unlisted value beyond
  else
    match value.toNat with
    | 0 => none
    | 1 => base
    | 2 => start
    | 3 => ping
    | 4 => pong
    | 5 => cmdStop
    | _ => cmdResult

@[simp] theorem ofValue_value (type : ProcessMessageType) : ofValue type.value = type := by
  cases type with
  | unlisted value beyond => exact dif_pos beyond
  | _ => rfl

end ProcessMessageType

/-- The members of `process_message_base`. -/
structure ProcessMessageBase (longBits : Nat) where
  type : ProcessMessageType
  pid : BitVec longBits
  port : BitVec 32
  id1 : BitVec 64
  id2 : BitVec 64
  currentTime : BitVec 64
  deriving DecidableEq

/-- An object of one of the message classes. -/
inductive ProcessMessage (longBits : Nat)
  | base (members : ProcessMessageBase longBits)
  | startup (members : ProcessMessageBase longBits)
  | ping (members : ProcessMessageBase longBits)
  | stop (members : ProcessMessageBase longBits)
  | cmdResult (members : ProcessMessageBase longBits) (typeCmd : ProcessMessageType)
      (result : BitVec 32)
  deriving DecidableEq

namespace ProcessMessage

variable {longBits : Nat}

def members : ProcessMessage longBits -> ProcessMessageBase longBits
  | base members => members
  | startup members => members
  | ping members => members
  | stop members => members
  | cmdResult members _ _ => members

def type (message : ProcessMessage longBits) : ProcessMessageType :=
  message.members.type

/-- The tag is the one that the constructor of the class sets. -/
def Tagged : ProcessMessage longBits -> Prop
  | startup members => members.type = .start
  | stop members => members.type = .cmdStop
  | cmdResult members _ _ => members.type = .cmdResult
  | _ => False

/-- The classes of the objects. -/
inductive Class
  | base
  | startup
  | ping
  | stop
  | cmdResult
  deriving DecidableEq

/-- The class of an object. -/
def classOf : ProcessMessage longBits -> Class
  | base _ => .base
  | startup _ => .startup
  | ping _ => .ping
  | stop _ => .stop
  | cmdResult _ _ _ => .cmdResult

/-- The class to which `pack`, `to_string` and the server cast an object with this
tag. -/
def castTo : ProcessMessageType -> Option Class
  | .start => some .startup
  | .cmdStop => some .stop
  | .cmdResult => some .cmdResult
  | _ => none

def CastsValid (message : ProcessMessage longBits) : Prop :=
  forall target, castTo message.type = some target -> message.classOf = target

end ProcessMessage

/-! ## The environment -/

inductive ControlException
  | logicError (what : String)
  | runtimeError (what : String)
  | unpackError
  | typeError
  deriving DecidableEq

/-- How a call ends. -/
inductive Outcome (Result : Type)
  | returned (result : Result)
  | threw (exception : ControlException)
  | undefined
  deriving DecidableEq

/-- What the sources use of msgpack and of the C library. -/
structure ControlPlatform where
  longBits : Nat
  /-- What the packer writes for an object. -/
  pack : Object -> Octets
  /-- `msgpack::unpack`, which ignores octets behind the first object. -/
  unpack : Octets -> Except ControlException Object
  /-- The value that `MSGPACK_DEFINE_MAP` decodes a member from. -/
  member : List (Object × Object) -> Octets -> Option Object
  /-- `put_time` of what `gmtime` returns, unless that is null. -/
  putTime : Int -> Option String
  longBits_le : longBits ≤ 64
  unpack_pack : forall object, MessagePack.Encodable object -> unpack (pack object) = .ok object
  pack_ne_nil : forall object, MessagePack.Encodable object -> pack object ≠ []
  member_mem : forall entries name value, member entries name = some value ->
    (Object.str name, value) ∈ entries
  member_isSome : forall entries name value, (Object.str name, value) ∈ entries ->
    (member entries name).isSome = true

namespace ControlPlatform

variable (platform : ControlPlatform)

/-! ## Conversions from objects -/

/-- The conversion to an integer type with these bounds. -/
def asInteger (lower upper : Int) : Object -> Except ControlException Int
  | .positiveInteger value => if value ≤ upper then .ok value else .error .typeError
  | .negativeInteger value => if lower ≤ value then .ok value else .error .typeError
  | _ => .error .typeError

def asSigned (bits : Nat) (object : Object) : Except ControlException (BitVec bits) :=
  (asInteger (-2 ^ (bits - 1)) (2 ^ (bits - 1) - 1) object).map (BitVec.ofInt bits)

def asUnsigned (bits : Nat) (object : Object) : Except ControlException (BitVec bits) :=
  (asInteger 0 (2 ^ bits - 1) object).map (BitVec.ofInt bits)

/-- `as<process_message_type>()`. -/
def asType (object : Object) : Except ControlException ProcessMessageType :=
  (asSigned 32 object).map ProcessMessageType.ofValue

/-- `as<std::string>()`. -/
def asString : Object -> Except ControlException Octets
  | .str octets => .ok octets
  | .bin octets => .ok octets
  | _ => .error .typeError

def IsStr : Object -> Bool
  | .str _ => true
  | _ => false

/-- The entries of a map whose keys are all strings. -/
def asEntries : Object -> Except ControlException (List (Object × Object))
  | .map entries =>
      if entries.all fun entry => IsStr entry.1 then .ok entries else .error .typeError
  | _ => .error .typeError

/-- A member keeps its value when the map does not name it. -/
def asMember {Value : Type} (entries : List (Object × Object)) (name : String)
    (convert : Object -> Except ControlException Value) (current : Value) :
    Except ControlException Value :=
  match platform.member entries (octetsOf name) with
  | some object => convert object
  | none => .ok current

/-- `MSGPACK_DEFINE_MAP(type, pid, port, id1, id2, current_time)`. -/
def convertBase (object : Object) (current : ProcessMessageBase platform.longBits) :
    Except ControlException (ProcessMessageBase platform.longBits) := do
  let entries <- asEntries object
  let type <- platform.asMember entries "type" asType current.type
  let pid <- platform.asMember entries "pid" (asSigned platform.longBits) current.pid
  let port <- platform.asMember entries "port" (asSigned 32) current.port
  let id1 <- platform.asMember entries "id1" (asUnsigned 64) current.id1
  let id2 <- platform.asMember entries "id2" (asUnsigned 64) current.id2
  let currentTime <- platform.asMember entries "current_time" (asSigned 64) current.currentTime
  return ⟨type, pid, port, id1, id2, currentTime⟩

/-- `MSGPACK_DEFINE_MAP(MSGPACK_BASE_MAP(process_message_base), type_cmd, result)`. -/
def convertCmdResult (object : Object) (current : ProcessMessageBase platform.longBits)
    (typeCmd : ProcessMessageType) (result : BitVec 32) :
    Except ControlException (ProcessMessage platform.longBits) := do
  let entries <- asEntries object
  let members <- platform.asMember entries "process_message_base"
    (fun base => platform.convertBase base current) current
  let typeCmd <- platform.asMember entries "type_cmd" asType typeCmd
  let result <- platform.asMember entries "result" (asSigned 32) result
  return .cmdResult members typeCmd result

/-! ## Packing -/

/-- What `MSGPACK_DEFINE_MAP` packs: the members in order, each under its name. -/
def namedEntries (members : List (String × Object)) : List (Object × Object) :=
  members.map fun member => (.str (octetsOf member.1), member.2)

def baseMembers {longBits : Nat} (members : ProcessMessageBase longBits) :
    List (String × Object) :=
  [("type", .integer members.type.value.toInt), ("pid", .integer members.pid.toInt),
    ("port", .integer members.port.toInt), ("id1", .positiveInteger members.id1.toNat),
    ("id2", .positiveInteger members.id2.toNat),
    ("current_time", .integer members.currentTime.toInt)]

def packBase {longBits : Nat} (members : ProcessMessageBase longBits) : Object :=
  .map (namedEntries (baseMembers members))

def cmdResultMembers {longBits : Nat} (members : ProcessMessageBase longBits)
    (typeCmd : ProcessMessageType) (result : BitVec 32) : List (String × Object) :=
  [("process_message_base", packBase members), ("type_cmd", .integer typeCmd.value.toInt),
    ("result", .integer result.toInt)]

def packCmdResult {longBits : Nat} (members : ProcessMessageBase longBits)
    (typeCmd : ProcessMessageType) (result : BitVec 32) : Object :=
  .map (namedEntries (cmdResultMembers members typeCmd result))

/-- `process_message_base::pack`.  The tag alone decides what the object is cast
to. -/
def packMessage (message : ProcessMessage platform.longBits) : Outcome Octets :=
  match message.type with
  | .none => .returned (platform.pack (packBase message.members))
  | .base => .returned (platform.pack (packBase message.members))
  | .cmdResult =>
      match message with
      | .cmdResult members typeCmd result =>
          .returned (platform.pack (packCmdResult members typeCmd result))
      | _ => .undefined
  | .start =>
      match message with
      | .startup members => .returned (platform.pack (packBase members))
      | _ => .undefined
  | .cmdStop =>
      match message with
      | .stop members => .returned (platform.pack (packBase members))
      | _ => .undefined
  | _ => .threw (.logicError "Message type unknown")

/-! ## Reading a message -/

/-- What a default constructor draws from the process, the clock and the random
device, and what it leaves in the members it does not set. -/
structure Constructed (longBits : Nat) where
  pid : BitVec longBits
  id1 : BitVec 64
  id2 : BitVec 64
  currentTime : BitVec 64
  typeCmd : ProcessMessageType
  result : BitVec 32
  deriving DecidableEq

/-- `process_message_base()`, and then the `type` that a subclass sets. -/
def Constructed.members {longBits : Nat} (constructed : Constructed longBits)
    (type : ProcessMessageType) : ProcessMessageBase longBits where
  type := type
  pid := constructed.pid
  port := 0
  id1 := constructed.id1
  id2 := constructed.id2
  currentTime := constructed.currentTime

/-- `curr_type` of one iteration, unless the loop goes on to the next key. -/
def currType (constructed : Constructed platform.longBits) (entry : Object × Object) :
    Except ControlException (Option ProcessMessageType) := do
  let key <- asString entry.1
  if key = octetsOf "type" then
    let type <- asType entry.2
    return some type
  else if key = octetsOf "process_message_base" then
    let base <- platform.convertBase entry.2 (constructed.members .base)
    return some base.type
  else
    return none

/-- The object that a tag asks for, filled in from the whole map. -/
def convertAs (constructed : Constructed platform.longBits) (deserialized : Object)
    (type : ProcessMessageType) :
    Option (Except ControlException (ProcessMessage platform.longBits)) :=
  match type with
  | .start =>
      some ((platform.convertBase deserialized (constructed.members .start)).map .startup)
  | .cmdStop =>
      some ((platform.convertBase deserialized (constructed.members .cmdStop)).map .stop)
  | .cmdResult =>
      some (platform.convertCmdResult deserialized (constructed.members .cmdResult)
        constructed.typeCmd constructed.result)
  | _ => none

/-- The loop over the keys. -/
def scan (constructed : Constructed platform.longBits) (deserialized : Object) :
    List (Object × Object) -> Outcome (Option (ProcessMessage platform.longBits))
  | [] => .returned none
  | entry :: entries =>
      match platform.currType constructed entry with
      | .error exception => .threw exception
      | .ok none => scan constructed deserialized entries
      | .ok (some type) =>
          match platform.convertAs constructed deserialized type with
          | none => scan constructed deserialized entries
          | some (.error exception) => .threw exception
          | some (.ok message) => .returned (some message)

/-- `process_message_base::process_input`; the result is null when no tag asks for
an object. -/
def processInput (constructed : Constructed platform.longBits) (input : Octets) (bytes : Nat) :
    Outcome (Option (ProcessMessage platform.longBits)) :=
  if bytes < 1 then
    .threw (.logicError "parameter byte count < 1")
  else
    let octets := if bytes < input.length then input.take bytes else input
    match platform.unpack octets with
    | .error exception => .threw exception
    | .ok (.map entries) => platform.scan constructed (.map entries) entries
    | .ok _ => .undefined

/-! ## Showing a message -/

/-- A number with at least three characters, filled up with zeros. -/
def fillThree (value : Int) : String :=
  let digits := toString value
  String.ofList (List.replicate (3 - digits.length) '0') ++ digits

/-- `to_string(const process_message_cmd_result&)`. -/
def cmdResultText (result : BitVec 32) : String :=
  "result: " ++ toString result.toInt ++ "\n"

/-- `to_string(const process_message_base&)`. -/
def messageText (message : ProcessMessage platform.longBits) : Outcome String :=
  let members := message.members
  match platform.putTime members.currentTime.toInt with
  | none => .undefined
  | some time =>
      let text := "time: " ++ time ++ "." ++ fillThree (members.currentTime.toInt.tmod 1000) ++
        "\n" ++ "pid: " ++ toString members.pid.toInt ++ "\n" ++
        "port: " ++ toString members.port.toInt ++ "\n" ++
        "id1: " ++ toString members.id1.toNat ++ "\n" ++
        "id2: " ++ toString members.id2.toNat ++ "\n"
      match members.type with
      | .none => .returned (text ++ "type: NONE\n")
      | .base => .returned (text ++ "type: BASE\n")
      | .start => .returned (text ++ "type: START\n")
      | .cmdStop => .returned (text ++ "type: STOP\n")
      | .cmdResult =>
          match message with
          | .cmdResult _ _ result =>
              .returned (text ++ "type: CMD_RESULT\n" ++ cmdResultText result)
          | _ => .undefined
      | _ => .returned text

/-- What both listen loops do with the octets of a completed read: the message is
read, shown and then queued. -/
def receive (constructed : Constructed platform.longBits) (input : Octets) (bytes : Nat) :
    Outcome (ProcessMessage platform.longBits) :=
  match platform.processInput constructed input bytes with
  | .threw exception => .threw exception
  | .undefined => .undefined
  | .returned none => .undefined
  | .returned (some message) =>
      match platform.messageText message with
      | .returned _ => .returned message
      | .threw exception => .threw exception
      | .undefined => .undefined

end ControlPlatform

end EasyProspect
