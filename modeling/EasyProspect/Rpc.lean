import EasyProspect.Json

namespace EasyProspect

/-!
# JSON-RPC requests

`rpc_call` is extracted from the JSON value of a message and completed with a
result or with an error.  Only an `rpc_error` is meant to be caught; the other
exceptions are those of the JSON library and of `std::stof`.  What the language
leaves undefined is a fault as well.
-/

/-- `rpc_code`. -/
inductive RpcCode
  | parseError
  | invalidRequest
  | methodNotFound
  | invalidParams
  | internalError
  | expectedObject
  | expectedStringVersion
  | unknownVersion
  | invalidNullId
  | expectedStrnumId
  | expectedId
  | missingMethod
  | expectedStringMethod
  | expectedStructuredParams
  | missingParams
  | expectedArrayParams
  deriving DecidableEq

namespace RpcCode

def value : RpcCode -> Int32
  | parseError => -32700
  | invalidRequest => -32600
  | methodNotFound => -32601
  | invalidParams => -32602
  | internalError => -32603
  | expectedObject => 1
  | expectedStringVersion => 2
  | unknownVersion => 3
  | invalidNullId => 4
  | expectedStrnumId => 5
  | expectedId => 6
  | missingMethod => 7
  | expectedStringMethod => 8
  | expectedStructuredParams => 9
  | missingParams => 10
  | expectedArrayParams => 11

/-- `rpc_error_codes::message`. -/
def message : RpcCode -> String
  | parseError => "An error occurred on the server while parsing the JSON text."
  | invalidRequest => "The JSON sent is not a valid Request object"
  | methodNotFound => "The method does not exist or is not available"
  | invalidParams => "Invalid method parameters"
  | internalError => "Internal JSON-RPC error"
  | expectedObject => "Expected object in JSON-RPC request"
  | expectedStringVersion => "Expected string version in JSON-RPC request"
  | unknownVersion => "Unknown version in JSON-RPC request"
  | invalidNullId => "Invalid null id in JSON-RPC request"
  | expectedStrnumId => "Expected string or number id in JSON-RPC request"
  | expectedId => "Missing id in JSON-RPC request version 1"
  | missingMethod => "Missing method in JSON-RPC request"
  | expectedStringMethod => "Expected string method in JSON-RPC request"
  | expectedStructuredParams => "Expected structured params in JSON-RPC request version 2"
  | missingParams => "Missing params in JSON-RPC request version 1"
  | expectedArrayParams => "Expected array params in JSON-RPC request version 1"

end RpcCode

/-- `rpc_error`. -/
structure RpcError where
  code : Int32
  msg : String
  deriving DecidableEq

namespace RpcError

def ofCode (code : RpcCode) : RpcError :=
  ⟨code.value, code.message⟩

def ofText (msg : String) : RpcError :=
  ⟨RpcCode.invalidParams.value, msg⟩

def ofCodeText (code : RpcCode) (msg : String) : RpcError :=
  ⟨code.value, msg⟩

/-- `to_json`. -/
def toJson (error : RpcError) (id : Int32) : Json :=
  let err := Json.object [("code", .ofInt error.code), ("message", .string error.msg)]
  if 0 ≤ id then
    .object [("error", err), ("id", .ofInt id), ("jsonrpc", .string "2.0")]
  else
    .object [("error", err), ("jsonrpc", .string "2.0")]

end RpcError

/-- How a handler ends when it does not return. -/
inductive Fault
  | rpcError (error : RpcError)
  | json (exception : JsonException)
  | stof (exception : StofException)
  | undefined
  deriving DecidableEq

/-- `rpc_call`. -/
structure RpcCall where
  id : Option Int32
  version : Int
  method : String
  params : Json
  result : Json

namespace RpcCall

/-- The default constructor. -/
def create : RpcCall where
  id := none
  version := 2
  method := ""
  params := .null
  result := .null

/-! ## Extraction -/

/-- The version that `extract` accepts for a number. -/
def versionOf (number : Option Rat) : Option Int :=
  if number = some 2 then some 2
  else if number = some 1 then some 1
  else none

def checkId (call : RpcCall) : Option RpcCode :=
  if call.version = 2 then
    if call.id.any fun id => decide (id < 0) then some .invalidNullId else none
  else
    if call.id.isNone then some .expectedId else none

def extractMethod (members : List (String × Json)) : Except Fault (Except RpcCode String) :=
  match (Json.subscript members "method").2.getString with
  | .ok method => .ok (.ok method)
  | .error .outOfRange => .ok (.error .missingMethod)
  | .error exception => .error (.json exception)

def extractParams (call : RpcCall) (found : Option Json) : Except RpcCode Json :=
  match found with
  | some params =>
      if call.version = 2 then
        if !params.isObject && !params.isArray then .error .expectedStructuredParams
        else .ok params
      else
        if !params.isArray then .error .expectedArrayParams
        else .ok params
  | none =>
      if call.version = 2 then .ok call.params
      else .error .missingParams

/-- From the valid id to the end of `extract`. -/
def extractRequest (call : RpcCall) (members : List (String × Json)) :
    Except Fault (RpcCall × Option RpcCode) :=
  match call.checkId with
  | some ec => .ok (call, some ec)
  | none =>
      match extractMethod members with
      | .error fault => .error fault
      | .ok (.error ec) => .ok (call, some ec)
      | .ok (.ok method) =>
          let members := (Json.subscript members "method").1
          let call := { call with method := method }
          match call.extractParams (Json.find members "params") with
          | .error ec => .ok (call, some ec)
          | .ok params => .ok ({ call with params := params }, none)

/-- From the version on. -/
def extractVersion (platform : Platform) (call : RpcCall) (members : List (String × Json)) :
    Except Fault (RpcCall × Option RpcCode) :=
  let (members, jsonrpc) := Json.subscript members "jsonrpc"
  match jsonrpc.getString with
  | .error exception => .error (.json exception)
  | .ok text =>
      match platform.stof text with
      | .error exception => .error (.stof exception)
      | .ok number =>
          match versionOf number with
          | none => .ok ({ call with version := 1 }, some .unknownVersion)
          | some version => { call with version := version }.extractRequest members

/-- `extract`, with the error code it leaves. -/
def extract (platform : Platform) (call : RpcCall) (jv : Json) :
    Except Fault (RpcCall × Option RpcCode) :=
  match jv with
  | .object members =>
      let (members, id) := Json.subscript members "id"
      match id.getInt platform with
      | .error exception => .error (.json exception)
      | .ok id => { call with id := some id }.extractVersion platform members
  | _ => .ok (call, some .expectedObject)

/-! ## Completion -/

/-- `complete` with the result: the response it hands to its argument, if any. -/
def complete (call : RpcCall) : Option Json :=
  call.id.map fun id => .object [("id", .ofInt id), ("result", call.result)]

/-- `complete` with an error. -/
def completeError (call : RpcCall) (error : RpcError) : Option Json :=
  call.id.map error.toJson

end RpcCall

/-! ## Checked access -/

/-- `checked_object`. -/
def checkedObject (jv : Json) : Except Fault (List (String × Json)) :=
  match jv with
  | .object members => .ok members
  | _ => .error (.rpcError (.ofText "expected object"))

/-- `checked_value`. -/
def checkedValue (jv : Json) (key : String) : Except Fault Json :=
  match checkedObject jv with
  | .error fault => .error fault
  | .ok members =>
      match Json.find members key with
      | some value => .ok value
      | none => .error (.rpcError (.ofText ("key '" ++ key ++ "' not found")))

/-- `checked_string` of a value. -/
def checkedString (jv : Json) : Except Fault String :=
  match jv with
  | .string text => .ok text
  | _ => .error (.rpcError (.ofText "expected string"))

/-- `checked_string` of a member. -/
def checkedStringAt (jv : Json) (key : String) : Except Fault String :=
  match checkedValue jv key with
  | .error fault => .error fault
  | .ok value => checkedString value

end EasyProspect
