import EasyProspect.Library.FieldList
import Mathlib.Algebra.Group.Nat.Defs

namespace EasyProspect

/-!
# The parts of Boost that the sources call

Boost is not part of the repository.  What the sources use of it is collected in
one parameter, `Beast`: the method table, the request parser and the request
serializer.  Its proof fields are documented facts about these tables; the
behaviour of the parser over a whole message is a separate hypothesis,
`FollowsMessage`, because only some results depend on it.

Error codes that the sources compare with are named; any other code is kept as a
number.  Header names are compared without regard to letter case, as
`beast::iequals` does, through `fieldToken`.
-/

abbrev Octets := List UInt8

/-! ## Identifiers, errors and exceptions -/

/-- `boost::uuids::uuid`. -/
abbrev Uuid := BitVec 128

/-- `boost::uuids::nil_uuid()`. -/
def nilUuid : Uuid := 0#128

def hexDigit (digit : Nat) : Char :=
  if digit < 10 then Char.ofNat (48 + digit) else Char.ofNat (87 + digit)

/-- `boost::uuids::to_string`: sixteen octets in lower-case hexadecimal, with a
dash after the fourth, sixth, eighth and tenth. -/
def uuidToString (id : Uuid) : String :=
  String.ofList ((List.range 16).flatMap fun index =>
    let octet := id.toNat / 256 ^ (15 - index) % 256
    let digits := [hexDigit (octet / 16), hexDigit (octet % 16)]
    if index ∈ [3, 5, 7, 9] then digits ++ ['-'] else digits)

inductive BeastError
  | needMore
  | endOfStream
  | notConnected
  | other (value : Nat)
  deriving DecidableEq

/-- `error_code`: `none` is success. -/
abbrev ErrorCode := Option BeastError

/-- The C++ exceptions that leave a modelled function. -/
inductive Exception
  | logicError (what : String)
  | invalidArgument (what : String)
  deriving DecidableEq

/-! ## Messages -/

/-- Header fields in the order in which they are written. -/
abbrev Fields := List (String × String)

/-- The form in which two header names are compared. -/
def fieldToken (name : String) : List Char :=
  name.toList.map Char.toLower

/-- `fields[name]`: the first value of that name, or the empty string. -/
def fieldValue (fields : Fields) (name : String) : String :=
  match FieldList.select fieldToken (fieldToken name) fields with
  | field :: _ => field.2
  | [] => ""

/-- What the parser has read of a request line and a header. -/
structure ParsedRequest where
  methodString : String
  target : String
  fields : Fields

/-- `http::request<string_body>`; the method is kept as its token. -/
structure BeastRequest where
  method : String
  target : String
  version : Nat
  body : String
  fields : Fields
  deriving DecidableEq

/-- `http::response<string_body>`: its octets on the wire and `need_eof()`. -/
structure Response where
  octets : Octets
  needEof : Bool
  deriving DecidableEq

/-- What one `put` does: the parser afterwards, the number of input octets it
consumed, the body octets it stored at `body().data`, and its error code. -/
structure PutResult (State : Type) where
  parser : State
  octets : Nat
  stored : Octets
  ec : ErrorCode

/-! ## The library as a parameter -/

structure Beast where
  Verb : Type
  verbDecidableEq : DecidableEq Verb
  /-- `verb::unknown`. -/
  unknown : Verb
  stringToVerb : String -> Verb
  verbToString : Verb -> String
  /-- A state of `request_parser<buffer_body>`. -/
  State : Type
  /-- A parser just emplaced, with its limits set. -/
  emplaced : State
  /-- `put(buffers, ec)` with the given `body().size`. -/
  put : State -> Nat -> Octets -> PutResult State
  isHeaderDone : State -> Bool
  isDone : State -> Bool
  get : State -> ParsedRequest
  contentLength : State -> Option Nat
  /-- `websocket::is_upgrade`. -/
  isUpgrade : ParsedRequest -> Bool
  serialize : BeastRequest -> Octets
  /-- Listed tokens and verbs correspond. -/
  token_of_listed : forall token, stringToVerb token ≠ unknown ->
    verbToString (stringToVerb token) = token
  /-- The text of `verb::unknown` is not a listed token. -/
  unknown_text_unlisted : stringToVerb (verbToString unknown) = unknown
  /-- A message is not done before its header is. -/
  headerDone_of_done : forall state, isDone state = true -> isHeaderDone state = true

instance (beast : Beast) : DecidableEq beast.Verb := beast.verbDecidableEq

/-- `req.method()` of a parsed request. -/
def ParsedRequest.method (beast : Beast) (request : ParsedRequest) : beast.Verb :=
  beast.stringToVerb request.methodString

/-! ## The parser over one message -/

/-- A structured element of a message body: a line of framing, which the parser
takes as a whole, or body octets, which it takes as far as they have arrived. -/
inductive Element
  | line (octets : Octets)
  | data (octets : Octets)
  deriving DecidableEq

namespace Element

/-- The octets as they are sent. -/
def sent : Element -> Octets
  | line octets => octets
  | data octets => octets

/-- The octets of the body. -/
def meant : Element -> Octets
  | line _ => []
  | data octets => octets

/-- What remains when some octets of the first element, body octets, are taken. -/
def afterData (octets : Octets) (taken : Nat) (rest : List Element) : List Element :=
  if taken = octets.length then rest else data (octets.drop taken) :: rest

end Element

/-- What is still to come of one message. -/
structure Pending where
  header : Octets
  elements : List Element

namespace Pending

def sent (pending : Pending) : Octets :=
  pending.header ++ pending.elements.flatMap Element.sent

end Pending

/-- The parser follows a well-formed message.  `expects state pending` says that
the parser in this state has consumed the message up to `pending`.  The parser is
not eager: a call takes at most one structured element, and nothing of a line
that is incomplete.  Of an incomplete header it may take the start line.  Only
body octets are stored, as many as there is room for. -/
structure FollowsMessage (beast : Beast) (expects : beast.State -> Pending -> Prop) : Prop where
  headerDone : forall state pending, expects state pending ->
    (beast.isHeaderDone state = true <-> pending.header = [])
  done : forall state pending, expects state pending ->
    (beast.isDone state = true <-> pending.header = [] ∧ pending.elements = [])
  putHeader : forall state pending size input later, expects state pending ->
    pending.header ≠ [] -> input <+: pending.sent ++ later ->
      (beast.put state size input).stored = [] ∧
      (beast.put state size input).octets ≤ input.length ∧
      (beast.put state size input).octets ≤ pending.header.length ∧
      (pending.header.length ≤ input.length ->
        (beast.put state size input).octets = pending.header.length) ∧
      expects (beast.put state size input).parser
        { pending with header := pending.header.drop (beast.put state size input).octets }
  putLine : forall state octets rest size input later, expects state ⟨[], .line octets :: rest⟩ ->
    input <+: octets ++ rest.flatMap Element.sent ++ later ->
      (beast.put state size input).stored = [] ∧
      (beast.put state size input).octets =
        (if octets.length ≤ input.length then octets.length else 0) ∧
      expects (beast.put state size input).parser
        ⟨[], if octets.length ≤ input.length then rest else .line octets :: rest⟩
  putData : forall state octets rest size input later, expects state ⟨[], .data octets :: rest⟩ ->
    input <+: octets ++ rest.flatMap Element.sent ++ later ->
      (beast.put state size input).stored =
        octets.take (beast.put state size input).octets ∧
      (beast.put state size input).octets = min size (min octets.length input.length) ∧
      expects (beast.put state size input).parser
        ⟨[], Element.afterData octets (beast.put state size input).octets rest⟩

end EasyProspect
