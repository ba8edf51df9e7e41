import EasyProspect.Beast

namespace EasyProspect

/-!
# The request as it travels from the session to the backend

`easyprospect_http_request` is the immutable request handed over for the header,
`easyprospect_http_request_continuation` the buffer handed over for each later
read.  Both are made by builders.  The request is built from the parser in the
session, copied once more in `start_request`, and only then turned into the
message that is written to the backend.

The builder's input buffer and byte counter are set by nobody and read by
nobody, and are left out.
-/

/-- `easyprospect_http_request`.  The constructor never sets `host_`. -/
structure HttpRequest where
  contentLength : Option Nat
  body : Option String
  raw : Option String
  contentType : Option String
  url : String
  host : String := ""
  method : String
  done : Bool
  sessionId : Uuid
  headers : Fields
  deriving DecidableEq

/-- `easyprospect_http_request_continuation`. -/
structure HttpRequestContinuation where
  firstRequest : Option HttpRequest
  buffer : Octets
  done : Bool
  deriving DecidableEq

/-- The name of the header that carries the proxy's session id. -/
def sessionIdHeader : String := "X-EP-SESSION-ID"

namespace HttpRequest

/-- `to_beast_request`.  `message::method` throws on `verb::unknown`; the session
id is written before the loop that copies the client's headers, and the loop
replaces fields of the same name. -/
def toBeastRequest (beast : Beast) (request : HttpRequest) : Except Exception BeastRequest :=
  let verb := beast.stringToVerb request.method
  if verb = beast.unknown then
    .error (.invalidArgument "unknown verb")
  else
    let fields : Fields :=
      if request.sessionId ≠ nilUuid then
        FieldList.set fieldToken [] sessionIdHeader (uuidToString request.sessionId)
      else []
    .ok
      { method := beast.verbToString verb
        target := request.url
        version := 11
        body := request.body.getD ""
        fields := FieldList.setAll fieldToken fields request.headers }

end HttpRequest

/-- `easyprospect_http_request_builder`. -/
structure HttpRequestBuilder where
  contentLength : Option Nat
  body : Option String
  raw : Option String
  contentType : Option String
  url : String
  host : String
  method : String
  headers : Fields
  headerDone : Bool
  done : Bool
  sessionId : Uuid

namespace HttpRequestBuilder

/-- The constructor that copies a request.  Neither the body nor the raw text is
copied. -/
def ofRequest (request : HttpRequest) : HttpRequestBuilder where
  contentLength := request.contentLength
  body := none
  raw := none
  contentType := request.contentType
  url := request.url
  host := request.host
  method := request.method
  headers := request.headers
  headerDone := false
  done := request.done
  sessionId := request.sessionId

/-- The constructor that reads the parser; `generated` is what
`random_generator` yields when the session id is nil, its default. -/
def ofParser (beast : Beast) (parser : beast.State) (sessionId generated : Uuid) :
    HttpRequestBuilder where
  contentLength := beast.contentLength parser
  body := none
  raw := none
  contentType := some (fieldValue (beast.get parser).fields "Content-Type")
  url := (beast.get parser).target
  host := fieldValue (beast.get parser).fields "Host"
  method := beast.verbToString ((beast.get parser).method beast)
  headers := (beast.get parser).fields
  headerDone := beast.isHeaderDone parser
  done := beast.isDone parser
  sessionId := if sessionId = nilUuid then generated else sessionId

def toRequest (builder : HttpRequestBuilder) : HttpRequest where
  contentLength := builder.contentLength
  body := builder.body
  raw := builder.raw
  contentType := builder.contentType
  url := builder.url
  method := builder.method
  done := builder.done
  sessionId := builder.sessionId
  headers := builder.headers

end HttpRequestBuilder

/-- What `start_request` writes to the backend for a first request. -/
def HttpRequest.forward (beast : Beast) (request : HttpRequest) : Except Exception BeastRequest :=
  (HttpRequestBuilder.ofRequest request).toRequest.toBeastRequest beast

/-- `easyprospect_http_request_continuation_builder`: the first `size` octets
from `val` on, of an array that holds `buffer`. -/
def HttpRequestContinuation.build (beast : Beast) (parser : beast.State)
    (firstRequest : Option HttpRequest) (buffer : Octets) (size : Nat) :
    HttpRequestContinuation where
  firstRequest := firstRequest
  buffer := buffer.take size
  done := beast.isDone parser

/-- Copying `size` octets leaves the array when it is shorter. -/
def HttpRequestContinuation.ReadsPastEnd (buffer : Octets) (size : Nat) : Prop :=
  buffer.length < size

instance (buffer : Octets) (size : Nat) :
    Decidable (HttpRequestContinuation.ReadsPastEnd buffer size) :=
  inferInstanceAs (Decidable (buffer.length < size))

end EasyProspect
