import EasyProspect.HttpRequest
import EasyProspect.ScriptedBeast

namespace EasyProspect

/-!
# What the backend receives of a client's request

A request is copied by a builder and re-encoded by `to_beast_request`.  The
header loop there uses the replacing `set`, and it runs after the session id has
been written.  Hence a field that the client repeats arrives once, with its last
value, and a client that names the session id header replaces the proxy's value.
Both results below are equivalences: they say for which requests the forwarded
message is what it should be.
-/

open FieldList

/-- The header comparison key of the proxy's session id. -/
abbrev sessionIdToken : List Char := fieldToken sessionIdHeader

/-! ## The forwarded message -/

/-- The fields that `to_beast_request` starts from. -/
def sessionIdFields (id : Uuid) : Fields :=
  if id ≠ nilUuid then FieldList.set fieldToken [] sessionIdHeader (uuidToString id) else []

theorem sessionIdFields_of_ne {id : Uuid} (held : id ≠ nilUuid) :
    sessionIdFields id = [(sessionIdHeader, uuidToString id)] := by
  rw [sessionIdFields, if_pos held]
  rfl

theorem without_sessionIdFields (id : Uuid) :
    without fieldToken sessionIdToken (sessionIdFields id) = [] := by
  unfold sessionIdFields
  split
  · exact without_set_same [] sessionIdHeader (uuidToString id)
  · rfl

/-- A request is forwarded exactly when its method is listed, and then as this
message: neither a body nor a host survives the copy. -/
theorem forward_eq_ok_iff {beast : Beast} {request : HttpRequest} {result : BeastRequest} :
    request.forward beast = .ok result <->
      beast.stringToVerb request.method ≠ beast.unknown ∧
        result =
          { method := beast.verbToString (beast.stringToVerb request.method)
            target := request.url
            version := 11
            body := ""
            fields := setAll fieldToken (sessionIdFields request.sessionId) request.headers } := by
  unfold HttpRequest.forward HttpRequest.toBeastRequest
  by_cases unlisted : beast.stringToVerb request.method = beast.unknown
  · constructor
    · intro produced
      simp only [HttpRequestBuilder.toRequest, HttpRequestBuilder.ofRequest, unlisted,
        if_true, reduceCtorEq] at produced
    · intro listed
      exact absurd unlisted listed.1
  · simp only [HttpRequestBuilder.toRequest, HttpRequestBuilder.ofRequest, unlisted, if_false,
      Except.ok.injEq, ne_eq, not_false_eq_true, true_and]
    exact eq_comm

/-! ## The session id header -/

/-- Exactly one field of that name is sent, and it holds this session id. -/
def CarriesSessionId (result : BeastRequest) (id : Uuid) : Prop :=
  (select fieldToken sessionIdToken result.fields).map Prod.snd = [uuidToString id]

instance (result : BeastRequest) (id : Uuid) : Decidable (CarriesSessionId result id) :=
  inferInstanceAs (Decidable (_ = _))

/-- The client sends no session id header in any letter case, or its last one
happens to hold this session id. -/
def NoForeignSessionId (headers : Fields) (id : Uuid) : Prop :=
  forall field, (select fieldToken sessionIdToken headers).getLast? = some field ->
    field.2 = uuidToString id

/-- The forwarded session id is the proxy's exactly when the client sends none
of its own. -/
theorem forwarded_sessionId_iff (beast : Beast) (request : HttpRequest) (result : BeastRequest)
    (held : request.sessionId ≠ nilUuid) (produced : request.forward beast = .ok result) :
    CarriesSessionId result request.sessionId <->
      NoForeignSessionId request.headers request.sessionId := by
  rw [(forward_eq_ok_iff.mp produced).2]
  unfold CarriesSessionId NoForeignSessionId
  rw [select_setAll, sessionIdFields_of_ne held]
  cases last : (select fieldToken sessionIdToken request.headers).getLast? with
  | none =>
      have own : select fieldToken sessionIdToken
          [(sessionIdHeader, uuidToString request.sessionId)] =
            [(sessionIdHeader, uuidToString request.sessionId)] :=
        select_set_same [] sessionIdHeader (uuidToString request.sessionId)
      simp only [own, List.map_cons, List.map_nil, reduceCtorEq, false_implies, implies_true]
  | some field =>
      simp only [List.map_cons, List.map_nil, List.cons.injEq, and_true, Option.some.injEq,
        forall_eq']

/-- A `GET` whose only header is the session id header, in lower case. -/
def foreignSessionScript : Script where
  request := { methodString := "GET", target := "/", fields := [("x-ep-session-id", "mallory")] }
  header := [71]
  elements := []
  contentLength := none
  upgrade := false

/-- That request as the session hands it over, under a generated session id. -/
def foreignSessionRequest : HttpRequest :=
  (HttpRequestBuilder.ofParser (scriptedBeast foreignSessionScript) (.body []) nilUuid 7#128).toRequest

/-- The message that reaches the backend then carries the client's value. -/
def foreignSessionResult : BeastRequest where
  method := "GET"
  target := "/"
  version := 11
  body := ""
  fields := [("x-ep-session-id", "mallory")]

theorem foreignSession_forwarded :
    foreignSessionRequest.forward (scriptedBeast foreignSessionScript) = .ok foreignSessionResult := by
  rfl

theorem forwarded_sessionId_iff_foreign :
    CarriesSessionId foreignSessionResult foreignSessionRequest.sessionId <->
      NoForeignSessionId foreignSessionRequest.headers foreignSessionRequest.sessionId :=
  forwarded_sessionId_iff (scriptedBeast foreignSessionScript) foreignSessionRequest
    foreignSessionResult (by decide) foreignSession_forwarded

/-- Not every forwarded request carries the session id it is held under. -/
theorem forwarded_sessionId_overwritten :
    ¬ forall request : HttpRequest, request.sessionId ≠ nilUuid ->
      forall result, request.forward (scriptedBeast foreignSessionScript) = .ok result ->
        CarriesSessionId result request.sessionId := by
  intro carried
  have kept := carried foreignSessionRequest (by decide) foreignSessionResult
    foreignSession_forwarded
  exact absurd kept (by decide)

/-! ## The whole request -/

/-- The chain from the parser to the message for the backend. -/
def proxied (beast : Beast) (parser : beast.State) (generated : Uuid) :
    Except Exception BeastRequest :=
  (HttpRequestBuilder.ofParser beast parser nilUuid generated).toRequest.forward beast

/-- The same method token, target and, apart from the session id header, the
same list of fields. -/
def ForwardedFaithfully (parsed : ParsedRequest) (result : BeastRequest) : Prop :=
  result.method = parsed.methodString ∧ result.target = parsed.target ∧
    without fieldToken sessionIdToken result.fields =
      without fieldToken sessionIdToken parsed.fields

instance (parsed : ParsedRequest) (result : BeastRequest) :
    Decidable (ForwardedFaithfully parsed result) :=
  inferInstanceAs (Decidable (_ ∧ _ ∧ _))

/-- The text of a verb is listed exactly when the verb is. -/
theorem stringToVerb_verbToString (beast : Beast) (token : String) :
    beast.stringToVerb (beast.verbToString (beast.stringToVerb token)) =
      beast.stringToVerb token := by
  by_cases unlisted : beast.stringToVerb token = beast.unknown
  · rw [unlisted]
    exact beast.unknown_text_unlisted
  · rw [beast.token_of_listed token unlisted]

/-- Re-encoding leaves the other fields as they were exactly when no name is
repeated among them. -/
theorem without_forwarded_iff (id : Uuid) (headers : Fields) :
    without fieldToken sessionIdToken (setAll fieldToken (sessionIdFields id) headers) =
        without fieldToken sessionIdToken headers <->
      Distinct fieldToken (without fieldToken sessionIdToken headers) := by
  rw [without_setAll, without_sessionIdFields]
  exact setAll_nil_eq_iff _

/-- A request reaches the backend unchanged exactly when its method is listed
and it repeats no header other than the session id. -/
theorem forwarded_faithfully_iff (beast : Beast) (parser : beast.State) (generated : Uuid) :
    (Exists fun result => proxied beast parser generated = .ok result ∧
        ForwardedFaithfully (beast.get parser) result) <->
      (beast.get parser).method beast ≠ beast.unknown ∧
        Distinct fieldToken (without fieldToken sessionIdToken (beast.get parser).fields) := by
  let parsed := beast.get parser
  let request := (HttpRequestBuilder.ofParser beast parser nilUuid generated).toRequest
  have verb : beast.stringToVerb request.method = parsed.method beast :=
    stringToVerb_verbToString beast parsed.methodString
  constructor
  · rintro ⟨result, produced, faithful⟩
    rcases forward_eq_ok_iff.mp produced with ⟨listed, shape⟩
    refine ⟨verb ▸ listed, (without_forwarded_iff request.sessionId parsed.fields).mp ?_⟩
    rw [shape] at faithful
    exact faithful.2.2
  · rintro ⟨listed, distinct⟩
    refine ⟨_, forward_eq_ok_iff.mpr ⟨verb.symm ▸ listed, rfl⟩, ?_, rfl, ?_⟩
    · change beast.verbToString (beast.stringToVerb request.method) = parsed.methodString
      rw [verb]
      exact beast.token_of_listed parsed.methodString listed
    · exact (without_forwarded_iff request.sessionId parsed.fields).mpr distinct

/-- A `GET` that repeats one header. -/
def repeatedHeaderScript : Script where
  request := { methodString := "GET", target := "/", fields := [("Accept", "a"), ("Accept", "b")] }
  header := [71]
  elements := []
  contentLength := none
  upgrade := false

/-- Not every accepted request is forwarded as it was sent. -/
theorem forwarded_faithfully_repeated :
    ¬ forall (parser : ScriptState) (generated : Uuid), Exists fun result =>
      proxied (scriptedBeast repeatedHeaderScript) parser generated = .ok result ∧
        ForwardedFaithfully ((scriptedBeast repeatedHeaderScript).get parser) result := by
  intro faithful
  rcases faithful (.body []) 7#128 with ⟨result, produced, same⟩
  have shape := (forward_eq_ok_iff.mp produced).2
  subst shape
  exact absurd same (by decide)

end EasyProspect
