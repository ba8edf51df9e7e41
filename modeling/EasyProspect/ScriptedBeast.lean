import EasyProspect.Beast

namespace EasyProspect

/-!
# A parser that knows its message

One computable instance of the Boost parameter, for the runs that have to be
evaluated.  The message is known in advance: its header and the elements of its
body.  A body sent with Content-Length is one element; in a chunked body lines
and data alternate.

On the octets of its message this parser does what Beast's does: it asks for
more while a line is incomplete, stores body octets only, and counts every octet
it takes.  `scriptedBeast_follows` is the proof that it meets the hypothesis on
the parser.
-/

inductive ScriptState
  | header
  | body (left : List Element)
  | failed
  deriving DecidableEq

/-- A known message. -/
structure Script where
  request : ParsedRequest
  header : Octets
  elements : List Element
  contentLength : Option Nat
  upgrade : Bool

def octetsOf (text : String) : Octets :=
  text.toList.map fun character => UInt8.ofNat character.toNat

/-- The tokens of Beast's method table. -/
def listedTokens : List String :=
  ["DELETE", "GET", "HEAD", "POST", "PUT", "CONNECT", "OPTIONS", "TRACE", "COPY", "LOCK",
    "MKCOL", "MOVE", "PROPFIND", "PROPPATCH", "SEARCH", "UNLOCK", "BIND", "REBIND", "UNBIND",
    "ACL", "REPORT", "MKACTIVITY", "CHECKOUT", "MERGE", "M-SEARCH", "NOTIFY", "SUBSCRIBE",
    "UNSUBSCRIBE", "PATCH", "PURGE", "MKCALENDAR", "LINK", "UNLINK"]

def unknownToken : String := "<unknown>"

/-- Verbs are represented by their texts. -/
def lookupToken (token : String) : String :=
  if token ∈ listedTokens then token else unknownToken

namespace Script

/-- Take a line as a whole, or ask for more of it. -/
def takeLine (line input : Octets) (now next : ScriptState) : PutResult ScriptState :=
  if line.isPrefixOf input then ⟨next, line.length, [], none⟩
  else if input.isPrefixOf line then ⟨now, 0, [], some .needMore⟩
  else ⟨.failed, 0, [], some (.other 0)⟩

/-- Take as many body octets as there are, as are wanted and as there is room for. -/
def takeData (octets : Octets) (size : Nat) (input : Octets) (rest : List Element) :
    PutResult ScriptState :=
  let taken := min size (min octets.length input.length)
  ⟨.body (Element.afterData octets taken rest), taken, input.take taken,
    if taken < min octets.length input.length then some (.other 1) else none⟩

def put (script : Script) (state : ScriptState) (size : Nat) (input : Octets) :
    PutResult ScriptState :=
  match state with
  | .header => takeLine script.header input .header (.body script.elements)
  | .body [] => ⟨.body [], 0, [], none⟩
  | .body (.line octets :: rest) =>
      takeLine octets input (.body (.line octets :: rest)) (.body rest)
  | .body (.data octets :: rest) => takeData octets size input rest
  | .failed => ⟨.failed, 0, [], some (.other 0)⟩

def isHeaderDone : ScriptState -> Bool
  | .body _ => true
  | _ => false

def isDone : ScriptState -> Bool
  | .body [] => true
  | _ => false

end Script

theorem lookupToken_of_listed (token : String) (listed : lookupToken token ≠ unknownToken) :
    lookupToken token = token := by
  unfold lookupToken at listed ⊢
  by_cases member : token ∈ listedTokens
  · exact if_pos member
  · exact absurd (if_neg member) listed

theorem lookupToken_unknown : lookupToken unknownToken = unknownToken := by
  decide

/-- The instance.  The serializer writes the method and the target. -/
def scriptedBeast (script : Script) : Beast where
  Verb := String
  verbDecidableEq := inferInstance
  unknown := unknownToken
  stringToVerb := lookupToken
  verbToString := id
  State := ScriptState
  emplaced := .header
  put := script.put
  isHeaderDone := Script.isHeaderDone
  isDone := Script.isDone
  get := fun _ => script.request
  contentLength := fun _ => script.contentLength
  isUpgrade := fun _ => script.upgrade
  serialize := fun request => octetsOf (request.method ++ " " ++ request.target)
  token_of_listed := lookupToken_of_listed
  unknown_text_unlisted := lookupToken_unknown
  headerDone_of_done := by
    intro state done
    cases state with
    | header => exact done
    | body left => rfl
    | failed => exact done

/-- A bodiless request. -/
def getScript : Script where
  request := { methodString := "GET", target := "/", fields := [] }
  header := octetsOf "GET / HTTP/1.1\r\n\r\n"
  elements := []
  contentLength := none
  upgrade := false

/-- A request with a body of two octets. -/
def uploadScript : Script where
  request := { methodString := "PUT", target := "/", fields := [("Content-Length", "2")] }
  header := octetsOf "PUT / HTTP/1.1\r\nContent-Length: 2\r\n\r\n"
  elements := [.data (octetsOf "ab")]
  contentLength := some 2
  upgrade := false

/-! ## The instance follows its message -/

/-- What a state of the scripted parser still expects. -/
def Script.Expects (script : Script) : ScriptState -> Pending -> Prop
  | .header, pending => pending = ⟨script.header, script.elements⟩
  | .body left, pending => pending = ⟨[], left⟩
  | .failed, _ => False

/-- Of the octets of the message, a line is either all there or still incomplete. -/
theorem takeLine_of_prefix {line later input : Octets} (prefixed : input <+: line ++ later)
    (now next : ScriptState) :
    Script.takeLine line input now next =
      if line.length ≤ input.length then ⟨next, line.length, [], none⟩
      else ⟨now, 0, [], some .needMore⟩ := by
  unfold Script.takeLine
  by_cases whole : line.length ≤ input.length
  · have present : line <+: input :=
      List.prefix_of_prefix_length_le (List.prefix_append line later) prefixed whole
    rw [if_pos (List.isPrefixOf_iff_prefix.mpr present), if_pos whole]
  · have incomplete : input <+: line :=
      List.prefix_of_prefix_length_le prefixed (List.prefix_append line later)
        (Nat.le_of_not_le whole)
    have absent : ¬line.isPrefixOf input = true :=
      fun present => whole (List.isPrefixOf_iff_prefix.mp present).length_le
    rw [if_neg absent, if_pos (List.isPrefixOf_iff_prefix.mpr incomplete), if_neg whole]

/-- The octets taken of an element are the first octets of the element. -/
theorem take_of_prefix {octets later input : Octets} {taken : Nat}
    (prefixed : input <+: octets ++ later) (wanted : taken ≤ octets.length)
    (present : taken ≤ input.length) : input.take taken = octets.take taken := by
  rcases prefixed with ⟨rest, same⟩
  have first := congrArg (List.take taken) same
  rw [List.take_append_of_le_length present, List.take_append_of_le_length wanted] at first
  exact first

theorem Script.headerDone_iff {script : Script} (nonempty : script.header ≠ [])
    {state : ScriptState} {pending : Pending} (expected : script.Expects state pending) :
    Script.isHeaderDone state = true <-> pending.header = [] := by
  cases state with
  | header =>
      subst expected
      exact ⟨fun done => absurd done Bool.false_ne_true, fun empty => absurd empty nonempty⟩
  | body left =>
      subst expected
      exact ⟨fun _ => rfl, fun _ => rfl⟩
  | failed => exact False.elim expected

theorem Script.done_iff {script : Script} (nonempty : script.header ≠ [])
    {state : ScriptState} {pending : Pending} (expected : script.Expects state pending) :
    Script.isDone state = true <-> pending.header = [] ∧ pending.elements = [] := by
  cases state with
  | header =>
      subst expected
      exact ⟨fun done => absurd done Bool.false_ne_true, fun empty => absurd empty.1 nonempty⟩
  | body left =>
      subst expected
      cases left with
      | nil => exact ⟨fun _ => ⟨rfl, rfl⟩, fun _ => rfl⟩
      | cons element rest =>
          exact ⟨fun done => absurd done Bool.false_ne_true, fun empty => nomatch empty.2⟩
  | failed => exact False.elim expected

/-- The state in which a message has nothing left of its header. -/
theorem Script.body_of_expects {script : Script} (nonempty : script.header ≠ [])
    {state : ScriptState} {elements : List Element}
    (expected : script.Expects state ⟨[], elements⟩) : state = .body elements := by
  cases state with
  | header => exact absurd (congrArg Pending.header expected).symm nonempty
  | body left => exact congrArg ScriptState.body (congrArg Pending.elements expected).symm
  | failed => exact False.elim expected

/-- The scripted parser follows its message. -/
theorem scriptedBeast_follows (script : Script) (nonempty : script.header ≠ []) :
    FollowsMessage (scriptedBeast script) script.Expects where
  headerDone := fun _ _ expected => Script.headerDone_iff nonempty expected
  done := fun _ _ expected => Script.done_iff nonempty expected
  putHeader := by
    intro state pending size input later expected unfinished prefixed
    cases state with
    | header =>
        subst expected
        rw [Pending.sent, List.append_assoc] at prefixed
        have result : (scriptedBeast script).put .header size input =
            if script.header.length ≤ input.length then
              ⟨.body script.elements, script.header.length, [], none⟩
            else ⟨.header, 0, [], some .needMore⟩ :=
          takeLine_of_prefix prefixed .header (.body script.elements)
        rw [result]
        by_cases whole : script.header.length ≤ input.length
        · rw [if_pos whole]
          refine ⟨rfl, whole, Nat.le_refl _, fun _ => rfl, ?_⟩
          change Pending.mk _ _ = Pending.mk _ _
          rw [List.drop_length]
        · rw [if_neg whole]
          exact ⟨rfl, Nat.zero_le _, Nat.zero_le _, fun present => absurd present whole, rfl⟩
    | body left =>
        subst expected
        exact absurd rfl unfinished
    | failed => exact False.elim expected
  putLine := by
    intro state octets rest size input later expected prefixed
    rw [Script.body_of_expects nonempty expected]
    rw [List.append_assoc] at prefixed
    have result : (scriptedBeast script).put (.body (.line octets :: rest)) size input =
        if octets.length ≤ input.length then ⟨.body rest, octets.length, [], none⟩
        else ⟨.body (.line octets :: rest), 0, [], some .needMore⟩ :=
      takeLine_of_prefix prefixed (.body (.line octets :: rest)) (.body rest)
    rw [result]
    by_cases whole : octets.length ≤ input.length
    · rw [if_pos whole, if_pos whole, if_pos whole]
      exact ⟨rfl, rfl, rfl⟩
    · rw [if_neg whole, if_neg whole, if_neg whole]
      exact ⟨rfl, rfl, rfl⟩
  putData := by
    intro state octets rest size input later expected prefixed
    rw [Script.body_of_expects nonempty expected]
    rw [List.append_assoc] at prefixed
    refine ⟨?_, rfl, rfl⟩
    exact take_of_prefix prefixed
      (Nat.le_trans (Nat.min_le_right _ _) (Nat.min_le_left _ _))
      (Nat.le_trans (Nat.min_le_right _ _) (Nat.min_le_right _ _))

end EasyProspect
