import EasyProspect.Beast
import EasyProspect.Library.PathSegments
import Mathlib.Data.List.TakeWhile

namespace EasyProspect

/-!
# Pages and files of the document root

`handle_request` answers a request with a file below the document root, or with what the callback
for epjs pages returns.  Texts that are C strings have no NUL; paths are those of
Boost.Filesystem version 3, on POSIX or on Windows.
-/

namespace StaticFiles

open PathSegments

/-- A text without NUL. -/
abbrev CText := { text : List Char // '\x00' ∉ text }

/-! ## Paths -/

inductive PathStyle
  | posix
  | windows
deriving DecidableEq, Repr

namespace PathStyle

variable (style : PathStyle)

def isDirectorySeparator (character : Char) : Bool :=
  match style with
  | .posix => character = '/'
  | .windows => character = '/' || character = '\\'

def preferredSeparator : Char :=
  match style with
  | .posix => '/'
  | .windows => '\\'

/-- `path::m_append_separator_if_needed`. -/
def appendSeparatorIfNeeded (path : List Char) : List Char :=
  match path.getLast? with
  | none => path
  | some last =>
      if style.isDirectorySeparator last || (style = .windows && last = ':') then path
      else path ++ [style.preferredSeparator]

/-- `path::operator/=` and `path::append`. -/
def append (path source : List Char) : List Char :=
  match source.head? with
  | none => path
  | some first =>
      if style.isDirectorySeparator first then path ++ source
      else style.appendSeparatorIfNeeded path ++ source

/-- `path::generic_string`. -/
def genericString (path : List Char) : List Char :=
  match style with
  | .posix => path
  | .windows => path.map fun character => if character = '\\' then '/' else character

/-- The names in a path. -/
def components (path : List Char) : List (List Char) :=
  segments style.isDirectorySeparator path

end PathStyle

/-- A C string ends at the first NUL. -/
def cStr (text : List Char) : List Char :=
  text.takeWhile fun character => character ≠ '\x00'

/-! ## Requests and responses -/

inductive Method
  | get
  | head
  | other
deriving DecidableEq, Repr

/-- The request, as far as `handle_request` reads it. -/
structure PageRequest where
  method : Method
  target : CText
  version : Nat
  keepAlive : Bool

inductive Status
  | ok
  | badRequest
  | notFound
  | internalServerError
deriving DecidableEq, Repr

inductive ResponseBody
  | empty
  | text (text : List Char)
  | file (contents : Octets)
deriving DecidableEq, Repr

/-- The response that is sent.  `set` and `content_length` of the source are the fields and
`contentLength`; `prepare_payload` sets the length of a text. -/
structure PageResponse where
  version : Nat
  status : Status
  fields : Fields
  keepAlive : Bool
  body : ResponseBody
  contentLength : Option Nat
deriving DecidableEq, Repr

/-- What the opening of a file gives. -/
inductive OpenResult
  | noSuchFile
  | failed (message : List Char)
  | opened (contents : Octets)
deriving DecidableEq, Repr

/-- The uses of a path: a file is opened, or the callback is called. -/
inductive Access
  | opened (path : List Char)
  | called (path docRoot target : List Char)
deriving DecidableEq, Repr

def Access.path : Access -> List Char
  | .opened path => path
  | .called path _ _ => path

/-- What `handle_request` has accessed, and what it sends or throws. -/
structure Handled where
  accesses : List Access
  outcome : Except Exception PageResponse

/-- What is outside of `handle_request`: the files, the regular expressions of the epjs pages and
the callback, which may be missing. -/
structure Site where
  style : PathStyle
  serverVersion : String
  docRoot : CText
  epjsExtensions : List (List Char -> Bool)
  epjsProcessReq : Option (List Char -> List Char -> List Char -> Except Exception (List Char))
  openFile : List Char -> OpenResult

/-- The extensions of `mime_type`, in the order in which they are compared. -/
def mimeTypes : List (String × String) :=
  [(".htm", "text/html"), (".html", "text/html"), (".php", "text/html"), (".css", "text/css"),
    (".txt", "text/plain"), (".js", "application/javascript"), (".json", "application/json"),
    (".xml", "application/xml"), (".swf", "application/x-shockwave-flash"),
    (".flv", "video/x-flv"), (".png", "image/png"), (".jpe", "image/jpeg"),
    (".jpeg", "image/jpeg"), (".jpg", "image/jpeg"), (".gif", "image/gif"),
    (".bmp", "image/bmp"), (".ico", "image/vnd.microsoft.icon"), (".tiff", "image/tiff"),
    (".tif", "image/tiff"), (".svg", "image/svg+xml"), (".svgz", "image/svg+xml")]

/-- From the last dot on, or nothing. -/
def extension (path : List Char) : List Char :=
  if '.' ∈ path then '.' :: (path.reverse.takeWhile fun character => character ≠ '.').reverse
  else []

def mimeType (path : List Char) : String :=
  match mimeTypes.find? fun entry => fieldToken entry.1 = (extension path).map Char.toLower with
  | some entry => entry.2
  | none => "application/text"

section Handle

variable (site : Site) (request : PageRequest)

/-- What `bad_request`, `not_found` and `server_error` have in common. -/
def errorResponse (status : Status) (body : List Char) : PageResponse where
  version := request.version
  status := status
  fields := [("Server", site.serverVersion), ("Content-Type", "text/html")]
  keepAlive := request.keepAlive
  body := .text body
  contentLength := some body.length

def badRequest (why : String) : PageResponse :=
  errorResponse site request .badRequest why.toList

def notFound : PageResponse :=
  errorResponse site request .notFound
    ("The resource '".toList ++ request.target.val ++ "' was not found.".toList)

def serverError (what : List Char) : PageResponse :=
  errorResponse site request .internalServerError
    ("An error occurred: '".toList ++ what ++ "'".toList)

/-- The target is empty, does not begin with a slash, or has two dots in a row. -/
def illegalTarget : Bool :=
  request.target.val.isEmpty || request.target.val.head? ≠ some '/' ||
    decide (['.', '.'] <:+: request.target.val)

def currPath : List Char :=
  let path := site.style.append site.docRoot.val request.target.val
  if request.target.val.getLast? = some '/' then site.style.append path "index.html".toList
  else path

def currPathStr : List Char :=
  cStr (site.style.genericString (currPath site request))

/-- The response for an epjs page; it has no content type. -/
def pageResponse (output : List Char) : PageResponse where
  version := request.version
  status := .ok
  fields := [("Server", site.serverVersion)]
  keepAlive := request.keepAlive
  body := .text output
  contentLength := some output.length

/-- The response for a file, without a body to `HEAD`. -/
def fileResponse (contents : Octets) : PageResponse where
  version := request.version
  status := .ok
  fields := [("Server", site.serverVersion),
    ("Content-Type", mimeType (site.style.genericString (currPath site request)))]
  keepAlive := request.keepAlive
  body := if request.method = .head then .empty else .file contents
  contentLength := some contents.length

/-- `handle_request`. -/
def handleRequest : Handled :=
  if request.method ≠ .get ∧ request.method ≠ .head then
    ⟨[], .ok (badRequest site request "Unknown HTTP-method")⟩
  else if illegalTarget request then
    ⟨[], .ok (badRequest site request "Illegal request-target")⟩
  else
    let path := currPathStr site request
    if site.epjsExtensions.any fun matched => matched path then
      match site.epjsProcessReq with
      | none => ⟨[], .error (.logicError "Missing epjs_process_req")⟩
      | some process =>
          let docRoot := site.style.genericString site.docRoot.val
          let accesses := [Access.called path docRoot request.target.val]
          match process path docRoot request.target.val with
          | .error exception => ⟨accesses, .error exception⟩
          | .ok output => ⟨accesses, .ok (pageResponse site request output)⟩
    else
      match site.openFile path with
      | .noSuchFile => ⟨[.opened path], .ok (notFound site request)⟩
      | .failed message => ⟨[.opened path], .ok (serverError site request message)⟩
      | .opened contents => ⟨[.opened path], .ok (fileResponse site request contents)⟩

end Handle

/-! ## What is accessed -/

namespace PathStyle

variable (style : PathStyle)

theorem slash_separates : style.isDirectorySeparator '/' = true := by
  cases style <;> rfl

/-- A source that begins with a slash is just appended. -/
theorem append_of_slash {source : List Char} (begins : source.head? = some '/')
    (path : List Char) : style.append path source = path ++ source := by
  simp only [append, begins, style.slash_separates, if_true]

/-- After a slash no separator is added. -/
theorem append_after_slash {path source : List Char} (ends : path.getLast? = some '/')
    (present : source ≠ []) : style.append path source = path ++ source := by
  cases source with
  | nil => exact absurd rfl present
  | cons first rest =>
      simp only [append, List.head?_cons, appendSeparatorIfNeeded, ends, style.slash_separates,
        Bool.true_or, if_true, ite_self]

theorem components_genericString (path : List Char) :
    style.components (style.genericString path) = style.components path := by
  cases style with
  | posix => rfl
  | windows =>
      refine segments_map ?_ ?_ path
      · intro character
        by_cases back : character = '\\'
        · rw [if_pos back, back]
          rfl
        · rw [if_neg back]
      · intro character plain
        have different : character ≠ '\\' := by
          rintro rfl
          cases plain
        exact if_neg different

theorem genericString_append (first second : List Char) :
    style.genericString (first ++ second) =
      style.genericString first ++ style.genericString second := by
  cases style with
  | posix => rfl
  | windows => exact List.map_append

/-- Neither way of writing a path has a NUL that the path has not. -/
theorem terminated_genericString {path : List Char} (terminated : '\x00' ∉ path) :
    '\x00' ∉ style.genericString path := by
  cases style with
  | posix => exact terminated
  | windows =>
      intro member
      rcases List.mem_map.mp member with ⟨character, inside, same⟩
      split at same
      · cases same
      · exact terminated (same ▸ inside)

end PathStyle

theorem cStr_of_terminated {text : List Char} (terminated : '\x00' ∉ text) : cStr text = text := by
  refine List.takeWhile_eq_self_iff.mpr fun character member => decide_eq_true ?_
  rintro rfl
  exact terminated member

/-- A path below the document root: the root itself is its beginning, and no name that follows is
that of the parent directory. -/
def Contained (site : Site) (path : List Char) : Prop :=
  site.style.genericString site.docRoot.val <+: path ∧ Exists fun rest =>
    site.style.components path = site.style.components site.docRoot.val ++ rest ∧
      ['.', '.'] ∉ rest

section Contained

variable {site : Site} {request : PageRequest}

/-- What `handle_request` knows of a target that it does not refuse. -/
theorem legalTarget_iff : illegalTarget request = false <->
    request.target.val.head? = some '/' ∧ ¬ ['.', '.'] <:+: request.target.val := by
  rw [illegalTarget]
  cases head : request.target.val with
  | nil => simp
  | cons first rest => simp

/-- The file or the page, after the document root. -/
def requested (request : PageRequest) : List Char :=
  if request.target.val.getLast? = some '/' then request.target.val ++ "index.html".toList
  else request.target.val

theorem currPath_eq (legal : request.target.val.head? = some '/') :
    currPath site request = site.docRoot.val ++ requested request := by
  rw [currPath, requested, site.style.append_of_slash legal]
  by_cases ends : request.target.val.getLast? = some '/'
  · have last : (site.docRoot.val ++ request.target.val).getLast? = some '/' := by
      rw [List.getLast?_append, ends]
      rfl
    rw [if_pos ends, if_pos ends, site.style.append_after_slash last (by decide +kernel),
      List.append_assoc]
  · rw [if_neg ends, if_neg ends]

theorem requested_head (legal : request.target.val.head? = some '/') :
    (requested request).head? = some '/' := by
  rw [requested]
  split
  · rw [List.head?_append, legal]
    rfl
  · exact legal

/-- The name of the index page. -/
theorem components_index (style : PathStyle) :
    style.components "index.html".toList = ["index.html".toList] := by
  cases style <;> decide +kernel

/-- No name after the root has the two dots. -/
theorem dots_not_requested (undotted : ¬ ['.', '.'] <:+: request.target.val) :
    ['.', '.'] ∉ site.style.components (requested request) := by
  rw [requested]
  split
  · rename_i ends
    rcases List.getLast?_eq_some_iff.mp ends with ⟨front, same⟩
    rw [same, List.append_assoc]
    change _ ∉ segments _ (front ++ '/' :: "index.html".toList)
    rw [segments_append_cons front _ site.style.slash_separates]
    intro member
    rcases List.mem_append.mp member with inside | index
    · refine undotted ((infix_of_mem_segments inside).trans ?_)
      rw [same]
      exact (List.prefix_append front ['/']).isInfix
    · rw [← PathStyle.components, components_index] at index
      have different : ['.', '.'] ≠ "index.html".toList := by decide +kernel
      exact different (List.mem_singleton.mp index)
  · exact fun member => undotted (infix_of_mem_segments member)

theorem terminated_requested (request : PageRequest) : '\x00' ∉ requested request := by
  rw [requested]
  split
  · intro member
    rcases List.mem_append.mp member with target | index
    · exact request.target.property target
    · have absent : '\x00' ∉ "index.html".toList := by decide +kernel
      exact absent index
  · exact request.target.property

theorem currPathStr_eq (legal : request.target.val.head? = some '/') :
    currPathStr site request =
      site.style.genericString (site.docRoot.val ++ requested request) := by
  rw [currPathStr, currPath_eq legal]
  refine cStr_of_terminated (site.style.terminated_genericString fun member => ?_)
  rcases List.mem_append.mp member with root | rest
  · exact site.docRoot.property root
  · exact terminated_requested request rest

theorem contained_currPathStr (legal : illegalTarget request = false) :
    Contained site (currPathStr site request) := by
  rcases legalTarget_iff.mp legal with ⟨begins, undotted⟩
  rw [currPathStr_eq begins]
  constructor
  · rw [PathStyle.genericString_append]
    exact List.prefix_append _ _
  · refine ⟨site.style.components (requested request), ?_, dots_not_requested undotted⟩
    rw [PathStyle.components_genericString]
    exact segments_append (requested_head begins) site.style.slash_separates

/-- Whatever is requested, the request is refused without an access, or the only path that is
accessed is below the document root. -/
theorem served_under_root (site : Site) (request : PageRequest) :
    ((handleRequest site request).accesses = [] ∧ Exists fun response =>
      (handleRequest site request).outcome = .ok response ∧ response.status = .badRequest) ∨
    Exists fun path => Contained site path ∧
      forall access, access ∈ (handleRequest site request).accesses -> access.path = path := by
  rw [handleRequest]
  split
  · exact Or.inl ⟨rfl, _, rfl, rfl⟩
  · cases illegal : illegalTarget request with
    | true =>
        rw [if_pos rfl]
        exact Or.inl ⟨rfl, _, rfl, rfl⟩
    | false =>
        rw [if_neg Bool.false_ne_true]
        refine Or.inr ⟨currPathStr site request, contained_currPathStr illegal, ?_⟩
        dsimp only
        split
        · cases site.epjsProcessReq with
          | none => exact fun access member => nomatch member
          | some process =>
              dsimp only
              split <;> exact fun access member => congrArg Access.path (List.mem_singleton.mp member)
        · split <;> exact fun access member => congrArg Access.path (List.mem_singleton.mp member)

end Contained

/-! ## HEAD -/

def PageRequest.withMethod (request : PageRequest) (method : Method) : PageRequest :=
  { request with method := method }

/-- Nothing is sent after the header. -/
def ResponseBody.IsEmpty : ResponseBody -> Prop
  | .empty => True
  | .text written => written = []
  | .file contents => contents = []

/-- The response to `HEAD` is the one to `GET` without its body. -/
structure HeadOf (head get : PageResponse) : Prop where
  status : head.status = get.status
  contentLength : head.contentLength = get.contentLength
  bodiless : head.body.IsEmpty

def MirrorsGet (site : Site) (request : PageRequest) : Prop :=
  forall head, (handleRequest site (request.withMethod .head)).outcome = .ok head ->
    Exists fun get =>
      (handleRequest site (request.withMethod .get)).outcome = .ok get ∧ HeadOf head get

section Head

variable (site : Site) (request : PageRequest)

def isPage : Bool :=
  site.epjsExtensions.any fun matched => matched (currPathStr site request)

/-- What the callback gives for the request, if there is one. -/
def pageOutput : Except Exception (List Char) :=
  match site.epjsProcessReq with
  | none => .error (.logicError "Missing epjs_process_req")
  | some process =>
      process (currPathStr site request) (site.style.genericString site.docRoot.val)
        request.target.val

/-- The target is legal, and it is a file that can be opened or a page without any text. -/
def ServedWithoutText : Prop :=
  illegalTarget request = false ∧
    if isPage site request then forall output, pageOutput site request = .ok output -> output = []
    else Exists fun contents => site.openFile (currPathStr site request) = .opened contents

end Head

section Head

variable (site : Site) (request : PageRequest)

/-- The path does not depend on the method. -/
theorem currPathStr_withMethod (method : Method) :
    currPathStr site (request.withMethod method) = currPathStr site request :=
  rfl

/-- The three ways in which a request with one of the two methods is answered. -/
theorem outcome_of_illegal (served : request.method = .get ∨ request.method = .head)
    (illegal : illegalTarget request = true) :
    (handleRequest site request).outcome =
      .ok (badRequest site request "Illegal request-target") := by
  rw [handleRequest, if_neg fun refused => served.elim refused.1 refused.2, if_pos illegal]

theorem outcome_of_page (served : request.method = .get ∨ request.method = .head)
    (legal : illegalTarget request = false) (page : isPage site request = true) :
    (handleRequest site request).outcome =
      (pageOutput site request).map (pageResponse site request) := by
  have matched : (site.epjsExtensions.any fun matched =>
      matched (currPathStr site request)) = true := page
  rw [handleRequest, if_neg fun refused => served.elim refused.1 refused.2, legal,
    if_neg Bool.false_ne_true]
  dsimp only
  rw [if_pos matched, pageOutput]
  cases site.epjsProcessReq with
  | none => rfl
  | some process =>
      dsimp only
      cases process (currPathStr site request) (site.style.genericString site.docRoot.val)
        request.target.val <;> rfl

theorem outcome_of_file (served : request.method = .get ∨ request.method = .head)
    (legal : illegalTarget request = false) (file : isPage site request = false) :
    (handleRequest site request).outcome =
      match site.openFile (currPathStr site request) with
      | .noSuchFile => .ok (notFound site request)
      | .failed message => .ok (serverError site request message)
      | .opened contents => .ok (fileResponse site request contents) := by
  have unmatched : ¬ (site.epjsExtensions.any fun matched =>
      matched (currPathStr site request)) = true := fun matched =>
    Bool.noConfusion (file.symm.trans matched)
  rw [handleRequest, if_neg fun refused => served.elim refused.1 refused.2, legal,
    if_neg Bool.false_ne_true]
  dsimp only
  rw [if_neg unmatched]
  cases site.openFile (currPathStr site request) <;> rfl

end Head

section Head

variable {site : Site} {request : PageRequest}

/-- Where both methods get the same response, it must be without text. -/
theorem mirrorsGet_of_same {response : PageResponse}
    (head : (handleRequest site (request.withMethod .head)).outcome = .ok response)
    (get : (handleRequest site (request.withMethod .get)).outcome = .ok response) :
    MirrorsGet site request <-> response.body.IsEmpty := by
  constructor
  · intro mirrors
    rcases mirrors response head with ⟨_, _, same⟩
    exact same.bodiless
  · intro bodiless sent answered
    cases head.symm.trans answered
    exact ⟨response, get, rfl, rfl, bodiless⟩

theorem mirrorsGet_of_thrown {exception : Exception}
    (thrown : (handleRequest site (request.withMethod .head)).outcome = .error exception) :
    MirrorsGet site request := by
  intro response answered
  cases thrown.symm.trans answered

theorem mirrorsGet_of_page (legal : illegalTarget request = false)
    (page : isPage site request = true) :
    MirrorsGet site request <->
      forall output, pageOutput site request = .ok output -> output = [] := by
  have head := outcome_of_page site (request.withMethod .head) (Or.inr rfl) legal page
  have get := outcome_of_page site (request.withMethod .get) (Or.inl rfl) legal page
  change _ = (pageOutput site request).map _ at head get
  cases made : pageOutput site request with
  | error exception =>
      rw [made] at head
      exact iff_of_true (mirrorsGet_of_thrown head) fun output found => by cases found
  | ok output =>
      rw [made] at head get
      rw [mirrorsGet_of_same head get]
      constructor
      · rintro bodiless other ⟨⟩
        exact bodiless
      · exact fun empty => empty output rfl

theorem mirrorsGet_of_file (legal : illegalTarget request = false)
    (file : isPage site request = false) :
    MirrorsGet site request <->
      Exists fun contents => site.openFile (currPathStr site request) = .opened contents := by
  have head := outcome_of_file site (request.withMethod .head) (Or.inr rfl) legal file
  have get := outcome_of_file site (request.withMethod .get) (Or.inl rfl) legal file
  cases found : site.openFile (currPathStr site request) with
  | noSuchFile =>
      rw [currPathStr_withMethod, found] at head get
      rw [mirrorsGet_of_same head get]
      refine iff_of_false (fun bodiless => ?_) ?_
      · exact absurd bodiless (by simp [notFound, errorResponse, ResponseBody.IsEmpty])
      · rintro ⟨contents, ⟨⟩⟩
  | failed message =>
      rw [currPathStr_withMethod, found] at head get
      rw [mirrorsGet_of_same head get]
      refine iff_of_false (fun bodiless => ?_) ?_
      · exact absurd bodiless (by simp [serverError, errorResponse, ResponseBody.IsEmpty])
      · rintro ⟨contents, ⟨⟩⟩
  | opened contents =>
      rw [currPathStr_withMethod, found] at head get
      refine iff_of_true (fun response answered => ?_) ⟨contents, rfl⟩
      cases head.symm.trans answered
      exact ⟨_, get, rfl, rfl, trivial⟩

theorem not_mirrorsGet_of_illegal (illegal : illegalTarget request = true) :
    ¬MirrorsGet site request := by
  have head := outcome_of_illegal site (request.withMethod .head) (Or.inr rfl) illegal
  have get := outcome_of_illegal site (request.withMethod .get) (Or.inl rfl) illegal
  intro mirrors
  have bodiless := (mirrorsGet_of_same head get).mp mirrors
  have written : "Illegal request-target".toList = [] := bodiless
  exact absurd written (by decide +kernel)

end Head

/-- A response to `HEAD` is that to `GET` without its body exactly when there is no text to
send: only the response for a file looks at the method. -/
theorem mirrors_get_iff (site : Site) (request : PageRequest) :
    MirrorsGet site request <-> ServedWithoutText site request := by
  rw [ServedWithoutText]
  cases legal : illegalTarget request with
  | true => exact iff_of_false (not_mirrorsGet_of_illegal legal) fun served => by cases served.1
  | false =>
      cases page : isPage site request with
      | true =>
          rw [mirrorsGet_of_page legal page, if_pos rfl]
          exact ⟨fun empty => ⟨rfl, empty⟩, fun served => served.2⟩
      | false =>
          rw [mirrorsGet_of_file legal page, if_neg Bool.false_ne_true]
          exact ⟨fun opens => ⟨rfl, opens⟩, fun served => served.2⟩

/-- A site without files and pages. -/
def emptySite : Site where
  style := .posix
  serverVersion := "Boost.Beast"
  docRoot := ⟨['/', 'w'], by decide⟩
  epjsExtensions := []
  epjsProcessReq := none
  openFile := fun _ => .noSuchFile

def slashRequest : PageRequest where
  method := .get
  target := ⟨['/'], by decide⟩
  version := 11
  keepAlive := true

/-- The response to `HEAD` says in its body that there is no such file. -/
theorem missing_file_not_mirrored :
    ¬ forall (site : Site) (request : PageRequest), MirrorsGet site request := by
  intro all
  have head : (handleRequest emptySite (slashRequest.withMethod .head)).outcome =
      .ok (notFound emptySite slashRequest) := by decide +kernel
  rcases all emptySite slashRequest _ head with ⟨_, _, same⟩
  have written : "The resource '".toList ++ ['/'] ++ "' was not found.".toList = [] :=
    same.bodiless
  exact absurd written (by decide +kernel)

end StaticFiles

end EasyProspect
