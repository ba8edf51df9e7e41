import EasyProspect.BlackjackTable
import EasyProspect.Identified

namespace EasyProspect

/-!
# Notices that wait to be sent

Between two steps the worker keeps values that it will hand to `make_message` later: the
notices of the sessions and of the strands, and requests that have no result yet.  All of them
fit into the buffer, except for what is said in a room: its text comes from the request,
and escaping can make it longer.  The rest of that notice takes 62 bytes.
-/

/-- What is said and who says it, as they stand in the notice. -/
def Concise (user : User) (text : String) : Prop :=
  (Json.escape text).utf8ByteSize + (Json.escape user.name).utf8ByteSize ≤ 16321

/-! ## Channels -/

/-- One of the channels that the worker starts with. -/
def Channel.Known (channel : Channel) : Prop :=
  (channel.kind, channel.cid, channel.name) ∈
    ([(.system, 1, "System"), (.room, 2, "General"), (.table, 3, "Blackjack")] :
      List (ChannelKind × UInt64 × String))

instance (channel : Channel) : Decidable channel.Known :=
  List.instDecidableMemOfLawfulBEq _ _

theorem Channel.Known.name_size {channel : Channel} (known : channel.Known) :
    channel.name.utf8ByteSize ≤ 9 := by
  rcases channel with ⟨kind, cid, name, sessions⟩
  simp only [Known, List.mem_cons, List.not_mem_nil, Prod.mk.injEq, or_false] at known
  rcases known with ⟨_, _, rfl⟩ | ⟨_, _, rfl⟩ | ⟨_, _, rfl⟩
  · exact (by decide : ("System" : String).utf8ByteSize ≤ 9)
  · exact (by decide : ("General" : String).utf8ByteSize ≤ 9)
  · exact (by decide : ("Blackjack" : String).utf8ByteSize ≤ 9)

theorem Channel.Known.room {channel : Channel} (known : channel.Known)
    (room : channel.kind = .room) : channel.cid = 2 ∧ channel.name = "General" := by
  rcases channel with ⟨kind, cid, name, sessions⟩
  cases room
  simp only [Known, List.mem_cons, List.not_mem_nil, Prod.mk.injEq, or_false, reduceCtorEq,
    false_and, true_and, false_or] at known
  exact known

namespace Json

variable {platform : Platform}

theorem floatless_notice (channel : Channel) (verb user : String) :
    Floatless (channel.notice verb user) :=
  .cons (.unsigned _) (.cons (.string _) (.cons (.string _) (.cons (.string _) floatless_nil)))

/-- A notice of `insert` or of `erase` fits, since names are short. -/
theorem whole_notice {channel : Channel} (known : channel.Known) {verb user : String}
    (act : verb.utf8ByteSize ≤ 5) (short : user.utf8ByteSize ≤ 20) :
    Whole platform (channel.notice verb user) := by
  have number := size_unsignedText channel.cid
  have name := size_quote channel.name
  have named := known.name_size
  have userText := size_quote user
  have verbText := size_quote verb
  have marks : ("\x7b" : String).utf8ByteSize + (quote "cid").utf8ByteSize +
      4 * (":" : String).utf8ByteSize + 3 * ("," : String).utf8ByteSize +
      (quote "name").utf8ByteSize + (quote "user").utf8ByteSize +
      (quote "verb").utf8ByteSize + ("\x7d" : String).utf8ByteSize ≤ 60 := by
    decide
  have within : Within platform 500 (channel.notice verb user) := by
    refine ⟨floatless_notice channel verb user, ?_⟩
    simp only [Channel.notice, dump, dumpMembers, String.utf8ByteSize_append]
    omega
  exact within.whole (by decide)

/-- A notice of `do_say` fits exactly when it is concise. -/
theorem whole_sayNotice_iff {channel : Channel} (known : channel.Known)
    (room : channel.kind = .room) (user : User) (text : String) :
    Whole platform (channel.sayNotice user.name text) <-> Concise user text := by
  have floatless : Floatless (channel.sayNotice user.name text) :=
    .cons (.unsigned _) (.cons (.string _) (.cons (.string _) (.cons (.string _)
      (.cons (.string _) floatless_nil))))
  rcases known.room room with ⟨two, general⟩
  have mark : ("\"" : String).utf8ByteSize = 1 := by decide
  have rest : ("\x7b" : String).utf8ByteSize + (quote "cid").utf8ByteSize +
      5 * (":" : String).utf8ByteSize + (toString (2 : UInt64).toNat).utf8ByteSize +
      4 * ("," : String).utf8ByteSize + (quote "message").utf8ByteSize +
      (quote "name").utf8ByteSize + (quote "General").utf8ByteSize +
      (quote "user").utf8ByteSize + (quote "verb").utf8ByteSize +
      (quote "say").utf8ByteSize + ("\x7d" : String).utf8ByteSize = 58 := by
    decide
  have size : ((channel.sayNotice user.name text).dump platform).utf8ByteSize =
      (escape text).utf8ByteSize + (escape user.name).utf8ByteSize + 62 := by
    have message : (quote text).utf8ByteSize = (escape text).utf8ByteSize + 2 := by
      rw [quote, String.utf8ByteSize_append, String.utf8ByteSize_append, mark]
      omega
    have sender : (quote user.name).utf8ByteSize = (escape user.name).utf8ByteSize + 2 := by
      rw [quote, String.utf8ByteSize_append, String.utf8ByteSize_append, mark]
      omega
    simp only [Channel.sayNotice, two, general, dump, dumpMembers, String.utf8ByteSize_append]
    omega
  rw [whole_iff_fits floatless, Fits, size, messageBuffer, Concise]
  omega

/-- The notice of a shutdown, with a number of seconds that the clock can count. -/
theorem whole_shutdownNotice {channel : Channel} (known : channel.Known) (remain : Int64) :
    Whole platform (ShutdownTimer.shutdownNotice channel remain.toInt) := by
  have number := size_unsignedText channel.cid
  have name := size_quote channel.name
  have named := known.name_size
  have seconds := size_integerText remain
  have told := size_quote ("Server is shutting down in " ++ toString remain.toInt ++ " seconds")
  have around : ("Server is shutting down in " : String).utf8ByteSize +
      (" seconds" : String).utf8ByteSize ≤ 40 := by
    decide
  have marks : ("\x7b" : String).utf8ByteSize + (quote "cid").utf8ByteSize +
      4 * (":" : String).utf8ByteSize + 3 * ("," : String).utf8ByteSize +
      (quote "message").utf8ByteSize + (quote "name").utf8ByteSize +
      (quote "verb").utf8ByteSize + (quote "say").utf8ByteSize +
      ("\x7d" : String).utf8ByteSize ≤ 60 := by
    decide
  have within : Within platform 2000
      (ShutdownTimer.shutdownNotice channel remain.toInt) := by
    refine ⟨.cons (.unsigned _) (.cons (.string _) (.cons (.string _) (.cons (.string _)
      floatless_nil))), ?_⟩
    simp only [String.utf8ByteSize_append] at told
    simp only [ShutdownTimer.shutdownNotice, dump, dumpMembers, String.utf8ByteSize_append]
    omega
  exact within.whole (by decide)

end Json

/-! ## The worker -/

namespace WebWorker

/-- Names are short, no posted request has a result, and the channels are those of the start. -/
structure Orderly (worker : WebWorker) : Prop where
  names : forall session user, worker.userOf session = some user -> user.name.utf8ByteSize ≤ 20
  unfilled : forall work, work ∈ worker.posted -> Blackjack.Table.Unfilled work
  channels : forall cid channel, worker.channelAt cid = some channel ->
    channel.cid = cid ∧ channel.Known

variable {platform : Platform} {worker after : WebWorker} {session : Nat}

/-- Only messages have been handed out. -/
theorem Orderly.same (orderly : worker.Orderly) (keeps : worker.Keeps after)
    (posted : after.posted = worker.posted) : after.Orderly where
  names := fun session user owned =>
    orderly.names session user ((keeps.userOf session).symm.trans owned)
  unfilled := fun work member => orderly.unfilled work (posted ▸ member)
  channels := fun cid channel found => orderly.channels cid channel <| by
    rw [channelAt, ← keeps.channels]
    exact found

theorem posted_sendMessage {message : String}
    (taken : worker.sendMessage session message = .ok after) : after.posted = worker.posted := by
  rw [sendMessage] at taken
  split at taken
  · cases taken
  · split at taken
    · cases taken
      split <;> rfl
    · cases taken

theorem posted_sendJson {jv : Json} (taken : worker.sendJson platform session jv = .ok after) :
    after.posted = worker.posted := by
  rw [sendJson] at taken
  split at taken
  · cases taken
  · split at taken
    · rcases Results.ok_of_bind taken with ⟨message, _, handed⟩
      cases handed
      rfl
    · cases taken
      rfl

theorem posted_complete {response : Option Json}
    (taken : worker.complete platform response session = .ok after) :
    after.posted = worker.posted := by
  cases response with
  | none =>
      cases taken
      rfl
  | some response => exact posted_sendJson taken

theorem posted_respond {response : Option Json}
    (taken : worker.respond platform session response = .ok after) :
    after.posted = worker.posted := by
  cases response with
  | none =>
      cases taken
      rfl
  | some response =>
      rcases Results.ok_of_bind taken with ⟨message, _, handed⟩
      cases handed
      rfl

theorem Orderly.post (orderly : worker.Orderly) {work : Posted}
    (unfilled : Blackjack.Table.Unfilled work) : (worker.post work).Orderly where
  names := orderly.names
  unfilled := fun other member => by
    rcases List.mem_append.mp member with before | last
    · exact orderly.unfilled other before
    · exact List.mem_singleton.mp last ▸ unfilled
  channels := orderly.channels

theorem Orderly.onInsert (orderly : worker.Orderly) (kind : ChannelKind) (session : Nat) :
    (worker.onInsert kind session).Orderly := by
  cases kind with
  | table => exact orderly.post trivial
  | _ => exact orderly

theorem Orderly.onErase (orderly : worker.Orderly) (kind : ChannelKind) (session : Nat) :
    (worker.onErase kind session).Orderly := by
  cases kind with
  | table => exact orderly.post trivial
  | _ => exact orderly

theorem Orderly.setMembers (orderly : worker.Orderly) {channel : Channel}
    (found : worker.channelAt channel.cid = some channel) (members : List Nat) :
    (worker.setMembers channel members).Orderly where
  names := orderly.names
  unfilled := orderly.unfilled
  channels := fun cid other registered => by
    by_cases here : cid = channel.cid
    · subst here
      rw [channelAt_setMembers found] at registered
      cases registered
      exact orderly.channels channel.cid channel found
    · rw [channelAt_setMembers_other here] at registered
      exact orderly.channels cid other registered

theorem Orderly.setUser (orderly : worker.Orderly) {user named : User}
    (owned : worker.userOf session = some user) (short : named.name.utf8ByteSize ≤ 20) :
    (worker.setUser session named).Orderly where
  names := fun other found own => by
    by_cases same : other = session
    · subst same
      rw [userOf_setUser owned] at own
      cases own
      exact short
    · exact orderly.names other found ((userOf_modify_other same).symm.trans own)
  unfilled := orderly.unfilled
  channels := orderly.channels

theorem posted_postPlay (worker : WebWorker) (call : RpcCall) (user : User) (session : Nat) :
    forall work, work ∈ (worker.postPlay call user session).posted -> work ∈ worker.posted ∨
      Exists fun wrapper => work = .play call.method call user wrapper := by
  intro work member
  rw [postPlay] at member
  split at member
  · exact Or.inl member
  · rcases List.mem_append.mp member with before | last
    · exact Or.inl before
    · exact Or.inr ⟨_, List.mem_singleton.mp last⟩

theorem Orderly.postPlay (orderly : worker.Orderly) {call : RpcCall} {user : User}
    (owned : worker.userOf session = some user) (empty : call.result = .null) :
    (worker.postPlay call user session).Orderly where
  names := fun other found own => by
    by_cases same : other = session
    · subst same
      cases (userOf_postPlay owned call).symm.trans own
    · refine orderly.names other found ?_
      rw [WebWorker.postPlay] at own
      split at own
      · exact own
      · exact (userOf_modify_other same).symm.trans own
  unfilled := fun work member => by
    rcases posted_postPlay worker call user session work member with before | ⟨wrapper, rfl⟩
    · exact orderly.unfilled work before
    · exact empty
  channels := fun cid channel found => orderly.channels cid channel <| by
    rw [channelAt, ← Lounge.postPlay_channels worker call user session]
    exact found

theorem Orderly.connect (orderly : worker.Orderly) : worker.connect.Orderly where
  names := fun session user owned => by
    rcases Option.bind_eq_some_iff.mp owned with ⟨wrapper, found, own⟩
    rcases Cells.getElem?_append_cases found with before | ⟨_, fresh⟩
    · exact orderly.names session user (Option.bind_eq_some_iff.mpr ⟨wrapper, before, own⟩)
    · rw [List.mem_singleton.mp fresh] at own
      cases own
      exact Nat.zero_le _
  unfilled := orderly.unfilled
  channels := orderly.channels

theorem orderly_create : create.Orderly where
  names := fun session user owned => by
    cases owned
  unfilled := fun work none => absurd none List.not_mem_nil
  channels := fun cid channel found => by
    refine ⟨UInt64.toNat_inj.mp (Lounge.channelAt_create found).1, ?_⟩
    have slot := Option.join_eq_some_iff.mp found
    have listed := List.mem_of_getElem? slot
    simp only [create, List.mem_cons, List.not_mem_nil, Option.some.injEq, reduceCtorEq,
      or_false, false_or] at listed
    rcases listed with rfl | rfl | rfl
    · decide
    · decide
    · decide

end WebWorker

/-! ## What is pending -/

/-- The request has no result yet, and its notice arrives whole. -/
def SessionStage.Orderly (platform : Platform) : SessionStage -> Prop
  | .busy _ call phase => call.result = .null ∧
      forall notice, phase.notice = some notice -> Whole platform notice.text
  | .respond call => call.result = .null
  | _ => True

/-- What a request to a room says is concise.  It is said by a member with a name. -/
def SpeaksConcisely (call : RpcCall) (channel : Channel) (user : User) (session : Nat) : Prop :=
  channel.kind = .room -> (call.method = "say" ∨ call.method = "slash") -> user.name ≠ "" ->
    session ∈ channel.sessions -> forall text,
      checkedStringAt call.params "message" = .ok text -> Concise user text

namespace Lounge

/-- No request says too much in a room. -/
def SaysConcisely (platform : Platform) (lounge : Lounge) : LoungeLabel -> Prop
  | .resume session completion =>
      forall call user channel, completion.outcome platform = .requests call none ->
        lounge.worker.userOf session = some user ->
          lounge.worker.Addresses platform call channel ->
            SpeaksConcisely call channel user session
  | _ => True

/-- Every notice that is pending arrives whole. -/
structure Orderly (platform : Platform) (lounge : Lounge) : Prop where
  worker : lounge.worker.Orderly
  stages : forall session, (lounge.stage session).Orderly platform
  hosts : forall cid notice, (lounge.host cid).notice = some notice -> Whole platform notice.text

variable {platform : Platform} {lounge next : Lounge}

theorem Orderly.withWorker (orderly : lounge.Orderly platform) {worker : WebWorker}
    (kept : worker.Orderly) : (lounge.withWorker worker).Orderly platform :=
  ⟨kept, orderly.stages, orderly.hosts⟩

theorem Orderly.put (orderly : lounge.Orderly platform) {stage : SessionStage}
    (own : stage.Orderly platform) (session : Nat) :
    (lounge.put session stage).Orderly platform where
  worker := orderly.worker
  stages := fun other => by
    change (Function.update lounge.stage session stage other).Orderly platform
    by_cases same : other = session
    · rw [same, Function.update_self]
      exact own
    · rw [Function.update_of_ne same]
      exact orderly.stages other
  hosts := orderly.hosts

theorem Orderly.putHost (orderly : lounge.Orderly platform) {phase : Broadcast.Phase Nat Json}
    (own : forall notice, phase.notice = some notice -> Whole platform notice.text)
    (cid : UInt64) : (lounge.putHost cid phase).Orderly platform where
  worker := orderly.worker
  stages := orderly.stages
  hosts := fun other => by
    change forall notice, (Function.update lounge.host cid phase other).notice = some notice -> _
    by_cases same : other = cid
    · rw [same, Function.update_self]
      exact own
    · rw [Function.update_of_ne same]
      exact orderly.hosts other

theorem Orderly.record (orderly : lounge.Orderly platform) (cid : UInt64)
    (event : Broadcast.Event Nat Json) : (lounge.record cid event).Orderly platform :=
  ⟨orderly.worker, orderly.stages, orderly.hosts⟩

/-! ## Handlers -/

/-- A handler either leaves what is pending orderly, or throws an error with a short text. -/
def Ends (platform : Platform) : Except Fault Lounge -> Prop
  | .ok next => next.Orderly platform
  | .error (.rpcError error) => Short error.msg
  | .error _ => True

theorem ends_failCode (code : RpcCode) : Ends platform (failCode code) :=
  short_message code

/-- A computation before the handler throws nothing but short errors. -/
theorem ends_bind {Value : Type} {result : Except Fault Value}
    {continuation : Value -> Except Fault Lounge} (brief : WebWorker.Brief result)
    (later : forall value, result = .ok value -> Ends platform (continuation value)) :
    Ends platform (result >>= continuation) := by
  cases result with
  | ok value => exact later value rfl
  | error fault =>
      cases fault with
      | rpcError error => exact brief error rfl
      | _ => trivial

section Handlers

variable {call : RpcCall} {channel : Channel} {user : User} {session : Nat}

theorem Orderly.announce (orderly : lounge.Orderly platform) (empty : call.result = .null)
    {jv : Json} (whole : Whole platform jv) (channel : Channel) (session : Nat)
    (change : Option Broadcast.Change) :
    (lounge.announce call channel session change jv).Orderly platform := by
  have own : SessionStage.Orderly platform
      (.busy channel.cid call (.announce ⟨some session, change, jv⟩)) := by
    refine ⟨empty, ?_⟩
    rintro notice ⟨⟩
    exact whole
  exact orderly.put own session

theorem Orderly.respond (orderly : lounge.Orderly platform) (empty : call.result = .null)
    (session : Nat) : (lounge.put session (.respond call)).Orderly platform := by
  have own : SessionStage.Orderly platform (.respond call) := empty
  exact orderly.put own session

theorem Orderly.enter (orderly : lounge.Orderly platform) (empty : call.result = .null)
    (found : lounge.worker.channelAt channel.cid = some channel)
    (short : user.name.utf8ByteSize ≤ 20) (session : Nat) :
    (lounge.enter call channel user session).Orderly platform := by
  have known := (orderly.worker.channels channel.cid channel found).2
  have inserted := orderly.withWorker
    (orderly.worker.setMembers found (channel.sessions ++ [session]))
  have whole : Whole platform (channel.notice "join" user.name) :=
    Json.whole_notice known (by decide) short
  exact (inserted.announce empty whole channel session (some .join)).record _ _

theorem Orderly.exit (orderly : lounge.Orderly platform) (empty : call.result = .null)
    (found : lounge.worker.channelAt channel.cid = some channel)
    (short : user.name.utf8ByteSize ≤ 20) (session : Nat) :
    (lounge.exit call channel user session).Orderly platform := by
  have known := (orderly.worker.channels channel.cid channel found).2
  have erased := orderly.withWorker
    (orderly.worker.setMembers found (channel.sessions.erase session))
  have whole : Whole platform (channel.notice "leave" user.name) :=
    Json.whole_notice known (by decide) short
  exact (erased.announce empty whole channel session (some .leave)).record _ _

theorem ends_doJoin (orderly : lounge.Orderly platform) (empty : call.result = .null)
    (found : lounge.worker.channelAt channel.cid = some channel)
    (short : user.name.utf8ByteSize ≤ 20) :
    Ends platform (lounge.doJoin call channel user session) := by
  refine ends_bind WebWorker.brief_checkedUser fun _ _ => ?_
  split
  · exact (by decide : Short "Already in channel")
  · exact orderly.enter empty found short session

theorem ends_doLeave (orderly : lounge.Orderly platform) (empty : call.result = .null)
    (found : lounge.worker.channelAt channel.cid = some channel)
    (short : user.name.utf8ByteSize ≤ 20) :
    Ends platform (lounge.doLeave call channel user session) := by
  rw [doLeave]
  split
  · exact (by decide : Short "Not in channel")
  · exact orderly.exit empty found short session

theorem ends_doSay (orderly : lounge.Orderly platform) (empty : call.result = .null)
    (found : lounge.worker.channelAt channel.cid = some channel) (room : channel.kind = .room)
    (asked : call.method = "say" ∨ call.method = "slash")
    (concise : SpeaksConcisely call channel user session) :
    Ends platform (lounge.doSay call channel user session) := by
  have known := (orderly.worker.channels channel.cid channel found).2
  have text : WebWorker.Brief (checkedStringAt call.params "message") :=
    WebWorker.brief_of_handled (WebWorker.handled_checkedStringAt (by decide) call.params)
  refine ends_bind WebWorker.brief_checkedUser fun _ checked => ?_
  cases joined : WebWorker.isJoined channel session with
  | false => exact (by decide : Short "not in channel")
  | true =>
      refine ends_bind text fun said given => ?_
      have within := concise room asked (named_of_checked checked)
        (WebWorker.isJoined_iff.mp joined) said given
      exact orderly.announce empty ((Json.whole_sayNotice_iff known room user said).mpr within)
        channel session none

theorem ends_doIdentify (orderly : lounge.Orderly platform) (empty : call.result = .null)
    (found : lounge.worker.channelAt channel.cid = some channel)
    (owned : lounge.worker.userOf session = some user) :
    Ends platform (lounge.doIdentify call channel user session) := by
  have text : WebWorker.Brief (checkedStringAt call.params "name") :=
    WebWorker.brief_of_handled (WebWorker.handled_checkedStringAt (by decide) call.params)
  refine ends_bind text fun name _ => ?_
  split
  · exact (by decide : Short "Invalid \"name\": too long")
  · rename_i long
    have short : (User.mk name).name.utf8ByteSize ≤ 20 := Nat.le_of_not_lt long
    split
    · exact (by decide : Short "Identity is already set")
    · have named := orderly.withWorker (orderly.worker.setUser owned short)
      split
      · exact named.respond empty session
      · exact named.enter empty found short session

theorem Orderly.doPost (orderly : lounge.Orderly platform) (empty : call.result = .null)
    (work : Posted) (unfilled : Blackjack.Table.Unfilled work) :
    (lounge.doPost call session work).Orderly platform :=
  (orderly.withWorker (orderly.worker.post unfilled)).respond empty session

theorem ends_onDispatch (orderly : lounge.Orderly platform) (empty : call.result = .null)
    (found : lounge.worker.channelAt channel.cid = some channel)
    (owned : lounge.worker.userOf session = some user)
    (concise : SpeaksConcisely call channel user session) :
    Ends platform (lounge.onDispatch call channel user session) := by
  rw [onDispatch]
  cases kind : channel.kind with
  | room =>
      simp only
      split
      · rename_i say
        exact ends_doSay orderly empty found kind (Or.inl say) concise
      · split
        · rename_i slash
          exact ends_doSay orderly empty found kind (Or.inr slash) concise
        · exact ends_failCode _
  | system =>
      simp only
      split
      · exact ends_doIdentify orderly empty found owned
      · split
        · exact orderly.doPost empty (.shutdown 30) trivial
        · split
          · exact orderly.doPost empty .stop trivial
          · exact ends_failCode _
  | table =>
      simp only
      split
      · exact orderly.withWorker (orderly.worker.postPlay owned empty)
      · exact ends_failCode _

theorem ends_dispatchTo (orderly : lounge.Orderly platform) (empty : call.result = .null)
    (found : lounge.worker.channelAt channel.cid = some channel)
    (owned : lounge.worker.userOf session = some user)
    (concise : SpeaksConcisely call channel user session) :
    Ends platform (lounge.dispatchTo call channel user session) := by
  have short := orderly.worker.names session user owned
  rw [dispatchTo]
  split
  · exact ends_doJoin orderly empty found short
  · split
    · exact ends_doLeave orderly empty found short
    · exact ends_onDispatch orderly empty found owned concise

/-- A member with a name is heard in a room. -/
theorem dispatchTo_heard {text : String} (room : channel.kind = .room)
    (asked : call.method = "say" ∨ call.method = "slash") (named : user.name ≠ "")
    (inside : session ∈ channel.sessions)
    (given : checkedStringAt call.params "message" = .ok text) :
    lounge.dispatchTo call channel user session =
      .ok (lounge.announce call channel session none (channel.sayNotice user.name text)) := by
  have heard : lounge.doSay call channel user session =
      .ok (lounge.announce call channel session none (channel.sayNotice user.name text)) := by
    rw [doSay, WebWorker.checkedUser, if_neg named, WebWorker.isJoined_iff.mpr inside, given]
    rfl
  have join : call.method ≠ "join" := by
    rcases asked with say | slash
    · exact fun same => absurd (say.symm.trans same) (by decide)
    · exact fun same => absurd (slash.symm.trans same) (by decide)
  have leave : call.method ≠ "leave" := by
    rcases asked with say | slash
    · exact fun same => absurd (say.symm.trans same) (by decide)
    · exact fun same => absurd (slash.symm.trans same) (by decide)
  rw [dispatchTo, if_neg join, if_neg leave, onDispatch, room]
  simp only
  split
  · exact heard
  · rename_i other
    rw [if_pos (asked.resolve_left other), heard]

end Handlers

/-! ## Requests -/

section Requests

variable {call : RpcCall} {session : Nat} {ec : Option RpcCode}

theorem ends_process (orderly : lounge.Orderly platform) (empty : call.result = .null)
    (concise : ec = none -> forall user channel, lounge.worker.userOf session = some user ->
      lounge.worker.Addresses platform call channel ->
        SpeaksConcisely call channel user session) :
    Ends platform (lounge.process platform call session ec) := by
  cases ec with
  | some code => exact short_message code
  | none =>
      have cid : WebWorker.Brief (checkedValue call.params "cid") :=
        WebWorker.brief_of_handled (WebWorker.handled_checkedValue (by decide) call.params)
      rw [process]
      cases owned : lounge.worker.userOf session with
      | none => trivial
      | some user =>
          refine ends_bind cid fun value given => ?_
          cases converted : value.getSize platform with
          | error exception => trivial
          | ok number =>
              cases found : lounge.worker.channelAt number with
              | none =>
                  simp only [found]
                  exact (by decide : Short "Unknown cid")
              | some channel =>
                  simp only [found]
                  have same := (orderly.worker.channels number channel found).1
                  exact ends_dispatchTo orderly empty (same.symm ▸ found) owned
                    (concise rfl user channel owned ⟨value, number, given, converted, found⟩)

/-- An error has a short text, whatever the request says. -/
theorem short_of_process {error : RpcError} (orderly : lounge.Orderly platform)
    (empty : call.result = .null)
    (thrown : lounge.process platform call session ec = .error (.rpcError error)) :
    Short error.msg := by
  have ends : Ends platform (lounge.process platform call session ec) := by
    refine ends_process orderly empty ?_
    rintro rfl user channel owned addressed room asked named inside text given
    have heard : lounge.dispatchTo call channel user session = _ :=
      dispatchTo_heard room asked named inside given
    rw [← process_of_addresses owned addressed, thrown] at heard
    cases heard
  rw [thrown] at ends
  exact ends

/-- `extract` leaves the result of a request null. -/
theorem result_of_extract {jv : Json}
    (taken : RpcCall.create.extract platform jv = .ok (call, ec)) : call.result = .null := by
  cases jv with
  | object members =>
      cases given : (Json.member members "id").getInt platform with
      | error exception =>
          simp only [RpcCall.extract, Json.subscript_value, given] at taken
          cases taken
      | ok id => exact (RpcCall.extracted_object given taken).result
  | _ =>
      cases taken
      rfl

theorem result_of_requests {completion : WsCompletion}
    (requested : completion.outcome platform = .requests call ec) : call.result = .null := by
  cases completion with
  | accepted failed =>
      rw [WsCompletion.outcome] at requested
      split at requested
      · cases requested
      · cases requested
  | read failed text =>
      rw [WsCompletion.outcome] at requested
      split at requested
      · cases requested
      · split at requested
        · cases requested
        · cases requested
        · split at requested
          · cases requested
          · rename_i extracts
            cases requested
            exact result_of_extract extracts

theorem orderly_resume {completion : WsCompletion} (orderly : lounge.Orderly platform)
    (concise : SaysConcisely platform lounge (.resume session completion))
    (taken : lounge.resume platform session completion = some next) : next.Orderly platform := by
  rw [resume] at taken
  split at taken
  · rcases Option.ite_none_right_eq_some.mp taken with ⟨_, reads⟩
    split at reads
    · cases reads
      have ended : SessionStage.Orderly platform .ended := trivial
      have put := orderly.put ended session
      exact ⟨put.worker, put.stages, put.hosts⟩
    · cases reads
      exact orderly
    · cases reads
    · rename_i call ec requested
      have empty := result_of_requests requested
      have ends : Ends platform (lounge.process platform call session ec) :=
        ends_process orderly empty fun none user channel =>
          concise call user channel (none ▸ requested)
      unfold answer at reads
      split at reads
      · rename_i handled
        cases reads
        rw [handled] at ends
        exact ends
      · rcases ok_of_toOption reads with ⟨worker, responded, rfl⟩
        exact orderly.withWorker (orderly.worker.same (WebWorker.keeps_respond responded)
          (WebWorker.posted_respond responded))
      · cases reads
  · cases taken

end Requests

/-! ## Steps -/

theorem posted_spread {cid : UInt64} {phase after : Broadcast.Phase Nat Json}
    {worker : WebWorker} {event : Broadcast.Event Nat Json}
    (taken : lounge.spread platform cid phase = some (worker, after, event)) :
    worker.posted = lounge.worker.posted := by
  cases phase with
  | announce notice =>
      rcases Option.ite_none_right_eq_some.mp taken with ⟨_, copied⟩
      cases copied
      rfl
  | handing broadcast notice remaining =>
      cases remaining with
      | nil => cases taken
      | cons receiver rest =>
          rcases ok_of_toOption taken with ⟨found, sent, handed⟩
          cases handed
          exact WebWorker.posted_sendMessage sent
  | _ => cases taken

theorem Orderly.spread (orderly : lounge.Orderly platform) {cid : UInt64}
    {phase after : Broadcast.Phase Nat Json} {worker : WebWorker}
    {event : Broadcast.Event Nat Json}
    (taken : lounge.spread platform cid phase = some (worker, after, event)) :
    worker.Orderly ∧ after.notice = phase.notice :=
  ⟨orderly.worker.same (spreads_of_spread taken).keeps (posted_spread taken),
    (spreads_of_spread taken).notice⟩

theorem orderly_close {session : Nat} {cid : UInt64} {call : RpcCall} {broadcast : Nat}
    {notice : Broadcast.Notice Nat Json} (orderly : lounge.Orderly platform)
    (empty : call.result = .null)
    (taken : lounge.close platform session cid call broadcast notice = some next) :
    next.Orderly platform := by
  have closed := orderly.respond empty session
  rcases Option.bind_eq_some_iff.mp taken with ⟨channel, _, closes⟩
  split at closes
  · cases closes
    exact closed
  · cases closes
    exact closed.withWorker (orderly.worker.onInsert channel.kind session)
  · rcases ok_of_toOption closes with ⟨worker, sent, rfl⟩
    have told := orderly.worker.same (WebWorker.keeps_sendJson sent)
      (WebWorker.posted_sendJson sent)
    exact (closed.withWorker (told.onErase channel.kind session)).record _ _

theorem orderly_advance {session : Nat} (orderly : lounge.Orderly platform)
    (taken : lounge.advance platform session = some next) : next.Orderly platform := by
  have pending := orderly.stages session
  rw [advance] at taken
  split at taken
  · rename_i busy
    rw [busy] at pending
    exact orderly_close orderly pending.1 taken
  · rename_i cid call phase _ busy
    rw [busy] at pending
    rcases Option.map_eq_some_iff.mp taken with ⟨⟨worker, after, event⟩, spreads, rfl⟩
    rcases orderly.spread spreads with ⟨kept, same⟩
    have own : SessionStage.Orderly platform (.busy cid call after) :=
      ⟨pending.1, fun notice announced => pending.2 notice (same ▸ announced)⟩
    exact ((orderly.withWorker kept).put own session).record cid event
  · rcases ok_of_toOption taken with ⟨worker, completed, rfl⟩
    have kept := orderly.worker.same (WebWorker.keeps_complete completed)
      (WebWorker.posted_complete completed)
    have own : SessionStage.Orderly platform .idle := trivial
    exact (orderly.withWorker kept).put own session
  · cases taken

theorem orderly_begin {cid : UInt64} {work : StrandWork} (orderly : lounge.Orderly platform)
    (whole : forall channel, channel.Known -> Whole platform (work.notice channel))
    (taken : lounge.begin cid work = some next) : next.Orderly platform := by
  rcases Option.bind_eq_some_iff.mp taken with ⟨channel, registered, begins⟩
  split at begins
  · rcases Option.ite_none_right_eq_some.mp begins with ⟨_, begun⟩
    cases begun
    refine orderly.putHost ?_ cid
    rintro notice ⟨⟩
    exact whole channel (orderly.worker.channels cid channel registered).2
  · cases begins

theorem orderly_advanceHost {cid : UInt64} (orderly : lounge.Orderly platform)
    (taken : lounge.advanceHost platform cid = some next) : next.Orderly platform := by
  rw [advanceHost] at taken
  split at taken
  · cases taken
    refine orderly.putHost ?_ cid
    rintro notice ⟨⟩
  · rcases Option.map_eq_some_iff.mp taken with ⟨⟨worker, after, event⟩, spreads, rfl⟩
    rcases orderly.spread spreads with ⟨kept, same⟩
    exact ((orderly.withWorker kept).putHost
      (fun notice announced => orderly.hosts cid notice (same ▸ announced)) cid).record cid event

theorem orderly_perform {index : Nat} {messages : List (Nat × String)}
    (orderly : lounge.Orderly platform)
    (taken : lounge.step platform (.perform index messages) = some next) :
    next.Orderly platform := by
  rcases Option.map_eq_some_iff.mp taken with ⟨worker, performed, rfl⟩
  rcases Option.ite_none_right_eq_some.mp performed with ⟨_, handed⟩
  cases handed
  refine orderly.withWorker ⟨orderly.worker.names, fun work member => ?_, orderly.worker.channels⟩
  exact orderly.worker.unfilled work (List.mem_of_mem_eraseIdx member)

/-- What is pending stays orderly, as long as what a strand begins to send is whole and no
request says too much. -/
theorem orderly_step {label : LoungeLabel} (orderly : lounge.Orderly platform)
    (concise : SaysConcisely platform lounge label)
    (whole : forall cid work, label = .strand cid work ->
      forall channel : Channel, channel.Known -> Whole platform (work.notice channel))
    (taken : lounge.step platform label = some next) : next.Orderly platform := by
  cases label with
  | connect =>
      cases taken
      exact orderly.withWorker orderly.worker.connect
  | resume session completion => exact orderly_resume orderly concise taken
  | advance session => exact orderly_advance orderly taken
  | strand cid work => exact orderly_begin orderly (whole cid work rfl) taken
  | advanceStrand cid => exact orderly_advanceHost orderly taken
  | perform index messages => exact orderly_perform orderly taken

theorem orderly_create : create.Orderly platform where
  worker := WebWorker.orderly_create
  stages := fun _ => trivial
  hosts := fun cid notice announced => by
    cases announced

end Lounge

end EasyProspect
