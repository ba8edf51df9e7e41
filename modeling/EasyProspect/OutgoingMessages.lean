import EasyProspect.PendingNotices
import EasyProspect.SoloRequests

namespace EasyProspect

/-!
# The messages that the worker sends

The lounge runs together with the game of its table.  The strand of the table performs posted
work one piece after the other; the strand of the application counts down to a shutdown,
with a number of seconds that its clock can count.  A read gives at most `readMessageMax`
octets.  Which messages the closures of the strands hand out is left open, as before; the
values that they make of them are those of `Blackjack.Table.perform`.
-/

/-- What `run` of a session sets as `read_message_max`. -/
def readMessageMax : Nat := 64 * 1024

/-- The lounge, and the game of its table. -/
structure Casino where
  lounge : Lounge
  game : Blackjack.Game

inductive CasinoLabel
  | session (label : LoungeLabel)
  | shutdown (remain : Int64)
  | table (index : Nat) (context : Blackjack.StrandContext) (sent : List (Nat × String))

/-- A step of a session, or of a strand that goes on. -/
def LoungeLabel.ordinary : LoungeLabel -> Bool
  | .resume _ (.read _ text) => decide (text.length ≤ readMessageMax)
  | .strand _ _ => false
  | .perform _ _ => false
  | _ => true

namespace Casino

open Blackjack (BeastMessages StrandContext)

section Steps

variable (platform : Platform) (messages : BeastMessages) (casino : Casino)

def withLounge (lounge : Lounge) : Casino :=
  { casino with lounge := lounge }

/-- The strand of the table performs a piece of posted work. -/
def perform (index : Nat) (context : StrandContext) (sent : List (Nat × String)) : Option Casino :=
  (casino.lounge.worker.posted[index]?).bind fun work =>
    (casino.lounge.worker.channelAt 3).bind fun channel =>
      match Blackjack.Table.perform messages channel context casino.game work with
      | .error _ => none
      | .ok (game, _) =>
          (casino.lounge.step platform (.perform index sent)).map fun lounge => ⟨lounge, game⟩

def step : CasinoLabel -> Option Casino
  | .session label =>
      if label.ordinary then (casino.lounge.step platform label).map casino.withLounge else none
  | .shutdown remain =>
      (casino.lounge.step platform (.strand 1 (.shutdown remain.toInt))).map casino.withLounge
  | .table index context sent => casino.perform platform messages index context sent

/-- The table has been made with one deck. -/
def Initial : Prop :=
  casino.lounge = .create ∧ Exists fun rand => Blackjack.Game.create rand 1 = .ok casino.game

def system : Transition.System Casino CasinoLabel :=
  .ofStep Initial fun casino => casino.step platform messages

/-- A value that the next step of a session or of a strand hands to `make_message`. -/
inductive Outgoing : Json -> Prop
  /-- The broadcasts of `insert`, of `erase` and of `do_say`. -/
  | announce (session : Nat) (cid : UInt64) (call : RpcCall) (notice : Broadcast.Notice Nat Json)
      (busy : casino.lounge.stage session = .busy cid call (.announce notice)) :
      Outgoing notice.text
  /-- What `erase` sends to the one who leaves. -/
  | told (session : Nat) (cid : UInt64) (call : RpcCall) (broadcast : Nat)
      (notice : Broadcast.Notice Nat Json)
      (busy : casino.lounge.stage session = .busy cid call (.handing broadcast notice []))
      (left : notice.change = some .leave) : Outgoing notice.text
  | result (session : Nat) (call : RpcCall) (response : Json)
      (responding : casino.lounge.stage session = .respond call)
      (completes : call.complete = some response) : Outgoing response
  | error (session : Nat) (completion : WsCompletion) (call : RpcCall) (ec : Option RpcCode)
      (error : RpcError) (response : Json)
      (read : (LoungeLabel.resume session completion).ordinary = true)
      (idle : casino.lounge.stage session = .idle)
      (requested : completion.outcome platform = .requests call ec)
      (thrown : casino.lounge.process platform call session ec = .error (.rpcError error))
      (completes : call.completeError error = some response) : Outgoing response
  /-- The notices of a shutdown. -/
  | strand (cid : UInt64) (notice : Broadcast.Notice Nat Json)
      (busy : casino.lounge.host cid = .announce notice) : Outgoing notice.text
  /-- The updates of the table, and its answers. -/
  | table (context : StrandContext) (work : Posted) (channel : Channel) (game : Blackjack.Game)
      (values : List Json) (jv : Json)
      (posted : work ∈ casino.lounge.worker.posted)
      (registered : casino.lounge.worker.channelAt 3 = some channel)
      (performed : Blackjack.Table.perform messages channel context casino.game work =
        .ok (game, values))
      (value : jv ∈ values) : Outgoing jv

/-- No request says too much in a room. -/
def SaysConcisely : CasinoLabel -> Prop
  | .session label => casino.lounge.SaysConcisely platform label
  | _ => True

end Steps

/-! ## Whole messages -/

variable {platform : Platform} {messages : BeastMessages} {casino next : Casino}

/-- Nobody has a seat, and what is pending is whole. -/
structure Orderly (platform : Platform) (casino : Casino) : Prop where
  lounge : casino.lounge.Orderly platform
  vacant : casino.game.Vacant

theorem orderly_perform (short : forall value, Short (messages value)) {index : Nat}
    {context : StrandContext} {sent : List (Nat × String)} (orderly : casino.Orderly platform)
    (taken : casino.perform platform messages index context sent = some next) :
    next.Orderly platform := by
  rcases Option.bind_eq_some_iff.mp taken with ⟨work, posted, rest⟩
  rcases Option.bind_eq_some_iff.mp rest with ⟨channel, _, performs⟩
  split at performs
  · cases performs
  · rename_i game values performed
    rcases Option.map_eq_some_iff.mp performs with ⟨lounge, stepped, rfl⟩
    have unfilled := orderly.lounge.worker.unfilled work (List.mem_of_getElem? posted)
    have serves : Blackjack.Table.Serves platform
        (Blackjack.Table.perform messages channel context casino.game work) :=
      Blackjack.Table.serves_perform short orderly.vacant unfilled
    exact ⟨Lounge.orderly_perform orderly.lounge stepped, (serves game values performed).1⟩

theorem orderly_step (short : forall value, Short (messages value)) {label : CasinoLabel}
    (orderly : casino.Orderly platform) (concise : casino.SaysConcisely platform label)
    (taken : casino.step platform messages label = some next) : next.Orderly platform := by
  cases label with
  | session label =>
      rcases Option.ite_none_right_eq_some.mp taken with ⟨ordinary, steps⟩
      rcases Option.map_eq_some_iff.mp steps with ⟨lounge, stepped, rfl⟩
      refine ⟨Lounge.orderly_step orderly.lounge concise ?_ stepped, orderly.vacant⟩
      rintro cid work rfl
      cases ordinary
  | shutdown remain =>
      rcases Option.map_eq_some_iff.mp taken with ⟨lounge, stepped, rfl⟩
      have silent : casino.lounge.SaysConcisely platform
          (.strand 1 (.shutdown remain.toInt)) := trivial
      refine ⟨Lounge.orderly_step orderly.lounge silent ?_ stepped, orderly.vacant⟩
      rintro cid work ⟨⟩ channel known
      exact Json.whole_shutdownNotice known remain
  | table index context sent => exact orderly_perform short orderly taken

theorem orderly_reachable (short : forall value, Short (messages value))
    (reachable : ((system platform messages).restrict (SaysConcisely platform)).Reachable casino) :
    casino.Orderly platform := by
  refine reachable.invariant ?_ ?_
  · rintro casino ⟨created, rand, dealt⟩
    exact ⟨created ▸ Lounge.orderly_create, Blackjack.Game.vacant_create dealt⟩
  · rintro casino label next orderly ⟨concise, taken⟩
    exact orderly_step short orderly concise taken

theorem whole_outgoing (short : forall value, Short (messages value))
    (orderly : casino.Orderly platform) {jv : Json}
    (outgoing : Outgoing platform messages casino jv) : Whole platform jv := by
  cases outgoing with
  | announce session cid call notice busy =>
      have pending := orderly.lounge.stages session
      rw [busy] at pending
      exact pending.2 notice rfl
  | told session cid call broadcast notice busy left =>
      have pending := orderly.lounge.stages session
      rw [busy] at pending
      exact pending.2 notice rfl
  | result session call response responding completes =>
      have pending := orderly.lounge.stages session
      rw [responding] at pending
      exact whole_result platform pending completes
  | error session completion call ec error response read idle requested thrown completes =>
      have short := Lounge.short_of_process orderly.lounge
        (Lounge.result_of_requests requested) thrown
      rcases Option.map_eq_some_iff.mp completes with ⟨id, _, rfl⟩
      exact whole_error platform short id
  | strand cid notice busy => exact orderly.lounge.hosts cid notice (by rw [busy]; rfl)
  | table context work channel game values jv posted registered performed value =>
      have unfilled := orderly.lounge.worker.unfilled work posted
      exact (Blackjack.Table.serves_perform short orderly.vacant unfilled game values
        performed).2 jv value

/-- What has been said in a room is the next thing to be sent. -/
theorem concise_of_whole {label : CasinoLabel} (orderly : casino.Orderly platform)
    (taken : casino.step platform messages label = some next)
    (whole : forall jv, Outgoing platform messages next jv -> Whole platform jv) :
    casino.SaysConcisely platform label := by
  cases label with
  | session label =>
      cases label with
      | resume session completion =>
          intro call user channel requested owned addressed room asked named inside text given
          rcases Option.ite_none_right_eq_some.mp taken with ⟨_, steps⟩
          rcases Option.map_eq_some_iff.mp steps with ⟨lounge, stepped, rfl⟩
          rcases id addressed with ⟨_, cid, _, _, registered⟩
          have known := (orderly.lounge.worker.channels cid channel registered).2
          cases Lounge.next_of_dispatch requested owned addressed stepped
            (Lounge.dispatchTo_heard room asked named inside given)
          have busy : (casino.withLounge (casino.lounge.announce call channel session none
              (channel.sayNotice user.name text))).lounge.stage session =
                .busy channel.cid call
                  (.announce ⟨some session, none, channel.sayNotice user.name text⟩) :=
            Lounge.stage_put _ _ _
          exact (Json.whole_sayNotice_iff known room user text).mp
            (whole _ (.announce session channel.cid call _ busy))
      | _ => trivial
  | _ => trivial

/-- As long as nobody says too much in a room, every value arrives whole; and after one more step
every value does exactly if nobody has said too much in that step. -/
theorem outgoing_whole_iff (platform : Platform) (messages : BeastMessages)
    (short : forall value, Short (messages value)) (casino : Casino)
    (reachable : ((system platform messages).restrict
      (SaysConcisely platform)).Reachable casino) :
    (forall jv, Outgoing platform messages casino jv -> Whole platform jv) ∧
      forall label next, casino.step platform messages label = some next ->
        ((forall jv, Outgoing platform messages next jv -> Whole platform jv) <->
          casino.SaysConcisely platform label) := by
  have orderly := orderly_reachable short reachable
  refine ⟨fun jv => whole_outgoing short orderly, fun label next taken => ?_⟩
  refine ⟨concise_of_whole orderly taken, fun concise jv outgoing => ?_⟩
  exact whole_outgoing short (orderly_step short orderly concise taken) outgoing

/-! ## A message that does not fit -/

def joinText : Octets :=
  octetsOf "\x7b\"jsonrpc\":\"2.0\",\"id\":2,\"method\":\"join\",\"params\":\x7b\"cid\":2\x7d\x7d"

def joinMembers : List (String × Json) :=
  [("id", .unsigned 2), ("jsonrpc", .string "2.0"), ("method", .string "join"),
    ("params", .object [("cid", .unsigned 2)])]

/-- As many letters as the buffer has bytes. -/
def loudMessage : String :=
  String.ofList (List.replicate messageBuffer 'a')

def loudText : Octets :=
  octetsOf ("\x7b\"jsonrpc\":\"2.0\",\"id\":3,\"method\":\"say\",\"params\":" ++
      "\x7b\"cid\":2,\"message\":\"") ++
    List.replicate messageBuffer 97 ++ octetsOf "\"\x7d\x7d"

def loudMembers : List (String × Json) :=
  [("id", .unsigned 3), ("jsonrpc", .string "2.0"), ("method", .string "say"),
    ("params", .object [("cid", .unsigned 2), ("message", .string loudMessage)])]

/-- The call that the loud text makes. -/
def loudCall : RpcCall where
  id := some 3
  version := 2
  method := "say"
  params := .object [("cid", .unsigned 2), ("message", .string loudMessage)]
  result := .null

def loudPlatform : Platform :=
  (WebWorker.scriptedPlatform.knowing joinText joinMembers).knowing loudText loudMembers

/-- The category has one message. -/
def timeoutMessages : BeastMessages :=
  fun _ => "The socket was closed due to a timeout"

theorem short_timeoutMessages : forall value, Short (timeoutMessages value) :=
  fun _ => (by decide : Short "The socket was closed due to a timeout")

theorem dealt_taken : (Blackjack.Game.create (fun _ => 0) 1).toOption.isSome = true := by
  decide +kernel

/-- The table before anyone connects. -/
def opened : Casino where
  lounge := .create
  game := (Blackjack.Game.create (fun _ => 0) 1).toOption.get dealt_taken

theorem opened_initial : opened.Initial := by
  refine ⟨rfl, fun _ => 0, ?_⟩
  have dealt := Option.some_get dealt_taken
  cases made : Blackjack.Game.create (fun _ => 0) 1 with
  | error fault =>
      simp only [made] at dealt
      cases dealt
  | ok game =>
      simp only [opened, made]
      rfl

/-- Ann identifies herself and joins the room. -/
def joinedLabels : List CasinoLabel :=
  [.session .connect, .session (.resume 0 (.read none WebWorker.identifyText)),
    .session (.advance 0), .session (.advance 0), .session (.advance 0), .session (.advance 0),
    .session (.resume 0 (.read none joinText)), .session (.advance 0), .session (.advance 0),
    .session (.advance 0), .session (.advance 0)]

/-- What the channel is when Ann has joined it. -/
def general : Channel :=
  ⟨.room, 2, "General", [0]⟩

/-- The session waits for a message, and Ann is in the room. -/
def annWaits (casino : Casino) : Bool :=
  (casino.lounge.stage 0).isIdle && decide (casino.lounge.worker.sessions.length = 1) &&
    decide (casino.lounge.worker.userOf 0 = some ⟨"ann"⟩) &&
      decide (casino.lounge.worker.channelAt 2 = some general)

theorem joined_annWaits :
    (Transition.System.execute (step loudPlatform timeoutMessages) opened joinedLabels).map
      annWaits = some true := by
  decide +kernel

theorem joined_taken :
    (Transition.System.execute (step loudPlatform timeoutMessages) opened
      joinedLabels).isSome = true :=
  Transition.System.taken_of_checked joined_annWaits

def joined : Casino :=
  (Transition.System.execute (step loudPlatform timeoutMessages) opened joinedLabels).get
    joined_taken

theorem joined_run : (system loudPlatform timeoutMessages).Run opened joinedLabels joined :=
  .of_execute (Option.some_get joined_taken).symm

theorem joined_facts : (joined.lounge.stage 0).isIdle = true ∧
    joined.lounge.worker.sessions.length = 1 ∧
      joined.lounge.worker.userOf 0 = some ⟨"ann"⟩ ∧
        joined.lounge.worker.channelAt 2 = some general := by
  have waits : annWaits joined = true :=
    Transition.System.checked_get joined_annWaits joined_taken
  rw [annWaits, Bool.and_eq_true, Bool.and_eq_true, Bool.and_eq_true] at waits
  rcases waits with ⟨⟨⟨idle, one⟩, ann⟩, member⟩
  exact ⟨idle, of_decide_eq_true one, of_decide_eq_true ann, of_decide_eq_true member⟩

/-- The call that `joinText` makes. -/
def joinCall : RpcCall where
  id := some 2
  version := 2
  method := "join"
  params := .object [("cid", .unsigned 2)]
  result := .null

theorem texts_differ : WebWorker.identifyText ≠ loudText ∧ WebWorker.identifyText ≠ joinText ∧
    joinText ≠ loudText := by
  decide +kernel

theorem identify_parsed : loudPlatform.parse WebWorker.identifyText =
    WebWorker.scriptedPlatform.parse WebWorker.identifyText :=
  (Platform.parse_knowing_other _ loudMembers texts_differ.1).trans
    (Platform.parse_knowing_other _ joinMembers texts_differ.2.1)

theorem join_parsed : loudPlatform.parse joinText = .ok (.object joinMembers) :=
  (Platform.parse_knowing_other _ loudMembers texts_differ.2.2).trans
    (Platform.parse_knowing _ joinText joinMembers)

/-- To identify and to join is not to say anything. -/
theorem joined_concise :
    ((system loudPlatform timeoutMessages).restrict (SaysConcisely loudPlatform)).Reachable
      joined := by
  have requests : forall session completion,
      .session (.resume session completion) ∈ joinedLabels -> Exists fun call =>
        completion.outcome loudPlatform = .requests call none ∧
          call.method ≠ "say" ∧ call.method ≠ "slash" := by
    intro session completion among
    simp only [joinedLabels, List.mem_cons, List.not_mem_nil, CasinoLabel.session.injEq,
      LoungeLabel.resume.injEq, reduceCtorEq, false_or, or_false] at among
    rcases among with ⟨_, rfl⟩ | ⟨_, rfl⟩
    · exact ⟨WebWorker.identifyCall, Lounge.outcome_of_parse (identify_parsed.trans WebWorker.parse_identify) rfl,
        by decide, by decide⟩
    · exact ⟨joinCall, Lounge.outcome_of_parse join_parsed rfl, by decide, by decide⟩
  refine ⟨opened, opened_initial, joinedLabels,
    joined_run.restrict_of fun label among casino => ?_⟩
  cases label with
  | session label =>
      cases label with
      | resume session completion =>
          intro call user channel requested _ _ _ asked
          rcases requests session completion among with ⟨other, same, say, slash⟩
          cases same.symm.trans requested
          exact absurd asked (not_or.mpr ⟨say, slash⟩)
      | _ => trivial
  | _ => trivial

theorem joined_whole :
    joined.lounge.worker.membersAt 2 = [0] ∧
      (forall jv, Outgoing loudPlatform timeoutMessages joined jv -> Whole loudPlatform jv) ∧
      forall label next, joined.step loudPlatform timeoutMessages label = some next ->
        ((forall jv, Outgoing loudPlatform timeoutMessages next jv -> Whole loudPlatform jv) <->
          joined.SaysConcisely loudPlatform label) :=
  ⟨WebWorker.membersAt_of_some joined_facts.2.2.2,
    outgoing_whole_iff loudPlatform timeoutMessages short_timeoutMessages joined joined_concise⟩

/-- The broadcast of the loud message is next. -/
def loud : Casino :=
  joined.withLounge
    (joined.lounge.announce loudCall general 0 none (general.sayNotice "ann" loudMessage))

theorem loud_outcome : (WsCompletion.read none loudText).outcome loudPlatform =
    .requests loudCall none := by
  have parsed : loudPlatform.parse loudText = .ok (.object loudMembers) :=
    Platform.parse_knowing _ loudText loudMembers
  exact Lounge.outcome_of_parse parsed rfl

theorem loud_taken : joined.step loudPlatform timeoutMessages
    (.session (.resume 0 (.read none loudText))) = some loud := by
  rcases joined_facts with ⟨idle, one, ann, member⟩
  have ordinary : (LoungeLabel.resume 0 (.read none loudText)).ordinary = true := by
    have size : loudText.length ≤ readMessageMax := by
      rw [loudText, List.length_append, List.length_append, List.length_replicate]
      decide +kernel
    rw [LoungeLabel.ordinary]
    exact decide_eq_true size
  have addressed : joined.lounge.worker.Addresses loudPlatform loudCall general :=
    ⟨.unsigned 2, 2, rfl, rfl, member⟩
  have heard : joined.lounge.dispatchTo loudCall general ⟨"ann"⟩ 0 = .ok loud.lounge :=
    Lounge.dispatchTo_heard rfl (Or.inl rfl) (by decide) List.mem_cons_self rfl
  have resumed := Lounge.resume_of_dispatch (SessionStage.idle_of_isIdle idle)
    (one.symm ▸ Nat.zero_lt_one) loud_outcome ann addressed heard
  rw [step, if_pos ordinary, Lounge.step, resumed]
  rfl

/-- Letters stand for themselves. -/
theorem size_escape_letters (count : Nat) :
    (Json.escape (String.ofList (List.replicate count 'a'))).utf8ByteSize = count := by
  rw [Json.escape, String.toList_ofList, List.map_replicate]
  induction count with
  | zero => rfl
  | succ count inductionHypothesis =>
      have letter : (Json.escapeChar 'a').utf8ByteSize = 1 := by decide
      rw [List.replicate_succ, String.join_cons, String.utf8ByteSize_append, inductionHypothesis,
        letter, Nat.add_comm]

/-- A message of 16384 letters overruns the buffer. -/
theorem loud_not_whole : ¬ forall casino,
    (system loudPlatform timeoutMessages).Reachable casino -> forall jv,
      Outgoing loudPlatform timeoutMessages casino jv -> Whole loudPlatform jv := by
  intro whole
  have reachable : (system loudPlatform timeoutMessages).Reachable loud :=
    joined_concise.of_restrict.extend (.single loud_taken)
  have busy : loud.lounge.stage 0 = .busy 2 loudCall
      (.announce ⟨some 0, none, general.sayNotice "ann" loudMessage⟩) :=
    Lounge.stage_put _ _ _
  have arrives := whole loud reachable _ (.announce 0 2 loudCall _ busy)
  have concise := (Json.whole_sayNotice_iff (by decide) rfl ⟨"ann"⟩ loudMessage).mp arrives
  rw [Concise, loudMessage, size_escape_letters] at concise
  exact absurd ((Nat.le_add_right _ _).trans concise) (by decide)

end Casino

end EasyProspect
