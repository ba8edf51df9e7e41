import EasyProspect.BlackjackTable
import EasyProspect.Shoe

namespace EasyProspect

/-!
# The hands at the table

Each `start` deals one card, to one seat after the other, and no other closure of the table
changes a hand.  Nothing ever clears the hands, so that they are all full after 132 cards, and
the next one makes `push_back` throw.
-/

namespace Blackjack

namespace Game

/-- Each hand has its share of the cards that have been dealt. -/
structure Shared (decks count : Nat) (game : Game) : Prop where
  positive : 1 ≤ decks
  six : game.seats.length = 6
  turn : game.turn = count % 6
  few : count ≤ 132
  shoe : Exists fun cards => game.shoe.Holding decks cards
  seats : forall i seat, game.seats[i]? = some seat -> seat.user = none ∧
    (seat.state = .dealer ∨ seat.state = .openSeat) ∧
      Exists fun hand => seat.hands = [hand] ∧ hand.cards.length = (count + 5 - i) / 6

variable {game next : Game} {decks count : Nat} {rand : Nat -> Nat}

theorem Shared.vacant (shared : game.Shared decks count) : game.Vacant := by
  refine ⟨shared.six, fun seat member => ?_⟩
  rcases List.mem_iff_getElem?.mp member with ⟨i, listed⟩
  rcases shared.seats i seat listed with ⟨user, state, hand, alone, length⟩
  have few := shared.few
  refine ⟨user, state, hand, alone, ?_⟩
  rw [length, Hand.capacity]
  omega

theorem shared_create {decks : Int32} (created : create rand decks = .ok game) :
    game.Shared decks.toInt.toNat 0 := by
  have seats := seats_create created
  rcases Results.ok_of_bind created with ⟨shoe, made, after⟩
  cases after
  rcases Shoe.holding_of_create made with ⟨positive, holding⟩
  refine ⟨positive, rfl, rfl, Nat.zero_le _, ⟨[], holding⟩, ?_⟩
  intro i seat listed
  rw [seats] at listed
  cases i with
  | zero =>
      cases listed
      exact ⟨rfl, Or.inl rfl, Hand.create, rfl, rfl⟩
  | succ i =>
      have plain := List.eq_of_mem_replicate (List.mem_of_getElem? listed)
      subst plain
      refine ⟨rfl, Or.inr rfl, Hand.create, rfl, ?_⟩
      have none : (0 + 5 - (i + 1)) / 6 = 0 := by omega
      rw [none]
      rfl

end Game

/-- `push_back` for a card of the shoe. -/
theorem Hand.deal_eq {rand : Nat -> Nat} (hand : Hand) {shoe left : Shoe} {card : Int8}
    (dealt : shoe.deal rand = .ok (card, left)) :
    hand.deal rand shoe =
      if hand.cards.length < capacity then
        .ok ({ hand with cards := hand.cards ++ [card] }, left)
      else .error .lengthError := by
  rw [deal, dealt]
  rfl

namespace Game

variable {game next : Game} {decks count : Nat} {rand : Nat -> Nat}

/-- The seat whose turn it is, with what `deal_one` comes to. -/
theorem Shared.dealOne_eq (rand : Nat -> Nat) (shared : game.Shared decks count) :
    Exists fun seat => Exists fun hand => Exists fun card => Exists fun shoe =>
      game.seats[count % 6]? = some seat ∧ seat.hands = [hand] ∧
        hand.cards.length = count / 6 ∧ (Exists fun cards => shoe.Holding decks cards) ∧
          game.dealOne rand =
            if count < 132 then
              .ok { game with
                shoe := shoe
                seats := game.seats.set (count % 6)
                  { seat with hands := [{ hand with cards := hand.cards ++ [card] }] }
                turn := (count + 1) % 6 }
            else .error .lengthError := by
  have inside : count % 6 < game.seats.length := by
    rw [shared.six]
    exact Nat.mod_lt count (by decide)
  have listed := List.getElem?_eq_getElem inside
  rcases shared.seats _ _ listed with ⟨_, _, hand, alone, length⟩
  rcases shared.shoe with ⟨cards, holding⟩
  rcases holding.deal rand shared.positive with ⟨card, shoe, dealt, after⟩
  refine ⟨game.seats[count % 6], hand, card, shoe, listed, alone, by omega, ⟨_, after⟩, ?_⟩
  have turn : (if (game.seats.set (count % 6) { game.seats[count % 6] with
      hands := [{ hand with cards := hand.cards ++ [card] }] }).length ≤ count % 6 + 1 then 0
        else count % 6 + 1) = (count + 1) % 6 := by
    rw [List.length_set, shared.six]
    split
    · omega
    · omega
  have few := shared.few
  have room : hand.cards.length < Hand.capacity <-> count < 132 := by
    rw [length, Hand.capacity]
    omega
  simp only [dealOne, shared.turn, listed, alone, hand.deal_eq dealt, room]
  split
  · exact congrArg (fun place => Except.ok (Game.mk game.state shoe _ place)) turn
  · rfl

/-- A card is dealt as long as there is room for it. -/
theorem Shared.dealOne (rand : Nat -> Nat) (shared : game.Shared decks count)
    (room : count < 132) :
    Exists fun next => game.dealOne rand = .ok next ∧ next.Shared decks (count + 1) := by
  rcases shared.dealOne_eq rand with ⟨seat, hand, card, shoe, listed, alone, length, holding, dealt⟩
  rw [if_pos room] at dealt
  refine ⟨_, dealt, shared.positive, ?_, rfl, room, holding, ?_⟩
  · exact (List.length_set ..).trans shared.six
  · intro i other found
    rw [List.getElem?_set] at found
    split at found
    · rename_i same
      rcases Option.ite_none_right_eq_some.mp found with ⟨_, changed⟩
      cases changed
      rcases shared.seats _ _ listed with ⟨user, state, _⟩
      refine ⟨user, state, _, rfl, ?_⟩
      rw [List.length_append, List.length_singleton, length]
      omega
    · rename_i different
      rcases shared.seats _ _ found with ⟨user, state, own, single, share⟩
      have inside : i < 6 := by
        rw [← shared.six]
        exact (List.getElem?_eq_some_iff.mp found).1
      refine ⟨user, state, own, single, ?_⟩
      rw [share]
      omega

theorem Shared.dealOne_full (rand : Nat -> Nat) (shared : game.Shared decks 132) :
    game.dealOne rand = .error .lengthError := by
  rcases shared.dealOne_eq rand with ⟨seat, hand, card, shoe, _, _, _, _, dealt⟩
  exact dealt

end Game

/-! ## Updates -/

namespace Table

variable {messages : BeastMessages} {channel : Channel} {context : StrandContext} {game : Game}
  {call : RpcCall}

theorem update_ok (vacant : game.Vacant) (action : String) :
    Exists fun jv => update channel context game action = .ok jv := by
  have each : forall seat, seat ∈ game.seats -> Exists fun jv =>
      seat.toJson context.users = .ok jv := by
    intro seat member
    rw [Seat.toJson]
    rcases (vacant.seats seat member).state with dealer | unused
    · rw [dealer]
      exact ⟨_, rfl⟩
    · rw [unused]
      exact ⟨_, rfl⟩
  rcases Results.mapM_ok each with ⟨seats, written⟩
  have shown : Exists fun jv => game.toJson context.users = .ok jv := by
    rw [Game.toJson, Game.getSeat, written]
    exact ⟨_, rfl⟩
  rcases shown with ⟨jv, shown⟩
  rw [update, shown]
  exact ⟨_, rfl⟩

/-- What a call of the game has done is told to everybody. -/
theorem conclude_ok (messages : BeastMessages) (channel : Channel) (context : StrandContext)
    (call : RpcCall) {returned : GameReturn} (vacant : returned.game.Vacant)
    (action : Option String) :
    Exists fun values => conclude messages channel context call returned action =
      .ok (returned.game, values) := by
  have told : forall names : List String, Exists fun updates =>
      names.mapM (update channel context returned.game) = .ok updates :=
    fun names => Results.mapM_ok fun name _ => update_ok vacant name
  have callbacks : Exists fun called => (returned.called.mapM fun callback =>
      update channel context returned.game callback.action) = .ok called :=
    Results.mapM_ok fun callback _ => update_ok vacant callback.action
  rcases callbacks with ⟨called, made⟩
  rw [conclude, made]
  cases returned.ec with
  | some ec => exact ⟨_, rfl⟩
  | none =>
      rcases told action.toList with ⟨updates, sent⟩
      refine ⟨called ++ updates ++ call.complete.toList, ?_⟩
      change (action.toList.mapM (update channel context returned.game) >>= _) = _
      rw [sent]
      rfl

/-- A closure that starts a round. -/
def starts : Posted -> Bool
  | .play method _ _ _ => decide (method = "start")
  | _ => false

/-- Every other closure leaves the game as it is. -/
theorem perform_kept (vacant : game.Vacant) {work : Posted} (other : starts work = false) :
    Exists fun values => perform messages channel context game work = .ok (game, values) := by
  have updated : forall action, Exists fun values : List Json => (do
      let jv <- update channel context game action
      .ok (game, [jv])) = (.ok (game, values) : Done) := by
    intro action
    rcases update_ok vacant action with ⟨jv, shown⟩
    rw [shown]
    exact ⟨_, rfl⟩
  cases work with
  | insert session => exact updated "init"
  | erase session =>
      rw [perform, doErase, Game.surrender_vacant vacant]
      exact ⟨_, rfl⟩
  | play method call user session =>
      have different : ¬method = "start" := of_decide_eq_false other
      rw [perform, play, if_neg different]
      split
      · have joined : (game.join context.address).game.Vacant := (game.join_game _).symm ▸ vacant
        rcases conclude_ok messages channel context call joined (some "play")
          with ⟨values, concluded⟩
        rw [game.join_game] at concluded
        exact ⟨values, concluded⟩
      · split
        · rw [doWatch, Game.leave_vacant vacant]
          exact conclude_ok messages channel context call vacant (some "watch")
        · split
          · rw [doBet, Game.bet_vacant vacant]
            change Exists fun values => conclude messages channel context call
              ⟨game, some .notPlaying, []⟩ none = .ok (game, values)
            exact conclude_ok messages channel context call vacant none
          · exact ⟨_, rfl⟩
  | shutdown seconds => exact ⟨_, rfl⟩
  | stop => exact ⟨_, rfl⟩

/-- A start is a deal. -/
theorem perform_start (messages : BeastMessages) (channel : Channel) (context : StrandContext)
    (game : Game) {work : Posted} (start : starts work = true) :
    Exists fun call => perform messages channel context game work =
      (game.dealOne context.rand >>= fun next =>
        conclude messages channel context call ⟨next, none, [.onGameDealCard]⟩ none) := by
  cases work with
  | play method call user session =>
      have same : method = "start" := of_decide_eq_true start
      refine ⟨call, ?_⟩
      rw [perform, play, same, if_neg (by decide), if_neg (by decide), if_neg (by decide),
        if_pos rfl, doStart, Game.start]
      cases game.dealOne context.rand with
      | error fault => rfl
      | ok next => rfl
  | insert session => cases start
  | erase session => cases start
  | shutdown seconds => cases start
  | stop => cases start

/-! ## Runs -/

/-- What the strand takes up: a closure, and what is outside while it runs. -/
abbrev Step := StrandContext × Posted

/-- No hand of the game is too long. -/
def Fits (game : Game) : Prop :=
  forall seat, seat ∈ game.seats -> forall hand, hand ∈ seat.hands ->
    hand.cards.length ≤ Hand.capacity

/-- The closures return one after the other, and no hand is ever too long. -/
def NeverOverflows (messages : BeastMessages) (channel : Channel) : Game -> List Step -> Prop
  | game, [] => Fits game
  | game, (context, work) :: rest => Fits game ∧ Exists fun next => Exists fun values =>
      perform messages channel context game work = .ok (next, values) ∧
        NeverOverflows messages channel next rest

/-- The closures that start a round. -/
def started (steps : List Step) : Nat :=
  steps.countP fun step => starts step.2

theorem started_cons (context : StrandContext) (work : Posted) (rest : List Step) :
    started ((context, work) :: rest) = started rest + if starts work = true then 1 else 0 := by
  rw [started, List.countP_cons, started]

theorem fits_of_vacant (vacant : game.Vacant) : Fits game := by
  intro seat member hand inside
  rcases (vacant.seats seat member).hands with ⟨only, alone, short⟩
  rw [alone] at inside
  cases List.mem_singleton.mp inside
  exact short

variable {decks count : Nat}

theorem perform_deals (shared : game.Shared decks count) (room : count < 132) {work : Posted}
    (start : starts work = true) :
    Exists fun next => next.Shared decks (count + 1) ∧ Exists fun values =>
      perform messages channel context game work = .ok (next, values) := by
  rcases shared.dealOne context.rand room with ⟨next, dealt, after⟩
  rcases perform_start messages channel context game start with ⟨call, performed⟩
  have vacant : (GameReturn.mk next none [.onGameDealCard]).game.Vacant := after.vacant
  rcases conclude_ok messages channel context call vacant none with ⟨values, concluded⟩
  refine ⟨next, after, values, ?_⟩
  rw [performed, dealt]
  exact concluded

/-- The card after the last one for which there is room makes `push_back` throw. -/
theorem perform_full (shared : game.Shared decks 132) {work : Posted}
    (start : starts work = true) :
    perform messages channel context game work = .error .lengthError := by
  rcases perform_start messages channel context game start with ⟨call, performed⟩
  rw [performed, shared.dealOne_full]
  rfl

theorem never_overflows_of_shared (shared : game.Shared decks count) (steps : List Step) :
    NeverOverflows messages channel game steps <-> count + started steps ≤ 132 := by
  have fits := fits_of_vacant shared.vacant
  induction steps generalizing game count with
  | nil => exact ⟨fun _ => shared.few, fun _ => fits⟩
  | cons step rest inductionHypothesis =>
      rcases step with ⟨context, work⟩
      have turn : forall {next : Game} {later : Nat} (_ : next.Shared decks later),
          (Exists fun values => perform messages channel context game work = .ok (next, values)) ->
            (NeverOverflows messages channel game ((context, work) :: rest) <->
              later + started rest ≤ 132) := by
        intro next later after performed
        rcases performed with ⟨values, performed⟩
        refine Iff.trans ?_ (inductionHypothesis after (fits_of_vacant after.vacant))
        constructor
        · rintro ⟨_, other, told, same, never⟩
          cases performed.symm.trans same
          exact never
        · intro never
          exact ⟨fits, next, values, performed, never⟩
      rw [started_cons]
      by_cases start : starts work = true
      · rw [if_pos start]
        rcases Nat.lt_or_eq_of_le shared.few with room | rfl
        · rcases perform_deals shared room start with ⟨next, after, performed⟩
          rw [turn after performed]
          omega
        · constructor
          · rintro ⟨_, next, values, performed, _⟩
            cases (perform_full shared start).symm.trans performed
          · omega
      · rw [if_neg start]
        exact turn shared (perform_kept shared.vacant (Bool.eq_false_iff.mpr start))

/-- When the hands of a table never overflow. -/
theorem never_overflows_iff {rand : Nat -> Nat} {decks : Int32} (messages : BeastMessages)
    (channel : Channel) (created : Game.create rand decks = .ok game) (steps : List Step) :
    NeverOverflows messages channel game steps <-> started steps ≤ 132 := by
  rw [never_overflows_of_shared (Game.shared_create created) steps, Nat.zero_add]

/-- A closure for `start`. -/
def startStep : Step :=
  (⟨0, fun _ => none, fun i => i⟩, .play "start" .create ⟨"ann"⟩ ⟨true, none, true⟩)

def tableChannel : Channel :=
  ⟨.table, 3, "Blackjack", []⟩

theorem two_starts_fit : Exists fun game => Game.create (fun i => i) 1 = .ok game ∧
    NeverOverflows (fun _ => "") tableChannel game [startStep, startStep] := by
  rcases Game.create_ok (fun i => i) Shoe.one_deck with ⟨game, created⟩
  exact ⟨game, created, (never_overflows_iff _ _ created [startStep, startStep]).mpr (by decide)⟩

/-- The start after 132 others throws. -/
theorem many_starts_overflow : ¬forall (rand : Nat -> Nat) (decks : Int32) (game : Game)
    (messages : BeastMessages) (channel : Channel) (steps : List Step),
      Game.create rand decks = .ok game -> NeverOverflows messages channel game steps := by
  intro always
  rcases Game.create_ok (fun i => i) Shoe.one_deck with ⟨game, created⟩
  have never := always _ _ game (fun _ => "") tableChannel (List.replicate 133 startStep) created
  rw [never_overflows_of_shared (Game.shared_create created), started, List.countP_replicate,
    if_pos (show starts startStep.2 = true from rfl)] at never
  exact absurd never (by decide)

end Table

end Blackjack

end EasyProspect
