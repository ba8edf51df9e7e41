import EasyProspect.Shoe

namespace EasyProspect

/-!
# The seats of the game

Users join a game, bet, surrender and leave.  What these calls owe to each other is that a user
who has joined is found in one seat, and that no call that reports an error changes a seat.

`join` reports success for a user whom it has put into a copy of the seats.
-/

namespace Blackjack

/-- A call of a user. -/
inductive SeatCall
  | join (u : Nat)
  | leave (u : Nat)
  | bet (u : Nat)
  | surrender (u : Nat)
deriving DecidableEq

def SeatCall.isJoin : SeatCall -> Bool
  | .join _ => true
  | _ => false

/-- What a call leaves, and the error that it reports. -/
structure SeatReturn where
  game : Game
  ec : Option GameError

namespace Game

/-- The calls.  `surrender` reports by its value that the user does not play. -/
def answer (game : Game) : SeatCall -> Except GameFault SeatReturn
  | .join u => .ok ⟨(game.join u).game, (game.join u).ec⟩
  | .leave u => .ok ⟨(game.leave u).1.game, (game.leave u).1.ec⟩
  | .bet u => do
      let returned <- game.bet u
      .ok ⟨returned.game, returned.ec⟩
  | .surrender u =>
      .ok ⟨(game.surrender u).1, if (game.surrender u).2 = -1 then some .notPlaying else none⟩

/-! ## The protocol -/

/-- A user holds a seat. -/
def Holds (game : Game) (u i : Nat) : Prop :=
  Exists fun seat => game.seats[i]? = some seat ∧ seat.state ≠ .openSeat ∧ seat.user = some u

/-- A user has been put into a seat that was open, and is found there by every call. -/
structure Seated (game : Game) (u : Nat) (next : Game) (i : Nat) : Prop where
  player : 0 < i
  opened : (game.seats[i]?).map Seat.state = some .openSeat
  others : forall j, j ≠ i -> next.seats[j]? = game.seats[j]?
  once : forall j, next.Holds u j <-> j = i
  found : next.find u = i
  again : (next.join u).ec = some .alreadyPlaying
  leaves : (next.leave u).1.ec ≠ some .notPlaying
  bets : forall returned, next.bet u = .ok returned -> returned.ec ≠ some .notPlaying
  surrenders : (next.surrender u).2 ≠ -1

/-- A call does what it reports. -/
structure Follows (game : Game) (call : SeatCall) (returned : SeatReturn) : Prop where
  unchanged : returned.ec ≠ none -> returned.game.seats = game.seats
  single : forall u v, u ≠ v -> returned.game.find u = returned.game.find v ->
    returned.game.find u = 0
  joined : forall u, call = .join u -> returned.ec = none ->
    Exists fun i => Seated game u returned.game i
  playing : forall u, call = .join u -> game.find u ≠ 0 -> returned.ec = some .alreadyPlaying
  full : forall u, call = .join u -> game.find u = 0 ->
    (forall seat, seat ∈ game.seats -> seat.state ≠ .openSeat) -> returned.ec = some .noOpenSeat
  surrendered : forall u, call = .surrender u -> returned.ec = none ->
    (returned.game.seats[game.find u]?).map Seat.state = some .openSeat
  freed : forall u, call = .leave u -> returned.ec = none ->
    (game.seats[game.find u]?).map Seat.state = some .waiting ->
      (returned.game.seats[game.find u]?).map Seat.state = some .openSeat
  marked : forall u, call = .leave u -> returned.ec = none ->
    (game.seats[game.find u]?).map Seat.state = some .playing ->
      (returned.game.seats[game.find u]?).map Seat.state = some .leaving

/-- Every call of a sequence returns, and does what it reports. -/
def Protocol : Game -> List SeatCall -> Prop
  | _, [] => True
  | game, call :: calls => Exists fun returned => game.answer call = .ok returned ∧
      game.Follows call returned ∧ Protocol returned.game calls

/-! ## A game that nobody has joined -/

/-- Nobody has a seat, and there are seats. -/
structure Unoccupied (game : Game) : Prop where
  vacant : game.Vacant
  openSeat : Exists fun seat => seat ∈ game.seats ∧ seat.state = .openSeat

variable {game : Game} {rand : Nat -> Nat} {decks : Int32}

theorem unoccupied_create (created : create rand decks = .ok game) : game.Unoccupied := by
  refine ⟨vacant_create created, Seat.create, ?_, rfl⟩
  rw [seats_create created]
  exact List.mem_cons_of_mem _ (List.mem_replicate.mpr ⟨by decide, rfl⟩)

/-- Whoever has not joined is told so. -/
theorem answer_of_unjoined (unoccupied : game.Unoccupied) {call : SeatCall}
    (other : call.isJoin = false) : game.answer call = .ok ⟨game, some .notPlaying⟩ := by
  have vacant := unoccupied.vacant
  cases call with
  | join u => cases other
  | leave u => rw [answer, leave_vacant vacant]
  | bet u =>
      rw [answer, bet_vacant vacant]
      rfl
  | surrender u =>
      rw [answer, surrender_vacant vacant]
      rfl

/-- A join is a success, and changes nothing. -/
theorem answer_join (unoccupied : game.Unoccupied) (u : Nat) :
    game.answer (.join u) = .ok ⟨game, none⟩ := by
  rcases unoccupied.openSeat with ⟨seat, member, vacant⟩
  have found : (game.getSeat.findIdx? fun seat =>
      decide (seat.state = .openSeat)).isSome = true := by
    rw [List.findIdx?_isSome, List.any_eq_true]
    exact ⟨seat, member, decide_eq_true vacant⟩
  rcases Option.isSome_iff_exists.mp found with ⟨i, first⟩
  have returned : game.join u = ⟨game, none, []⟩ := by
    rw [join, find_vacant unoccupied.vacant]
    simp only [ne_eq, not_true, if_false, first]
  rw [answer, returned]

theorem follows_unjoined (unoccupied : game.Unoccupied) {call : SeatCall}
    (other : call.isJoin = false) : game.Follows call ⟨game, some .notPlaying⟩ where
  unchanged := fun _ => rfl
  single := fun u _ _ _ => find_vacant unoccupied.vacant u
  joined := by rintro u rfl; cases other
  playing := by rintro u rfl; cases other
  full := by rintro u rfl; cases other
  surrendered := by rintro u rfl ⟨⟩
  freed := by rintro u rfl ⟨⟩
  marked := by rintro u rfl ⟨⟩

/-- Nobody is found in the seat that the join reports. -/
theorem not_follows_join (unoccupied : game.Unoccupied) (u : Nat) :
    ¬game.Follows (.join u) ⟨game, none⟩ := by
  intro follows
  rcases follows.joined u rfl rfl with ⟨i, seated⟩
  have nobody := find_vacant unoccupied.vacant u
  have player := seated.player
  rw [← seated.found, nobody] at player
  exact Nat.lt_irrefl 0 player

theorem protocol_of_unoccupied (unoccupied : game.Unoccupied) (calls : List SeatCall) :
    game.Protocol calls <-> forall call, call ∈ calls -> call.isJoin = false := by
  induction calls with
  | nil =>
      refine ⟨fun _ call none => ?_, fun _ => trivial⟩
      cases none
  | cons call calls inductionHypothesis =>
      rw [Protocol, List.forall_mem_cons, ← inductionHypothesis]
      constructor
      · rintro ⟨returned, answered, follows, rest⟩
        cases call with
        | join u =>
            cases (answer_join unoccupied u).symm.trans answered
            exact absurd follows (not_follows_join unoccupied u)
        | leave u | bet u | surrender u =>
            cases (answer_of_unjoined unoccupied rfl).symm.trans answered
            exact ⟨rfl, rest⟩
      · rintro ⟨other, rest⟩
        exact ⟨_, answer_of_unjoined unoccupied other, follows_unjoined unoccupied other, rest⟩

/-- When the calls of the users of a game do what they report. -/
theorem protocol_iff (created : create rand decks = .ok game) (calls : List SeatCall) :
    game.Protocol calls <-> forall call, call ∈ calls -> call.isJoin = false :=
  protocol_of_unoccupied (unoccupied_create created) calls

/-- Calls of users that have not joined. -/
theorem strangers_protocol : Exists fun game => create (fun i => i) 1 = .ok game ∧
    game.Protocol [.leave 7, .bet 7, .surrender 8] := by
  rcases create_ok (fun i => i) Shoe.one_deck with ⟨game, created⟩
  exact ⟨game, created, (protocol_iff created [.leave 7, .bet 7, .surrender 8]).mpr (by decide)⟩

/-- A user that has joined is not found. -/
theorem joined_not_found : ¬forall (rand : Nat -> Nat) (decks : Int32) (game : Game)
    (calls : List SeatCall), create rand decks = .ok game -> game.Protocol calls := by
  intro always
  rcases create_ok (fun i => i) Shoe.one_deck with ⟨game, created⟩
  have unjoined := (protocol_of_unoccupied (unoccupied_create created) [.join 7]).mp
    (always _ _ _ _ created)
  cases unjoined (.join 7) List.mem_cons_self

end Game

end Blackjack

end EasyProspect
