import EasyProspect.Library.Results
import EasyProspect.WebWorker

namespace EasyProspect

/-!
# The game of blackjack

A user is known to the game by its address.  `get_seat` gives the seats by value: `join`,
`leave` and `surrender` change the copy that they have just been given, and `bet` and the
dealing change the seats of the game.  The chips of a seat are not initialised before `clear`.

The results of `rand` within one call of `shuffle` are given by a function: what the call
with that number returns.
-/

namespace Blackjack

/-- How a call of the game ends when it does not return: `push_back` or `resize` has thrown, or
what it has done is undefined. -/
inductive GameFault
  | lengthError
  | undefined
  deriving DecidableEq

/-- `error`. -/
inductive GameError
  | notPlaying
  | alreadyPlaying
  | alreadyLeaving
  | noOpenSeat
  | noMoreBets
  deriving DecidableEq

/-- The enumerators. -/
def GameError.value : GameError -> Int32
  | notPlaying => 1
  | alreadyPlaying => 2
  | alreadyLeaving => 3
  | noOpenSeat => 4
  | noMoreBets => 5

/-! ## Cards -/

/-- `shoe`.  A card is a `char`. -/
structure Shoe where
  cards : Array Int8
  pos : Nat
  deriving DecidableEq

namespace Shoe

/-- What the first loop of `shuffle` writes. -/
def sorted (size : Nat) : Array Int8 :=
  (Array.range size).map fun i => .ofNat (1 + i % 52)

/-- One step of the second loop. -/
def swapStep (rand : Nat -> Nat) (cards : Array Int8) (i : Nat) :
    Except GameFault (Array Int8) :=
  let j := i + rand i % (cards.size - i)
  if inside : i < cards.size ∧ j < cards.size then
    .ok (cards.swap i j inside.1 inside.2)
  else .error .undefined

/-- The bound of the second loop wraps around where there are no cards, and its first step
divides by zero. -/
def shuffle (rand : Nat -> Nat) (shoe : Shoe) : Except GameFault Shoe :=
  if shoe.cards.size = 0 then .error .undefined
  else do
    let cards <- (List.range (shoe.cards.size - 1)).foldlM (swapStep rand)
      (sorted shoe.cards.size)
    .ok ⟨cards, 0⟩

/-- `decks * 52` is a product of ints, and undefined when it overflows.  A negative size, as the
`size_t` that it becomes, is more than a vector can hold. -/
def create (rand : Nat -> Nat) (decks : Int32) : Except GameFault Shoe :=
  let size := decks.toInt * 52
  if size < Int32.minValue.toInt ∨ Int32.maxValue.toInt < size then .error .undefined
  else if size < 0 then .error .lengthError
  else shuffle rand ⟨.replicate size.toNat 0, 0⟩

def deal (rand : Nat -> Nat) (shoe : Shoe) : Except GameFault (Int8 × Shoe) := do
  let shoe <- if shoe.pos = shoe.cards.size then shoe.shuffle rand else .ok shoe
  match shoe.cards[shoe.pos]? with
  | some card => .ok (card, { shoe with pos := shoe.pos + 1 })
  | none => .error .undefined

end Shoe

/-- `hand`. -/
structure Hand where
  cards : List Int8
  wager : Int32
  busted : Bool
  twentyOne : Bool
  blackjack : Bool
  deriving DecidableEq

namespace Hand

/-- The capacity of the `static_string`. -/
def capacity : Nat := 22

def create : Hand := ⟨[], 0, false, false, false⟩

/-- `clear`. -/
def clear (_hand : Hand) : Hand := create

/-- `deal`.  The card has left the shoe when `push_back` throws. -/
def deal (rand : Nat -> Nat) (hand : Hand) (shoe : Shoe) : Except GameFault (Hand × Shoe) := do
  let (card, shoe) <- shoe.deal rand
  if hand.cards.length < capacity then
    .ok ({ hand with cards := hand.cards ++ [card] }, shoe)
  else .error .lengthError

def toJson (hand : Hand) : Json :=
  .array (hand.cards.map fun card => .integer card.toInt64)

end Hand

/-! ## Seats -/

/-- `seat::state_t`. -/
inductive SeatState
  | dealer
  | waiting
  | playing
  | leaving
  | openSeat
  deriving DecidableEq

structure Seat where
  user : Option Nat
  state : SeatState
  hands : List Hand
  chips : Option Int32
  wager : Int32
  deriving DecidableEq

namespace Seat

def create : Seat := ⟨none, .openSeat, [.create], none, 0⟩

def clear (seat : Seat) : Seat :=
  { seat with hands := seat.hands.modify 0 Hand.clear, wager := 0, chips := some 1000 }

/-- The members that `to_json` reads through the pointer of the user, and the chips. -/
def occupant (users : Nat -> Option User) (seat : Seat) : Except GameFault (Json × Json) :=
  match seat.user.bind users, seat.chips with
  | some user, some chips => .ok (.string user.name, .ofInt chips)
  | _, _ => .error .undefined

/-- `to_json`.  A user is read through its pointer. -/
def toJson (users : Nat -> Option User) (seat : Seat) : Except GameFault Json :=
  let hands := Json.array (seat.hands.map Hand.toJson)
  match seat.state with
  | .dealer => .ok (.object [("hands", hands), ("state", .string "dealer")])
  | .waiting => do
      let (user, chips) <- seat.occupant users
      .ok (.object [("chips", chips), ("hands", hands), ("state", .string "waiting"),
        ("user", user)])
  | .playing => do
      let (user, chips) <- seat.occupant users
      .ok (.object [("chips", chips), ("hands", hands), ("state", .string "playing"),
        ("user", user), ("wager", .ofInt seat.wager)])
  | .leaving => do
      let (user, chips) <- seat.occupant users
      .ok (.object [("chips", chips), ("hands", hands), ("state", .string "leaving"),
        ("user", user), ("wager", .ofInt seat.wager)])
  | .openSeat => .ok (.object [("hands", hands), ("state", .string "open")])

end Seat

/-! ## The game -/

/-- `game::state`. -/
inductive GameState
  | wait
  | play
  deriving DecidableEq

structure Game where
  state : GameState
  shoe : Shoe
  seats : List Seat
  turn : Nat
  deriving DecidableEq

/-- `game::callback`. -/
inductive GameCallback
  | onGameBet
  | onGameDealCard
  deriving DecidableEq

/-- What a call leaves behind: the game, the error code, and the callbacks it has made last. -/
structure GameReturn where
  game : Game
  ec : Option GameError
  called : List GameCallback
  deriving DecidableEq

namespace Game

/-- The constructor.  Its assertion that there are one to six decks comes after the shoe is made,
and is not part of a release build. -/
def create (rand : Nat -> Nat) (decks : Int32) : Except GameFault Game := do
  let shoe <- Shoe.create rand decks
  let seats := (List.replicate 6 Seat.create).modify 0 fun seat => { seat with state := .dealer }
  .ok ⟨.wait, shoe, seats, 0⟩

variable (game : Game)

/-- `get_seat`: a copy. -/
def getSeat : List Seat :=
  game.seats

/-- `find`.  The place of the dealer stands for nobody. -/
def find (u : Nat) : Nat :=
  (game.seats.findIdx? fun seat =>
    decide (seat.state ≠ .openSeat) && decide (seat.user = some u)).getD 0

/-- `join`.  The seat it returns is a distance between two copies, and nobody looks at it. -/
def join (u : Nat) : GameReturn :=
  if game.find u ≠ 0 then ⟨game, some .alreadyPlaying, []⟩
  else
    match game.getSeat.findIdx? fun seat => decide (seat.state = .openSeat) with
    | some i =>
        let _copy := game.getSeat.modify i fun seat =>
          { seat with user := some u, state := .playing }
        ⟨game, none, []⟩
    | none => ⟨game, some .noOpenSeat, []⟩

/-- `leave`, and what it returns. -/
def leave (u : Nat) : GameReturn × Int :=
  let i := game.find u
  if i = 0 then (⟨game, some .notPlaying, []⟩, 0)
  else
    match (game.getSeat[i]?).map Seat.state with
    | some .waiting =>
        let _copy := game.getSeat.modify i fun seat => { seat with state := .openSeat }
        (⟨game, none, []⟩, 2)
    | some .playing =>
        let _copy := game.getSeat.modify i fun seat => { seat with state := .leaving }
        let _other := game.getSeat.modify i Seat.clear
        (⟨game, none, []⟩, 1)
    | _ => (⟨game, some .alreadyLeaving, []⟩, 0)

/-- `surrender`, and what it returns. -/
def surrender (u : Nat) : Game × Int :=
  let i := game.find u
  if i = 0 then (game, -1)
  else
    let _copy := game.getSeat.modify i fun seat => { seat with state := .openSeat }
    (game, 1)

/-- `bet`. -/
def bet (u : Nat) : Except GameFault GameReturn :=
  let i := game.find u
  if i = 0 then .ok ⟨game, some .notPlaying, []⟩
  else
    match game.seats[i]? with
    | none => .error .undefined
    | some seat =>
        if seat.state = .playing ∨ seat.state = .leaving then
          match seat.chips with
          | none => .error .undefined
          | some chips =>
              let seat := { seat with wager := seat.wager + 5, chips := some (chips - 5) }
              .ok ⟨{ game with seats := game.seats.set i seat }, none, [.onGameBet]⟩
        else .ok ⟨game, some .noMoreBets, []⟩

/-- `deal_one`, without its callback. -/
def dealOne (rand : Nat -> Nat) : Except GameFault Game :=
  match game.seats[game.turn]? with
  | none => .error .undefined
  | some seat =>
      match seat.hands with
      | [] => .error .undefined
      | hand :: others => do
          let (hand, shoe) <- hand.deal rand game.shoe
          let seats := game.seats.set game.turn { seat with hands := hand :: others }
          let turn := game.turn + 1
          .ok ⟨game.state, shoe, seats, if seats.length ≤ turn then 0 else turn⟩

/-- `start`. -/
def start (rand : Nat -> Nat) : Except GameFault GameReturn := do
  let game <- game.dealOne rand
  .ok ⟨game, none, [.onGameDealCard]⟩

/-- `to_json`. -/
def toJson (users : Nat -> Option User) : Except GameFault Json := do
  let message :=
    match game.state with
    | .wait => "Waiting for players"
    | .play => "Playing"
  let seats <- game.getSeat.mapM (Seat.toJson users)
  .ok (.object [("message", .string message), ("seats", .array seats)])

/-! ## Seats that nobody takes -/

end Game

/-- A seat as it was made, with the cards that have been dealt to it. -/
structure Seat.Vacant (seat : Seat) : Prop where
  user : seat.user = none
  state : seat.state = .dealer ∨ seat.state = .openSeat
  hands : Exists fun hand => seat.hands = [hand] ∧ hand.cards.length ≤ Hand.capacity

namespace Game

/-- The seats are those of a game that nobody has joined. -/
structure Vacant (game : Game) : Prop where
  six : game.seats.length = 6
  seats : forall seat, seat ∈ game.seats -> seat.Vacant

variable {rand : Nat -> Nat} {game next : Game} {u : Nat}

/-- The seats of a new game. -/
theorem seats_create {decks : Int32} (created : create rand decks = .ok game) :
    game.seats = { Seat.create with state := .dealer } :: List.replicate 5 Seat.create := by
  rcases Results.ok_of_bind created with ⟨shoe, _, after⟩
  cases after
  rfl

theorem vacant_create {decks : Int32} (created : create rand decks = .ok game) : game.Vacant := by
  have seats := seats_create created
  refine ⟨by rw [seats]; rfl, fun seat member => ?_⟩
  rw [seats] at member
  rcases List.mem_cons.mp member with rfl | other
  · exact ⟨rfl, Or.inl rfl, Hand.create, rfl, Nat.zero_le _⟩
  · cases List.eq_of_mem_replicate other
    exact ⟨rfl, Or.inr rfl, Hand.create, rfl, Nat.zero_le _⟩

theorem find_vacant (vacant : game.Vacant) (u : Nat) : game.find u = 0 := by
  have nobody : (game.seats.findIdx? fun seat =>
      decide (seat.state ≠ .openSeat) && decide (seat.user = some u)) = none := by
    rw [List.findIdx?_eq_none_iff]
    intro seat member
    rw [(vacant.seats seat member).user]
    exact Bool.and_false _
  rw [find, nobody]
  rfl

/-- The copy is changed, and not the game. -/
theorem join_game (game : Game) (u : Nat) : (game.join u).game = game := by
  rw [join]
  split
  · rfl
  · split
    · rfl
    · rfl

theorem leave_vacant (vacant : game.Vacant) (u : Nat) :
    game.leave u = (⟨game, some .notPlaying, []⟩, 0) := by
  rw [leave, find_vacant vacant, if_pos rfl]

theorem surrender_vacant (vacant : game.Vacant) (u : Nat) : game.surrender u = (game, -1) := by
  rw [surrender, find_vacant vacant, if_pos rfl]

theorem bet_vacant (vacant : game.Vacant) (u : Nat) :
    game.bet u = .ok ⟨game, some .notPlaying, []⟩ := by
  rw [bet, find_vacant vacant, if_pos rfl]

theorem length_deal {hand dealt : Hand} {shoe rest : Shoe}
    (taken : hand.deal rand shoe = .ok (dealt, rest)) : dealt.cards.length ≤ Hand.capacity := by
  rcases Results.ok_of_bind taken with ⟨⟨card, left⟩, _, pushed⟩
  by_cases room : hand.cards.length < Hand.capacity
  · simp only [if_pos room] at pushed
    cases pushed
    rw [List.length_append, List.length_singleton]
    exact Nat.succ_le_of_lt room
  · simp only [if_neg room] at pushed
    cases pushed

theorem vacant_dealOne (vacant : game.Vacant) (dealt : game.dealOne rand = .ok next) :
    next.Vacant := by
  rw [dealOne] at dealt
  split at dealt
  · cases dealt
  · rename_i seat taken
    split at dealt
    · cases dealt
    · rename_i hand others held
      rcases Results.ok_of_bind dealt with ⟨⟨more, shoe⟩, given, after⟩
      cases after
      have own := vacant.seats seat (List.mem_of_getElem? taken)
      rcases own.hands with ⟨only, alone, _⟩
      rw [held] at alone
      cases alone
      refine ⟨(List.length_set ..).trans vacant.six, fun other member => ?_⟩
      rcases List.mem_or_eq_of_mem_set member with before | rfl
      · exact vacant.seats other before
      · exact ⟨own.user, own.state, more, rfl, length_deal given⟩

end Game

end Blackjack

end EasyProspect
