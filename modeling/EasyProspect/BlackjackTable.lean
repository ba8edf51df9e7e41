import EasyProspect.Blackjack
import EasyProspect.Lounge
import EasyProspect.MessageBuffer

namespace EasyProspect

/-!
# The strand of the blackjack table

Each closure that the handlers of the channel post runs here to its end.  It leaves the game
behind, and the values that it hands to `make_message` one after the other.

`make_error_code` gives an error of the game the category of Boost.Beast, not the one that
`app-error.h` defines, so the texts are those of Boost.
-/

namespace Blackjack

/-- What is outside while a closure runs: where it has its user, the users that pointers lead
to, and the results of `rand`. -/
structure StrandContext where
  address : Nat
  users : Nat -> Option User
  rand : Nat -> Nat

/-- `message` of the error category of Boost.Beast. -/
abbrev BeastMessages := Int32 -> String

/-- `on_game_bet` and `on_game_deal_card`: the action of their update. -/
def GameCallback.action : GameCallback -> String
  | onGameBet => "bet"
  | onGameDealCard => "deal"

namespace Table

/-- A game, and the values for `make_message`. -/
abbrev Done := Except GameFault (Game × List Json)

variable (messages : BeastMessages) (channel : Channel) (context : StrandContext) (game : Game)

/-- The value of `update`. -/
def update (action : String) : Except GameFault Json := do
  let jv <- game.toJson context.users
  .ok (StrandWork.notice channel (.update action jv))

/-- `do_insert`. -/
def doInsert : Done := do
  let jv <- update channel context game "init"
  .ok (game, [jv])

/-- `do_erase`. -/
def doErase : Done :=
  let (game, result) := game.surrender context.address
  if result = 1 then do
    let jv <- update channel context game "surrender"
    .ok (game, [jv])
  else .ok (game, [])

/-- What follows a call of the game: its callbacks have updated already, an error is answered,
and otherwise there is one more update and the result. -/
def conclude (call : RpcCall) (returned : GameReturn) (action : Option String) : Done := do
  let called <- returned.called.mapM fun callback =>
    update channel context returned.game callback.action
  match returned.ec with
  | some ec =>
      let error := RpcError.ofText (messages ec.value)
      .ok (returned.game, called ++ (call.completeError error).toList)
  | none =>
      let updates <- action.toList.mapM (update channel context returned.game)
      .ok (returned.game, called ++ updates ++ call.complete.toList)

/-- `do_play`. -/
def doPlay (call : RpcCall) : Done :=
  conclude messages channel context call (game.join context.address) (some "play")

/-- `do_watch`. -/
def doWatch (call : RpcCall) : Done :=
  conclude messages channel context call (game.leave context.address).1 (some "watch")

/-- `do_bet`. -/
def doBet (call : RpcCall) : Done := do
  let returned <- game.bet context.address
  conclude messages channel context call returned none

/-- `do_start`. -/
def doStart (call : RpcCall) : Done := do
  let returned <- game.start context.rand
  conclude messages channel context call returned none

/-- `do_hit` and `do_stand`. -/
def doHit (call : RpcCall) : Done :=
  .ok (game, call.complete.toList)

/-- The closure that `on_dispatch` posts for a method. -/
def play (method : String) (call : RpcCall) : Done :=
  if method = "play" then doPlay messages channel context game call
  else if method = "watch" then doWatch messages channel context game call
  else if method = "bet" then doBet messages channel context game call
  else if method = "start" then doStart messages channel context game call
  else doHit game call

/-- The work of the table; the calls of the application run elsewhere. -/
def perform : Posted -> Done
  | .insert _ => doInsert channel context game
  | .erase _ => doErase channel context game
  | .play method call _ _ => play messages channel context game method call
  | .shutdown _ => .ok (game, [])
  | .stop => .ok (game, [])

end Table

/-! ## What it sends while nobody has a seat -/

section Vacant

open Json

variable {platform : Platform} {users : Nat -> Option User} {game : Game} {jv : Json}

theorem within_hand {hand : Hand} (few : hand.cards.length ≤ Hand.capacity) :
    Within platform (22 * (80 + 1) + 2) hand.toJson := by
  refine within_array ((List.length_map _).trans_le few) fun element member => ?_
  rcases List.mem_map.mp member with ⟨card, _, rfl⟩
  exact ⟨.integer _, size_integerText _⟩

theorem within_seat {seat : Seat} (vacant : seat.Vacant)
    (written : seat.toJson users = .ok jv) : Within platform 1830 jv := by
  rcases vacant.hands with ⟨hand, alone, few⟩
  have hands : Within platform (1 * (22 * (80 + 1) + 2 + 1) + 2)
      (.array (seat.hands.map Hand.toJson)) := by
    rw [alone]
    exact within_array (Nat.le_refl 1) (List.forall_mem_singleton.mpr (within_hand few))
  have marks : ("\x7b" : String).utf8ByteSize + (quote "hands").utf8ByteSize +
      (":" : String).utf8ByteSize + ("," : String).utf8ByteSize +
      (quote "state").utf8ByteSize + (":" : String).utf8ByteSize + 8 +
      ("\x7d" : String).utf8ByteSize ≤ 40 := by
    decide
  have named : forall name, (quote name).utf8ByteSize ≤ 8 -> Within platform 1830
      (.object [("hands", .array (seat.hands.map Hand.toJson)), ("state", .string name)]) := by
    intro name short
    refine ⟨.cons hands.floatless (.cons (.string name) floatless_nil), ?_⟩
    have size := hands.size
    simp only [dump, dumpMembers, String.utf8ByteSize_append] at size ⊢
    omega
  rw [Seat.toJson] at written
  rcases vacant.state with dealer | unused
  · rw [dealer] at written
    cases written
    exact named "dealer" (by decide)
  · rw [unused] at written
    cases written
    exact named "open" (by decide)

theorem within_game (vacant : game.Vacant) (written : game.toJson users = .ok jv) :
    Within platform 11100 jv := by
  rcases Results.ok_of_bind written with ⟨seats, each, collected⟩
  cases collected
  have length : seats.length = 6 := (Results.ok_of_mapM each).length_eq.symm.trans vacant.six
  have array : Within platform (6 * (1830 + 1) + 2) (.array seats) :=
    within_array length.le <| Results.all_of_mapM each fun seat jv inside =>
      within_seat (vacant.seats seat inside)
  have marks : ("\x7b" : String).utf8ByteSize + (quote "message").utf8ByteSize +
      (":" : String).utf8ByteSize + 24 + ("," : String).utf8ByteSize +
      (quote "seats").utf8ByteSize + (":" : String).utf8ByteSize +
      ("\x7d" : String).utf8ByteSize ≤ 60 := by
    decide
  have told : forall message, (quote message).utf8ByteSize ≤ 24 -> Within platform 11100
      (.object [("message", .string message), ("seats", .array seats)]) := by
    intro message short
    refine ⟨.cons (.string message) (.cons array.floatless floatless_nil), ?_⟩
    have size := array.size
    simp only [dump, dumpMembers, String.utf8ByteSize_append] at size ⊢
    omega
  cases game.state with
  | wait => exact told "Waiting for players" (by decide)
  | play => exact told "Playing" (by decide)

namespace Table

variable {messages : BeastMessages} {channel : Channel} {context : StrandContext} {next : Game}
  {call : RpcCall} {values : List Json}

/-- The longest action is to surrender. -/
theorem whole_update {action : String} (vacant : game.Vacant) (short : action.utf8ByteSize ≤ 9)
    (updated : update channel context game action = .ok jv) : Whole platform jv := by
  rcases Results.ok_of_bind updated with ⟨written, shown, after⟩
  cases after
  have inner : Within platform 11100 written := within_game vacant shown
  have name := size_quote action
  have number := size_unsignedText channel.cid
  have marks : ("\x7b" : String).utf8ByteSize + (quote "action").utf8ByteSize +
      4 * (":" : String).utf8ByteSize + 3 * ("," : String).utf8ByteSize +
      (quote "cid").utf8ByteSize + (quote "game").utf8ByteSize +
      (quote "verb").utf8ByteSize + (quote "update").utf8ByteSize +
      ("\x7d" : String).utf8ByteSize ≤ 60 := by
    decide
  have within : Within platform 11400 (StrandWork.notice channel (.update action written)) := by
    refine ⟨.cons (.string _) (.cons (.unsigned _) (.cons inner.floatless
      (.cons (.string _) floatless_nil))), ?_⟩
    have size := inner.size
    simp only [StrandWork.notice, dump, dumpMembers, String.utf8ByteSize_append] at size ⊢
    omega
  exact within.whole (by decide)

/-- What a closure comes to: nobody has a seat, and each value arrives whole. -/
def Serves (platform : Platform) (done : Done) : Prop :=
  forall next values, done = .ok (next, values) ->
    next.Vacant ∧ forall jv, jv ∈ values -> Whole platform jv

theorem serves_updated {action : String} (vacant : game.Vacant)
    (short : action.utf8ByteSize ≤ 9) :
    Serves platform (do
      let jv <- update channel context game action
      .ok (game, [jv])) := by
  intro next values done
  rcases Results.ok_of_bind done with ⟨jv, updated, after⟩
  cases after
  exact ⟨vacant, List.forall_mem_singleton.mpr (whole_update vacant short updated)⟩

theorem serves_answered (vacant : game.Vacant) (empty : call.result = .null) :
    Serves platform (.ok (game, call.complete.toList)) := by
  rintro next values ⟨⟩
  exact ⟨vacant, fun jv member => whole_result platform empty (Option.mem_toList.mp member)⟩

theorem serves_conclude (short : forall value, Short (messages value)) {returned : GameReturn}
    (vacant : returned.game.Vacant) (empty : call.result = .null) {action : Option String}
    (brief : forall name, action = some name -> name.utf8ByteSize ≤ 9) :
    Serves platform (conclude messages channel context call returned action) := by
  intro next values done
  rcases Results.ok_of_bind done with ⟨called, callbacks, rest⟩
  have told : forall jv, jv ∈ called -> Whole platform jv :=
    Results.all_of_mapM callbacks fun callback jv _ updated =>
      whole_update vacant (by cases callback <;> decide) updated
  cases ended : returned.ec with
  | some ec =>
      simp only [ended] at rest
      cases rest
      refine ⟨vacant, fun jv member => ?_⟩
      rcases List.mem_append.mp member with before | answer
      · exact told jv before
      · rcases Option.map_eq_some_iff.mp (Option.mem_toList.mp answer) with ⟨id, _, rfl⟩
        exact whole_error platform (short ec.value) id
  | none =>
      simp only [ended] at rest
      rcases Results.ok_of_bind rest with ⟨updates, made, after⟩
      cases after
      have updated : forall jv, jv ∈ updates -> Whole platform jv :=
        Results.all_of_mapM made fun name jv member updated =>
          whole_update vacant (brief name (Option.mem_toList.mp member)) updated
      refine ⟨vacant, fun jv member => ?_⟩
      rcases List.mem_append.mp member with before | answer
      · rcases List.mem_append.mp before with early | late
        · exact told jv early
        · exact updated jv late
      · exact whole_result platform empty (Option.mem_toList.mp answer)

theorem serves_play (short : forall value, Short (messages value)) (vacant : game.Vacant)
    (empty : call.result = .null) (method : String) :
    Serves platform (play messages channel context game method call) := by
  have named : forall action : String, action.utf8ByteSize ≤ 9 -> forall name,
      some action = some name -> name.utf8ByteSize ≤ 9 := by
    rintro action small name ⟨⟩
    exact small
  have silent : forall name, (none : Option String) = some name -> name.utf8ByteSize ≤ 9 := by
    rintro name ⟨⟩
  rw [play]
  split
  · have joined : (game.join context.address).game.Vacant := (game.join_game _).symm ▸ vacant
    exact serves_conclude short joined empty (named "play" (by decide))
  · split
    · rw [doWatch, Game.leave_vacant vacant]
      exact serves_conclude short vacant empty (named "watch" (by decide))
    · split
      · rw [doBet, Game.bet_vacant vacant]
        change Serves platform
          (conclude messages channel context call ⟨game, some .notPlaying, []⟩ none)
        exact serves_conclude short vacant empty silent
      · split
        · intro next values done
          rcases Results.ok_of_bind done with ⟨returned, started, rest⟩
          rcases Results.ok_of_bind started with ⟨dealt, given, after⟩
          cases after
          have still := Game.vacant_dealOne vacant given
          exact serves_conclude short still empty silent next values rest
        · exact serves_answered vacant empty

/-- The request of a posted closure has no result yet. -/
def Unfilled : Posted -> Prop
  | .play _ call _ _ => call.result = .null
  | _ => True

theorem serves_perform (short : forall value, Short (messages value)) (vacant : game.Vacant)
    {work : Posted} (unfilled : Unfilled work) :
    Serves platform (perform messages channel context game work) := by
  cases work with
  | insert session => exact serves_updated vacant (by decide)
  | erase session =>
      rw [perform, doErase, Game.surrender_vacant vacant]
      rintro next values ⟨⟩
      exact ⟨vacant, fun jv none => absurd none List.not_mem_nil⟩
  | play method call user session => exact serves_play short vacant unfilled method
  | shutdown seconds =>
      rintro next values ⟨⟩
      exact ⟨vacant, fun jv none => absurd none List.not_mem_nil⟩
  | stop =>
      rintro next values ⟨⟩
      exact ⟨vacant, fun jv none => absurd none List.not_mem_nil⟩

end Table

end Vacant

end Blackjack

end EasyProspect
