import EasyProspect.Blackjack
import EasyProspect.Library.Dealing
import Mathlib.Data.List.Range

namespace EasyProspect

/-!
# The shoe

A shoe holds some decks.  It is shuffled when it is made, and again when a card is dealt and
none is left, so what is dealt are whole shoes one after the other.

Each call of `shuffle` has results of `rand` of its own, and any sequence of results can be cut
up into those of the calls.
-/

namespace Blackjack

namespace Shoe

/-- The cards of so many decks. -/
def decksOfCards (decks : Nat) : List Int8 :=
  (List.replicate decks ((List.range' 1 52).map Int8.ofNat)).flatten

/-- The cards that so many calls of `deal` return; `rands` gives the results of `rand` in each
of them. -/
def deals (rands : Nat -> Nat -> Nat) (shoe : Shoe) : Nat -> Except GameFault (List Int8 × Shoe)
  | 0 => .ok ([], shoe)
  | count + 1 => do
      let (cards, shoe) <- deals rands shoe count
      let (card, shoe) <- shoe.deal (rands count)
      .ok (cards ++ [card], shoe)

/-- `shuffle` does not divide by zero, and stays within the cards. -/
def SwapsInside (rand : Nat -> Nat) (size : Nat) : Prop :=
  forall i, i < size - 1 -> size - i ≠ 0 ∧ i < size ∧ i + rand i % (size - i) < size

/-! ## One shuffle -/

theorem swapsInside (rand : Nat -> Nat) (size : Nat) : SwapsInside rand size := by
  intro i inside
  have below := Nat.mod_lt (rand i) (show 0 < size - i by omega)
  omega

theorem swapStep_perm (rand : Nat -> Nat) {cards : Array Int8} {i : Nat}
    (inside : i < cards.size - 1) :
    Exists fun next => swapStep rand cards i = .ok next ∧ next.Perm cards := by
  rcases swapsInside rand cards.size i inside with ⟨_, own, other⟩
  refine ⟨cards.swap i (i + rand i % (cards.size - i)) own other, ?_, Array.swap_perm own other⟩
  rw [swapStep]
  exact dif_pos ⟨own, other⟩

theorem sorted_decks (decks : Nat) : (sorted (decks * 52)).toList = decksOfCards decks := by
  rw [sorted, decksOfCards, Array.toList_map, Array.toList_range]
  induction decks with
  | zero => rfl
  | succ decks inductionHypothesis =>
      have last : (List.range 52).map (fun i => Int8.ofNat (1 + (decks * 52 + i) % 52)) =
          (List.range' 1 52).map Int8.ofNat := by
        rw [List.range'_eq_map_range, List.map_map]
        apply List.map_congr_left
        intro i member
        rw [Nat.mul_add_mod_of_lt (List.mem_range.mp member)]
        rfl
      rw [Nat.succ_mul, List.range_add, List.map_append, inductionHypothesis, List.map_map,
        List.replicate_succ', List.flatten_append, List.flatten_singleton, ← last]
      rfl

theorem length_decks (decks : Nat) : (decksOfCards decks).length = decks * 52 := by
  rw [← sorted_decks, sorted]
  simp only [Array.toList_map, Array.toList_range, List.length_map, List.length_range]

theorem size_of_perm {decks : Nat} {cards : Array Int8}
    (same : cards.toList.Perm (decksOfCards decks)) : cards.size = decks * 52 := by
  rw [← length_decks, ← same.length_eq, Array.length_toList]

/-- A shuffle of some decks has the cards of these decks. -/
theorem shuffle_decks (rand : Nat -> Nat) {decks : Nat} (positive : 1 ≤ decks) {shoe : Shoe}
    (size : shoe.cards.size = decks * 52) :
    Exists fun cards => shoe.shuffle rand = .ok ⟨cards, 0⟩ ∧
      cards.toList.Perm (decksOfCards decks) := by
  have filled : shoe.cards.size ≠ 0 := by omega
  have sortedSize : (sorted shoe.cards.size).size = shoe.cards.size := by
    simp only [sorted, Array.size_map, Array.size_range]
  have kept : forall cards i, i ∈ List.range (shoe.cards.size - 1) ->
      cards.Perm (sorted shoe.cards.size) -> Exists fun next =>
        swapStep rand cards i = .ok next ∧ next.Perm (sorted shoe.cards.size) := by
    intro cards i member before
    have inside : i < cards.size - 1 := by
      rw [before.size_eq, sortedSize]
      exact List.mem_range.mp member
    rcases swapStep_perm rand inside with ⟨next, swapped, same⟩
    exact ⟨next, swapped, same.trans before⟩
  rcases Results.foldlM_ok .rfl kept with ⟨cards, shuffled, ended⟩
  refine ⟨cards, ?_, ?_⟩
  · rw [shuffle, if_neg filled, shuffled]
    rfl
  · rw [← sorted_decks, ← size]
    exact ended.toList

/-! ## Dealing -/

/-- What a shoe of some decks has dealt, and where it is. -/
structure Holding (decks : Nat) (dealt : List Int8) (shoe : Shoe) : Prop where
  size : shoe.cards.size = decks * 52
  inside : shoe.pos ≤ shoe.cards.size
  dealt : Dealing.Dealt (decksOfCards decks) dealt (shoe.cards.toList.drop shoe.pos)

/-- The number of the cards is an int greater than zero. -/
def Makes (decks : Int32) : Prop :=
  1 ≤ decks ∧ decks ≤ 41297762

instance (decks : Int32) : Decidable (Makes decks) :=
  inferInstanceAs (Decidable (1 ≤ decks ∧ decks ≤ 41297762))

theorem makes_iff (decks : Int32) :
    Makes decks <-> 0 < decks.toInt * 52 ∧ decks.toInt * 52 ≤ Int32.maxValue.toInt := by
  have one : (1 : Int32).toInt = 1 := by decide
  have most : (41297762 : Int32).toInt = 41297762 := by decide
  have largest : Int32.maxValue.toInt = 2147483647 := by decide
  rw [Makes, Int32.le_iff_toInt_le, Int32.le_iff_toInt_le, one, most, largest]
  omega

theorem create_of_makes (rand : Nat -> Nat) {decks : Int32} (makes : Makes decks) :
    create rand decks = shuffle rand ⟨.replicate (decks.toInt.toNat * 52) 0, 0⟩ := by
  rcases (makes_iff decks).mp makes with ⟨positive, fits⟩
  have smallest : Int32.minValue.toInt = -2147483648 := by decide
  have size : (decks.toInt * 52).toNat = decks.toInt.toNat * 52 := by omega
  rw [create, if_neg (by omega), if_neg (by omega), size]

theorem create_holding (rand : Nat -> Nat) {decks : Int32} (makes : Makes decks) :
    Exists fun shoe => create rand decks = .ok shoe ∧ shoe.Holding decks.toInt.toNat [] := by
  have positive : 1 ≤ decks.toInt.toNat := by
    have product := ((makes_iff decks).mp makes).1
    omega
  have size : (⟨.replicate (decks.toInt.toNat * 52) 0, 0⟩ : Shoe).cards.size =
      decks.toInt.toNat * 52 := Array.size_replicate
  rcases shuffle_decks rand positive size with ⟨cards, shuffled, kept⟩
  exact ⟨⟨cards, 0⟩, (create_of_makes rand makes).trans shuffled, size_of_perm kept,
    Nat.zero_le _, .opened kept⟩

/-- A shoe without decks is not made, and none of too many. -/
theorem makes_of_create {rand : Nat -> Nat} {decks : Int32} {shoe : Shoe}
    (made : create rand decks = .ok shoe) : Makes decks := by
  rw [makes_iff]
  rw [create] at made
  split at made
  · cases made
  · rename_i inside
    split at made
    · cases made
    · rename_i natural
      by_cases nothing : decks.toInt * 52 = 0
      · rw [nothing] at made
        cases made
      · omega

theorem holding_of_create {rand : Nat -> Nat} {decks : Int32} {shoe : Shoe}
    (made : create rand decks = .ok shoe) :
    1 ≤ decks.toInt.toNat ∧ shoe.Holding decks.toInt.toNat [] := by
  have makes := makes_of_create made
  rcases create_holding rand makes with ⟨other, same, holding⟩
  cases made.symm.trans same
  have product := ((makes_iff decks).mp makes).1
  exact ⟨by omega, holding⟩

theorem one_deck : Makes 1 := by
  decide

/-- The card at the place of the shoe is dealt. -/
theorem Holding.next {decks : Nat} {dealt : List Int8} {shoe : Shoe}
    (holding : shoe.Holding decks dealt) (more : shoe.pos < shoe.cards.size) :
    Exists fun card => shoe.cards[shoe.pos]? = some card ∧
      { shoe with pos := shoe.pos + 1 }.Holding decks (dealt ++ [card]) := by
  refine ⟨shoe.cards[shoe.pos], Array.getElem?_eq_getElem more, holding.size, more, .dealt ?_⟩
  have top := List.drop_eq_getElem_cons (l := shoe.cards.toList) more
  rw [Array.getElem_toList] at top
  exact top ▸ holding.dealt

/-- A shoe that has run out is shuffled. -/
theorem Holding.renewed (rand : Nat -> Nat) {decks : Nat} (positive : 1 ≤ decks)
    {dealt : List Int8} {shoe : Shoe} (holding : shoe.Holding decks dealt)
    (out : shoe.pos = shoe.cards.size) :
    Exists fun cards => shoe.shuffle rand = .ok ⟨cards, 0⟩ ∧
      Holding decks dealt ⟨cards, 0⟩ ∧ 0 < cards.size := by
  rcases shuffle_decks rand positive holding.size with ⟨cards, shuffled, kept⟩
  have size := size_of_perm kept
  have empty : shoe.cards.toList.drop shoe.pos = [] :=
    List.drop_eq_nil_of_le (by rw [out, Array.length_toList])
  refine ⟨cards, shuffled, ⟨size, Nat.zero_le _, ?_⟩, by omega⟩
  exact .renewed (empty ▸ holding.dealt) kept

theorem deal_of_top {rand : Nat -> Nat} {shoe full : Shoe} {card : Int8}
    (ready : (if shoe.pos = shoe.cards.size then shoe.shuffle rand else .ok shoe) = .ok full)
    (top : full.cards[full.pos]? = some card) :
    shoe.deal rand = .ok (card, { full with pos := full.pos + 1 }) := by
  rw [Shoe.deal]
  split
  · rename_i out
    rw [if_pos out] at ready
    simp only [ready, bind, Except.bind, top]
  · rename_i more
    rw [if_neg more] at ready
    cases ready
    simp only [bind, Except.bind, top]

/-- A deal succeeds, whatever the shoe has dealt before. -/
theorem Holding.deal (rand : Nat -> Nat) {decks : Nat} (positive : 1 ≤ decks)
    {dealt : List Int8} {shoe : Shoe} (holding : shoe.Holding decks dealt) :
    Exists fun card => Exists fun next => shoe.deal rand = .ok (card, next) ∧
      next.Holding decks (dealt ++ [card]) := by
  by_cases out : shoe.pos = shoe.cards.size
  · rcases holding.renewed rand positive out with ⟨cards, shuffled, again, more⟩
    rcases again.next more with ⟨card, top, after⟩
    exact ⟨card, _, deal_of_top ((if_pos out).trans shuffled) top, after⟩
  · rcases holding.next (Nat.lt_of_le_of_ne holding.inside out) with ⟨card, top, after⟩
    exact ⟨card, _, deal_of_top (if_neg out) top, after⟩

theorem Holding.deals (rands : Nat -> Nat -> Nat) {decks : Nat} (positive : 1 ≤ decks)
    {shoe : Shoe} (holding : shoe.Holding decks []) (count : Nat) :
    Exists fun cards => Exists fun next => shoe.deals rands count = .ok (cards, next) ∧
      cards.length = count ∧ next.Holding decks cards := by
  induction count with
  | zero => exact ⟨[], shoe, rfl, rfl, holding⟩
  | succ count inductionHypothesis =>
      rcases inductionHypothesis with ⟨cards, next, dealt, length, after⟩
      rcases after.deal (rands count) positive with ⟨card, last, more, ended⟩
      refine ⟨cards ++ [card], last, ?_, ?_, ended⟩
      · simp only [Shoe.deals, dealt]
        change (next.deal (rands count) >>= _) = _
        rw [more]
        rfl
      · rw [List.length_append, List.length_singleton, length]

/-- A shoe is made of some decks, and a number of cards is dealt from it: whole shoes one after
the other, from places within the cards. -/
def DealsWholeDecks (decks : Int32) (first : Nat -> Nat) (rands : Nat -> Nat -> Nat)
    (count : Nat) : Prop :=
  Exists fun made => create first decks = .ok made ∧
    Exists fun cards => Exists fun shoe => made.deals rands count = .ok (cards, shoe) ∧
      cards.length = count ∧ Dealing.WholePiles (decksOfCards decks.toInt.toNat) cards ∧
        (decksOfCards decks.toInt.toNat).length = 52 * decks.toInt.toNat ∧
          shoe.pos ≤ shoe.cards.size ∧ shoe.cards.size = 52 * decks.toInt.toNat ∧
            SwapsInside first (52 * decks.toInt.toNat) ∧
              forall deal, SwapsInside (rands deal) (52 * decks.toInt.toNat)

/-- Whatever `rand` returns, a shoe deals whole decks exactly when the number of its cards is an
int greater than zero. -/
theorem deals_whole_decks_iff (decks : Int32) (first : Nat -> Nat) (rands : Nat -> Nat -> Nat)
    (count : Nat) :
    DealsWholeDecks decks first rands count <-> 1 ≤ decks ∧ decks ≤ 41297762 := by
  constructor
  · rintro ⟨made, created, _⟩
    exact makes_of_create created
  · intro makes
    rcases create_holding first makes with ⟨made, created, holding⟩
    have positive := (holding_of_create created).1
    rcases holding.deals rands positive count with ⟨cards, shoe, dealt, length, after⟩
    refine ⟨made, created, cards, shoe, dealt, length, after.dealt.wholePiles, ?_, after.inside,
      ?_, swapsInside first _, fun deal => swapsInside (rands deal) _⟩
    · rw [length_decks, Nat.mul_comm]
    · rw [after.size, Nat.mul_comm]

/-- A shoe of two decks that is used up and shuffled once. -/
theorem two_decks_dealt : DealsWholeDecks 2 (fun i => i) (fun deal i => deal + i) 110 :=
  (deals_whole_decks_iff 2 (fun i => i) (fun deal i => deal + i) 110).mpr (by decide)

/-- One deck more, and the number of the cards overflows. -/
theorem many_decks_not_dealt : ¬forall (decks : Int32) (first : Nat -> Nat)
    (rands : Nat -> Nat -> Nat) (count : Nat), 1 ≤ decks ->
      DealsWholeDecks decks first rands count := by
  intro always
  rcases always 41297763 (fun i => i) (fun _ i => i) 0 (by decide) with ⟨made, created, _⟩
  exact absurd (makes_of_create created) (by decide)

end Shoe

/-- A game with a deck or more can be made, up to the number that overflows. -/
theorem Game.create_ok (rand : Nat -> Nat) {decks : Int32} (makes : Shoe.Makes decks) :
    Exists fun game => create rand decks = .ok game := by
  rcases Shoe.create_holding rand makes with ⟨shoe, made, _⟩
  rw [create, made]
  exact ⟨_, rfl⟩

end Blackjack

end EasyProspect
