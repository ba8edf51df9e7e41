import EasyProspect.Blackjack
import Mathlib.Algebra.BigOperators.Group.List.Basic
import Mathlib.Algebra.Order.BigOperators.Group.List

namespace EasyProspect

/-!
# The value of a hand

`eval` adds up the numbers of the cards, from 1 to 52, and takes only the first of them for an
ace.  `value` gives what a card counts in the game.  A hand has at most 22 cards, so that the
totals are small.
-/

namespace Blackjack

namespace Hand

/-- `value`. -/
def value (c : Int8) : Int :=
  let v := 1 + (c.toInt - 1).tmod 13
  if 10 < v then 10 else v

/-- The loop of `eval` over the cards: the aces, and the total. -/
def tally (cards : List Int8) : Nat × Int :=
  cards.foldl (fun (counted : Nat × Int) c =>
    if c ≠ 1 then (counted.1, counted.2 + c.toInt) else (counted.1 + 1, counted.2 + 11)) (0, 0)

/-- The loop of `eval` that counts aces as one. -/
def lower : Nat -> Int -> Int
  | 0, total => total
  | aces + 1, total => if 21 < total then lower aces (total - 10) else total

/-- `eval`. -/
def eval (hand : Hand) : Hand :=
  let (aces, total) := tally hand.cards
  let total := lower aces total
  { hand with
    busted := decide (21 < total)
    twentyOne := decide (total = 21)
    blackjack := decide (total = 21) && decide (hand.cards.length = 2) }

/-! ## What a hand counts -/

/-- A total of a hand: each ace counts one or eleven. -/
inductive Counts : List Int8 -> Int -> Prop
  | none : Counts [] 0
  | card (c : Int8) {cards : List Int8} {total : Int} (rest : Counts cards total) :
      Counts (c :: cards) (value c + total)
  | ace {c : Int8} {cards : List Int8} {total : Int} (one : value c = 1)
      (rest : Counts cards total) : Counts (c :: cards) (11 + total)

/-- The total with every ace as one. -/
def least (cards : List Int8) : Int :=
  (cards.map value).sum

/-- The largest total that is not above 21. -/
structure Best (cards : List Int8) (total : Int) : Prop where
  counts : Counts cards total
  within : total ≤ 21
  largest : forall other, Counts cards other -> other ≤ 21 -> other ≤ total

/-- A hand knows what it is worth. -/
structure Judged (hand : Hand) : Prop where
  busted : hand.busted = true <-> 21 < least hand.cards
  twentyOne : hand.twentyOne = true <-> Best hand.cards 21
  blackjack : hand.blackjack = true <-> hand.twentyOne = true ∧ hand.cards.length = 2

/-- The cards of a shoe. -/
def Proper (cards : List Int8) : Prop :=
  forall c, c ∈ cards -> 1 ≤ c.toInt ∧ c.toInt ≤ 52

instance (cards : List Int8) : Decidable (Proper cards) :=
  List.decidableBAll (fun c : Int8 => 1 ≤ c.toInt ∧ c.toInt ≤ 52) cards

/-- The sum of the numbers of the cards. -/
def numbers (cards : List Int8) : Int :=
  (cards.map Int8.toInt).sum

/-- All aces, and those that `eval` takes for one. -/
def aces (cards : List Int8) : Nat :=
  cards.countP fun c => decide (value c = 1)

def ones (cards : List Int8) : Nat :=
  cards.countP fun c => decide (c = 1)

/-- The numbers tell the same as the values. -/
def NumbersDo (cards : List Int8) : Prop :=
  (forall c, c ∈ cards -> c.toInt ≤ 10) ∨ 21 < least cards ∨
    numbers cards ≤ 20 ∧ ¬(least cards = 11 ∧ 1 ∈ cards)

instance (cards : List Int8) : Decidable (NumbersDo cards) :=
  letI : Decidable (forall c, c ∈ cards -> c.toInt ≤ 10) :=
    List.decidableBAll (fun c : Int8 => c.toInt ≤ 10) cards
  inferInstanceAs (Decidable ((forall c, c ∈ cards -> c.toInt ≤ 10) ∨ 21 < least cards ∨
    numbers cards ≤ 20 ∧ ¬(least cards = 11 ∧ 1 ∈ cards)))

variable {cards : List Int8} {c : Int8}

/-! ## Values -/

theorem value_eq (positive : 1 ≤ c.toInt) :
    value c = if 10 < 1 + (c.toInt - 1) % 13 then 10 else 1 + (c.toInt - 1) % 13 := by
  rw [value, Int.tmod_eq_emod_of_nonneg (by omega)]

theorem value_pos (positive : 1 ≤ c.toInt) : 1 ≤ value c := by
  rw [value_eq positive]
  split
  · decide
  · omega

theorem value_le (positive : 1 ≤ c.toInt) : value c ≤ c.toInt := by
  rw [value_eq positive]
  split
  · omega
  · omega

theorem value_of_small (positive : 1 ≤ c.toInt) (small : c.toInt ≤ 10) : value c = c.toInt := by
  rw [value_eq positive]
  split
  · omega
  · omega

/-- A card between 11 and 21: a court card of the first suit, or a card of the second one. -/
theorem value_of_large (large : 10 < c.toInt) (bounded : c.toInt ≤ 21) :
    c.toInt ≤ 13 ∧ value c = 10 ∨ 13 < c.toInt ∧ value c = c.toInt - 13 := by
  rw [value_eq (by omega)]
  split
  · omega
  · omega

theorem eq_one_iff (c : Int8) : c = 1 <-> c.toInt = 1 := by
  rw [← Int8.toInt_inj]
  rfl

/-! ## Totals -/

theorem least_cons (c : Int8) (cards : List Int8) :
    least (c :: cards) = value c + least cards := by
  rw [least, List.map_cons, List.sum_cons, least]

theorem numbers_cons (c : Int8) (cards : List Int8) :
    numbers (c :: cards) = c.toInt + numbers cards := by
  rw [numbers, List.map_cons, List.sum_cons, numbers]

theorem aces_cons (c : Int8) (cards : List Int8) :
    aces (c :: cards) = aces cards + if value c = 1 then 1 else 0 := by
  simp only [aces, List.countP_cons, decide_eq_true_eq]

theorem ones_cons (c : Int8) (cards : List Int8) :
    ones (c :: cards) = ones cards + if c = 1 then 1 else 0 := by
  simp only [ones, List.countP_cons, decide_eq_true_eq]

/-- A total is the least one with ten more for some of the aces. -/
theorem counts_iff (cards : List Int8) (total : Int) :
    Counts cards total <-> Exists fun high : Nat => high ≤ aces cards ∧
      total = least cards + 10 * high := by
  induction cards generalizing total with
  | nil =>
      constructor
      · rintro ⟨⟩
        exact ⟨0, Nat.zero_le _, rfl⟩
      · rintro ⟨high, few, rfl⟩
        cases Nat.le_zero.mp few
        exact .none
  | cons c cards inductionHypothesis =>
      rw [aces_cons, least_cons]
      constructor
      · intro counts
        cases counts with
        | card _ rest =>
            rcases (inductionHypothesis _).mp rest with ⟨high, few, rfl⟩
            exact ⟨high, Nat.le_add_right_of_le few, by omega⟩
        | ace one rest =>
            rcases (inductionHypothesis _).mp rest with ⟨high, few, rfl⟩
            refine ⟨high + 1, ?_, ?_⟩
            · rw [if_pos one]
              exact Nat.succ_le_succ few
            · rw [one]
              omega
      · rintro ⟨high, few, rfl⟩
        by_cases enough : high ≤ aces cards
        · have rest := (inductionHypothesis (least cards + 10 * high)).mpr ⟨high, enough, rfl⟩
          rw [Int.add_assoc]
          exact .card c rest
        · have one : value c = 1 := by
            by_contra other
            rw [if_neg other] at few
            exact enough few
          rw [if_pos one] at few
          rcases Nat.exists_eq_add_one.mpr (show 0 < high by omega) with ⟨fewer, rfl⟩
          have rest := (inductionHypothesis (least cards + 10 * fewer)).mpr
            ⟨fewer, Nat.le_of_succ_le_succ few, rfl⟩
          have total : value c + least cards + 10 * ((fewer + 1 : Nat) : Int) =
              11 + (least cards + 10 * fewer) := by
            rw [one]
            omega
          rw [total]
          exact .ace one rest

/-! ## The loops -/

theorem tally_eq (cards : List Int8) :
    tally cards = (ones cards, numbers cards + 10 * (ones cards : Int)) := by
  have loop : forall (counted : Nat × Int), cards.foldl (fun (counted : Nat × Int) c =>
      if c ≠ 1 then (counted.1, counted.2 + c.toInt) else (counted.1 + 1, counted.2 + 11))
        counted =
          (counted.1 + ones cards, counted.2 + (numbers cards + 10 * (ones cards : Int))) := by
    induction cards with
    | nil =>
        intro counted
        exact Prod.ext rfl (Int.add_zero _).symm
    | cons c cards inductionHypothesis =>
        intro counted
        rw [List.foldl_cons, inductionHypothesis, ones_cons, numbers_cons]
        by_cases one : c = 1
        · have number : c.toInt = 1 := (eq_one_iff c).mp one
          rw [if_neg (not_not_intro one), if_pos one, number]
          refine Prod.ext ?_ ?_
          · dsimp only
            omega
          · dsimp only
            omega
        · rw [if_pos one, if_neg one]
          refine Prod.ext rfl ?_
          dsimp only
          omega
  rw [tally, loop]
  exact Prod.ext (Nat.zero_add _) (Int.zero_add _)

/-- As few aces as possible are lowered. -/
theorem lower_eq (aces : Nat) (low : Int) :
    Exists fun high : Nat => high ≤ aces ∧ lower aces (low + 10 * aces) = low + 10 * high ∧
      (high = 0 ∨ low + 10 * high ≤ 21) ∧ (high = aces ∨ 21 < low + 10 * (high + 1)) := by
  induction aces with
  | zero => exact ⟨0, Nat.le_refl 0, rfl, Or.inl rfl, Or.inl rfl⟩
  | succ aces inductionHypothesis =>
      rw [lower]
      split
      · rename_i over21
        rcases inductionHypothesis with ⟨high, few, lowered, fits, full⟩
        have less : low + 10 * ((aces + 1 : Nat) : Int) - 10 = low + 10 * aces := by omega
        refine ⟨high, Nat.le_succ_of_le few, less ▸ lowered, fits, ?_⟩
        rcases full with rfl | above
        · exact Or.inr (by omega)
        · exact Or.inr above
      · rename_i within
        exact ⟨aces + 1, Nat.le_refl _, rfl, Or.inr (Int.not_lt.mp within), Or.inl rfl⟩

/-- Ten more for some aces comes to 21 for 21, and for eleven with an ace. -/
theorem reaches_iff {low : Int} {aces : Nat} (few : (aces : Int) ≤ low) :
    (Exists fun high : Nat => high ≤ aces ∧ 21 = low + 10 * (high : Int)) <->
      low = 21 ∨ low = 11 ∧ 1 ≤ aces := by
  constructor
  · rintro ⟨high, some, total⟩
    omega
  · rintro (exact21 | ⟨eleven, one⟩)
    · exact ⟨0, Nat.zero_le _, by omega⟩
    · exact ⟨1, one, by omega⟩

theorem eval_busted_iff (hand : Hand) :
    hand.eval.busted = true <-> 21 < numbers hand.cards := by
  rcases lower_eq (ones hand.cards) (numbers hand.cards) with ⟨high, few, lowered, fits, full⟩
  simp only [eval, tally_eq, lowered, decide_eq_true_eq]
  omega

theorem eval_twentyOne_iff (hand : Hand) (few : (ones hand.cards : Int) ≤ numbers hand.cards) :
    hand.eval.twentyOne = true <->
      numbers hand.cards = 21 ∨ numbers hand.cards = 11 ∧ 1 ≤ ones hand.cards := by
  rcases lower_eq (ones hand.cards) (numbers hand.cards) with ⟨high, some, lowered, fits, full⟩
  simp only [eval, tally_eq, lowered, decide_eq_true_eq]
  omega

theorem eval_blackjack_iff (hand : Hand) :
    hand.eval.blackjack = true <->
      hand.eval.twentyOne = true ∧ hand.eval.cards.length = 2 := by
  simp only [eval, Bool.and_eq_true, decide_eq_true_eq]

theorem best_iff (few : (aces cards : Int) ≤ least cards) :
    Best cards 21 <-> least cards = 21 ∨ least cards = 11 ∧ 1 ≤ aces cards := by
  rw [← reaches_iff few, ← counts_iff]
  exact ⟨Best.counts, fun counts => ⟨counts, Int.le_refl 21, fun _ _ within => within⟩⟩

/-! ## Numbers and values -/

theorem Proper.tail (proper : Proper (c :: cards)) : Proper cards :=
  fun other member => proper other (List.mem_cons_of_mem c member)

theorem Proper.perm {others : List Int8} (proper : Proper cards) (same : cards.Perm others) :
    Proper others :=
  fun c member => proper c (same.mem_iff.mpr member)

/-- What is known of the sums for every hand. -/
theorem Proper.sums (proper : Proper cards) :
    (aces cards : Int) ≤ least cards ∧ (ones cards : Int) ≤ numbers cards ∧
      least cards ≤ numbers cards := by
  induction cards with
  | nil => exact ⟨Int.le_refl 0, Int.le_refl 0, Int.le_refl 0⟩
  | cons c cards inductionHypothesis =>
      rcases inductionHypothesis proper.tail with ⟨few, fewer, lower⟩
      have positive := (proper c List.mem_cons_self).1
      have own := value_pos positive
      have bounded := value_le positive
      rw [aces_cons, ones_cons, least_cons, numbers_cons]
      split
      · split
        · omega
        · omega
      · split
        · omega
        · omega

/-- Up to ten, numbers are values. -/
theorem Proper.small (proper : Proper cards) (small : forall c, c ∈ cards -> c.toInt ≤ 10) :
    least cards = numbers cards ∧ aces cards = ones cards := by
  induction cards with
  | nil => exact ⟨rfl, rfl⟩
  | cons c cards inductionHypothesis =>
      rcases inductionHypothesis proper.tail
        fun other member => small other (List.mem_cons_of_mem c member) with ⟨sums, counts⟩
      have own := value_of_small (proper c List.mem_cons_self).1 (small c List.mem_cons_self)
      rw [least_cons, numbers_cons, aces_cons, ones_cons, own, sums, counts]
      simp only [eq_one_iff, and_self]

theorem Proper.number_le (proper : Proper cards) (member : c ∈ cards) :
    c.toInt ≤ numbers cards := by
  refine List.single_le_sum ?_ c.toInt (List.mem_map_of_mem member)
  intro number inside
  rcases List.mem_map.mp inside with ⟨other, among, rfl⟩
  exact (Int.le_of_lt Int.one_pos).trans (proper other among).1

theorem perm_sums {others : List Int8} (same : cards.Perm others) :
    numbers cards = numbers others ∧ least cards = least others ∧ aces cards = aces others ∧
      ones cards = ones others :=
  ⟨(same.map Int8.toInt).sum_eq, (same.map value).sum_eq, same.countP_eq _, same.countP_eq _⟩

/-- Where the numbers come to 21 at most, there is only one card above ten. -/
theorem Proper.large (proper : Proper cards) (member : c ∈ cards) (large : 10 < c.toInt)
    (bounded : numbers cards ≤ 21) :
    Exists fun rest : Int => Exists fun count : Nat => (count : Int) ≤ rest ∧
      numbers cards = c.toInt + rest ∧ least cards = value c + rest ∧
        aces cards = count + (if value c = 1 then 1 else 0) ∧ ones cards = count := by
  have same := List.perm_cons_erase member
  rcases perm_sums same with ⟨numbersEq, leastEq, acesEq, onesEq⟩
  have others := (proper.perm same).tail
  rw [numbers_cons] at numbersEq
  rw [least_cons] at leastEq
  rw [aces_cons] at acesEq
  have other : ¬c = 1 := by
    rw [eq_one_iff]
    omega
  rw [ones_cons, if_neg other] at onesEq
  have small : forall other, other ∈ cards.erase c -> other.toInt ≤ 10 := by
    intro other among
    have within := others.number_le among
    omega
  rcases others.small small with ⟨sums, counts⟩
  refine ⟨numbers (cards.erase c), ones (cards.erase c), others.sums.2.1, numbersEq, ?_, ?_,
    onesEq⟩
  · rw [leastEq, sums]
  · rw [acesEq, counts]

theorem one_mem_iff (cards : List Int8) : 1 ∈ cards <-> 1 ≤ ones cards := by
  rw [ones, Nat.succ_le_iff, List.countP_pos_iff]
  constructor
  · intro member
    exact ⟨1, member, rfl⟩
  · rintro ⟨c, member, one⟩
    exact of_decide_eq_true one ▸ member

/-- What there is to judge comes down to four sums. -/
theorem judged_iff (hand : Hand) (proper : Proper hand.cards) :
    hand.eval.Judged <-> (21 < numbers hand.cards <-> 21 < least hand.cards) ∧
      (numbers hand.cards = 21 ∨ numbers hand.cards = 11 ∧ 1 ≤ ones hand.cards <->
        least hand.cards = 21 ∨ least hand.cards = 11 ∧ 1 ≤ aces hand.cards) := by
  have sums := proper.sums
  have same : hand.eval.cards = hand.cards := rfl
  constructor
  · rintro ⟨busted, twentyOne, _⟩
    rw [same] at busted twentyOne
    rw [← eval_busted_iff, ← eval_twentyOne_iff hand sums.2.1, ← best_iff sums.1]
    exact ⟨busted, twentyOne⟩
  · rintro ⟨busted, twentyOne⟩
    refine ⟨?_, ?_, eval_blackjack_iff hand⟩
    · rw [eval_busted_iff, same]
      exact busted
    · rw [eval_twentyOne_iff hand sums.2.1, same, best_iff sums.1]
      exact twentyOne

/-- When a hand of the cards of a shoe knows what it is worth. -/
theorem eval_judged_iff (hand : Hand) (proper : Proper hand.cards) :
    hand.eval.Judged <-> NumbersDo hand.cards := by
  have sums := proper.sums
  rw [judged_iff hand proper, NumbersDo, one_mem_iff]
  by_cases small : forall c, c ∈ hand.cards -> c.toInt ≤ 10
  · rcases proper.small small with ⟨same, counts⟩
    rw [same, counts]
    exact ⟨fun _ => Or.inl small, fun _ => ⟨Iff.rfl, Iff.rfl⟩⟩
  · rw [or_iff_right small]
    rcases not_forall₂.mp small with ⟨c, member, above⟩
    have large := Int.not_le.mp above
    by_cases bounded : numbers hand.cards ≤ 21
    · rcases proper.large member large bounded with
        ⟨rest, count, few, numbersEq, leastEq, acesEq, onesEq⟩
      rcases value_of_large large (by omega) with ⟨court, ten⟩ | ⟨second, lower⟩
      · rw [numbersEq, leastEq, acesEq, onesEq, ten]
        simp only [show ¬((10 : Int) = 1) by decide, if_false]
        omega
      · rw [numbersEq, leastEq, acesEq, onesEq, lower]
        split
        · omega
        · omega
    · omega

/-- The king and the ace of the first suit. -/
def kingAndAce : Hand :=
  { create with cards := [13, 1] }

/-- A queen, an ace and a five. -/
def queenAceFive : Hand :=
  { create with cards := [12, 1, 5] }

/-- Two courts and a five, which are too many. -/
def courtsAndFive : Hand :=
  { create with cards := [13, 24, 5] }

theorem court_hands_judged : queenAceFive.eval.Judged ∧ courtsAndFive.eval.Judged :=
  ⟨(eval_judged_iff queenAceFive (by decide)).mpr (by decide),
    (eval_judged_iff courtsAndFive (by decide)).mpr (by decide)⟩

/-- A blackjack that is not seen. -/
theorem kingAndAce_not_judged :
    ¬forall hand : Hand, Proper hand.cards -> hand.eval.Judged := by
  intro always
  have proper : Proper kingAndAce.cards := by decide
  have sums := ((judged_iff kingAndAce proper).mp (always kingAndAce proper)).2
  exact absurd (sums.mpr (by decide)) (by decide)

end Hand

end Blackjack

end EasyProspect
