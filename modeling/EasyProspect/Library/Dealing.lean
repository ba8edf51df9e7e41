import Mathlib.Data.List.Perm.Basic

namespace Dealing

/-!
# Dealing from piles

Cards are dealt from the top of a pile, and a pile that is used up is replaced by another one
of the same cards.  How the piles are shuffled does not matter: the cards that have been dealt
always split into whole piles and the beginning of one.
-/

universe u

variable {Card : Type u}

/-- The cards that have been dealt, and those that are left in the pile. -/
inductive Dealt (full : List Card) : List Card -> List Card -> Prop
  | opened {pile : List Card} (whole : pile.Perm full) : Dealt full [] pile
  | dealt {cards pile : List Card} {card : Card} (before : Dealt full cards (card :: pile)) :
      Dealt full (cards ++ [card]) pile
  | renewed {cards pile : List Card} (before : Dealt full cards []) (whole : pile.Perm full) :
      Dealt full cards pile

/-- The cards are those of some whole piles, and of the beginning of one. -/
def WholePiles (full cards : List Card) : Prop :=
  Exists fun piles : List (List Card) => Exists fun last => cards = piles.flatten ++ last ∧
    (forall pile, pile ∈ piles -> pile.Perm full) ∧
      Exists fun pile : List Card => pile.Perm full ∧ last <+: pile

variable {full cards left : List Card}

/-- What has been dealt from the last pile makes up a pile with what is left of it. -/
theorem Dealt.piles (dealt : Dealt full cards left) :
    Exists fun piles : List (List Card) => Exists fun last => cards = piles.flatten ++ last ∧
      (forall pile, pile ∈ piles -> pile.Perm full) ∧ (last ++ left).Perm full := by
  induction dealt with
  | opened whole =>
      refine ⟨[], [], rfl, ?_, whole⟩
      intro pile none
      cases none
  | @dealt cards pile card before inductionHypothesis =>
      rcases inductionHypothesis with ⟨piles, last, split, wholes, rest⟩
      refine ⟨piles, last ++ [card], ?_, wholes, ?_⟩
      · rw [split, List.append_assoc]
      · rw [List.append_assoc]
        exact rest
  | renewed before whole inductionHypothesis =>
      rcases inductionHypothesis with ⟨piles, last, split, wholes, rest⟩
      rw [List.append_nil] at rest
      refine ⟨piles ++ [last], [], ?_, ?_, whole⟩
      · rw [split, List.flatten_append, List.flatten_singleton, List.append_nil]
      · intro pile member
        rcases List.mem_append.mp member with earlier | ended
        · exact wholes pile earlier
        · rw [List.mem_singleton.mp ended]
          exact rest

/-- Whole piles are dealt. -/
theorem Dealt.wholePiles (dealt : Dealt full cards left) : WholePiles full cards := by
  rcases dealt.piles with ⟨piles, last, split, wholes, rest⟩
  exact ⟨piles, last, split, wholes, last ++ left, rest, List.prefix_append last left⟩

end Dealing
