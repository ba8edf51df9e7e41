import Mathlib.Data.List.Infix
import Mathlib.Logic.Function.Basic

namespace MemberCopies

/-!
# Builders that are copied member by member

A builder has optional members, a setter for some of them, and makes an object with
members of the same names.  The setter named after a member assigns some member, and the
constructor of the object gets some members of the builder as arguments, by position, and
initialises some members of the object with them.  All this is written by hand, so a setter
may assign another member, and an argument may not be used.

The question is when an object has what was last set.  This is so exactly when no setter
that assigns another member changes it, and when the members that do not get to the object
are last set to nothing.
-/

universe u v

variable {Member : Type u} {Value : Type v}

/-- A class of builders and the constructor of its objects. -/
structure Layout (Member : Type u) where
  /-- What the setter that is named after a member assigns, if there is such a setter. -/
  assigns : Member -> Option Member
  /-- The members of the builder that are passed to the constructor. -/
  arguments : List Member
  /-- The position of the argument that initialises a member of the object. -/
  initialiser : Member -> Option Nat
  /-- A member that some setter assigns has a setter that assigns it. -/
  assigns_assigned : forall member assigned, assigns member = some assigned ->
    assigns assigned = some assigned
  /-- A member of the object is initialised with that of the builder or not at all. -/
  initialised_same : forall member other,
    ((initialiser member).bind fun position => arguments[position]?) = some other ->
      other = member

namespace Layout

/-- The member of the builder that a member of the object is initialised with. -/
def source (layout : Layout Member) (member : Member) : Option Member :=
  (layout.initialiser member).bind fun position => layout.arguments[position]?

/-- What is set for a member gets to the object. -/
def Reaches (layout : Layout Member) (member : Member) : Prop :=
  layout.assigns member = some member ∧ layout.source member = some member

/-- The call of a setter. -/
structure Call (layout : Layout Member) (Value : Type v) where
  member : Member
  assigned : Member
  assigns_eq : layout.assigns member = some assigned
  value : Option Value

variable {layout : Layout Member} [DecidableEq Member]

/-- The members of the builder after a sequence of calls. -/
def run (calls : List (layout.Call Value)) : Member -> Option Value :=
  calls.foldl (fun members call => Function.update members call.assigned call.value)
    fun _ => none

/-- The members of the object that is made after a sequence of calls. -/
def made (calls : List (layout.Call Value)) (member : Member) : Option Value :=
  (layout.source member).bind (run calls)

/-- The value that was last set, or nothing. -/
def lastSet (calls : List (layout.Call Value)) (member : Member) : Option Value :=
  calls.foldl (fun last call => if call.member = member then call.value else last) none

theorem run_concat (calls : List (layout.Call Value)) (call : layout.Call Value) :
    run (calls ++ [call]) = Function.update (run calls) call.assigned call.value := by
  rw [run, List.foldl_append]
  rfl

theorem lastSet_concat (calls : List (layout.Call Value)) (call : layout.Call Value)
    (member : Member) :
    lastSet (calls ++ [call]) member =
      if call.member = member then call.value else lastSet calls member := by
  rw [lastSet, List.foldl_append]
  rfl

/-- Every setter changes only the member it is named after, and the object has what was last
set. -/
structure Preserved (calls : List (layout.Call Value)) : Prop where
  own : forall before call, before ++ [call] <+: calls -> forall member, member ≠ call.member ->
    run (before ++ [call]) member = run before member
  held : forall member, made calls member = lastSet calls member

/-- A setter that assigns another member is only called with what that member was last set
to. -/
def Harmless (calls : List (layout.Call Value)) : Prop :=
  forall before call, before ++ [call] <+: calls -> call.assigned ≠ call.member ->
    call.value = lastSet before call.assigned

/-- What does not get to the object was last set to nothing. -/
def Dropped (calls : List (layout.Call Value)) : Prop :=
  forall member, ¬layout.Reaches member -> lastSet calls member = none

theorem Harmless.of_prefix {calls before : List (layout.Call Value)} (harmless : Harmless calls)
    (early : before <+: calls) : Harmless before :=
  fun earlier call within => harmless earlier call (within.trans early)

/-- As long as no call does harm, the builder has what was last set for the members that have
a setter of their own, and nothing else. -/
theorem run_of_harmless {calls : List (layout.Call Value)} (harmless : Harmless calls)
    (member : Member) :
    run calls member =
      if layout.assigns member = some member then lastSet calls member else none := by
  induction calls using List.reverseRecOn generalizing member with
  | nil => exact (ite_self none).symm
  | append_singleton calls call inductionHypothesis =>
      have before := inductionHypothesis (harmless.of_prefix (List.prefix_append calls [call]))
      have own := layout.assigns_assigned call.member call.assigned call.assigns_eq
      rw [run_concat, lastSet_concat]
      by_cases target : call.assigned = call.member
      · have named := call.assigns_eq
        rw [target] at named
        by_cases same : call.member = member
        · subst same
          rw [target, Function.update_self, if_pos named, if_pos rfl]
        · rw [target, Function.update_of_ne (Ne.symm same), if_neg same, before]
      · have known := harmless calls call (List.prefix_refl _) target
        have kept := before call.assigned
        rw [if_pos own, ← known] at kept
        rw [← kept, Function.update_eq_self, before]
        by_cases same : call.member = member
        · subst same
          have foreign : layout.assigns call.member ≠ some call.member := fun proper =>
            target (Option.some.inj (call.assigns_eq.symm.trans proper))
          rw [if_neg foreign, if_neg foreign]
        · rw [if_neg same]

/-- Setters that change only their members do no harm. -/
theorem harmless_of_own {calls : List (layout.Call Value)}
    (own : forall before call, before ++ [call] <+: calls -> forall member,
      member ≠ call.member -> run (before ++ [call]) member = run before member) :
    Harmless calls := by
  induction calls using List.reverseRecOn with
  | nil =>
      intro before call within
      have short := within.length_le
      rw [List.length_append] at short
      exact absurd short (Nat.not_succ_le_zero _)
  | append_singleton calls last inductionHypothesis =>
      have earlier := inductionHypothesis fun before call within =>
        own before call (within.trans (List.prefix_append calls [last]))
      intro before call within elsewhere
      rcases List.prefix_concat_iff.mp within with whole | inside
      · rcases List.append_inj' whole rfl with ⟨rfl, ends⟩
        cases ends
        have unchanged := own before last (List.prefix_refl _) last.assigned elsewhere
        rw [run_concat, Function.update_self, run_of_harmless earlier] at unchanged
        rw [unchanged]
        exact if_pos (layout.assigns_assigned last.member last.assigned last.assigns_eq)
      · exact earlier before call inside elsewhere

theorem own_of_harmless {calls : List (layout.Call Value)} (harmless : Harmless calls)
    (before : List (layout.Call Value)) (call : layout.Call Value)
    (within : before ++ [call] <+: calls) (member : Member) (other : member ≠ call.member) :
    run (before ++ [call]) member = run before member := by
  rw [run_concat]
  by_cases target : member = call.assigned
  · subst target
    have early := harmless.of_prefix ((List.prefix_append before [call]).trans within)
    rw [Function.update_self, run_of_harmless early, harmless before call within other]
    exact (if_pos (layout.assigns_assigned call.member call.assigned call.assigns_eq)).symm
  · exact Function.update_of_ne target call.value (run before)

theorem made_of_harmless {calls : List (layout.Call Value)} (harmless : Harmless calls)
    (member : Member) :
    (layout.Reaches member -> made calls member = lastSet calls member) ∧
      (¬layout.Reaches member -> made calls member = none) := by
  rw [made]
  cases found : layout.source member with
  | none =>
      refine ⟨fun reaches => ?_, fun _ => rfl⟩
      cases found.symm.trans reaches.2
  | some other =>
      cases layout.initialised_same member other found
      rw [Option.bind_some, run_of_harmless harmless]
      constructor
      · exact fun reaches => if_pos reaches.1
      · exact fun lost => if_neg fun proper => lost ⟨proper, found⟩

/-- When the object has what was set. -/
theorem preserved_iff (calls : List (layout.Call Value)) :
    Preserved calls <-> Harmless calls ∧ Dropped calls := by
  constructor
  · intro preserved
    have harmless := harmless_of_own preserved.own
    refine ⟨harmless, fun member lost => ?_⟩
    rw [← preserved.held member]
    exact (made_of_harmless harmless member).2 lost
  · rintro ⟨harmless, dropped⟩
    refine ⟨own_of_harmless harmless, fun member => ?_⟩
    by_cases reaches : layout.Reaches member
    · exact (made_of_harmless harmless member).1 reaches
    · rw [dropped member reaches]
      exact (made_of_harmless harmless member).2 reaches

/-- Where every setter assigns the member it is named after, no call does harm. -/
theorem harmless_of_proper
    (proper : forall member assigned, layout.assigns member = some assigned -> assigned = member)
    (calls : List (layout.Call Value)) : Harmless calls :=
  fun _ call _ elsewhere => absurd (proper call.member call.assigned call.assigns_eq) elsewhere

end Layout

end MemberCopies
