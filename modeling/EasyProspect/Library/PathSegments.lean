import Mathlib.Data.List.Infix

namespace PathSegments

/-!
# The segments of a path

A path is a list of characters, of which some are separators.  Its segments are the pieces between
separators that are not empty, so repeated separators and those at the ends do not count.
-/

universe u

variable {Character : Type u} (separator : Character -> Bool)

def segments (path : List Character) : List (List Character) :=
  (path.splitOnP separator).filter fun segment => !segment.isEmpty

variable {separator}

/-- At a separator the segments of both sides are put together. -/
theorem segments_append_cons (first second : List Character) {between : Character}
    (separates : separator between = true) :
    segments separator (first ++ between :: second) =
      segments separator first ++ segments separator second := by
  rw [segments, List.splitOnP_append_cons first second separates, List.filter_append]
  rfl

theorem segments_cons {head : Character} (separates : separator head = true)
    (path : List Character) : segments separator (head :: path) = segments separator path :=
  segments_append_cons [] path separates

/-- What begins with a separator can be appended. -/
theorem segments_append {first second : List Character} {head : Character}
    (begins : second.head? = some head) (separates : separator head = true) :
    segments separator (first ++ second) =
      segments separator first ++ segments separator second := by
  cases second with
  | nil => cases begins
  | cons other second =>
      cases begins
      rw [segments_append_cons first second separates, segments_cons separates]

/-- The first piece begins the path, and every other one is inside of it. -/
theorem splitOnP_pieces (separator : Character -> Bool) (path : List Character) :
    Exists fun head => Exists fun rest => path.splitOnP separator = head :: rest ∧
      head <+: path ∧ forall piece, piece ∈ rest -> piece <:+: path := by
  induction path with
  | nil => exact ⟨[], [], rfl, List.prefix_refl _, fun _ member => nomatch member⟩
  | cons character path inductionHypothesis =>
      rcases inductionHypothesis with ⟨head, rest, split, begins, inside⟩
      rw [List.splitOnP_cons_eq_if_modifyHead, split]
      by_cases separates : separator character = true
      · rw [if_pos separates]
        refine ⟨[], head :: rest, rfl, List.nil_prefix, fun piece member => ?_⟩
        rcases List.mem_cons.mp member with rfl | later
        · exact begins.isInfix.trans (List.suffix_cons character path).isInfix
        · exact (inside piece later).trans (List.suffix_cons character path).isInfix
      · rw [if_neg separates]
        refine ⟨character :: head, rest, rfl, ?_, fun piece member => ?_⟩
        · exact (List.prefix_cons_inj character).mpr begins
        · exact (inside piece member).trans (List.suffix_cons character path).isInfix

theorem infix_of_mem_segments {path segment : List Character}
    (member : segment ∈ segments separator path) : segment <:+: path := by
  have piece := (List.mem_filter.mp member).1
  rcases splitOnP_pieces separator path with ⟨head, rest, split, begins, inside⟩
  rw [split] at piece
  rcases List.mem_cons.mp piece with rfl | later
  · exact begins.isInfix
  · exact inside segment later

/-- Separators may be written differently. -/
theorem segments_map {rewrite : Character -> Character}
    (separates : forall character, separator (rewrite character) = separator character)
    (plain : forall character, separator character = false -> rewrite character = character)
    (path : List Character) : segments separator (path.map rewrite) = segments separator path := by
  have same : (path.map rewrite).splitOnP separator = path.splitOnP separator := by
    induction path with
    | nil => rfl
    | cons character path inductionHypothesis =>
        rw [List.map_cons, List.splitOnP_cons_eq_if_modifyHead,
          List.splitOnP_cons_eq_if_modifyHead, separates, inductionHypothesis]
        by_cases separated : separator character = true
        · rw [if_pos separated, if_pos separated]
        · rw [if_neg separated, if_neg separated, plain character (Bool.eq_false_iff.mpr separated)]
  rw [segments, same]
  rfl

end PathSegments
