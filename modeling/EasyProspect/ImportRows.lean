import EasyProspect.ImportStack

namespace EasyProspect

namespace Catalog

open Traversal Importer

/-!
# The rows of an import

`from_xml` inserts a row for each element that has one, and for the relationship of a category.
The tree walk inserts a row for each of the elements again, if their names have no prefix.
-/

namespace NodeContent

/-- Whether the element has a row of its own. -/
def inserts (content : NodeContent) : Bool :=
  (content.kind.map ElementKind.inserts).getD false

/-- Whether the tree walk inserts a row for it. -/
def walkInserts (content : NodeContent) : Bool :=
  (content.walkKind.map ElementKind.inserts).getD false

/-- The builders that get a row when the tree walk comes to the node. -/
def walkOwners (content : NodeContent) (position : Position) : List BuilderRef :=
  if content.walkInserts then [.walk position] else []

variable {content : NodeContent} {position place : Position}

theorem position_of_mem_owners {reference : BuilderRef}
    (member : reference ∈ content.owners position) : reference.position = position := by
  rw [owners] at member
  split at member
  · cases member
  · simp only [List.mem_cons, List.not_mem_nil, or_false] at member
    rcases member with rfl | rfl <;> rfl
  · split at member
    · cases List.mem_singleton.mp member
      rfl
    · cases member

theorem position_of_mem_walkOwners {reference : BuilderRef}
    (member : reference ∈ content.walkOwners position) : reference.position = position := by
  rw [walkOwners] at member
  split at member
  · cases List.mem_singleton.mp member
    rfl
  · cases member

theorem count_node_owners :
    (content.owners position).count (.node position) = if content.inserts then 1 else 0 := by
  rw [owners, inserts]
  cases content.kind with
  | none => rfl
  | some kind => cases kind <;> simp [ElementKind.inserts]

theorem count_relationship_owners :
    (content.owners position).count (.relationship position) =
      if content.kind = some .category then 1 else 0 := by
  rw [owners]
  cases content.kind with
  | none => rfl
  | some kind => cases kind <;> simp [ElementKind.inserts]

theorem mem_owners_relationship :
    .relationship place ∈ content.owners position <->
      content.kind = some .category ∧ place = position := by
  rw [owners]
  cases content.kind with
  | none => simp
  | some kind => cases kind <;> simp [ElementKind.inserts]

theorem count_walkOwners (reference : BuilderRef) :
    (content.walkOwners position).count reference =
      if content.walkInserts = true ∧ reference = .walk position then 1 else 0 := by
  rw [walkOwners]
  by_cases inserts : content.walkInserts = true
  · rw [if_pos inserts]
    by_cases same : reference = .walk position
    · rw [if_pos ⟨inserts, same⟩, same]
      exact List.count_singleton_self
    · rw [if_neg fun both => same both.2]
      exact List.count_eq_zero.mpr fun member => same (List.mem_singleton.mp member)
  · rw [if_neg inserts, if_neg fun both => inserts both.1]
    rfl

theorem count_walk_owners : (content.owners position).count (.walk position) = 0 := by
  rw [owners]
  cases content.kind with
  | none => rfl
  | some kind => cases kind <;> simp [ElementKind.inserts]

end NodeContent

/-! ## The recursion -/

section Recursion

variable {sqlite : Sqlite} {importId : UInt64} {tree : DomNode} {position place : Position}
variable {run next last : ImportRun} {content : NodeContent} {popStack : Bool}

/-- The builders that get rows in a list of nodes, in order. -/
def ownersOf (entries : List (Position × NodeContent)) : List BuilderRef :=
  entries.flatMap fun entry => entry.2.owners entry.1

/-- The rows of some builders are added, and the relationships among them are there. -/
structure Adds (owners : List BuilderRef) (run next : ImportRun) : Prop where
  rows : next.rows.map ObjectRow.builder = run.rows.map ObjectRow.builder ++ owners
  relationships : forall place, (next.builders (.relationship place)).isSome = true <->
    (run.builders (.relationship place)).isSome = true ∨ .relationship place ∈ owners

theorem Adds.nil (run : ImportRun) : Adds [] run run where
  rows := (List.append_nil _).symm
  relationships := fun place => by simp only [List.not_mem_nil, or_false]

theorem Adds.append {first second : List BuilderRef} {middle : ImportRun}
    (early : Adds first run middle) (late : Adds second middle next) :
    Adds (first ++ second) run next where
  rows := by rw [late.rows, early.rows, List.append_assoc]
  relationships := fun place => by
    rw [late.relationships, early.relationships, List.mem_append, or_assoc]

theorem Entered.adds (entered : Entered position content run popStack next) :
    Adds (content.owners position) run next where
  rows := entered.owners
  relationships := by
    intro place
    rw [NodeContent.mem_owners_relationship]
    by_cases own : content.kind = some .category ∧ place = position
    · rcases own with ⟨category, rfl⟩
      exact ⟨fun _ => Or.inr ⟨category, rfl⟩, fun _ => entered.relationship category⟩
    · simp only [own, or_false]
      have different : content.kind = some .category ->
          BuilderRef.relationship place ≠ .relationship position := by
        intro category same
        cases same
        exact own ⟨category, rfl⟩
      by_cases back : content.parentClass ≠ none ∧
          run.parseStack.getLast? = some (.relationship place)
      · rcases Option.ne_none_iff_exists'.mp back.1 with ⟨parentClass, links⟩
        rcases Option.bind_eq_some_iff.mp links with ⟨kind, known, linked⟩
        rcases entered.linked kind parentClass known linked with
          ⟨parent, builder, id, last, present, _, changed, _⟩
        cases last.symm.trans back.2
        rw [present, changed]
        exact ⟨fun _ => rfl, fun _ => rfl⟩
      · rw [entered.others (.relationship place) nofun different
          fun linked same => back ⟨linked, same⟩]

/-- The rows of a visit that returns. -/
theorem adds_of_returns {returned : Option BuilderRef} (outside : Outside position run)
    (returns : fromXml sqlite importId position tree run = .ok returned last) :
    Adds (ownersOf (tree.preorderFrom position)) run last := by
  have whole := fromXml_rule
    (fun position tree run last => Adds (ownersOf (tree.preorderFrom position)) run last)
    (fun position index children run last =>
      Adds (ownersOf (RoseTree.preorderChildren position index children)) run last)
    ?_ ?_ ?_ outside returns
  · exact whole.2.2
  · exact fun _ _ run => .nil run
  · intro position index child children run middle last _ _ own rest
    rw [RoseTree.preorderChildren, ownersOf, List.flatMap_append]
    exact own.append rest
  · intro position content children run entered done _ enters _ looped
    rw [RoseTree.preorderFrom, ownersOf, List.flatMap_cons]
    have adds := enters.adds.append looped
    exact ⟨adds.rows, adds.relationships⟩

end Recursion

/-! ## The tree walk -/

section Walk

variable {sqlite : Sqlite} {importId : UInt64} {position : Position} {content : NodeContent}
variable {run next last : ImportRun} {reference : BuilderRef} {builderClass : BuilderClass}

theorem walkObject_returns
    (returns : walkObject sqlite importId reference builderClass run = .ok ⟨⟩ next) :
    next.rows.map ObjectRow.builder = run.rows.map ObjectRow.builder ++ [reference] ∧
      forall other, other ≠ reference -> next.builders other = run.builders other := by
  rcases ok_bind.mp returns with ⟨_, first, constructed, rest⟩
  cases constructed
  rcases ok_bind.mp rest with ⟨id, second, inserted, ending⟩
  rcases insertFor_returns inserted with ⟨rowid, rfl, rfl⟩
  cases ending
  refine ⟨List.map_append, fun other different => ?_⟩
  change ((run.begun reference builderClass false).withRow importId reference
    rowid).builders other = _
  exact ImportRun.builders_new_other different

/-- The tree walk adds rows of its own, and makes no relationship for a category. -/
structure Walks (owners : List BuilderRef) (run next : ImportRun) : Prop where
  rows : next.rows.map ObjectRow.builder = run.rows.map ObjectRow.builder ++ owners
  relationships : forall place,
    next.builders (.relationship place) = run.builders (.relationship place)

theorem Walks.nil (run : ImportRun) : Walks [] run run :=
  ⟨(List.append_nil _).symm, fun _ => rfl⟩

theorem Walks.append {first second : List BuilderRef} {middle : ImportRun}
    (early : Walks first run middle) (late : Walks second middle next) :
    Walks (first ++ second) run next :=
  ⟨by rw [late.rows, early.rows, List.append_assoc],
    fun place => (late.relationships place).trans (early.relationships place)⟩

theorem walks_walkObject
    (returns : walkObject sqlite importId (.walk position) builderClass run = .ok ⟨⟩ next) :
    Walks [.walk position] run next := by
  rcases walkObject_returns returns with ⟨rows, others⟩
  exact ⟨rows, fun place => others _ nofun⟩

theorem walkOwners_of_kind {kind : ElementKind} (known : content.walkKind = some kind) :
    content.walkOwners position = if kind.inserts then [.walk position] else [] := by
  rw [NodeContent.walkOwners, NodeContent.walkInserts, known]
  rfl

theorem walks_walkNode
    (returns : walkNode sqlite importId position content run = .ok ⟨⟩ next) :
    Walks (content.walkOwners position) run next := by
  cases known : content.walkKind with
  | none =>
      simp only [walkNode, known] at returns
      cases returns
      rw [NodeContent.walkOwners, NodeContent.walkInserts, known]
      exact .nil run
  | some kind =>
      rw [walkOwners_of_kind known]
      cases kind with
      | catalog | header =>
          simp only [walkNode, known] at returns
          rcases ok_bind.mp returns with ⟨_, first, pushed, made⟩
          cases pushed
          have walks := walks_walkObject made
          exact ⟨walks.rows, walks.relationships⟩
      | category | imageSettings | internalLocation | viewTypes =>
          simp only [walkNode, known] at returns
          exact walks_walkObject returns
      | viewType | displayName =>
          simp only [walkNode, known] at returns
          cases returns
          refine ⟨(List.append_nil _).symm, fun place => ?_⟩
          have distinct : BuilderRef.relationship place ≠ .walk position := nofun
          simp only [Function.update_of_ne distinct]
      | _ =>
          simp only [walkNode, known] at returns
          cases returns
          exact .nil run

theorem walks_walkNodes {entries : List (Position × NodeContent)}
    (returns : walkNodes sqlite importId entries run = .ok ⟨⟩ last) :
    Walks (entries.flatMap fun entry => entry.2.walkOwners entry.1) run last := by
  induction entries generalizing run with
  | nil =>
      cases returns
      exact .nil _
  | cons entry entries inductionHypothesis =>
      rcases ok_bind.mp returns with ⟨_, middle, own, rest⟩
      exact (walks_walkNode own).append (inductionHypothesis rest)

end Walk

/-! ## One row for each element -/

section Counting

variable {root : DomNode} {place : Position} {reference : BuilderRef}

/-- In a list without repeated positions, the builders of a position are those of its node. -/
theorem count_flatMap_of_mem {entries : List (Position × NodeContent)}
    (nodup : (entries.map Prod.fst).Nodup) {builders : NodeContent -> Position -> List BuilderRef}
    (own : forall content position reference, reference ∈ builders content position ->
      reference.position = position)
    {content : NodeContent} (member : (reference.position, content) ∈ entries) :
    (entries.flatMap fun entry => builders entry.2 entry.1).count reference =
      (builders content reference.position).count reference := by
  induction entries with
  | nil => cases member
  | cons entry entries inductionHypothesis =>
      rw [List.map_cons, List.nodup_cons] at nodup
      rw [List.flatMap_cons, List.count_append]
      rcases List.mem_cons.mp member with rfl | later
      · have absent : reference ∉ entries.flatMap fun entry => builders entry.2 entry.1 := by
          intro below
          rcases List.mem_flatMap.mp below with ⟨entry, inside, found⟩
          refine nodup.1 (List.mem_map.mpr ⟨entry, inside, ?_⟩)
          exact (own _ _ _ found).symm
        rw [List.count_eq_zero.mpr absent, Nat.add_zero]
      · have absent : reference ∉ builders entry.2 entry.1 := by
          intro here
          refine nodup.1 (List.mem_map.mpr ⟨_, later, ?_⟩)
          exact own _ _ _ here
        rw [List.count_eq_zero.mpr absent, Nat.zero_add, inductionHypothesis nodup.2 later]

theorem count_flatMap_of_not_mem {entries : List (Position × NodeContent)}
    {builders : NodeContent -> Position -> List BuilderRef}
    (own : forall content position reference, reference ∈ builders content position ->
      reference.position = position)
    (absent : reference.position ∉ entries.map Prod.fst) :
    (entries.flatMap fun entry => builders entry.2 entry.1).count reference = 0 := by
  refine List.count_eq_zero.mpr fun below => ?_
  rcases List.mem_flatMap.mp below with ⟨entry, inside, found⟩
  exact absent (List.mem_map.mpr ⟨entry, inside, (own _ _ _ found).symm⟩)

/-- What a document has of a builder, its node has. -/
theorem count_preorder (root : DomNode) (reference : BuilderRef)
    (builders : NodeContent -> Position -> List BuilderRef)
    (own : forall content position reference, reference ∈ builders content position ->
      reference.position = position) :
    (root.preorder.flatMap fun entry => builders entry.2 entry.1).count reference =
      match root.subtree reference.position with
      | none => 0
      | some node => (builders node.label reference.position).count reference := by
  cases found : root.subtree reference.position with
  | none =>
      refine count_flatMap_of_not_mem own fun member => ?_
      rcases List.mem_map.mp member with ⟨⟨position, content⟩, present, rfl⟩
      have there := RoseTree.mem_preorder.mp present
      rw [found] at there
      cases there
  | some node =>
      refine count_flatMap_of_mem (RoseTree.nodup_preorder root) own (RoseTree.mem_preorder.mpr ?_)
      rw [found]
      rfl

end Counting

/-- How many rows the builder has got. -/
def ImportRun.rowsOf (run : ImportRun) (reference : BuilderRef) : Nat :=
  (run.rows.map ObjectRow.builder).count reference

/-- One row for each element that has rows, one for each relationship that is made, no others. -/
structure OneRowEach (root : DomNode) (last : ImportRun) : Prop where
  elements : forall place, last.rowsOf (.node place) + last.rowsOf (.walk place) =
    if (root.subtree place).any fun node => node.label.inserts then 1 else 0
  relationships : forall place, last.rowsOf (.relationship place) =
    if (last.builders (.relationship place)).isSome then 1 else 0

section Split

variable {sqlite : Sqlite} {importId : UInt64} {root : DomNode} {last : ImportRun}
variable {place : Position}

/-- The rows of an import: those of the recursion, and then those of the tree walk. -/
theorem splitDocument_rows
    (returns : splitDocument sqlite importId root .start = .ok ⟨⟩ last) :
    last.rows.map ObjectRow.builder = ownersOf root.preorder ++
        (root.preorder.flatMap fun entry => entry.2.walkOwners entry.1) ∧
      forall place, (last.builders (.relationship place)).isSome = true <->
        .relationship place ∈ ownersOf root.preorder := by
  rcases ok_bind.mp returns with ⟨returned, middle, recursed, walked⟩
  have adds := adds_of_returns (stacked_start root).outside recursed
  have walks := walks_walkNodes walked
  constructor
  · rw [walks.rows, adds.rows]
    rfl
  · intro place
    rw [walks.relationships, adds.relationships]
    exact or_iff_right nofun

/-- The rows of a builder are inserted at its node, by the recursion or by the tree walk. -/
theorem rowsOf_eq (returns : splitDocument sqlite importId root .start = .ok ⟨⟩ last)
    (reference : BuilderRef) : last.rowsOf reference =
      match root.subtree reference.position with
      | none => 0
      | some node => (node.label.owners reference.position).count reference +
          if node.label.walkInserts = true ∧ reference = .walk reference.position then 1
          else 0 := by
  rw [ImportRun.rowsOf, (splitDocument_rows returns).1, List.count_append, ownersOf,
    count_preorder root reference NodeContent.owners
      fun _ _ _ => NodeContent.position_of_mem_owners,
    count_preorder root reference NodeContent.walkOwners
      fun _ _ _ => NodeContent.position_of_mem_walkOwners]
  cases root.subtree reference.position with
  | none => rfl
  | some node => simp only [NodeContent.count_walkOwners]

theorem mem_ownersOf_relationship (root : DomNode) (place : Position) :
    .relationship place ∈ ownersOf root.preorder <->
      Exists fun node => root.subtree place = some node ∧ node.label.kind = some .category := by
  constructor
  · intro member
    rcases List.mem_flatMap.mp member with ⟨⟨position, content⟩, present, own⟩
    rcases NodeContent.mem_owners_relationship.mp own with ⟨category, rfl⟩
    rcases Option.map_eq_some_iff.mp (RoseTree.mem_preorder.mp present) with ⟨node, found, rfl⟩
    exact ⟨node, found, category⟩
  · rintro ⟨node, found, category⟩
    have present : (place, node.label) ∈ root.preorder := by
      rw [RoseTree.mem_preorder, found]
      rfl
    exact List.mem_flatMap.mpr
      ⟨_, present, NodeContent.mem_owners_relationship.mpr ⟨category, rfl⟩⟩

/-- A row for each relationship and no other, in every import that returns. -/
theorem rowsOf_relationship
    (returns : splitDocument sqlite importId root .start = .ok ⟨⟩ last) (place : Position) :
    last.rowsOf (.relationship place) =
      if (last.builders (.relationship place)).isSome then 1 else 0 := by
  have made := ((splitDocument_rows returns).2 place).trans (mem_ownersOf_relationship root place)
  have apart : ¬ BuilderRef.relationship place = .walk place := nofun
  rw [rowsOf_eq returns]
  simp only [BuilderRef.position, made, apart, and_false, if_false, Nat.add_zero]
  cases found : root.subtree place with
  | none => simp only [reduceCtorEq, false_and, exists_false, if_false]
  | some node =>
      simp only [Option.some.injEq, exists_eq_left', NodeContent.count_relationship_owners]

theorem rowsOf_element
    (returns : splitDocument sqlite importId root .start = .ok ⟨⟩ last) (place : Position) :
    last.rowsOf (.node place) + last.rowsOf (.walk place) =
      match root.subtree place with
      | none => 0
      | some node => (if node.label.inserts then 1 else 0) +
          if node.label.walkInserts then 1 else 0 := by
  have apart : ¬ BuilderRef.node place = .walk place := nofun
  rw [rowsOf_eq returns, rowsOf_eq returns]
  simp only [BuilderRef.position, apart, and_false, if_false, Nat.add_zero, and_true]
  cases found : root.subtree place with
  | none => rfl
  | some node =>
      simp only [NodeContent.count_node_owners, NodeContent.count_walk_owners, Nat.zero_add]

/-- The documents among those imported that get one row for each element. -/
theorem oneRowEach_iff (returns : splitDocument sqlite importId root .start = .ok ⟨⟩ last) :
    OneRowEach root last <->
      forall place node, root.subtree place = some node -> node.label.walkInserts = false := by
  constructor
  · intro each place node found
    have own := (rowsOf_element returns place).symm.trans (each.elements place)
    simp only [found, Option.any_some] at own
    cases again : node.label.walkInserts with
    | false => rfl
    | true =>
        rw [again, if_pos rfl] at own
        exact absurd own (Nat.succ_ne_self _)
  · intro once
    refine ⟨fun place => ?_, rowsOf_relationship returns⟩
    rw [rowsOf_element returns place]
    cases found : root.subtree place with
    | none => rfl
    | some node =>
        simp only [once place node found, Bool.false_eq_true, if_false, Nat.add_zero,
          Option.any_some]

end Split

/-- An element whose name has a prefix, so that only the recursion knows it. -/
def prefixedElement (name : String) (children : List DomNode) : DomNode :=
  .node (.element (some name) ("sf:" ++ name) []) children

/-- A catalog with a header and two categories. -/
def prefixedCatalog : DomNode :=
  prefixedElement "catalog"
    [prefixedElement "header" [prefixedElement "image-settings" []],
      prefixedElement "category" [], prefixedElement "category" []]

theorem prefixedCatalog_unwalked : forall entry, entry ∈ prefixedCatalog.preorder ->
    entry.2.walkInserts = false := by
  decide +kernel

theorem oneRowEach_prefixedCatalog : Exists fun last =>
    splitDocument counting 7 prefixedCatalog .start = .ok ⟨⟩ last ∧
      OneRowEach prefixedCatalog last := by
  have ends : faultOf (splitDocument counting 7 prefixedCatalog) = none := by decide +kernel
  rcases returns_of_faultOf ends with ⟨_, last, returns⟩
  refine ⟨last, returns, (oneRowEach_iff returns).mpr fun place node found => ?_⟩
  refine prefixedCatalog_unwalked (place, node.label) (RoseTree.mem_preorder.mpr ?_)
  rw [found]
  rfl

/-- A catalog without a prefix gets two rows. -/
theorem plainCatalog_not_oneRowEach : Exists fun last =>
    splitDocument counting 7 (plainElement "catalog" []) .start = .ok ⟨⟩ last ∧
      ¬ OneRowEach (plainElement "catalog" []) last := by
  have ends : faultOf (splitDocument counting 7 (plainElement "catalog" [])) = none := by
    decide +kernel
  rcases returns_of_faultOf ends with ⟨_, last, returns⟩
  refine ⟨last, returns, fun each => ?_⟩
  have twice : (endOf (splitDocument counting 7 (plainElement "catalog" []))).rowsOf (.node []) +
      (endOf (splitDocument counting 7 (plainElement "catalog" []))).rowsOf (.walk []) = 2 := by
    decide +kernel
  have once : ((plainElement "catalog" []).subtree []).any (fun node => node.label.inserts) =
      true := by decide +kernel
  have rows := each.elements []
  rw [once] at rows
  rw [endOf, returns] at twice
  cases twice.symm.trans rows

end Catalog

end EasyProspect
