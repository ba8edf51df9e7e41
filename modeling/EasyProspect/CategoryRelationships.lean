import EasyProspect.ImportRows
import EasyProspect.ImportTypes
import Mathlib.Algebra.BigOperators.Group.List.Defs
import Mathlib.Algebra.GroupWithZero.Nat

namespace EasyProspect

namespace Catalog

open Traversal Importer

/-!
# The relationship of a catalog's categories

A category looks into the object of its catalog for the relationship that an earlier category
has made.  The object has lost it, so every category makes one of its own, and the builder of
the catalog is left with the id of the last of them.
-/

/-! ## The categories of a catalog -/

mutual

/-- The categories that find on the stack what is there before the visit of the tree. -/
def categoriesFrom (position : Position) : DomNode -> List Position
  | .node content children =>
      if content.kind = some .category then [position]
      else if content.pushes then []
      else categoriesAmong position 0 children

def categoriesAmong (position : Position) : Nat -> List DomNode -> List Position
  | _, [] => []
  | index, child :: rest =>
      categoriesFrom (position ++ [index]) child ++ categoriesAmong position (index + 1) rest

end

/-- The categories that have the catalog for their parent: its children, and what is below
children that push no builder. -/
def categoriesOf (position : Position) (catalog : DomNode) : List Position :=
  categoriesAmong position 0 catalog.children

section Categories

variable {position place : Position} {content : NodeContent} {children : List DomNode}

theorem categoriesFrom_of_category (known : content.kind = some .category) :
    categoriesFrom position (.node content children) = [position] := by
  rw [categoriesFrom, if_pos known]

theorem categoriesFrom_of_pushes (other : content.kind ≠ some .category)
    (pushes : content.pushes = true) :
    categoriesFrom position (.node content children) = [] := by
  rw [categoriesFrom, if_neg other, if_pos pushes]

theorem categoriesFrom_of_passes (passes : content.pushes = false) :
    categoriesFrom position (.node content children) = categoriesAmong position 0 children := by
  have other : content.kind ≠ some .category := by
    intro known
    have pushes := NodeContent.pushes_of_kind known
    rw [passes] at pushes
    cases pushes
  rw [categoriesFrom, if_neg other, passes, if_neg Bool.false_ne_true]

/-- A category that is a child of the catalog is one of its categories. -/
theorem mem_categoriesAmong_child {offset : Nat} {child : DomNode}
    (present : children[offset]? = some child) (known : child.label.kind = some .category)
    (index : Nat) : position ++ [index + offset] ∈ categoriesAmong position index children := by
  induction children generalizing index offset with
  | nil => cases present
  | cons first rest inductionHypothesis =>
      rw [categoriesAmong, List.mem_append]
      cases offset with
      | zero =>
          cases present
          rcases child with ⟨content, children⟩
          change content.kind = some .category at known
          rw [categoriesFrom_of_category known]
          exact Or.inl (List.mem_singleton_self _)
      | succ offset =>
          have later := inductionHypothesis present (index + 1)
          rw [Nat.add_right_comm] at later
          exact Or.inr later

/-- The categories among some trees are nodes of them, if those of each tree are. -/
theorem mem_categoriesAmong
    (own : forall child, child ∈ children -> forall position,
      place ∈ categoriesFrom position child -> Exists fun content =>
        (place, content) ∈ child.preorderFrom position ∧ content.kind = some .category)
    {index : Nat} (member : place ∈ categoriesAmong position index children) :
    Exists fun content => (place, content) ∈ RoseTree.preorderChildren position index children ∧
      content.kind = some .category := by
  induction children generalizing index with
  | nil => cases member
  | cons child rest inductionHypothesis =>
      rw [RoseTree.preorderChildren]
      rw [categoriesAmong, List.mem_append] at member
      rcases member with here | later
      · rcases own child List.mem_cons_self _ here with ⟨content, present, known⟩
        exact ⟨content, List.mem_append_left _ present, known⟩
      · rcases inductionHypothesis (fun other among => own other (List.mem_cons_of_mem child among))
          later with ⟨content, present, known⟩
        exact ⟨content, List.mem_append_right _ present, known⟩

theorem mem_categoriesFrom (tree : DomNode) (position : Position)
    (member : place ∈ categoriesFrom position tree) : Exists fun content =>
      (place, content) ∈ tree.preorderFrom position ∧ content.kind = some .category := by
  induction tree using RoseTree.induct generalizing position with
  | node content children inductionHypothesis =>
      rw [categoriesFrom] at member
      rw [RoseTree.preorderFrom]
      split at member
      · rename_i known
        cases List.mem_singleton.mp member
        exact ⟨content, List.mem_cons_self, known⟩
      · split at member
        · cases member
        · rcases mem_categoriesAmong inductionHypothesis member with ⟨found, present, known⟩
          exact ⟨found, List.mem_cons_of_mem _ present, known⟩

theorem mem_categoriesOf {catalog : DomNode} (member : place ∈ categoriesOf position catalog) :
    Exists fun content =>
      (place, content) ∈ catalog.preorderFrom position ∧ content.kind = some .category := by
  rcases catalog with ⟨content, children⟩
  rcases mem_categoriesAmong (fun child _ position => mem_categoriesFrom child position) member with
    ⟨found, present, known⟩
  rw [RoseTree.preorderFrom]
  exact ⟨found, List.mem_cons_of_mem _ present, known⟩

/-- They are below the position. -/
theorem below_of_mem_categoriesFrom {tree : DomNode}
    (member : place ∈ categoriesFrom position tree) : position <+: place := by
  rcases mem_categoriesFrom tree position member with ⟨content, present, _⟩
  rcases (RoseTree.mem_preorderFrom tree position place content).mp present with ⟨below, rfl, _⟩
  exact List.prefix_append position below

end Categories

/-! ## The visit of a category -/

section Visit

variable {sqlite : Sqlite} {importId : UInt64} {position place : Position}
variable {content : NodeContent} {run middle done last : ImportRun} {popStack : Bool}
variable {reference : BuilderRef} {builder : SfBuilder}

/-- A category makes a relationship, whatever the catalog has, and the builder of the catalog
gets its id. -/
theorem onCategory_links (apart : Apart position run)
    (returns : onCategory sqlite importId position run = .ok popStack middle)
    (back : run.parseStack.getLast? = some reference)
    (present : run.builders reference = some builder) :
    builder.own.builderClass = .catalog ∧
      Exists fun relationship => middle.builders (.relationship position) = some relationship ∧
        middle.builders reference = some (builder.setCategory relationship.esoId) := by
  rcases ok_bind.mp returns with ⟨parent, first, topped, rest⟩
  rcases back_returns topped with ⟨bottom, rfl⟩
  cases bottom.symm.trans back
  rcases ok_bind.mp rest with ⟨catalog, second, typed, rest⟩
  rcases getObjParent_returns typed with ⟨found, there, rfl, errors, rfl⟩
  cases there.symm.trans present
  rcases ok_bind.mp rest with ⟨category, third, made, rest⟩
  rcases newParserObject_returns made with ⟨rowid, rfl, rfl⟩
  rcases apart.last back with ⟨notOwn, notRelated⟩
  rcases asCatalog_toObject builder with ⟨_, object⟩ | ⟨typedParent, object, dropped⟩
  · simp only [object] at rest
    cases rest
  · simp only [object, dropped] at rest
    rcases ok_bind.mp rest with ⟨relationship, fourth, related, rest⟩
    rcases newParserObject_returns related with ⟨relationshipRow, rfl, rfl⟩
    rcases ok_bind.mp rest with ⟨_, fifth, linking, ending⟩
    rcases changeThrough_returns linking with ⟨target, casts, rfl⟩
    rcases castBuilder_some casts with ⟨fits, rfl⟩
    cases ending
    refine ⟨fits, ((SfBuilder.make .relationship).setId (rowId relationshipRow)).setImportId
      importId, ?_, ?_⟩
    · rw [ImportRun.changed_other notRelated.symm]
      exact ImportRun.builders_new
    · rw [ImportRun.changed_self, ImportRun.builders_new_other notRelated,
        ImportRun.builders_new_other notOwn]
      exact congrArg (Option.map _) present

/-! ## What the builder of the catalog is left with -/

/-- The builder has the id of the relationship of the last of some categories, or what it had
before if there are none. -/
def Holds (categories : List Position) (before : SfBuilder) (last : ImportRun)
    (after : SfBuilder) : Prop :=
  match categories.getLast? with
  | none => after.childId .category = before.childId .category
  | some place => Exists fun relationship =>
      last.builders (.relationship place) = some relationship ∧
        after.childId .category = some relationship.esoId

/-- The back of the stack after the visit of a node. -/
def HoldsAfter (position : Position) (node : DomNode) (run last : ImportRun) : Prop :=
  forall reference builder, run.parseStack.getLast? = some reference ->
    ¬ position <+: reference.position -> run.builders reference = some builder ->
      Exists fun after => last.builders reference = some after ∧
        Holds (categoriesFrom position node) builder last after

/-- The back of the stack after the children from some index on. -/
def HoldsAmong (position : Position) (index : Nat) (children : List DomNode)
    (run last : ImportRun) : Prop :=
  forall reference builder, run.parseStack.getLast? = some reference ->
    (forall later, ¬ position ++ [later] <+: reference.position) ->
    run.builders reference = some builder ->
      Exists fun after => last.builders reference = some after ∧
        Holds (categoriesAmong position index children) builder last after

theorem Holds.append {first second : List Position} {before between after : SfBuilder}
    {inside : Position -> Prop} (early : Holds first before middle between)
    (late : Holds second between last after) (frame : Frame inside middle last)
    (outside : forall place, place ∈ first -> ¬ inside place) :
    Holds (first ++ second) before last after := by
  rw [Holds] at early late
  rw [Holds, List.getLast?_append]
  cases ends : second.getLast? with
  | some place =>
      rw [ends] at late
      exact late
  | none =>
      rw [ends] at late
      cases begins : first.getLast? with
      | none =>
          rw [begins] at early
          exact late.trans early
      | some place =>
          rw [begins] at early
          rcases early with ⟨relationship, present, held⟩
          rcases frame.kept (.relationship place) relationship
            (outside place (List.mem_of_getLast? begins)) present with ⟨changed, there, _, same⟩
          exact ⟨changed, there, by rw [late, held, same]⟩

theorem holdsAmong_cons {index : Nat} {child : DomNode} {children : List DomNode}
    (frame : Frame (position ++ [index] <+: ·) run middle)
    (frames : Frame (InsideFrom position (index + 1)) middle last)
    (first : HoldsAfter (position ++ [index]) child run middle)
    (rest : HoldsAmong position (index + 1) children middle last) :
    HoldsAmong position index (child :: children) run last := by
  intro reference builder back outside present
  rcases first reference builder back (outside index) present with ⟨between, there, early⟩
  rcases rest reference between (frame.stack ▸ back) outside there with ⟨after, final, late⟩
  refine ⟨after, final, ?_⟩
  rw [categoriesAmong]
  refine early.append late frames fun place member inner => ?_
  rcases inner with ⟨later, notEarlier, under⟩
  have below := below_of_mem_categoriesFrom member
  have nested := List.prefix_of_prefix_length_le below under (by simp)
  have same := List.append_cancel_left (nested.eq_of_length (by simp))
  have equal : index = later := (List.cons.inj same).1
  omega

theorem Holds.since {categories : List Position} {before between after : SfBuilder}
    (holds : Holds categories between last after)
    (same : between.childId .category = before.childId .category) :
    Holds categories before last after := by
  rw [Holds] at holds ⊢
  cases ends : categories.getLast? with
  | none =>
      rw [ends] at holds
      exact holds.trans same
  | some place =>
      rw [ends] at holds
      exact holds

/-- The builder of the catalog gets the id of the relationship that a category makes. -/
theorem holdsAfter_category {children : List DomNode} (known : content.kind = some .category)
    (apart : Apart position run)
    (entering : enterNode sqlite importId position content run = .ok popStack middle)
    (entered : Entered position content run popStack middle)
    (frame : Frame (InsideFrom position 0) middle done) :
    HoldsAfter position (.node content children) run
      { done with parseStack := run.parseStack } := by
  intro reference builder back outside present
  simp only [enterNode, known] at entering
  rcases onCategory_links apart entering back present with ⟨fits, relationship, made, linked⟩
  have pushes : content.pushes = true := NodeContent.pushes_of_kind known
  rcases frame.kept (.relationship position) relationship not_insideFrom_self made with
    ⟨changed, there, _, same⟩
  refine ⟨_, (entered.aside frame pushes outside).trans linked, ?_⟩
  rw [categoriesFrom_of_category known]
  refine ⟨changed, there, ?_⟩
  rw [same]
  have links : ElementKind.category.parentClass = some .catalog := rfl
  exact ElementKind.childId_link links fits relationship.esoId

/-- Another node leaves the id alone, and passes on the categories below it if it pushes
nothing. -/
theorem holdsAfter_other {children : List DomNode} (other : content.kind ≠ some .category)
    (entered : Entered position content run popStack middle)
    (frame : Frame (InsideFrom position 0) middle done)
    (looped : HoldsAmong position 0 children middle done) :
    HoldsAfter position (.node content children) run
      { done with parseStack := run.parseStack } := by
  intro reference builder back outside present
  have different := position_ne_of_outside outside
  rcases entered.childId_kept different other back present with ⟨between, there, same⟩
  cases pushes : content.pushes with
  | true =>
      refine ⟨between, (entered.aside frame pushes outside).trans there, ?_⟩
      rw [categoriesFrom_of_pushes other pushes]
      exact same
  | false =>
      have still : middle.parseStack.getLast? = some reference := by
        rw [entered.getLast, pushes]
        exact back
      rcases looped reference between still (fun _ below => outside (below_of_child below)) there
        with ⟨after, final, holds⟩
      refine ⟨after, final, ?_⟩
      rw [categoriesFrom_of_passes pushes]
      exact holds.since same

/-- The builder of a catalog has the id of the relationship of its last category. -/
def OwnHeld (position : Position) (node : DomNode) (last : ImportRun) : Prop :=
  node.label.kind = some .catalog -> forall place,
    (categoriesOf position node).getLast? = some place ->
      Exists fun catalog => Exists fun relationship =>
        last.builders (.node position) = some catalog ∧
          last.builders (.relationship place) = some relationship ∧
            catalog.childId .category = some relationship.esoId

theorem ownHeld_node {children : List DomNode}
    (entered : Entered position content run popStack middle)
    (looped : HoldsAmong position 0 children middle done) :
    OwnHeld position (.node content children) { done with parseStack := run.parseStack } := by
  intro known place last
  change content.kind = some .catalog at known
  rcases entered.own .catalog known with ⟨builder, made, _, _⟩
  have pushes : content.pushes = true := NodeContent.pushes_of_kind known
  have back : middle.parseStack.getLast? = some (.node position) := by
    rw [entered.getLast, if_pos pushes]
  rcases looped (.node position) builder back (fun _ => not_child_self) made with
    ⟨after, there, holds⟩
  change (categoriesAmong position 0 children).getLast? = some place at last
  rw [Holds, last] at holds
  rcases holds with ⟨relationship, present, held⟩
  exact ⟨after, relationship, there, present, held⟩

theorem ownHeld_of_returns {node : DomNode} {returned : Option BuilderRef}
    (outside : Outside position run)
    (returns : fromXml sqlite importId position node run = .ok returned last) :
    OwnHeld position node last := by
  have whole := fromXml_rule_entering
    (fun position node run last => HoldsAfter position node run last ∧ OwnHeld position node last)
    HoldsAmong ?_ ?_ ?_ outside returns
  · exact whole.2.2.2
  · intro position index run reference builder _ _ present
    exact ⟨builder, present, rfl⟩
  · intro position index child children run middle last frame frames own rest
    exact holdsAmong_cons frame frames own.1 rest
  · intro position content children run entered done outside entering enters frame looped
    refine ⟨?_, ownHeld_node enters looped⟩
    by_cases known : content.kind = some .category
    · exact holdsAfter_category known outside.apart entering enters frame
    · exact holdsAfter_other known enters frame looped

/-- Each of the categories makes a relationship. -/
theorem rowsOf_category {node : DomNode} {returned : Option BuilderRef}
    (outside : Outside position run)
    (returns : fromXml sqlite importId position node run = .ok returned last)
    (member : place ∈ categoriesOf position node) :
    last.rowsOf (.relationship place) = run.rowsOf (.relationship place) + 1 := by
  have adds := adds_of_returns outside returns
  rcases mem_categoriesOf member with ⟨content, present, known⟩
  have listed : ((BuilderRef.relationship place).position, content) ∈
      node.preorderFrom position := present
  have own : forall (content : NodeContent) (position : Position) (reference : BuilderRef),
      reference ∈ content.owners position -> reference.position = position :=
    fun _ _ _ => NodeContent.position_of_mem_owners
  have counted := count_flatMap_of_mem (RoseTree.nodup_preorderFrom node position) own listed
  rw [ImportRun.rowsOf, adds.rows, List.count_append, ownersOf, counted, BuilderRef.position,
    NodeContent.count_relationship_owners, if_pos known]
  rfl

end Visit

/-! ## No relationship is looked for -/

section Faults

variable {sqlite : Sqlite} {importId : UInt64} {root : DomNode}
variable {last : ImportRun} {fault : ImportFault}

/-- No category takes the way of a relationship that is there already. -/
theorem fromXml_not_nullRelationship
    (fails : fromXml sqlite importId [] root .start = .error fault last) :
    fault ≠ .nullRelationship := by
  rcases raised_of_fails fails with ⟨place, content, children, before, called, raised⟩
  rcases enterNode_fails (stacked_of_called called).outside.apart raised with
    ⟨_, message, _, rfl⟩ | ⟨_, ofParent⟩
  · rintro ⟨⟩
  · rintro rfl
    exact ofParent

end Faults

/-! ## One relationship for a catalog -/

/-- The visit of a catalog has made one relationship for its categories, and the builder of the
catalog has the id of the one made for the first of them. -/
structure OneRelationship (position : Position) (catalog : DomNode) (run last : ImportRun) :
    Prop where
  single : ((categoriesOf position catalog).map fun place =>
    last.rowsOf (.relationship place) - run.rowsOf (.relationship place)).sum = 1
  stored : forall first, (categoriesOf position catalog).head? = some first ->
    Exists fun builder => Exists fun relationship =>
      last.builders (.node position) = some builder ∧
        last.builders (.relationship first) = some relationship ∧
          builder.childId .category = some relationship.esoId

section Single

variable {sqlite : Sqlite} {importId : UInt64} {position : Position} {catalog : DomNode}
variable {run last : ImportRun} {returned : Option BuilderRef}

theorem relationships_made (outside : Outside position run)
    (returns : fromXml sqlite importId position catalog run = .ok returned last) :
    ((categoriesOf position catalog).map fun place =>
      last.rowsOf (.relationship place) - run.rowsOf (.relationship place)).sum =
        (categoriesOf position catalog).length := by
  have ones : forall number, number ∈ (categoriesOf position catalog).map (fun place =>
      last.rowsOf (.relationship place) - run.rowsOf (.relationship place)) -> number = 1 := by
    intro number member
    rcases List.mem_map.mp member with ⟨place, among, rfl⟩
    rw [rowsOf_category outside returns among, Nat.add_sub_cancel_left]
  rw [List.sum_eq_card_nsmul _ 1 ones, List.length_map, Nat.nsmul_eq_mul, Nat.mul_one]

theorem oneRelationship_iff (outside : Outside position run)
    (known : catalog.label.kind = some .catalog)
    (returns : fromXml sqlite importId position catalog run = .ok returned last) :
    OneRelationship position catalog run last <->
      (categoriesOf position catalog).length = 1 := by
  constructor
  · intro one
    rw [← relationships_made outside returns]
    exact one.single
  · intro single
    refine ⟨(relationships_made outside returns).trans single, fun first begins => ?_⟩
    rcases List.length_eq_one_iff.mp single with ⟨only, categories⟩
    rw [categories] at begins
    cases begins
    refine ownHeld_of_returns outside returns known first ?_
    rw [categories]
    rfl

/-- With two categories among its children, a catalog gets more than one relationship. -/
theorem not_oneRelationship_of_children (outside : Outside position run)
    (known : catalog.label.kind = some .catalog)
    (returns : fromXml sqlite importId position catalog run = .ok returned last)
    {index later : Nat} {child other : DomNode} (differs : index ≠ later)
    (present : catalog.children[index]? = some child)
    (category : child.label.kind = some .category)
    (second : catalog.children[later]? = some other)
    (another : other.label.kind = some .category) :
    ¬OneRelationship position catalog run last := by
  intro one
  have single := (oneRelationship_iff outside known returns).mp one
  rcases List.length_eq_one_iff.mp single with ⟨only, categories⟩
  have here : position ++ [0 + index] ∈ categoriesOf position catalog :=
    mem_categoriesAmong_child present category 0
  have there : position ++ [0 + later] ∈ categoriesOf position catalog :=
    mem_categoriesAmong_child second another 0
  rw [categories, List.mem_singleton] at here there
  have same := List.append_cancel_left (here.trans there.symm)
  have equal := (List.cons.inj same).1
  omega

end Single

/-- In every import, the visit of a catalog that returns has made one relationship for its
categories exactly when there is one category; and no import looks for a relationship that is
not there. -/
theorem one_relationship_iff (sqlite : Sqlite) (importId : UInt64) (root : DomNode) :
    (forall position catalog run returned last,
      Called (enterNode sqlite importId) leaveNode root .start position catalog run ->
      catalog.label.kind = some .catalog ->
      fromXml sqlite importId position catalog run = .ok returned last ->
        (OneRelationship position catalog run last <->
          (categoriesOf position catalog).length = 1)) ∧
      forall fault last, fromXml sqlite importId [] root .start = .error fault last ->
        fault ≠ .nullRelationship :=
  ⟨fun _ _ _ _ _ called known returns =>
      oneRelationship_iff (stacked_of_called called).outside known returns,
    fun _ _ fails => fromXml_not_nullRelationship fails⟩

theorem one_relationship_smallCatalog : Exists fun returned => Exists fun last =>
    fromXml counting 7 [] smallCatalog .start = .ok returned last ∧
      OneRelationship [] smallCatalog .start last := by
  have ends : faultOf (fromXml counting 7 [] smallCatalog) = none := by decide +kernel
  rcases returns_of_faultOf ends with ⟨returned, last, returns⟩
  refine ⟨returned, last, returns, ?_⟩
  exact ((one_relationship_iff counting 7 smallCatalog).1 [] smallCatalog .start returned last
    .root (by decide +kernel) returns).mpr (by decide +kernel)

/-- A catalog with two categories. -/
def doubleCatalog : DomNode :=
  plainElement "catalog" [plainElement "category" [], plainElement "category" []]

theorem doubleCatalog_two_relationships :
    ¬ forall returned last, fromXml counting 7 [] doubleCatalog .start = .ok returned last ->
      OneRelationship [] doubleCatalog .start last := by
  intro all
  have ends : faultOf (fromXml counting 7 [] doubleCatalog) = none := by decide +kernel
  rcases returns_of_faultOf ends with ⟨returned, last, returns⟩
  have known : doubleCatalog.label.kind = some .catalog := by decide +kernel
  have category : (plainElement "category" []).label.kind = some .category := by decide +kernel
  have differs : 0 ≠ 1 := Nat.zero_ne_one
  exact not_oneRelationship_of_children (stacked_start doubleCatalog).outside known returns differs
    rfl category rfl category (all returned last returns)

end Catalog

end EasyProspect
