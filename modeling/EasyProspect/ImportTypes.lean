import EasyProspect.ImportStack

namespace EasyProspect

namespace Catalog

open Traversal Importer

/-!
# Types and ids in well-nested catalogs

The id that a builder holds for a child is that of the last child of the kind.  The type of a
builder is what its constructor has set, so only a catalog has one.
-/

namespace ElementKind

/-- The object type of the builders of an element, where `ep_sf_object_type` has one. -/
def objectType : ElementKind -> Option SfObjectType
  | .catalog => some .sfCatalog
  | .header => some .sfCatalogHeader
  | .category => some .sfCategory
  | .imageSettings => some .sfCatalogImageSettings
  | .viewType | .variationAttributeId | .altPattern | .titlePattern | .parent =>
      some .relationship
  | .internalLocation | .viewTypes | .displayName => none

/-- The elements whose own id the builder of the parent gets. -/
def linksOwnId : ElementKind -> Bool
  | .header | .imageSettings | .internalLocation => true
  | _ => false

variable {kind wanted : ElementKind}

theorem parentKind_of_linksOwnId (links : kind.linksOwnId = true) :
    kind ≠ .category ∧ Exists fun wanted => kind.parentKind = some wanted := by
  cases kind with
  | header => exact ⟨nofun, .catalog, rfl⟩
  | imageSettings => exact ⟨nofun, .header, rfl⟩
  | internalLocation => exact ⟨nofun, .imageSettings, rfl⟩
  | _ => cases links

theorem pushes_of_parentKind (should : kind.parentKind = some wanted) : wanted.pushes = true := by
  cases kind <;> cases should <;> rfl

/-- The constructors set another type, if it is not that of a catalog. -/
theorem make_type_ne {type : SfObjectType} (typed : kind.objectType = some type)
    (notCatalog : kind ≠ .catalog) : (SfBuilder.make kind.builderClass).esoType ≠ type := by
  cases kind with
  | catalog => exact absurd rfl notCatalog
  | internalLocation | viewTypes | displayName => cases typed
  | _ =>
      cases typed
      exact nofun

theorem pushes_of_objectType {type : SfObjectType} (typed : kind.objectType = some type) :
    kind.pushes = true := by
  cases kind <;> first | rfl | cases typed

end ElementKind

/-! ## Well-nested documents -/

/-- `header` and `category` are children of a catalog, `image-settings` of a header and
`internal-location` of `image-settings`. -/
def WellNested (root : DomNode) : Prop :=
  forall position node kind wanted, root.subtree position = some node ->
    node.label.kind = some kind -> kind.parentKind = some wanted ->
      Exists fun above => Exists fun index => Exists fun outer =>
        position = above ++ [index] ∧ root.subtree above = some outer ∧
          outer.label.kind = some wanted

/-- The last child of the kind, counted from `index`. -/
def lastOf (kind : ElementKind) : Nat -> List DomNode -> Option Nat
  | _, [] => none
  | index, child :: rest =>
      match lastOf kind (index + 1) rest with
      | some later => some later
      | none => if child.label.kind = some kind then some index else none

section Nesting

variable {root node : DomNode} {position : Position} {kind wanted : ElementKind}

theorem WellNested.child (nested : WellNested root) (found : root.subtree position = some node)
    {index : Nat} {child : DomNode} (present : node.children[index]? = some child)
    (known : child.label.kind = some kind) (should : kind.parentKind = some wanted) :
    node.label.kind = some wanted := by
  have below : root.subtree (position ++ [index]) = some child := by
    rw [RoseTree.subtree_snoc, found]
    exact present
  rcases nested _ child kind wanted below known should with ⟨above, last, outer, same, there, fits⟩
  cases (List.append_inj' same rfl).1
  cases found.symm.trans there
  exact fits

/-- The parent in a well-nested document pushes, so it is the nearest ancestor that does. -/
theorem WellNested.placed (nested : WellNested root) : Placed root := by
  intro position node kind wanted found known should
  rcases nested position node kind wanted found known should with
    ⟨above, index, outer, rfl, there, fits⟩
  refine ⟨above, outer.label, ?_, fits⟩
  have pushes : outer.label.pushes = true :=
    (NodeContent.pushes_of_kind fits).trans (ElementKind.pushes_of_parentKind should)
  rw [nearestPushing, RoseTree.above_snoc there, List.filter_append,
    List.filter_cons_of_pos (by exact pushes), List.filter_nil, List.getLast?_concat]

theorem lastOf_some {children : List DomNode} {index found : Nat}
    (last : lastOf kind index children = some found) :
    Exists fun offset => Exists fun child => found = index + offset ∧
      children[offset]? = some child ∧ child.label.kind = some kind := by
  induction children generalizing index with
  | nil => cases last
  | cons child children inductionHypothesis =>
      rw [lastOf] at last
      cases later : lastOf kind (index + 1) children with
      | some other =>
          simp only [later] at last
          cases last
          rcases inductionHypothesis later with ⟨offset, node, rfl, present, known⟩
          exact ⟨offset + 1, node, by omega, present, known⟩
      | none =>
          simp only [later] at last
          split at last
          · cases last
            exact ⟨0, child, rfl, rfl, by assumption⟩
          · cases last

end Nesting

/-! ## The ids of children -/

/-- A builder has got the id of the one made at the place, or none since before. -/
def Linked (kind : ElementKind) (found : Option Position) (before : SfBuilder) (last : ImportRun)
    (after : SfBuilder) : Prop :=
  match found with
  | none => after.childId kind = before.childId kind
  | some place => Exists fun own => last.builders (.node place) = some own ∧
      after.childId kind = some own.esoId

/-- The id of a node that is of the kind goes to the back of the stack, and no other. -/
def BackLinked (root : DomNode) (position : Position) (node : DomNode) (run last : ImportRun) :
    Prop :=
  root.subtree position = some node -> forall reference builder kind,
    run.parseStack.getLast? = some reference -> ¬ position <+: reference.position ->
    run.builders reference = some builder -> kind.linksOwnId = true ->
      Exists fun after => last.builders reference = some after ∧
        Linked kind (if node.label.kind = some kind then some position else none) builder last
          after

/-- After the children from some index on, the back of the stack has the id of the last one of
the kind. -/
def ChildrenLinked (root : DomNode) (position : Position) (index : Nat) (children : List DomNode)
    (run last : ImportRun) : Prop :=
  forall node, root.subtree position = some node -> node.children.drop index = children ->
    forall reference builder kind, run.parseStack.getLast? = some reference ->
      (forall later, ¬ position ++ [later] <+: reference.position) ->
      run.builders reference = some builder -> kind.linksOwnId = true ->
        Exists fun after => last.builders reference = some after ∧
          Linked kind ((lastOf kind index children).map fun found => position ++ [found]) builder
            last after

/-- The builder of the node itself has the id of its last child of the kind. -/
def OwnLinked (root : DomNode) (position : Position) (node : DomNode) (last : ImportRun) : Prop :=
  root.subtree position = some node -> forall kind index, kind.linksOwnId = true ->
    lastOf kind 0 node.children = some index ->
      Exists fun parent => Exists fun own =>
        last.builders (.node position) = some parent ∧
        last.builders (.node (position ++ [index])) = some own ∧
        parent.childId kind = some own.esoId

section Links

variable {sqlite : Sqlite} {importId : UInt64} {root node child : DomNode} {position : Position}
variable {run middle last : ImportRun} {content : NodeContent} {children : List DomNode}

theorem Linked.none_trans {kind : ElementKind} {found : Option Position}
    {before between after : SfBuilder} (first : Linked kind none before middle between)
    (second : Linked kind found between last after) : Linked kind found before last after := by
  cases found with
  | none => exact second.trans first
  | some place => exact second

/-- What has been made for an earlier child keeps its id. -/
theorem Linked.frame {kind : ElementKind} {place : Position} {inside : Position -> Prop}
    {before between after : SfBuilder} (first : Linked kind (some place) before middle between)
    (frame : Frame inside middle last) (outside : ¬ inside place)
    (same : after.childId kind = between.childId kind) :
    Linked kind (some place) before last after := by
  rcases first with ⟨own, present, linked⟩
  rcases frame.kept (.node place) own outside present with ⟨changed, there, _, id⟩
  exact ⟨changed, there, by rw [same, linked, id]⟩

theorem childrenLinked_cons {index : Nat}
    (frame : Frame (position ++ [index] <+: ·) run middle)
    (frames : Frame (InsideFrom position (index + 1)) middle last)
    (first : BackLinked root (position ++ [index]) child run middle)
    (rest : ChildrenLinked root position (index + 1) children middle last) :
    ChildrenLinked root position index (child :: children) run last := by
  intro node found tail reference builder kind back outside present links
  have here : node.children[index]? = some child := by
    rw [← List.head?_drop, tail]
    rfl
  have later : node.children.drop (index + 1) = children := by
    rw [← List.drop_drop, tail]
    rfl
  have below : root.subtree (position ++ [index]) = some child := by
    rw [RoseTree.subtree_snoc, found]
    exact here
  rcases first below reference builder kind back (outside index) present links with
    ⟨between, there, linked⟩
  rcases rest node found later reference between kind (frame.stack ▸ back) outside there links
    with ⟨after, final, linkedLater⟩
  refine ⟨after, final, ?_⟩
  rw [lastOf]
  cases others : lastOf kind (index + 1) children with
  | some other =>
      rw [others] at linkedLater
      exact linkedLater
  | none =>
      rw [others] at linkedLater
      by_cases known : child.label.kind = some kind
      · rw [if_pos known] at linked
        simp only [known, if_true]
        refine linked.frame frames ?_ linkedLater
        rintro ⟨further, notEarlier, under⟩
        have same := List.append_cancel_left (under.eq_of_length (by simp))
        have equal : further = index := (List.cons.inj same).1
        omega
      · rw [if_neg known] at linked
        simp only [known, if_false]
        exact linked.none_trans linkedLater

/-- The loop over the children leaves a builder alone that is not the back of the stack. -/
theorem Entered.aside {done : ImportRun} {popStack : Bool} {reference : BuilderRef}
    (entered : Entered position content run popStack middle)
    (frame : Frame (InsideFrom position 0) middle done) (pushes : content.pushes = true)
    (outside : ¬ position <+: reference.position) :
    done.builders reference = middle.builders reference := by
  refine frame.others reference (fun inner => outside (below_of_insideFrom inner)) ?_
  rw [entered.getLast, if_pos pushes]
  intro same
  cases Option.some.inj same
  exact outside (List.prefix_refl _)

/-- What a child of a node without builder cannot be in a well-nested document. -/
theorem WellNested.lastOf_none (nested : WellNested root)
    (found : root.subtree position = some (.node content children))
    (pushes : content.pushes = false) {kind : ElementKind} (links : kind.linksOwnId = true) :
    lastOf kind 0 children = none := by
  cases last : lastOf kind 0 children with
  | none => rfl
  | some index =>
      rcases lastOf_some last with ⟨offset, child, _, present, known⟩
      rcases ElementKind.parentKind_of_linksOwnId links with ⟨_, wanted, should⟩
      have outer := nested.child found present known should
      have own := (NodeContent.pushes_of_kind outer).trans
        (ElementKind.pushes_of_parentKind should)
      exact absurd (own.symm.trans pushes) nofun

theorem backLinked_node (nested : WellNested root) {done : ImportRun}
    (entered : Entered position content run content.pushes middle)
    (frame : Frame (InsideFrom position 0) middle done)
    (looped : ChildrenLinked root position 0 children middle done) :
    BackLinked root position (.node content children) run
      { done with parseStack := run.parseStack } := by
  intro found reference builder kind back outside present links
  rcases ElementKind.parentKind_of_linksOwnId links with ⟨notCategory, wanted, should⟩
  have different := position_ne_of_outside outside
  by_cases own : content.kind = some kind
  · cases linked : content.parentClass with
    | none =>
        rw [NodeContent.parentClass_of_kind own, kind.parentClass_eq, should] at linked
        cases linked
    | some parentClass =>
        rcases Option.bind_eq_some_iff.mp linked with ⟨same, known, ownClass⟩
        cases own.symm.trans known
        have pushes := (NodeContent.pushes_of_kind known).trans
          (ElementKind.pushes_of_links ownClass).1
        rcases entered.linked kind parentClass known ownClass with
          ⟨parent, before, id, last, there, fits, changed, ownId⟩
        cases back.symm.trans last
        cases present.symm.trans there
        refine ⟨kind.link id builder, (entered.aside frame pushes outside).trans changed, ?_⟩
        rw [RoseTree.label, if_pos own]
        rcases Option.map_eq_some_iff.mp (ownId notCategory) with ⟨made, present, rfl⟩
        rcases frame.kept (.node position) made not_insideFrom_self present with
          ⟨final, kept, _, equal⟩
        refine ⟨final, kept, ?_⟩
        rw [ElementKind.childId_link ownClass fits, equal]
  · -- Whatever the node is, its visit up to the children leaves the id alone.
    rcases entered.childId_kept different own back present with ⟨between, there, same⟩
    rw [RoseTree.label, if_neg own]
    cases pushes : content.pushes with
    | true => exact ⟨between, (entered.aside frame pushes outside).trans there, same⟩
    | false =>
        have still : middle.parseStack.getLast? = some reference := by
          rw [entered.getLast, pushes]
          exact back
        rcases looped _ found rfl reference between kind still
          (fun _ below => outside (below_of_child below)) there links with
          ⟨after, final, holds⟩
        rw [nested.lastOf_none found pushes links] at holds
        exact ⟨after, final, holds.trans same⟩

theorem ownLinked_node (nested : WellNested root) {done : ImportRun}
    (entered : Entered position content run content.pushes middle)
    (looped : ChildrenLinked root position 0 children middle done) :
    OwnLinked root position (.node content children)
      { done with parseStack := run.parseStack } := by
  intro found kind index links last
  rcases lastOf_some last with ⟨offset, child, _, present, known⟩
  rcases ElementKind.parentKind_of_linksOwnId links with ⟨_, wanted, should⟩
  have outer : content.kind = some wanted := nested.child found present known should
  have pushes := (NodeContent.pushes_of_kind outer).trans (ElementKind.pushes_of_parentKind should)
  rcases entered.own wanted outer with ⟨builder, made, _, _⟩
  have back : middle.parseStack.getLast? = some (.node position) := by
    rw [entered.getLast, if_pos pushes]
  rcases looped _ found rfl (.node position) builder kind back (fun _ => not_child_self) made links
    with ⟨after, there, linked⟩
  change lastOf kind 0 children = some index at last
  rw [last] at linked
  rcases linked with ⟨own, here, same⟩
  exact ⟨after, own, there, here, same⟩

/-- When the visit of a node returns, its builder has the ids of its last children. -/
theorem ownLinked_of_returns (nested : WellNested root) {returned : Option BuilderRef}
    (outside : Outside position run)
    (returns : fromXml sqlite importId position node run = .ok returned last) :
    OwnLinked root position node last := by
  have whole := fromXml_rule
    (fun position node run last =>
      BackLinked root position node run last ∧ OwnLinked root position node last)
    (ChildrenLinked root) ?_ ?_ ?_ outside returns
  · exact whole.2.2.2
  · intro position index run node _ _ reference builder kind _ _ present _
    exact ⟨builder, present, rfl⟩
  · intro position index child children run middle last frame frames own rest
    exact childrenLinked_cons frame frames own.1 rest
  · intro position content children run entered done _ enters frame looped
    exact ⟨backLinked_node nested enters frame looped, ownLinked_node nested enters looped⟩

end Links

/-! ## Typed parents -/

/-- No unexpected parent is logged, the builders on the stack have the types of their elements,
and each builder ends with the ids of its last children, whatever the database does. -/
structure TypedParents (root : DomNode) : Prop where
  silent : forall sqlite importId, (endOf (fromXml sqlite importId [] root)).errors = []
  types : forall sqlite importId position content children run popStack next,
    Called (enterNode sqlite importId) leaveNode root .start position (.node content children) run ->
    enterNode sqlite importId position content run = .ok popStack next ->
    forall reference, reference ∈ next.parseStack ->
      Exists fun node => Exists fun kind => Exists fun builder =>
        root.subtree reference.position = some node ∧ node.label.kind = some kind ∧
        next.builders reference = some builder ∧
        forall type, kind.objectType = some type -> builder.toObject.base.esoType = type
  children : forall sqlite importId position node run returned last,
    Called (enterNode sqlite importId) leaveNode root .start position node run ->
    fromXml sqlite importId position node run = .ok returned last ->
    forall kind index, kind.linksOwnId = true -> lastOf kind 0 node.children = some index ->
      Exists fun parent => Exists fun own =>
        last.builders (.node position) = some parent ∧
        last.builders (.node (position ++ [index])) = some own ∧
        parent.childId kind = some own.esoId

/-- Every element that has an object type is a catalog. -/
def OnlyCatalogs (root : DomNode) : Prop :=
  forall position node kind type, root.subtree position = some node ->
    node.label.kind = some kind -> kind.objectType = some type -> kind = .catalog

section Typed

variable {sqlite : Sqlite} {importId : UInt64} {root tree : DomNode} {position : Position}
variable {run next last : ImportRun} {content : NodeContent} {children : List DomNode}

/-- What is on the stack after a node has been entered. -/
theorem Stacked.made_of_mem {popStack : Bool} {reference : BuilderRef}
    (stacked : Stacked root position run)
    (found : root.subtree position = some (.node content children))
    (entered : Entered position content run popStack next)
    (member : reference ∈ next.parseStack) :
    Exists fun node => Exists fun kind => Exists fun builder =>
      root.subtree reference.position = some node ∧ node.label.kind = some kind ∧
        next.builders reference = some builder ∧
        SfBuilder.SameShape (.make kind.builderClass) builder := by
  have after := stacked.enter found entered 0
  rw [after.stack] at member
  rcases mem_pushedAbove member with ⟨place, label, above, pushes, rfl⟩
  rcases Option.map_eq_some_iff.mp (RoseTree.mem_above above).1 with ⟨node, there, rfl⟩
  cases known : node.label.kind with
  | none =>
      rw [NodeContent.pushes, known] at pushes
      cases pushes
  | some kind =>
      rcases after.made place node.label kind above known with ⟨builder, present, shape⟩
      exact ⟨node, kind, builder, there, known, present, shape⟩

/-- Without a header, a category or image settings nothing of a well-nested document is linked. -/
theorem WellNested.unlinked (nested : WellNested root) (only : OnlyCatalogs root)
    {node : DomNode} (found : root.subtree position = some node) :
    node.label.parentClass = none := by
  cases links : node.label.parentClass with
  | none => rfl
  | some parentClass =>
      rcases Option.bind_eq_some_iff.mp links with ⟨kind, known, linked⟩
      cases kind with
      | header => cases only _ _ _ _ found known rfl
      | category => cases only _ _ _ _ found known rfl
      | imageSettings => cases only _ _ _ _ found known rfl
      | internalLocation =>
          rcases nested _ _ _ _ found known rfl with ⟨above, index, outer, _, there, settings⟩
          cases only _ _ _ _ there settings rfl
      | _ => cases linked

/-- Nothing in the tree is linked from its parent. -/
def Unlinked (tree : DomNode) : Prop :=
  forall place node, tree.subtree place = some node -> node.label.parentClass = none

theorem Unlinked.subtree (unlinked : Unlinked tree) {node : DomNode}
    (found : tree.subtree position = some node) : Unlinked node := by
  intro place inner present
  refine unlinked (position ++ place) inner ?_
  rw [RoseTree.subtree_append, found]
  exact present

theorem Unlinked.child (unlinked : Unlinked tree) {child : DomNode}
    (member : child ∈ tree.children) : Unlinked child := by
  rcases List.mem_iff_getElem?.mp member with ⟨index, present⟩
  have below : tree.subtree [index] = some child := by
    rw [RoseTree.subtree, present]
    rfl
  exact unlinked.subtree below

/-- Where nothing is linked, a visit that returns logs nothing. -/
theorem errors_of_returns {returned : Option BuilderRef} (unlinked : Unlinked tree)
    (outside : Outside position run)
    (returns : fromXml sqlite importId position tree run = .ok returned last) :
    last.errors = run.errors := by
  have whole := fromXml_rule
    (fun _ tree run last => Unlinked tree -> last.errors = run.errors)
    (fun _ _ children run last =>
      (forall child, child ∈ children -> Unlinked child) -> last.errors = run.errors)
    ?_ ?_ ?_ outside returns
  · exact whole.2.2 unlinked
  · exact fun _ _ _ _ => rfl
  · intro _ _ child children _ _ _ _ _ own rest every
    rw [rest fun later member => every later (List.mem_cons_of_mem child member)]
    exact own (every child List.mem_cons_self)
  · intro position content children run entered done _ enters _ looped unlinked
    rw [← enters.errors (unlinked [] _ rfl)]
    exact looped fun child member => unlinked.child member

theorem errors_of_children {index : Nat}
    (unlinked : forall child, child ∈ children -> Unlinked child)
    (outside : forall later, Outside (position ++ [later]) run)
    (returns : traverseChildren (enterNode sqlite importId) leaveNode position index children run =
      .ok ⟨⟩ last) : last.errors = run.errors := by
  have whole := fromXmlChildren_rule
    (fun _ tree run last => Unlinked tree -> last.errors = run.errors)
    (fun _ _ children run last =>
      (forall child, child ∈ children -> Unlinked child) -> last.errors = run.errors)
    ?_ ?_ ?_ outside returns
  · exact whole.2 unlinked
  · exact fun _ _ _ _ => rfl
  · intro _ _ child children _ _ _ own rest every
    rw [rest fun later member => every later (List.mem_cons_of_mem child member)]
    exact own (every child List.mem_cons_self)
  · exact fun _ _ _ _ _ outside returns unlinked => errors_of_returns unlinked outside returns

/-- Nothing has been logged at any call. -/
theorem errors_of_called (unlinked : Unlinked root)
    (called : Called (enterNode sqlite importId) leaveNode root .start position tree run) :
    run.errors = [] := by
  refine called.invariant (fun _ _ run => run.errors = []) rfl ?_
  intro position content before child after run popStack entered middle parent silent entering
    looped
  have outside := (stacked_of_called parent).outside
  have enters := enterNode_returns outside.apart entering
  have here := unlinked.subtree parent.subtree
  rw [errors_of_children (fun child member => here.child (List.mem_append_left _ member))
    (outside.child enters) looped, enters.errors (here [] _ rfl)]
  exact silent

/-- Nothing is logged by an import in which nothing is linked, also if it fails. -/
theorem silent_of_unlinked (unlinked : Unlinked root) (sqlite : Sqlite) (importId : UInt64) :
    (endOf (fromXml sqlite importId [] root)).errors = [] := by
  rw [endOf]
  cases outcome : fromXml sqlite importId [] root .start with
  | ok returned last =>
      exact errors_of_returns unlinked (stacked_start root).outside outcome
  | error fault last =>
      rcases raised_of_fails outcome with ⟨position, content, children, run, called, raised⟩
      exact (enterNode_fails_errors (unlinked.subtree called.subtree [] _ rfl) raised).trans
        (errors_of_called unlinked called)

/-- The documents among the well-nested ones whose parents are typed. -/
theorem typedParents_iff (nested : WellNested root) : TypedParents root <-> OnlyCatalogs root := by
  constructor
  · intro typed position node kind type found known should
    rcases returns_of_safe (safe_of_placed nested.placed) 0 with ⟨returned, last, returns⟩
    rcases Called.exists_of_subtree returns found with ⟨run, called⟩
    rcases called.returns returns with ⟨result, after, own⟩
    cases node with
    | node content children =>
        change content.kind = some kind at known
        rcases traverseTree_ok.mp own with ⟨popStack, entered, done, entering, _, _⟩
        have stacked := stacked_of_called called
        have enters := enterNode_returns stacked.outside.apart entering
        have member : BuilderRef.node position ∈ entered.parseStack := by
          rw [enters.stack, NodeContent.pushed_of_kind known
            (ElementKind.pushes_of_objectType should)]
          exact List.mem_append_right _ List.mem_cons_self
        rcases typed.types _ _ _ _ _ _ _ _ called entering _ member with
          ⟨found', kind', builder, there, same, present, fits⟩
        cases found.symm.trans there
        cases known.symm.trans same
        rcases enters.own kind known with ⟨made, here, shape, _⟩
        cases present.symm.trans here
        by_contra notCatalog
        refine ElementKind.make_type_ne should notCatalog ?_
        rw [← shape.esoType, ← toObject_type]
        exact fits type should
  · intro only
    refine ⟨?_, ?_, ?_⟩
    · exact silent_of_unlinked fun _ _ => nested.unlinked only
    · intro sqlite importId position content children run popStack next called entering reference
        member
      have stacked := stacked_of_called called
      rcases stacked.made_of_mem called.subtree (enterNode_returns stacked.outside.apart entering)
        member with ⟨node, kind, builder, found, known, present, shape⟩
      refine ⟨node, kind, builder, found, known, present, fun type should => ?_⟩
      cases only _ _ _ _ found known should
      cases should
      rw [toObject_type, shape.esoType]
      rfl
    · intro sqlite importId position node run returned last called returns
      exact ownLinked_of_returns nested (stacked_of_called called).outside returns called.subtree

end Typed

/-- The elements of a document, each with what is found at its position. -/
theorem wellNested_of_preorder {root : DomNode}
    (nested : forall entry, entry ∈ root.preorder -> forall kind wanted,
      entry.2.kind = some kind -> kind.parentKind = some wanted ->
        Exists fun above => Exists fun index => Exists fun outer =>
          entry.1 = above ++ [index] ∧ root.subtree above = some outer ∧
            outer.label.kind = some wanted) : WellNested root := by
  intro position node kind wanted found known should
  refine nested (position, node.label) (RoseTree.mem_preorder.mpr ?_) kind wanted known should
  rw [found]
  rfl

/-- Catalogs in a catalog, one of them below view types. -/
def nestedCatalogs : DomNode :=
  plainElement "catalog"
    [plainElement "view-types" [plainElement "catalog" [plainElement "view-types" []]],
      plainElement "catalog" []]

theorem nestedCatalogs_kinds : forall entry, entry ∈ nestedCatalogs.preorder ->
    entry.2.kind = some .catalog ∨ entry.2.kind = some .viewTypes := by
  decide +kernel

theorem typedParents_nestedCatalogs : TypedParents nestedCatalogs := by
  have nested : WellNested nestedCatalogs := by
    refine wellNested_of_preorder ?_
    intro entry member kind wanted known should
    rcases nestedCatalogs_kinds entry member with own | own
    all_goals
      cases own.symm.trans known
      cases should
  refine (typedParents_iff nested).mpr ?_
  intro position node kind type found known should
  have member : (position, node.label) ∈ nestedCatalogs.preorder := by
    rw [RoseTree.mem_preorder, found]
    rfl
  rcases nestedCatalogs_kinds _ member with own | own
  · exact Option.some.inj (known.symm.trans own)
  · cases own.symm.trans known
    cases should

/-- A catalog with a header with image settings. -/
def settledCatalog : DomNode :=
  plainElement "catalog" [plainElement "header" [plainElement "image-settings" []]]

theorem settledCatalog_not_typed : WellNested settledCatalog ∧ ¬ TypedParents settledCatalog := by
  constructor
  · refine wellNested_of_preorder ?_
    intro entry member kind wanted known should
    change entry ∈ [([], _), ([0], _), ([0, 0], _)] at member
    simp only [List.mem_cons, List.not_mem_nil, or_false] at member
    rcases member with rfl | rfl | rfl
    · have own : settledCatalog.label.kind = some .catalog := by decide +kernel
      cases own.symm.trans known
      cases should
    · have own : NodeContent.kind (.element (some "header") "header" []) = some .header := by
        decide +kernel
      cases own.symm.trans known
      cases should
      exact ⟨[], 0, settledCatalog, rfl, rfl, by decide +kernel⟩
    · have own : NodeContent.kind (.element (some "image-settings") "image-settings" []) =
          some .imageSettings := by decide +kernel
      cases own.symm.trans known
      cases should
      exact ⟨[0], 0, plainElement "header" [plainElement "image-settings" []], rfl, rfl,
        by decide +kernel⟩
  · intro typed
    have logged : (endOf (fromXml counting 7 [] settledCatalog)).errors =
        ["image-settings was found in object type NONE"] := by decide +kernel
    cases logged.symm.trans (typed.silent counting 7)

end Catalog

end EasyProspect
