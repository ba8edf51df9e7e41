import EasyProspect.CatalogSteps

namespace EasyProspect

namespace Catalog

open Traversal Importer

/-!
# The stack of the import

Of what has been made before the visit of a node, only the back of the stack is changed by it.
So a call finds the builders of the ancestors on the stack, each as it has been made, and an
element can rely on its parent exactly if that is the nearest ancestor that pushes.
-/

/-! ## What a visit leaves alone -/

/-- The place is at a child of the position from the index on, or below one. -/
def InsideFrom (position : Position) (index : Nat) (place : Position) : Prop :=
  Exists fun later => index ≤ later ∧ position ++ [later] <+: place

/-- Nothing on the stack is for the position or below it. -/
def Outside (position : Position) (run : ImportRun) : Prop :=
  forall reference, reference ∈ run.parseStack -> ¬ position <+: reference.position

/-- The stack is as before, and so is what has been made outside, apart from the id that the
back of the stack holds for a child. -/
structure Frame (inside : Position -> Prop) (run next : ImportRun) : Prop where
  stack : next.parseStack = run.parseStack
  kept : forall reference builder, ¬ inside reference.position ->
    run.builders reference = some builder ->
    Exists fun changed => next.builders reference = some changed ∧
      SfBuilder.SameShape builder changed ∧ changed.esoId = builder.esoId
  others : forall reference, ¬ inside reference.position ->
    run.parseStack.getLast? ≠ some reference ->
    next.builders reference = run.builders reference

section Frames

variable {inside first second : Position -> Prop} {run middle next : ImportRun}
variable {position place : Position} {content : NodeContent} {popStack : Bool}

theorem Frame.refl (inside : Position -> Prop) (run : ImportRun) : Frame inside run run where
  stack := rfl
  kept := fun _ builder _ present => ⟨builder, present, .refl builder, rfl⟩
  others := fun _ _ _ => rfl

theorem Frame.trans (early : Frame first run middle) (late : Frame second middle next)
    (within : forall place, first place -> inside place)
    (besides : forall place, second place -> inside place) : Frame inside run next where
  stack := late.stack.trans early.stack
  kept := by
    intro reference builder outside present
    rcases early.kept reference builder (fun inner => outside (within _ inner)) present with
      ⟨changed, there, shape, same⟩
    rcases late.kept reference changed (fun inner => outside (besides _ inner)) there with
      ⟨last, here, again, equal⟩
    exact ⟨last, here, shape.trans again, equal.trans same⟩
  others := by
    intro reference outside notLast
    rw [late.others reference (fun inner => outside (besides _ inner))
      (by rwa [early.stack])]
    exact early.others reference (fun inner => outside (within _ inner)) notLast

theorem not_below_of_above {index : Nat} {rest : Position}
    (above : position = place ++ index :: rest) : ¬ position <+: place := by
  intro below
  have length := below.length_le
  rw [above, List.length_append, List.length_cons] at length
  omega

theorem below_of_child {index : Nat} (below : position ++ [index] <+: place) :
    position <+: place :=
  (List.prefix_append position [index]).trans below

theorem not_child_self {index : Nat} : ¬ position ++ [index] <+: position :=
  not_below_of_above rfl

theorem below_of_insideFrom {index : Nat} (inner : InsideFrom position index place) :
    position <+: place := by
  rcases inner with ⟨later, _, below⟩
  exact below_of_child below

theorem not_insideFrom_self {index : Nat} : ¬ InsideFrom position index position := by
  rintro ⟨later, _, below⟩
  exact not_child_self below

theorem Outside.apart (outside : Outside position run) : Apart position run := by
  rintro reference member rfl
  exact outside reference member (List.prefix_refl _)

/-- After a node is entered, nothing on the stack is for a child or below one. -/
theorem Outside.child (outside : Outside position run)
    (entered : Entered position content run popStack next) (index : Nat) :
    Outside (position ++ [index]) next := by
  intro reference member below
  rw [entered.stack, List.mem_append] at member
  rcases member with old | new
  · exact outside reference old (below_of_child below)
  · rw [NodeContent.pushed] at new
    split at new
    · cases List.mem_singleton.mp new
      exact not_child_self below
    · cases new

/-- One child and then those after it. -/
theorem Frame.child_cons {index : Nat} (frame : Frame (position ++ [index] <+: ·) run middle)
    (frames : Frame (InsideFrom position (index + 1)) middle next) :
    Frame (InsideFrom position index) run next := by
  refine frame.trans frames (fun place below => ⟨index, Nat.le_refl index, below⟩) ?_
  rintro place ⟨later, notEarlier, below⟩
  exact ⟨later, by omega, below⟩

theorem Frame.outside (frame : Frame inside run next) (outside : Outside position run) :
    Outside position next := by
  rw [Outside, frame.stack]
  exact outside

/-- The builders of other nodes keep their class, type and id. -/
theorem Entered.kept (entered : Entered position content run popStack next)
    {reference : BuilderRef} {builder : SfBuilder} (different : reference.position ≠ position)
    (present : run.builders reference = some builder) :
    Exists fun changed => next.builders reference = some changed ∧
      SfBuilder.SameShape builder changed ∧ changed.esoId = builder.esoId := by
  rcases BuilderRef.ne_of_position different with ⟨notOwn, notRelated⟩
  have unchanged : (content.parentClass ≠ none -> run.parseStack.getLast? ≠ some reference) ->
      Exists fun changed => next.builders reference = some changed ∧
        SfBuilder.SameShape builder changed ∧ changed.esoId = builder.esoId := by
    intro unlinked
    refine ⟨builder, ?_, .refl builder, rfl⟩
    rw [entered.others reference notOwn (fun _ => notRelated) unlinked]
    exact present
  cases known : content.kind with
  | none =>
      refine unchanged fun linked => absurd ?_ linked
      rw [NodeContent.parentClass, known]
      rfl
  | some kind =>
      cases links : kind.parentClass with
      | none =>
          exact unchanged fun linked =>
            absurd ((NodeContent.parentClass_of_kind known).trans links) linked
      | some parentClass =>
          rcases entered.linked kind parentClass known links with
            ⟨parent, found, id, last, there, _, changed, _⟩
          by_cases same : reference = parent
          · cases same
            cases present.symm.trans there
            exact ⟨_, changed, kind.link_shape id builder, kind.link_id id builder⟩
          · refine unchanged fun _ other => same ?_
            exact Option.some.inj (other.symm.trans last)

/-- The back of the stack keeps the ids of its children of other kinds. -/
theorem Entered.childId_kept (entered : Entered position content run popStack next)
    {reference : BuilderRef} {builder : SfBuilder} {kind : ElementKind}
    (different : reference.position ≠ position) (other : content.kind ≠ some kind)
    (back : run.parseStack.getLast? = some reference)
    (present : run.builders reference = some builder) :
    Exists fun changed => next.builders reference = some changed ∧
      changed.childId kind = builder.childId kind := by
  rcases BuilderRef.ne_of_position different with ⟨notOwn, notRelated⟩
  cases linked : content.parentClass with
  | none =>
      refine ⟨builder, ?_, rfl⟩
      rw [entered.others reference notOwn (fun _ => notRelated) (absurd linked)]
      exact present
  | some parentClass =>
      rcases Option.bind_eq_some_iff.mp linked with ⟨own, known, ownClass⟩
      rcases entered.linked own parentClass known ownClass with
        ⟨parent, before, id, last, there, _, changed, _⟩
      cases back.symm.trans last
      cases present.symm.trans there
      refine ⟨own.link id builder, changed, ElementKind.childId_link_other ?_ id⟩
      rintro rfl
      exact other known

/-- The back of the stack in the loop over the children. -/
theorem Entered.getLast (entered : Entered position content run popStack next) :
    next.parseStack.getLast? =
      if content.pushes then some (.node position) else run.parseStack.getLast? := by
  rw [entered.stack, NodeContent.pushed]
  cases content.pushes with
  | false => simp only [Bool.false_eq_true, if_false, List.append_nil]
  | true => exact List.getLast?_concat

theorem position_ne_of_outside {reference : BuilderRef}
    (outside : ¬ position <+: reference.position) : reference.position ≠ position := by
  intro same
  exact outside (same ▸ List.prefix_refl _)

/-- The visit of a node from what its two parts do and what happens in between. -/
theorem Frame.visit {done last : ImportRun} {index : Nat}
    (entered : Entered position content run popStack next)
    (looped : Frame (InsideFrom position index) next done) (builders : last.builders = done.builders)
    (stack : last.parseStack = run.parseStack) : Frame (position <+: ·) run last where
  stack := stack
  kept := by
    intro reference builder outside present
    have different := position_ne_of_outside outside
    rcases entered.kept different present with ⟨changed, there, shape, same⟩
    rcases looped.kept reference changed (fun inner => outside (below_of_insideFrom inner)) there
      with ⟨final, here, again, equal⟩
    exact ⟨final, builders ▸ here, shape.trans again, equal.trans same⟩
  others := by
    intro reference outside notLast
    rcases BuilderRef.ne_of_position (position_ne_of_outside outside) with ⟨notOwn, notRelated⟩
    have notBack : next.parseStack.getLast? ≠ some reference := by
      rw [entered.getLast]
      split
      · exact fun same => notOwn (Option.some.inj same).symm
      · exact notLast
    rw [builders, looped.others reference (fun inner => outside (below_of_insideFrom inner)) notBack]
    exact entered.others reference notOwn (fun _ => notRelated) fun _ => notLast

end Frames

/-! ## Runs that return -/

section Returns

variable {sqlite : Sqlite} {importId : UInt64} {position : Position} {tree : DomNode}
variable {run last : ImportRun} {returned : Option BuilderRef}

/-- The rule for visits that return, with what the two halves of a visit do. -/
theorem fromXml_rule_entering (Post : Position -> DomNode -> ImportRun -> ImportRun -> Prop)
    (Loop : Position -> Nat -> List DomNode -> ImportRun -> ImportRun -> Prop)
    (nil : forall position index run, Loop position index [] run run)
    (cons : forall position index child children run middle last,
      Frame (position ++ [index] <+: ·) run middle ->
      Frame (InsideFrom position (index + 1)) middle last ->
      Post (position ++ [index]) child run middle ->
      Loop position (index + 1) children middle last ->
      Loop position index (child :: children) run last)
    (node : forall position content children run entered done,
      Outside position run ->
      enterNode sqlite importId position content run = .ok content.pushes entered ->
      Entered position content run content.pushes entered ->
      Frame (InsideFrom position 0) entered done -> Loop position 0 children entered done ->
      Post position (.node content children) run { done with parseStack := run.parseStack })
    (outside : Outside position run)
    (returns : fromXml sqlite importId position tree run = .ok returned last) :
    Frame (position <+: ·) run last ∧ returned = tree.label.returned position ∧
      Post position tree run last := by
  refine traverseTree_rule
    (fun position tree run returned last => Outside position run ->
      Frame (position <+: ·) run last ∧ returned = tree.label.returned position ∧
        Post position tree run last)
    (fun position index children run last =>
      (forall later, Outside (position ++ [later]) run) ->
      Frame (InsideFrom position index) run last ∧ Loop position index children run last)
    ?_ ?_ ?_ returns outside
  · exact fun position index run _ => ⟨.refl _ run, nil position index run⟩
  · intro position index child children run _ middle last own rest beside
    rcases own (beside index) with ⟨frame, _, post⟩
    rcases rest fun later => frame.outside (beside later) with ⟨frames, loop⟩
    exact ⟨frame.child_cons frames, cons _ _ _ _ _ _ _ frame frames post loop⟩
  · intro position content children run popStack entered done returned last entering rest leaving
      outside
    have enters := enterNode_returns outside.apart entering
    have same := enters.popStack
    subst same
    rcases rest (outside.child enters) with ⟨frame, loop⟩
    have ends : last = { done with parseStack := run.parseStack } ∧
        returned = content.returned position := by
      have stack := frame.stack.trans enters.stack
      rcases leaveNode_returns leaving with ⟨still, rfl, rfl⟩ | ⟨popped, completed, back, rfl, rfl⟩
      · rw [NodeContent.pushed, still] at stack
        rw [NodeContent.returned, still]
        refine ⟨?_, rfl⟩
        rw [← List.append_nil run.parseStack]
        exact congrArg (fun found => ImportRun.mk last.builders found last.rows last.errors) stack
      · rw [NodeContent.pushed, popped] at stack
        rw [NodeContent.returned, popped]
        change done.parseStack = run.parseStack ++ [.node position] at stack
        rw [stack, List.getLast?_concat] at back
        rw [stack, List.dropLast_concat]
        exact ⟨rfl, back.symm⟩
    rcases ends with ⟨rfl, rfl⟩
    exact ⟨.visit enters frame rfl rfl, rfl, node _ _ _ _ _ _ outside entering enters frame loop⟩

/-- The same rule for what does not depend on how a node is entered. -/
theorem fromXml_rule (Post : Position -> DomNode -> ImportRun -> ImportRun -> Prop)
    (Loop : Position -> Nat -> List DomNode -> ImportRun -> ImportRun -> Prop)
    (nil : forall position index run, Loop position index [] run run)
    (cons : forall position index child children run middle last,
      Frame (position ++ [index] <+: ·) run middle ->
      Frame (InsideFrom position (index + 1)) middle last ->
      Post (position ++ [index]) child run middle ->
      Loop position (index + 1) children middle last ->
      Loop position index (child :: children) run last)
    (node : forall position content children run entered done,
      Outside position run -> Entered position content run content.pushes entered ->
      Frame (InsideFrom position 0) entered done -> Loop position 0 children entered done ->
      Post position (.node content children) run { done with parseStack := run.parseStack })
    (outside : Outside position run)
    (returns : fromXml sqlite importId position tree run = .ok returned last) :
    Frame (position <+: ·) run last ∧ returned = tree.label.returned position ∧
      Post position tree run last :=
  fromXml_rule_entering Post Loop nil cons
    (fun position content children run entered done outside _ =>
      node position content children run entered done outside) outside returns

theorem fromXml_frame (outside : Outside position run)
    (returns : fromXml sqlite importId position tree run = .ok returned last) :
    Frame (position <+: ·) run last ∧ returned = tree.label.returned position := by
  have whole := fromXml_rule (fun _ _ _ _ => True) (fun _ _ _ _ _ => True)
    (fun _ _ _ => trivial) (fun _ _ _ _ _ _ _ _ _ _ _ => trivial)
    (fun _ _ _ _ _ _ _ _ _ _ => trivial) outside returns
  exact ⟨whole.1, whole.2.1⟩

/-- The same rule for the children of one node. -/
theorem fromXmlChildren_rule (Post : Position -> DomNode -> ImportRun -> ImportRun -> Prop)
    (Loop : Position -> Nat -> List DomNode -> ImportRun -> ImportRun -> Prop)
    (nil : forall position index run, Loop position index [] run run)
    (cons : forall position index child children run middle last,
      Post (position ++ [index]) child run middle ->
      Loop position (index + 1) children middle last ->
      Loop position index (child :: children) run last)
    (post : forall position tree run returned last, Outside position run ->
      fromXml sqlite importId position tree run = .ok returned last -> Post position tree run last)
    {children : List DomNode} {index : Nat}
    (outside : forall later, Outside (position ++ [later]) run)
    (returns : traverseChildren (enterNode sqlite importId) leaveNode position index children run =
      .ok ⟨⟩ last) :
    Frame (InsideFrom position index) run last ∧ Loop position index children run last := by
  refine traverseChildren_rule
    (fun position tree run _ last => Outside position run ->
      Frame (position <+: ·) run last ∧ Post position tree run last)
    (fun position index children run last =>
      (forall later, Outside (position ++ [later]) run) ->
      Frame (InsideFrom position index) run last ∧ Loop position index children run last)
    ?_ ?_ ?_ returns outside
  · exact fun position index run _ => ⟨.refl _ run, nil position index run⟩
  · intro position index child children run _ middle last own rest beside
    rcases own (beside index) with ⟨frame, done⟩
    rcases rest fun later => frame.outside (beside later) with ⟨frames, loop⟩
    exact ⟨frame.child_cons frames, cons _ _ _ _ _ _ _ done loop⟩
  · exact fun _ _ _ _ _ returns outside =>
      ⟨(fromXml_frame outside returns).1, post _ _ _ _ _ outside returns⟩

theorem traverseChildren_frame {children : List DomNode} {index : Nat}
    (outside : forall later, Outside (position ++ [later]) run)
    (returns : traverseChildren (enterNode sqlite importId) leaveNode position index children run =
      .ok ⟨⟩ last) : Frame (InsideFrom position index) run last :=
  (fromXmlChildren_rule (fun _ _ _ _ => True) (fun _ _ _ _ _ => True)
    (fun _ _ _ => trivial) (fun _ _ _ _ _ _ _ _ _ => trivial) (fun _ _ _ _ _ _ _ => trivial)
    outside returns).1

end Returns

/-! ## The stack at every call -/

/-- The builders that the proper ancestors of a node push, outermost first. -/
def pushedAbove (root : DomNode) (position : Position) : List BuilderRef :=
  (root.above position).flatMap fun ancestor => ancestor.2.pushed ancestor.1

/-- What a call for a node finds. -/
structure Stacked (root : DomNode) (position : Position) (run : ImportRun) : Prop where
  stack : run.parseStack = pushedAbove root position
  made : forall place content kind, (place, content) ∈ root.above position ->
    content.kind = some kind -> Exists fun builder =>
      run.builders (.node place) = some builder ∧
        SfBuilder.SameShape (.make kind.builderClass) builder

section Calls

variable {sqlite : Sqlite} {importId : UInt64} {root tree : DomNode} {position : Position}
variable {run last : ImportRun} {returned : Option BuilderRef} {reference : BuilderRef}

/-- What is pushed for the ancestors is the builders of those that push. -/
theorem mem_pushedAbove (member : reference ∈ pushedAbove root position) :
    Exists fun place => Exists fun content => (place, content) ∈ root.above position ∧
      content.pushes = true ∧ reference = .node place := by
  rcases List.mem_flatMap.mp member with ⟨⟨place, content⟩, above, own⟩
  rw [NodeContent.pushed] at own
  split at own
  · rename_i pushes
    exact ⟨place, content, above, pushes, List.mem_singleton.mp own⟩
  · cases own

theorem pushedAbove_snoc {node : DomNode} (found : root.subtree position = some node)
    (index : Nat) : pushedAbove root (position ++ [index]) =
      pushedAbove root position ++ node.label.pushed position := by
  rw [pushedAbove, RoseTree.above_snoc found, List.flatMap_append, List.flatMap_singleton]
  rfl

theorem Stacked.outside (stacked : Stacked root position run) : Outside position run := by
  intro reference member
  rw [stacked.stack] at member
  rcases mem_pushedAbove member with ⟨place, content, above, _, rfl⟩
  rcases (RoseTree.mem_above above).2 with ⟨index, rest, above⟩
  exact not_below_of_above above

theorem stacked_start (root : DomNode) : Stacked root [] .start where
  stack := rfl
  made := fun _ _ _ member => nomatch member

/-- After a node is entered, the stack has what the node pushes besides. -/
theorem Stacked.enter {content : NodeContent} {children : List DomNode} {popStack : Bool}
    (stacked : Stacked root position run)
    (found : root.subtree position = some (.node content children))
    (entered : Entered position content run popStack last) (index : Nat) :
    Stacked root (position ++ [index]) last where
  stack := by
    rw [entered.stack, stacked.stack, pushedAbove_snoc found]
    rfl
  made := by
    intro place above kind member known
    rw [RoseTree.above_snoc found, List.mem_append] at member
    rcases member with higher | own
    · rcases (RoseTree.mem_above higher).2 with ⟨first, rest, apart⟩
      rcases stacked.made place above kind higher known with ⟨builder, present, shape⟩
      have different : (BuilderRef.node place).position ≠ position := by
        rintro rfl
        exact not_below_of_above apart (List.prefix_refl _)
      rcases entered.kept different present with ⟨changed, there, again, _⟩
      exact ⟨changed, there, shape.trans again⟩
    · cases List.mem_singleton.mp own
      rcases entered.own kind known with ⟨builder, present, shape, _⟩
      exact ⟨builder, present, shape⟩

theorem Stacked.frame {inside : Position -> Prop} (stacked : Stacked root position run)
    (frame : Frame inside run last)
    (outside : forall place content, (place, content) ∈ root.above position -> ¬ inside place) :
    Stacked root position last where
  stack := frame.stack.trans stacked.stack
  made := by
    intro place content kind member known
    rcases stacked.made place content kind member known with ⟨builder, present, shape⟩
    rcases frame.kept (.node place) builder (outside place content member) present with
      ⟨changed, there, again, _⟩
    exact ⟨changed, there, shape.trans again⟩

/-- Every call finds the builders of the ancestors. -/
theorem stacked_of_called
    (called : Called (enterNode sqlite importId) leaveNode root .start position tree run) :
    Stacked root position run := by
  refine called.invariant (fun position _ run => Stacked root position run)
    (stacked_start root) ?_
  intro position content before child after run popStack entered middle parent stacked entering
    looped
  have enters := enterNode_returns stacked.outside.apart entering
  refine (stacked.enter parent.subtree enters before.length).frame
    (traverseChildren_frame (stacked.outside.child enters) looped) ?_
  intro place ancestor member inner
  rcases (RoseTree.mem_above member).2 with ⟨index, rest, above⟩
  have length := congrArg List.length above
  have below := (below_of_insideFrom inner).length_le
  rcases inner with ⟨later, _, inner⟩
  have within := inner.length_le
  simp only [List.length_append, List.length_cons, List.length_nil] at length within
  omega

/-- Whenever `from_xml` is entered the stack holds what the ancestors push, and when it returns
the stack is as before. -/
theorem parse_stack_discipline
    (returns : fromXml sqlite importId [] root .start = .ok returned last) :
    (forall position node, root.subtree position = some node -> Exists fun run =>
      Called (enterNode sqlite importId) leaveNode root .start position node run) ∧
    (forall position node run,
      Called (enterNode sqlite importId) leaveNode root .start position node run ->
        run.parseStack = pushedAbove root position ∧ Exists fun result => Exists fun after =>
          fromXml sqlite importId position node run = .ok result after ∧
          after.parseStack = run.parseStack ∧
          result = if node.label.pushes then some (.node position) else none) ∧
    last.parseStack = [] := by
  refine ⟨fun position node found => Called.exists_of_subtree returns found, ?_, ?_⟩
  · intro position node run called
    have stacked := stacked_of_called called
    rcases called.returns returns with ⟨result, after, own⟩
    rcases fromXml_frame stacked.outside own with ⟨frame, result_eq⟩
    exact ⟨stacked.stack, result, after, own, frame.stack, result_eq⟩
  · exact (fromXml_frame (stacked_start root).outside returns).1.stack

end Calls

/-- An element without a namespace prefix and without attributes. -/
def plainElement (name : String) (children : List DomNode) : DomNode :=
  .node (.element (some name) name []) children

/-- A database in which every insertion gets the next id. -/
def counting : Sqlite := ⟨fun rows => .ok (rows.length + 1).toInt64⟩

/-- The fault of an import, if it has one. -/
def faultOf {Value : Type} (importer : Importer Value) : Option ImportFault :=
  match importer .start with
  | .ok _ _ => none
  | .error fault _ => some fault

/-- The state in which an import ends, with or without a fault. -/
def endOf {Value : Type} (importer : Importer Value) : ImportRun :=
  match importer .start with
  | .ok _ last => last
  | .error _ last => last

theorem returns_of_faultOf {Value : Type} {importer : Importer Value}
    (returns : faultOf importer = none) :
    Exists fun value => Exists fun last => importer .start = .ok value last := by
  rw [faultOf] at returns
  cases outcome : importer .start with
  | ok value last => exact ⟨value, last, rfl⟩
  | error fault last =>
      simp only [outcome] at returns
      cases returns

theorem fails_of_faultOf {Value : Type} {importer : Importer Value} {fault : ImportFault}
    (fails : faultOf importer = some fault) :
    Exists fun last => importer .start = .error fault last := by
  rw [faultOf] at fails
  cases outcome : importer .start with
  | ok value last =>
      simp only [outcome] at fails
      cases fails
  | error found last =>
      simp only [outcome] at fails
      cases fails
      exact ⟨last, rfl⟩

/-- A catalog with a header, a text and a category. -/
def smallCatalog : DomNode :=
  plainElement "catalog"
    [plainElement "header" [plainElement "image-settings" [plainElement "internal-location" []]],
      .node .text [],
      plainElement "category" [plainElement "display-name" [], plainElement "parent" []]]

theorem parse_stack_discipline_smallCatalog : Exists fun returned => Exists fun last =>
    fromXml counting 7 [] smallCatalog .start = .ok returned last ∧ last.parseStack = [] := by
  have ends : faultOf (fromXml counting 7 [] smallCatalog) = none := by decide +kernel
  rcases returns_of_faultOf ends with ⟨returned, last, returns⟩
  exact ⟨returned, last, returns, (parse_stack_discipline returns).2.2⟩

/-! ## Documents that the import is safe on -/

/-- The nearest proper ancestor of a node that pushes a builder. -/
def nearestPushing (root : DomNode) (position : Position) : Option (Position × NodeContent) :=
  ((root.above position).filter fun ancestor => ancestor.2.pushes).getLast?

/-- Each element that is linked from its parent has the element it should have as nearest
ancestor that pushes. -/
def Placed (root : DomNode) : Prop :=
  forall position node kind wanted, root.subtree position = some node ->
    node.label.kind = some kind -> kind.parentKind = some wanted ->
      Exists fun place => Exists fun content =>
        nearestPushing root position = some (place, content) ∧ content.kind = some wanted

/-- Whatever the database does, nothing but its errors ends the import of the document. -/
def Safe (root : DomNode) : Prop :=
  forall sqlite importId fault last, fromXml sqlite importId [] root .start = .error fault last ->
    Exists fun message => fault = .sqlite message

section Safety

variable {sqlite : Sqlite} {importId : UInt64} {root : DomNode} {position : Position}
variable {run last : ImportRun} {content : NodeContent} {fault : ImportFault}

theorem getLast_pushedAbove (root : DomNode) (position : Position) :
    (pushedAbove root position).getLast? =
      (nearestPushing root position).map fun ancestor => .node ancestor.1 := by
  have pushed : pushedAbove root position =
      ((root.above position).filter fun ancestor => ancestor.2.pushes).map
        fun ancestor => .node ancestor.1 := by
    rw [pushedAbove]
    induction root.above position with
    | nil => rfl
    | cons ancestor rest inductionHypothesis =>
        rw [List.flatMap_cons, inductionHypothesis, NodeContent.pushed, List.filter_cons]
        split <;> rfl
  rw [pushed, List.getLast?_map]
  rfl

theorem mem_of_nearestPushing {place : Position} {ancestor : NodeContent}
    (nearest : nearestPushing root position = some (place, ancestor)) :
    (place, ancestor) ∈ root.above position :=
  (List.mem_filter.mp (List.mem_of_getLast? nearest)).1

/-- In a document that is placed, the back of the stack fits every element. -/
theorem Stacked.fits (stacked : Stacked root position run) (placed : Placed root)
    {node : DomNode} (found : root.subtree position = some node) : Fits node.label run := by
  intro parentClass links
  rcases Option.bind_eq_some_iff.mp links with ⟨kind, known, linked⟩
  rw [kind.parentClass_eq] at linked
  rcases Option.map_eq_some_iff.mp linked with ⟨wanted, should, rfl⟩
  rcases placed position node kind wanted found known should with ⟨place, ancestor, nearest, same⟩
  rcases stacked.made place ancestor wanted (mem_of_nearestPushing nearest) same with
    ⟨builder, present, shape⟩
  refine ⟨.node place, builder, ?_, present, shape⟩
  rw [stacked.stack, getLast_pushedAbove, nearest]
  rfl

/-- A failed import has failed in the first half of a visit. -/
theorem raised_of_fails (fails : fromXml sqlite importId [] root .start = .error fault last) :
    Exists fun position => Exists fun content => Exists fun children => Exists fun run =>
      Called (enterNode sqlite importId) leaveNode root .start position (.node content children)
        run ∧ enterNode sqlite importId position content run = .error fault last := by
  rcases Called.raises .root fails with ⟨position, content, children, run, called,
    raised | ⟨popStack, entered, done, entering, looped, leaving⟩⟩
  · exact ⟨position, content, children, run, called, raised⟩
  · have outside := (stacked_of_called called).outside
    have enters := enterNode_returns outside.apart entering
    have frame := traverseChildren_frame (outside.child enters) looped
    rcases leaveNode_fails leaving with ⟨popped, empty⟩
    have pushed : content.pushed position = [.node position] := by
      rw [NodeContent.pushed, ← enters.popStack, popped]
      rfl
    rw [frame.stack, enters.stack, pushed] at empty
    exact absurd empty (List.append_ne_nil_of_right_ne_nil _ (List.cons_ne_nil _ _))

theorem safe_of_placed (placed : Placed root) : Safe root := by
  intro sqlite importId fault last fails
  rcases raised_of_fails fails with ⟨position, content, children, run, called, raised⟩
  have stacked := stacked_of_called called
  rcases enterNode_fails stacked.outside.apart raised with
    ⟨rows, message, refused, same⟩ | ⟨unfit, _⟩
  · exact ⟨message, same⟩
  · exact absurd (stacked.fits placed called.subtree) unfit

/-- A document that the import is safe on is imported where the database takes every row. -/
theorem returns_of_safe (safe : Safe root) (importId : UInt64) :
    Exists fun returned => Exists fun last =>
      fromXml counting importId [] root .start = .ok returned last := by
  cases outcome : fromXml counting importId [] root .start with
  | ok returned last => exact ⟨returned, last, rfl⟩
  | error fault last =>
      rcases raised_of_fails outcome with ⟨position, content, children, run, called, raised⟩
      rcases enterNode_fails (stacked_of_called called).outside.apart raised with
        ⟨rows, message, refused, _⟩ | ⟨_, ofParent⟩
      · cases refused
      · rcases safe counting importId fault last outcome with ⟨message, rfl⟩
        exact ofParent.elim

/-- If the visit of an element returns, its nearest ancestor that pushes is the right one. -/
theorem nearestPushing_of_enter {popStack : Bool} {kind wanted : ElementKind}
    (stacked : Stacked root position run)
    (entering : enterNode sqlite importId position content run = .ok popStack last)
    (known : content.kind = some kind) (should : kind.parentKind = some wanted) :
    Exists fun place => Exists fun ancestor =>
      nearestPushing root position = some (place, ancestor) ∧ ancestor.kind = some wanted := by
  have links : kind.parentClass = some wanted.builderClass := by
    rw [kind.parentClass_eq, should]
    rfl
  have enters := enterNode_returns stacked.outside.apart entering
  rcases enters.linked kind _ known links with ⟨parent, builder, _, back, present, fits, _⟩
  rw [stacked.stack, getLast_pushedAbove] at back
  rcases Option.map_eq_some_iff.mp back with ⟨⟨place, ancestor⟩, nearest, rfl⟩
  refine ⟨place, ancestor, nearest, ?_⟩
  have pushes : ancestor.pushes = true :=
    (List.mem_filter.mp (List.mem_of_getLast? nearest)).2
  cases same : ancestor.kind with
  | none =>
      rw [NodeContent.pushes, same] at pushes
      cases pushes
  | some found =>
      rcases stacked.made place ancestor found (mem_of_nearestPushing nearest) same with
        ⟨made, there, shape⟩
      cases present.symm.trans there
      have equal := found.builderClass.make_class.symm.trans (shape.builderClass.symm.trans fits)
      rw [← equal] at links
      exact congrArg some (Option.some.inj
        ((ElementKind.parentKind_of_class links).symm.trans should))

theorem placed_of_safe (safe : Safe root) : Placed root := by
  intro position node kind wanted found known should
  rcases returns_of_safe safe 0 with ⟨returned, last, returns⟩
  rcases Called.exists_of_subtree returns found with ⟨run, called⟩
  rcases called.returns returns with ⟨result, after, own⟩
  cases node with
  | node content children =>
      rcases traverseTree_ok.mp own with ⟨popStack, entered, done, entering, _, _⟩
      exact nearestPushing_of_enter (stacked_of_called called) entering known should

/-- The documents that the import is safe on. -/
theorem safe_iff_placed (root : DomNode) : Safe root <-> Placed root :=
  ⟨placed_of_safe, safe_of_placed⟩

/-- A document that is a header. -/
theorem header_not_safe : ¬ Safe (plainElement "header" []) := by
  intro safe
  have bottom : faultOf (fromXml counting 7 [] (plainElement "header" [])) =
      some .emptyStack := by decide +kernel
  rcases fails_of_faultOf bottom with ⟨last, fails⟩
  rcases safe counting 7 .emptyStack last fails with ⟨message, same⟩
  cases same

end Safety

end Catalog

end EasyProspect
