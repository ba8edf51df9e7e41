import Mathlib.Data.List.Induction

namespace Traversal

/-!
# Recursion over an ordered tree

A procedure that handles a node, then its children from left to right, then the node again,
over a state and with faults.  A node is named by its position, the indices of the children
on the way to it; which calls a run makes is a relation, so that a fact about every call is an
induction over that relation, and a fact about a run that returns is an induction over the tree.
-/

universe u v

/-- A node and its children. -/
inductive RoseTree (Label : Type u) : Type u
  | node (label : Label) (children : List (RoseTree Label))

/-- The indices of the children on the way from the root. -/
abbrev Position := List Nat

namespace RoseTree

variable {Label : Type u}

def label : RoseTree Label -> Label
  | node label _ => label

def children : RoseTree Label -> List (RoseTree Label)
  | node _ children => children

def subtree (tree : RoseTree Label) : Position -> Option (RoseTree Label)
  | [] => some tree
  | index :: rest => tree.children[index]?.bind fun child => child.subtree rest

/-- The proper ancestors of a position below `position`, outermost first. -/
def aboveFrom (tree : RoseTree Label) (position : Position) : Position -> List (Position × Label)
  | [] => []
  | index :: rest =>
      (position, tree.label) ::
        match tree.children[index]? with
        | some child => child.aboveFrom (position ++ [index]) rest
        | none => []

def above (tree : RoseTree Label) (position : Position) : List (Position × Label) :=
  tree.aboveFrom [] position

mutual

/-- All nodes with their positions, each before its children. -/
def preorderFrom (position : Position) : RoseTree Label -> List (Position × Label)
  | node label children => (position, label) :: preorderChildren position 0 children

def preorderChildren (position : Position) : Nat -> List (RoseTree Label) -> List (Position × Label)
  | _, [] => []
  | index, child :: rest =>
      child.preorderFrom (position ++ [index]) ++ preorderChildren position (index + 1) rest

end

def preorder (tree : RoseTree Label) : List (Position × Label) :=
  tree.preorderFrom []

end RoseTree

section Traverse

variable {Label : Type u} {Fault State Context Result : Type v}
variable (enter : Position -> Label -> EStateM Fault State Context)
variable (leave : Position -> Context -> EStateM Fault State Result)

mutual

/-- The node, its children, and the node again. -/
def traverseTree (position : Position) : RoseTree Label -> EStateM Fault State Result
  | .node label children => do
      let context <- enter position label
      traverseChildren position 0 children
      leave position context

/-- The children from some index on. -/
def traverseChildren (position : Position) :
    Nat -> List (RoseTree Label) -> EStateM Fault State PUnit
  | _, [] => pure ⟨⟩
  | index, child :: rest => do
      let _ <- traverseTree (position ++ [index]) child
      traverseChildren position (index + 1) rest

end

end Traverse

/-! ## Positions -/

namespace RoseTree

variable {Label : Type u}

/-- Induction over a tree, with the hypothesis for every child. -/
theorem induct {motive : RoseTree Label -> Prop}
    (node : forall label children, (forall child, child ∈ children -> motive child) ->
      motive (node label children)) (tree : RoseTree Label) : motive tree := by
  refine RoseTree.rec (motive_2 := fun children => forall child, child ∈ children -> motive child)
    node ?_ ?_ tree
  · intro child member
    cases member
  · intro first rest firstHolds restHolds child member
    rcases List.mem_cons.mp member with rfl | later
    · exact firstHolds
    · exact restHolds child later

theorem subtree_append (tree : RoseTree Label) (position below : Position) :
    tree.subtree (position ++ below) =
      (tree.subtree position).bind fun node => node.subtree below := by
  induction position generalizing tree with
  | nil => rfl
  | cons first rest inductionHypothesis =>
      simp only [List.cons_append, subtree, Option.bind_assoc]
      exact congrArg _ (funext inductionHypothesis)

theorem subtree_snoc (tree : RoseTree Label) (position : Position) (index : Nat) :
    tree.subtree (position ++ [index]) =
      (tree.subtree position).bind fun node => node.children[index]? := by
  simp only [subtree_append, subtree, Option.bind_fun_some]

theorem aboveFrom_snoc {tree node : RoseTree Label} {position : Position}
    (found : tree.subtree position = some node) (start : Position) (index : Nat) :
    tree.aboveFrom start (position ++ [index]) =
      tree.aboveFrom start position ++ [(start ++ position, node.label)] := by
  induction position generalizing tree start with
  | nil =>
      cases found
      simp only [List.nil_append, aboveFrom, List.append_nil]
      cases node.children[index]? <;> rfl
  | cons first rest inductionHypothesis =>
      rcases Option.bind_eq_some_iff.mp found with ⟨child, present, below⟩
      simp only [List.cons_append, aboveFrom, present]
      rw [inductionHypothesis below, List.append_assoc]
      rfl

/-- The ancestors of a child are those of its parent, and its parent. -/
theorem above_snoc {tree node : RoseTree Label} {position : Position}
    (found : tree.subtree position = some node) (index : Nat) :
    tree.above (position ++ [index]) = tree.above position ++ [(position, node.label)] :=
  aboveFrom_snoc found [] index

/-- The ancestors are nodes of the tree, above the position. -/
theorem mem_above {tree : RoseTree Label} {position place : Position} {label : Label}
    (member : (place, label) ∈ tree.above position) :
    (tree.subtree place).map RoseTree.label = some label ∧
      Exists fun index => Exists fun rest => position = place ++ index :: rest := by
  have general : forall start, (place, label) ∈ tree.aboveFrom start position ->
      Exists fun way => place = start ++ way ∧ (tree.subtree way).map RoseTree.label = some label ∧
        Exists fun index => Exists fun rest => position = way ++ index :: rest := by
    clear member
    induction position generalizing tree with
    | nil => exact fun _ => nofun
    | cons first later inductionHypothesis =>
        intro start member
        rcases List.mem_cons.mp member with same | member
        · cases same
          exact ⟨[], (List.append_nil _).symm, rfl, first, later, rfl⟩
        · cases present : tree.children[first]? with
          | none =>
              simp only [present] at member
              cases member
          | some child =>
              simp only [present] at member
              rcases inductionHypothesis _ member with ⟨way, rfl, found, index, rest, rfl⟩
              refine ⟨first :: way, List.append_assoc start [first] way, ?_, index, rest, rfl⟩
              rw [subtree, present]
              exact found
  rcases general [] member with ⟨way, rfl, found, below⟩
  exact ⟨found, below⟩

/-! ### The order of the nodes -/

mutual

theorem mem_preorderFrom (tree : RoseTree Label) (start position : Position) (label : Label) :
    (position, label) ∈ tree.preorderFrom start <->
      Exists fun rest => position = start ++ rest ∧
        (tree.subtree rest).map RoseTree.label = some label := by
  cases tree with
  | node own children =>
      rw [preorderFrom, List.mem_cons, mem_preorderChildren]
      constructor
      · rintro (here | ⟨offset, rest, rfl, found⟩)
        · cases here
          exact ⟨[], (List.append_nil _).symm, rfl⟩
        · refine ⟨offset :: rest, by rw [Nat.zero_add], ?_⟩
          exact found
      · rintro ⟨rest, rfl, found⟩
        cases rest with
        | nil =>
            cases found
            exact Or.inl (by rw [List.append_nil]; rfl)
        | cons offset rest =>
            exact Or.inr ⟨offset, rest, by rw [Nat.zero_add], found⟩

theorem mem_preorderChildren (children : List (RoseTree Label)) (start : Position) (index : Nat)
    (position : Position) (label : Label) :
    (position, label) ∈ preorderChildren start index children <->
      Exists fun offset => Exists fun rest => position = start ++ (index + offset) :: rest ∧
        (children[offset]?.bind fun child => child.subtree rest).map RoseTree.label =
          some label := by
  cases children with
  | nil => simp [preorderChildren]
  | cons child later =>
      rw [preorderChildren, List.mem_append, mem_preorderFrom, mem_preorderChildren]
      constructor
      · rintro (⟨rest, rfl, found⟩ | ⟨offset, rest, rfl, found⟩)
        · exact ⟨0, rest, by simp, found⟩
        · exact ⟨offset + 1, rest, by rw [Nat.add_right_comm, Nat.add_assoc], found⟩
      · rintro ⟨offset, rest, rfl, found⟩
        cases offset with
        | zero => exact Or.inl ⟨rest, by simp, found⟩
        | succ offset =>
            exact Or.inr ⟨offset, rest, by rw [Nat.add_right_comm, Nat.add_assoc], found⟩

end

mutual

theorem nodup_preorderFrom (tree : RoseTree Label) (start : Position) :
    ((tree.preorderFrom start).map Prod.fst).Nodup := by
  cases tree with
  | node own children =>
      rw [preorderFrom, List.map_cons, List.nodup_cons]
      refine ⟨fun member => ?_, nodup_preorderChildren children start 0⟩
      rcases List.mem_map.mp member with ⟨⟨position, label⟩, later, same⟩
      rcases (mem_preorderChildren children start 0 position label).mp later with ⟨_, _, below, _⟩
      have equal : start ++ _ = start := below.symm.trans same
      exact absurd (List.append_right_eq_self.mp equal) (List.cons_ne_nil _ _)

theorem nodup_preorderChildren (children : List (RoseTree Label)) (start : Position) (index : Nat) :
    ((preorderChildren start index children).map Prod.fst).Nodup := by
  cases children with
  | nil => exact List.nodup_nil
  | cons child later =>
      rw [preorderChildren, List.map_append, List.nodup_append]
      refine ⟨nodup_preorderFrom child _, nodup_preorderChildren later start (index + 1), ?_⟩
      rintro position first other second rfl
      rcases List.mem_map.mp first with ⟨⟨_, label⟩, here, rfl⟩
      rcases List.mem_map.mp second with ⟨⟨_, label'⟩, there, same⟩
      rcases (mem_preorderFrom child _ _ label).mp here with ⟨rest, below, _⟩
      rcases (mem_preorderChildren later start (index + 1) _ label').mp there with
        ⟨offset, rest', beside, _⟩
      have equal : start ++ (index + 1 + offset) :: rest' = start ++ index :: rest := by
        exact beside.symm.trans (same.trans (below.trans (List.append_assoc start [index] rest)))
      have heads := (List.cons.inj (List.append_cancel_left equal)).1
      omega

end

theorem mem_preorder {tree : RoseTree Label} {position : Position} {label : Label} :
    (position, label) ∈ tree.preorder <->
      (tree.subtree position).map RoseTree.label = some label := by
  rw [preorder, mem_preorderFrom]
  constructor
  · rintro ⟨rest, rfl, found⟩
    exact found
  · exact fun found => ⟨position, rfl, found⟩

/-- Every position of the tree is met once. -/
theorem nodup_preorder (tree : RoseTree Label) : (tree.preorder.map Prod.fst).Nodup :=
  nodup_preorderFrom tree []

end RoseTree

/-! ## Runs of one computation after another -/

section Runs

variable {Fault State First Second : Type v} {first : EStateM Fault State First}
variable {second : First -> EStateM Fault State Second} {state last : State}

theorem get_bind {later : State -> EStateM Fault State Second} :
    (get >>= later) state = later state state := rfl

theorem bind_of_ok {value : First} (returns : first state = .ok value last) :
    (first >>= second) state = second value last := by
  change EStateM.bind first second state = _
  rw [EStateM.bind, returns]

theorem bind_of_error {fault : Fault} (fails : first state = .error fault last) :
    (first >>= second) state = .error fault last := by
  change EStateM.bind first second state = _
  rw [EStateM.bind, fails]

theorem ok_bind {result : Second} :
    (first >>= second) state = .ok result last <->
      Exists fun value => Exists fun middle =>
        first state = .ok value middle ∧ second value middle = .ok result last := by
  cases outcome : first state with
  | ok value middle =>
      rw [bind_of_ok outcome]
      constructor
      · exact fun later => ⟨value, middle, rfl, later⟩
      · rintro ⟨_, _, same, later⟩
        cases same
        exact later
  | error fault middle =>
      rw [bind_of_error outcome]
      constructor
      · exact nofun
      · rintro ⟨_, _, same, _⟩
        cases same

theorem error_bind {fault : Fault} :
    (first >>= second) state = .error fault last <->
      first state = .error fault last ∨ Exists fun value => Exists fun middle =>
        first state = .ok value middle ∧ second value middle = .error fault last := by
  cases outcome : first state with
  | ok value middle =>
      rw [bind_of_ok outcome]
      constructor
      · exact fun later => Or.inr ⟨value, middle, rfl, later⟩
      · rintro (same | ⟨_, _, same, later⟩)
        · cases same
        · cases same
          exact later
  | error early middle =>
      rw [bind_of_error outcome]
      constructor
      · intro same
        cases same
        exact Or.inl rfl
      · rintro (same | ⟨_, _, same, _⟩)
        · cases same
          rfl
        · cases same

end Runs

/-! ## Traversals -/

section Rules

variable {Label : Type u} {Fault State Context Result : Type v}
variable {enter : Position -> Label -> EStateM Fault State Context}
variable {leave : Position -> Context -> EStateM Fault State Result}
variable {position : Position} {tree : RoseTree Label} {children : List (RoseTree Label)}
variable {state last : State} {result : Result}

theorem traverseTree_ok {label : Label} :
    traverseTree enter leave position (.node label children) state = .ok result last <->
      Exists fun context => Exists fun entered => Exists fun done =>
        enter position label state = .ok context entered ∧
        traverseChildren enter leave position 0 children entered = .ok ⟨⟩ done ∧
        leave position context done = .ok result last := by
  rw [traverseTree, ok_bind]
  constructor
  · rintro ⟨context, entered, first, rest⟩
    rcases ok_bind.mp rest with ⟨_, done, looped, left⟩
    exact ⟨context, entered, done, first, looped, left⟩
  · rintro ⟨context, entered, done, first, looped, left⟩
    exact ⟨context, entered, first, ok_bind.mpr ⟨⟨⟩, done, looped, left⟩⟩

theorem traverseChildren_cons_ok {child : RoseTree Label} {index : Nat} :
    traverseChildren enter leave position index (child :: children) state = .ok ⟨⟩ last <->
      Exists fun returned => Exists fun middle =>
        traverseTree enter leave (position ++ [index]) child state = .ok returned middle ∧
        traverseChildren enter leave position (index + 1) children middle = .ok ⟨⟩ last := by
  rw [traverseChildren, ok_bind]

theorem traverseChildren_append_ok {before after : List (RoseTree Label)} {index : Nat} :
    traverseChildren enter leave position index (before ++ after) state = .ok ⟨⟩ last <->
      Exists fun middle =>
        traverseChildren enter leave position index before state = .ok ⟨⟩ middle ∧
        traverseChildren enter leave position (index + before.length) after middle =
          .ok ⟨⟩ last := by
  induction before generalizing index state with
  | nil =>
      constructor
      · exact fun later => ⟨state, rfl, later⟩
      · rintro ⟨_, same, later⟩
        cases same
        exact later
  | cons child before inductionHypothesis =>
      rw [List.cons_append, traverseChildren_cons_ok]
      have offset : index + (child :: before).length = index + 1 + before.length := by
        rw [List.length_cons]
        omega
      rw [offset]
      constructor
      · rintro ⟨returned, middle, first, rest⟩
        rcases inductionHypothesis.mp rest with ⟨between, early, late⟩
        exact ⟨between, traverseChildren_cons_ok.mpr ⟨returned, middle, first, early⟩, late⟩
      · rintro ⟨between, early, late⟩
        rcases traverseChildren_cons_ok.mp early with ⟨returned, middle, first, rest⟩
        exact ⟨returned, middle, first, inductionHypothesis.mpr ⟨between, rest, late⟩⟩

/-- Where the children stop, one of them fails after all those before it have returned. -/
theorem traverseChildren_error {index : Nat} {fault : Fault}
    (fails : traverseChildren enter leave position index children state = .error fault last) :
    Exists fun before => Exists fun child => Exists fun after => Exists fun middle =>
      children = before ++ child :: after ∧
      traverseChildren enter leave position index before state = .ok ⟨⟩ middle ∧
      traverseTree enter leave (position ++ [index + before.length]) child middle =
        .error fault last := by
  induction children generalizing index state with
  | nil => cases fails
  | cons child children inductionHypothesis =>
      rw [traverseChildren] at fails
      rcases error_bind.mp fails with own | ⟨returned, middle, passed, rest⟩
      · exact ⟨[], child, children, state, rfl, rfl, own⟩
      · rcases inductionHypothesis rest with ⟨before, later, after, between, rfl, early, mine⟩
        refine ⟨child :: before, later, after, between, rfl, ?_, ?_⟩
        · exact traverseChildren_cons_ok.mpr ⟨returned, middle, passed, early⟩
        · rw [List.length_cons, Nat.add_comm before.length, ← Nat.add_assoc]
          exact mine

/-- The rule for runs that return: what holds of a node follows from what holds of its children,
one after the other. -/
theorem traverseTree_rule (Post : Position -> RoseTree Label -> State -> Result -> State -> Prop)
    (Loop : Position -> Nat -> List (RoseTree Label) -> State -> State -> Prop)
    (nil : forall position index state, Loop position index [] state state)
    (cons : forall position index child children state returned middle last,
      Post (position ++ [index]) child state returned middle ->
      Loop position (index + 1) children middle last ->
      Loop position index (child :: children) state last)
    (node : forall position label children state context entered done result last,
      enter position label state = .ok context entered ->
      Loop position 0 children entered done ->
      leave position context done = .ok result last ->
      Post position (.node label children) state result last)
    (returns : traverseTree enter leave position tree state = .ok result last) :
    Post position tree state result last := by
  induction tree using RoseTree.induct generalizing position state result last with
  | node label children inductionHypothesis =>
      rcases traverseTree_ok.mp returns with ⟨context, entered, done, first, looped, left⟩
      refine node _ _ _ _ _ _ _ _ _ first ?_ left
      clear first left returns
      generalize 0 = index at looped
      induction children generalizing index entered with
      | nil =>
          cases looped
          exact nil _ _ _
      | cons child children loopHypothesis =>
          rcases traverseChildren_cons_ok.mp looped with ⟨returned, middle, own, rest⟩
          refine cons _ _ _ _ _ _ _ _ (inductionHypothesis child List.mem_cons_self own) ?_
          exact loopHypothesis (fun other member => inductionHypothesis other
            (List.mem_cons_of_mem child member)) middle (index + 1) rest

/-- The same rule for the children of one node. -/
theorem traverseChildren_rule
    (Post : Position -> RoseTree Label -> State -> Result -> State -> Prop)
    (Loop : Position -> Nat -> List (RoseTree Label) -> State -> State -> Prop)
    (nil : forall position index state, Loop position index [] state state)
    (cons : forall position index child children state returned middle last,
      Post (position ++ [index]) child state returned middle ->
      Loop position (index + 1) children middle last ->
      Loop position index (child :: children) state last)
    (post : forall position tree state result last,
      traverseTree enter leave position tree state = .ok result last ->
      Post position tree state result last)
    {index : Nat}
    (returns : traverseChildren enter leave position index children state = .ok ⟨⟩ last) :
    Loop position index children state last := by
  induction children generalizing index state with
  | nil =>
      cases returns
      exact nil _ _ _
  | cons child children inductionHypothesis =>
      rcases traverseChildren_cons_ok.mp returns with ⟨returned, middle, own, rest⟩
      exact cons _ _ _ _ _ _ _ _ (post _ _ _ _ _ own) (inductionHypothesis rest)

/-! ### The calls of a run -/

variable (enter leave)

/-- The calls made for the nodes of a tree, each with the state that it starts in. -/
inductive Called (root : RoseTree Label) (first : State) :
    Position -> RoseTree Label -> State -> Prop
  | root : Called root first [] root first
  | child {position : Position} {label : Label} {before after : List (RoseTree Label)}
      {child : RoseTree Label} {state entered middle : State} {context : Context}
      (parent : Called root first position (.node label (before ++ child :: after)) state)
      (entering : enter position label state = .ok context entered)
      (looped : traverseChildren enter leave position 0 before entered = .ok ⟨⟩ middle) :
      Called root first (position ++ [before.length]) child middle

variable {enter leave} {root : RoseTree Label} {first : State}

theorem Called.subtree (called : Called enter leave root first position tree state) :
    root.subtree position = some tree := by
  induction called with
  | root => rfl
  | @child position label before after child state entered middle context parent entering looped
      inductionHypothesis =>
      rw [RoseTree.subtree_snoc, inductionHypothesis, Option.bind_some, RoseTree.children,
        List.getElem?_append_right (Nat.le_refl _), Nat.sub_self]
      rfl

/-- The rule for what holds at every call. -/
theorem Called.invariant (Pre : Position -> RoseTree Label -> State -> Prop)
    (start : Pre [] root first)
    (below : forall position label before child after state context entered middle,
      Called enter leave root first position (.node label (before ++ child :: after)) state ->
      Pre position (.node label (before ++ child :: after)) state ->
      enter position label state = .ok context entered ->
      traverseChildren enter leave position 0 before entered = .ok ⟨⟩ middle ->
      Pre (position ++ [before.length]) child middle)
    (called : Called enter leave root first position tree state) : Pre position tree state := by
  induction called with
  | root => exact start
  | child parent entering looped inductionHypothesis =>
      exact below _ _ _ _ _ _ _ _ _ parent inductionHypothesis entering looped

/-- If the whole run returns, every call of it does. -/
theorem Called.returns {returned : Result} {final : State}
    (whole : traverseTree enter leave [] root first = .ok returned final)
    (called : Called enter leave root first position tree state) :
    Exists fun result => Exists fun last =>
      traverseTree enter leave position tree state = .ok result last := by
  induction called with
  | root => exact ⟨returned, final, whole⟩
  | @child position label before after child state entered middle context parent entering looped
      inductionHypothesis =>
      rcases inductionHypothesis with ⟨_, _, own⟩
      rcases traverseTree_ok.mp own with ⟨_, _, _, again, every, _⟩
      cases entering.symm.trans again
      rcases traverseChildren_append_ok.mp every with ⟨_, early, late⟩
      cases looped.symm.trans early
      rcases traverseChildren_cons_ok.mp late with ⟨result, last, mine, _⟩
      rw [Nat.zero_add] at mine
      exact ⟨result, last, mine⟩

/-- If the whole run returns, there is a call for every node. -/
theorem Called.exists_of_subtree {returned : Result} {final : State}
    (whole : traverseTree enter leave [] root first = .ok returned final)
    (found : root.subtree position = some tree) :
    Exists fun state => Called enter leave root first position tree state := by
  induction position using List.reverseRecOn generalizing tree with
  | nil =>
      cases found
      exact ⟨first, .root⟩
  | append_singleton position index inductionHypothesis =>
      rw [RoseTree.subtree_snoc] at found
      rcases Option.bind_eq_some_iff.mp found with ⟨parent, above, present⟩
      rcases inductionHypothesis above with ⟨state, called⟩
      cases parent with
      | node label children =>
          change children[index]? = some tree at present
          rcases List.getElem?_eq_some_iff.mp present with ⟨within, here⟩
          have split : children = children.take index ++ tree :: children.drop (index + 1) := by
            rw [← here, ← List.drop_eq_getElem_cons within, List.take_append_drop]
          have length : (children.take index).length = index :=
            List.length_take_of_le (Nat.le_of_lt within)
          rcases called.returns whole with ⟨_, _, own⟩
          rcases traverseTree_ok.mp own with ⟨context, entered, done, entering, every, _⟩
          rw [split] at every called
          rcases traverseChildren_append_ok.mp every with ⟨middle, early, _⟩
          have below := Called.child called entering early
          rw [length] at below
          exact ⟨middle, below⟩

/-- A fault is raised by the visit of one node, before its children or after them. -/
theorem Called.raises {fault : Fault}
    (called : Called enter leave root first position tree state)
    (fails : traverseTree enter leave position tree state = .error fault last) :
    Exists fun place => Exists fun label => Exists fun children => Exists fun before =>
      Called enter leave root first place (.node label children) before ∧
      (enter place label before = .error fault last ∨
        Exists fun context => Exists fun entered => Exists fun done =>
          enter place label before = .ok context entered ∧
          traverseChildren enter leave place 0 children entered = .ok ⟨⟩ done ∧
          leave place context done = .error fault last) := by
  induction tree using RoseTree.induct generalizing position state with
  | node label children inductionHypothesis =>
      rw [traverseTree] at fails
      rcases error_bind.mp fails with own | ⟨context, entered, entering, later⟩
      · exact ⟨position, label, children, state, called, Or.inl own⟩
      · rcases error_bind.mp later with below | ⟨_, done, looped, leaving⟩
        · rcases traverseChildren_error below with ⟨before, child, after, middle, rfl, early, mine⟩
          rw [Nat.zero_add] at mine
          exact inductionHypothesis child (List.mem_append_right _ List.mem_cons_self)
            (.child called entering early) mine
        · exact ⟨position, label, children, state, called,
            Or.inr ⟨context, entered, done, entering, looped, leaving⟩⟩

end Rules

/-! ## Runs with any outcome -/

section Outcomes

variable {Label : Type u} {Fault State First Second Context Result : Type v}

/-- The state that a computation leaves when it starts in some state, whatever comes of it. -/
def endState (computation : EStateM Fault State First) (state : State) : State :=
  match computation state with
  | .ok _ last => last
  | .error _ last => last

variable {first : EStateM Fault State First} {second : First -> EStateM Fault State Second}
variable {state last : State}

theorem endState_of_ok {value : First} (returns : first state = .ok value last) :
    endState first state = last := by
  rw [endState, returns]

theorem endState_of_error {fault : Fault} (fails : first state = .error fault last) :
    endState first state = last := by
  rw [endState, fails]

/-- A computation in two parts ends where the first one does, or where the second one does if
that starts where the first one has ended. -/
theorem endState_bind {Holds : State -> Prop} (stopped : Holds (endState first state))
    (continued : forall value, first state = .ok value (endState first state) ->
      Holds (endState (second value) (endState first state))) :
    Holds (endState (first >>= second) state) := by
  cases outcome : first state with
  | ok value middle =>
      have ends := endState_of_ok outcome
      rw [endState, bind_of_ok outcome, ← endState]
      rw [ends] at continued
      exact continued value outcome
  | error fault middle =>
      rw [endState_of_error (bind_of_error outcome), ← endState_of_error outcome]
      exact stopped

/-- What a traversal does with the places of a tree: how the parts of it that have to do with
some of the places change the state, and which places are still free.  A visit changes its own
place only, and finds it free. -/
structure Local (enter : Position -> Label -> EStateM Fault State Context)
    (leave : Position -> Context -> EStateM Fault State Result)
    (Acts : (Position -> Prop) -> State -> State -> Prop) (Free : Position -> State -> Prop) :
    Prop where
  refl : forall inside state, Acts inside state state
  trans : forall inside first middle last, Acts inside first middle -> Acts inside middle last ->
    Acts inside first last
  mono : forall inside wider first last, (forall place, inside place -> wider place) ->
    Acts inside first last -> Acts wider first last
  free : forall inside first last place, Acts inside first last -> ¬inside place ->
    Free place first -> Free place last
  enter : forall position label state, Free position state ->
    Acts (fun place => place = position) state (endState (enter position label) state)
  leave : forall position context state,
    Acts (fun place => place = position) state (endState (leave position context) state)

theorem not_below_sibling {position place : Position} {index later : Nat}
    (below : position ++ [later] <+: place) (different : index ≠ later) :
    ¬position ++ [index] <+: place := by
  intro other
  have lengths : (position ++ [index]).length = (position ++ [later]).length := by
    rw [List.length_append, List.length_append]
    rfl
  have same := List.prefix_of_prefix_length_le other below (Nat.le_of_eq lengths)
  have equal := List.append_cancel_left (same.eq_of_length lengths)
  exact different (List.head_eq_of_cons_eq equal)

variable {enter : Position -> Label -> EStateM Fault State Context}
variable {leave : Position -> Context -> EStateM Fault State Result}
variable {Acts : (Position -> Prop) -> State -> State -> Prop} {Free : Position -> State -> Prop}
variable {position : Position} {tree : RoseTree Label} {children : List (RoseTree Label)}

/-- The children from an index on, if the visit of each of them stays below it. -/
theorem Local.traverseChildren (rules : Local enter leave Acts Free)
    (visit : forall child, child ∈ children -> forall index state,
      (forall place, position ++ [index] <+: place -> Free place state) ->
        Acts (position ++ [index] <+: ·) state
          (endState (traverseTree enter leave (position ++ [index]) child) state))
    (index : Nat) (state : State)
    (outside : forall later, index ≤ later -> forall place, position ++ [later] <+: place ->
      Free place state) :
    Acts (position <+: ·) state
      (endState (Traversal.traverseChildren enter leave position index children) state) := by
  have within : forall index place, position ++ [index] <+: place -> position <+: place :=
    fun index _ below => (List.prefix_append position [index]).trans below
  induction children generalizing index state with
  | nil => exact rules.refl _ state
  | cons child children inductionHypothesis =>
      have own := visit child List.mem_cons_self index state (outside index (Nat.le_refl index))
      rw [Traversal.traverseChildren]
      refine endState_bind (rules.mono _ _ _ _ (within index) own) fun _ _ => ?_
      refine rules.trans _ _ _ _ (rules.mono _ _ _ _ (within index) own) ?_
      refine inductionHypothesis (fun other member => visit other (List.mem_cons_of_mem _ member))
        (index + 1) _ fun later after place below => ?_
      refine rules.free _ _ _ place own (not_below_sibling below (by omega)) ?_
      exact outside later (by omega) place below

/-- A traversal stays below the position where it starts, also if it fails on the way. -/
theorem Local.traverseTree (rules : Local enter leave Acts Free) (tree : RoseTree Label)
    (position : Position) (state : State)
    (outside : forall place, position <+: place -> Free place state) :
    Acts (position <+: ·) state (endState (traverseTree enter leave position tree) state) := by
  induction tree using RoseTree.induct generalizing position state with
  | node label children inductionHypothesis =>
      have here : forall place, place = position -> position <+: place :=
        fun place same => same ▸ List.prefix_refl position
      have own := rules.enter position label state (outside position (List.prefix_refl position))
      have entered := rules.mono _ _ _ _ here own
      rw [Traversal.traverseTree]
      refine endState_bind entered fun context _ => rules.trans _ _ _ _ entered ?_
      have beside : forall later, 0 ≤ later -> forall place, position ++ [later] <+: place ->
          Free place (endState (enter position label) state) := by
        intro later _ place below
        have inside := (List.prefix_append position [later]).trans below
        refine rules.free _ _ _ place own (fun same => ?_) (outside place inside)
        have length := below.length_le
        rw [same, List.length_append, List.length_cons] at length
        omega
      have looped := rules.traverseChildren
        (fun child member _ state outside => inductionHypothesis child member _ state outside)
        0 _ beside
      refine endState_bind looped fun _ _ => rules.trans _ _ _ _ looped ?_
      exact rules.mono _ _ _ _ here (rules.leave position context _)

end Outcomes

end Traversal
