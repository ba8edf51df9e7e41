import Mathlib.Data.List.Forall2

/-!
# Items that become outputs

One side offers items, the other takes them in order and makes an output of each.
The outputs are at any time what the first items have become.  While nothing is lost,
what has not become an output yet still waits.
-/

namespace Delivery

universe u v

variable {Item : Type u} {Output : Type v} {Becomes : Item -> Output -> Prop}

/-- The outputs are what the first items have become, each once and in order. -/
def Delivered (Becomes : Item -> Output -> Prop) (items : List Item) (outputs : List Output) :
    Prop :=
  Exists fun handled => handled <+: items ∧ List.Forall₂ Becomes handled outputs

/-- The outputs are what all items but the waiting ones have become. -/
def Awaiting (Becomes : Item -> Output -> Prop) (items waiting : List Item)
    (outputs : List Output) : Prop :=
  Exists fun handled => handled ++ waiting = items ∧ List.Forall₂ Becomes handled outputs

theorem Awaiting.delivered {items waiting : List Item} {outputs : List Output}
    (awaiting : Awaiting Becomes items waiting outputs) : Delivered Becomes items outputs := by
  rcases awaiting with ⟨handled, split, became⟩
  exact ⟨handled, ⟨waiting, split⟩, became⟩

/-- Nothing waits any more. -/
theorem Awaiting.complete {items : List Item} {outputs : List Output}
    (awaiting : Awaiting Becomes items [] outputs) : List.Forall₂ Becomes items outputs := by
  rcases awaiting with ⟨handled, split, became⟩
  rw [List.append_nil] at split
  exact split ▸ became

theorem Awaiting.start : Awaiting Becomes [] [] [] :=
  ⟨[], rfl, .nil⟩

theorem Delivered.start : Delivered Becomes [] [] :=
  Awaiting.start.delivered

/-- Without items there are no outputs. -/
theorem Delivered.eq_nil {outputs : List Output} (delivered : Delivered Becomes [] outputs) :
    outputs = [] := by
  rcases delivered with ⟨handled, first, became⟩
  rw [List.prefix_nil.mp first] at became
  exact List.forall₂_nil_left_iff.mp became

theorem Delivered.offer {items : List Item} {outputs : List Output}
    (delivered : Delivered Becomes items outputs) (more : List Item) :
    Delivered Becomes (items ++ more) outputs := by
  rcases delivered with ⟨handled, first, became⟩
  exact ⟨handled, first.trans (List.prefix_append items more), became⟩

/-- Some of the outputs are what some of the items have become. -/
theorem Delivered.sublist {items : List Item} {outputs some : List Output}
    (delivered : Delivered Becomes items outputs) (among : some.Sublist outputs) :
    Exists fun chosen => chosen.Sublist items ∧ List.Forall₂ Becomes chosen some := by
  rcases delivered with ⟨handled, first, became⟩
  have choose : Exists fun chosen =>
      chosen.Sublist handled ∧ List.Forall₂ Becomes chosen some := by
    clear first
    induction among generalizing handled with
    | slnil =>
        cases became
        exact ⟨[], List.Sublist.refl [], .nil⟩
    | cons output among inductionHypothesis =>
        cases became with
        | @cons item _ rest _ becomes later =>
            rcases inductionHypothesis rest later with ⟨chosen, within, becomes⟩
            exact ⟨chosen, within.cons item, becomes⟩
    | cons_cons output among inductionHypothesis =>
        cases became with
        | @cons item _ rest _ becomes later =>
            rcases inductionHypothesis rest later with ⟨chosen, within, laterChosen⟩
            exact ⟨item :: chosen, within.cons_cons item, .cons becomes laterChosen⟩
  rcases choose with ⟨chosen, within, becomes⟩
  exact ⟨chosen, within.trans first.sublist, becomes⟩

theorem Awaiting.offer {items waiting : List Item} {outputs : List Output}
    (awaiting : Awaiting Becomes items waiting outputs) (more : List Item) :
    Awaiting Becomes (items ++ more) (waiting ++ more) outputs := by
  rcases awaiting with ⟨handled, split, became⟩
  refine ⟨handled, ?_, became⟩
  rw [← List.append_assoc, split]

/-- The next item becomes an output. -/
theorem Awaiting.handle {items waiting : List Item} {outputs : List Output} {item : Item}
    {output : Output} (awaiting : Awaiting Becomes items (item :: waiting) outputs)
    (becomes : Becomes item output) : Awaiting Becomes items waiting (outputs ++ [output]) := by
  rcases awaiting with ⟨handled, split, became⟩
  refine ⟨handled ++ [item], ?_, ?_⟩
  · rw [List.append_assoc, List.singleton_append, split]
  · exact List.rel_append became (.cons becomes .nil)

/-! ## Items on their way -/

/-- Of what has been put in, some has arrived in order and some is on its way.  The rest
is lost. -/
def Carried (put arrived onTheWay : List Item) : Prop :=
  (arrived ++ onTheWay).Sublist put

namespace Carried

variable {put arrived onTheWay : List Item}

theorem start : Carried ([] : List Item) [] [] :=
  List.Sublist.refl []

theorem arrived_sublist (carried : Carried put arrived onTheWay) : arrived.Sublist put :=
  (List.sublist_append_left arrived onTheWay).trans carried

theorem puts (carried : Carried put arrived onTheWay) (more : List Item) :
    Carried (put ++ more) arrived (onTheWay ++ more) := by
  unfold Carried at carried ⊢
  rw [← List.append_assoc]
  exact carried.append (List.Sublist.refl more)

/-- What is put in may be lost at once. -/
theorem grows {later : List Item} (carried : Carried put arrived onTheWay)
    (more : put.Sublist later) : Carried later arrived onTheWay :=
  carried.trans more

theorem arrives {item : Item} (carried : Carried put arrived (item :: onTheWay)) :
    Carried put (arrived ++ [item]) onTheWay := by
  unfold Carried
  rw [List.append_assoc]
  exact carried

theorem loses {item : Item} (carried : Carried put arrived (item :: onTheWay)) :
    Carried put arrived onTheWay :=
  (List.Sublist.append_left (List.sublist_cons_self item onTheWay) arrived).trans carried

end Carried

/-- Outputs that were made into items, of which some become outputs again. -/
theorem recovered_sublist {Makes : Output -> Item -> Prop}
    (recovers : forall made item output, Makes made item -> Becomes item output -> output = made)
    {made : List Output} {items some : List Item} {outputs : List Output}
    (makes : List.Forall₂ Makes made items) (among : some.Sublist items)
    (became : List.Forall₂ Becomes some outputs) : outputs.Sublist made := by
  induction makes generalizing some outputs with
  | nil =>
      rw [List.sublist_nil.mp among] at became
      rw [List.forall₂_nil_left_iff.mp became]
  | @cons output item _ _ makes _ inductionHypothesis =>
      cases among with
      | cons _ rest => exact (inductionHypothesis rest became).cons output
      | cons_cons _ rest =>
          cases became with
          | cons becomes later =>
              rw [recovers output item _ makes becomes]
              exact (inductionHypothesis rest later).cons_cons output

end Delivery
