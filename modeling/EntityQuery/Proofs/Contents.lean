import EntityQuery.Proofs.Survivor

/-!
Contents: what a program puts into its scopes. A scope has joins and conditions, each in the order in
which they were asked for; a group has conditions only, for a join asked for in a group is one of the
scope. What a program asks for can be read off its calls, and what is there off the nodes. The two
are the same, so nothing is lost, doubled or moved, and the nodes are tidy: every group has a
condition, and no join lies in one.

```
calls:  compare a · brackets [join x [..], compare b, brackets [join y [..]]] · compare c
scope:  joins       x y
        conditions  a (b) c
```
-/

namespace EntityQuery

open EntityQuery.Field

/-! ### Items -/

/-- What a comparison compares with. Fields are told by their fingerprints. -/
inductive Side where
  | none
  | value (v : Value)
  | field (mark : Option Digest)

/-- A join or a condition, with the joins and conditions of the scope it opens. -/
inductive Item where
  | comparison (field : Option Digest) (op : CompareOp) (side : Side)
  | membership (field : Option Digest) (negated : Bool) (values : List Value)
  | group (conditions : List Item)
  | join (kind : JoinKind) (association : Option Digest) (joins conditions : List Item)
  | existence (negated : Bool) (association : Option Digest) (joins conditions : List Item)
  | inSubquery (field : Option Digest) (negated : Bool) (source : EntityModel)
      (select : Option Digest) (joins conditions : List Item)

/-- The fingerprint of a field. -/
def ScopedField.mark (f : ScopedField) : Option Digest := some f.descriptor.fingerprint

/-- The right-hand side of a comparison in a scope. -/
def Operand.side : Operand → Side
  | .none => .none
  | .value v => .value v
  | .field f => .field f.mark

mutual

/-- The join that a node is, if it is one. -/
def Node.joinItems : Node → List Item
  | .join kind association _ nodes =>
    [.join kind association.mark (joinsIn nodes) (conditionsIn nodes)]
  | _ => []

/-- The condition that a node is, if it is one. -/
def Node.conditionItems : Node → List Item
  | .predicate f op x => [.comparison f.mark op x.side]
  | .inList f negated values => [.membership f.mark negated values]
  | .bracket nodes => [.group (conditionsIn nodes)]
  | .existence negated association _ nodes =>
    [.existence negated association.mark (joinsIn nodes) (conditionsIn nodes)]
  | .inSubquery f negated source _ select nodes =>
    [.inSubquery f.mark negated source select.mark (joinsIn nodes) (conditionsIn nodes)]
  | .connector _ | .orderBy .. | .join .. => []

/-- The joins directly among some nodes. -/
def joinsIn : List Node → List Item
  | [] => []
  | node :: rest => node.joinItems ++ joinsIn rest

/-- The conditions directly among some nodes. -/
def conditionsIn : List Node → List Item
  | [] => []
  | node :: rest => node.conditionItems ++ conditionsIn rest

end

/-- A group around conditions, if there are any. -/
def grouped : List Item → List Item
  | [] => []
  | conditions => [.group conditions]

mutual

/-- The joins that a call on a stream over an entity asks for. -/
def Call.joinItems (entity : Entity) : Call → List Item
  | .join kind accessor target configure =>
    [.join kind (Lookup.fingerprint? ⟨entity, accessor⟩) (joinsOf target configure)
      (conditionsOf target configure)]
  | .brackets configure => joinsOf entity configure
  | _ => []

/-- The conditions that a call on a stream over an entity asks for. -/
def Call.conditionItems (entity : Entity) : Call → List Item
  | .compare accessor op v =>
    [.comparison (Lookup.fingerprint? ⟨entity, accessor⟩) op (.value v)]
  | .nullCheck accessor negated =>
    [.comparison (Lookup.fingerprint? ⟨entity, accessor⟩) (.ofNullCheck negated) .none]
  | .compareOuter accessor op outer outerAccessor =>
    [.comparison (Lookup.fingerprint? ⟨entity, accessor⟩) op
      (if op.isUnary then .none else .field (Lookup.fingerprint? ⟨outer, outerAccessor⟩))]
  | .isIn accessor negated values =>
    [.membership (Lookup.fingerprint? ⟨entity, accessor⟩) negated values]
  | .brackets configure => grouped (conditionsOf entity configure)
  | .existence negated accessor target configure =>
    [.existence negated (Lookup.fingerprint? ⟨entity, accessor⟩) (joinsOf target configure)
      (conditionsOf target configure)]
  | .inSubquery accessor negated source select configure =>
    [.inSubquery (Lookup.fingerprint? ⟨entity, accessor⟩) negated source.model
      (Lookup.fingerprint? ⟨source, select⟩) (joinsOf source configure)
      (conditionsOf source configure)]
  | _ => []

/-- The joins that calls on a stream over an entity ask for. -/
def joinsOf (entity : Entity) : List Call → List Item
  | [] => []
  | call :: rest => call.joinItems entity ++ joinsOf entity rest

/-- The conditions that calls on a stream over an entity ask for. -/
def conditionsOf (entity : Entity) : List Call → List Item
  | [] => []
  | call :: rest => call.conditionItems entity ++ conditionsOf entity rest

end

/-! ### Reading nodes -/

theorem Node.joinItems_eq_nil {n : Node} (h : n.isJoin = false) : n.joinItems = [] := by
  cases n with
  | join => cases h
  | _ => rfl

theorem Node.conditionItems_eq_nil {n : Node} (h : n.isJoin = true) : n.conditionItems = [] := by
  cases n with
  | join => rfl
  | _ => cases h

@[simp] theorem joinsIn_append (ys : List Node) : ∀ xs : List Node,
    joinsIn (xs ++ ys) = joinsIn xs ++ joinsIn ys
  | [] => rfl
  | x :: xs => by rw [List.cons_append, joinsIn, joinsIn, joinsIn_append ys xs, List.append_assoc]

@[simp] theorem conditionsIn_append (ys : List Node) : ∀ xs : List Node,
    conditionsIn (xs ++ ys) = conditionsIn xs ++ conditionsIn ys
  | [] => rfl
  | x :: xs => by
    rw [List.cons_append, conditionsIn, conditionsIn, conditionsIn_append ys xs, List.append_assoc]

/-- Taking the joins out of nodes takes out no condition, and leaves no join behind. -/
theorem split_joins : ∀ nodes : List Node,
    joinsIn (nodes.filter Node.isJoin) = joinsIn nodes ∧
      joinsIn (nodes.filter (!·.isJoin)) = [] ∧
      conditionsIn (nodes.filter Node.isJoin) = [] ∧
      conditionsIn (nodes.filter (!·.isJoin)) = conditionsIn nodes
  | [] => ⟨rfl, rfl, rfl, rfl⟩
  | x :: xs => by
    obtain ⟨h₁, h₂, h₃, h₄⟩ := split_joins xs
    cases hx : x.isJoin with
    | true =>
      rw [List.filter_cons_of_pos hx, List.filter_cons_of_neg (by simp [hx])]
      simp [joinsIn, conditionsIn, Node.conditionItems_eq_nil hx, h₁, h₂, h₃, h₄]
    | false =>
      rw [List.filter_cons_of_neg (by simp [hx]), List.filter_cons_of_pos (by simp [hx])]
      simp [joinsIn, conditionsIn, Node.joinItems_eq_nil hx, h₁, h₂, h₃, h₄]

/-- Nodes with a condition are those among which one is read. -/
theorem hasCondition_iff : ∀ nodes : List Node, hasCondition nodes ↔ conditionsIn nodes ≠ []
  | [] => by simp [hasCondition, conditionsIn]
  | x :: xs => by
    have ih := hasCondition_iff xs
    rw [hasCondition] at ih
    cases x <;> simp [hasCondition, conditionsIn, Node.conditionItems, Node.isCondition, ih]

/-! ### Building puts in what is asked for -/

namespace Stream

/-- A connector is no item. -/
theorem pushCondition_items (s : Stream) (n : Node) :
    joinsIn (s.pushCondition n).nodes = joinsIn s.nodes ++ joinsIn [n] ∧
      conditionsIn (s.pushCondition n).nodes = conditionsIn s.nodes ++ conditionsIn [n] := by
  unfold pushCondition
  cases s.pending with
  | none => simp
  | some c => by_cases hc : hasCondition s.nodes <;> 
    simp [hc, joinsIn, conditionsIn, Node.joinItems, Node.conditionItems]

/-- A group gives its joins to the scope, and one condition if it has any. -/
theorem acceptGroup_items (s g : Stream) :
    joinsIn (s.acceptGroup g).nodes = joinsIn s.nodes ++ joinsIn g.nodes ∧
      conditionsIn (s.acceptGroup g).nodes =
        conditionsIn s.nodes ++ grouped (conditionsIn g.nodes) := by
  obtain ⟨hjoins, hnone, hnone', hconditions⟩ := split_joins g.nodes
  unfold acceptGroup
  dsimp only
  split
  next hc =>
    rw [hasCondition_iff, hconditions] at hc
    obtain ⟨h, h'⟩ := pushCondition_items
      { s with
        nodes := s.nodes ++ g.nodes.filter Node.isJoin
        nextAlias := g.nextAlias
        orders := g.orders }
      (.bracket (g.nodes.filter (!·.isJoin)))
    rw [h, h', joinsIn_append, conditionsIn_append, hjoins, hnone']
    cases hg : conditionsIn g.nodes with
    | nil => exact absurd hg hc
    | cons c cs =>
      simp [joinsIn, conditionsIn, Node.joinItems, Node.conditionItems, grouped, hconditions, hg]
  next hc =>
    rw [hasCondition_iff, hconditions, Classical.not_not] at hc
    simp [hjoins, hnone, hnone', hconditions, hc, grouped]

end Stream

theorem Lookup.Marks.mark {l : Lookup} {r : Reference} (h : l.Marks r) (owner : Alias) :
    (⟨r, owner⟩ : ScopedField).mark = l.fingerprint? := h.symm

section

variable {s t : Stream} {calls : List Call}

/-- A step puts in the condition that its call asks for. -/
theorem Step.items {call : Call} (h : Step Lookup.Marks s call t) :
    joinsIn t.nodes = joinsIn s.nodes ++ call.joinItems s.entity ∧
      conditionsIn t.nodes = conditionsIn s.nodes ++ call.conditionItems s.entity := by
  cases h with
  | filter | connect | inspect | render => simp [Call.joinItems, Call.conditionItems]
  | orderBy direction hr =>
    simp [Stream.pushOrder, Stream.push, joinsIn, conditionsIn, Node.joinItems,
      Node.conditionItems, Call.joinItems, Call.conditionItems]
  | compare op v hr | nullCheck negated hr | isIn negated values hr =>
    obtain ⟨hjoins, hconditions⟩ := s.pushCondition_items _
    rw [hjoins, hconditions]
    simp only [Call.joinItems, Call.conditionItems, ← hr.mark s.index]
    exact ⟨rfl, rfl⟩
  | @compareOuter _ _ _ _ _ owner op hr hr' howner =>
    obtain ⟨hjoins, hconditions⟩ := s.pushCondition_items _
    rw [hjoins, hconditions]
    simp only [Call.joinItems, Call.conditionItems, ← hr.mark s.index,
      ← hr'.mark owner, Operand.ofOuter]
    split <;> exact ⟨rfl, rfl⟩

/-- A program puts in the joins and conditions that its calls ask for. -/
theorem Builds.items (h : Builds Lookup.Marks s calls t) :
    joinsIn t.nodes = joinsIn s.nodes ++ joinsOf s.entity calls ∧
      conditionsIn t.nodes = conditionsIn s.nodes ++ conditionsOf s.entity calls := by
  induction h with
  | nil => simp [joinsOf, conditionsOf]
  | step hstep _ ih =>
    obtain ⟨hjoins, hconditions⟩ := hstep.items
    rw [ih.1, ih.2, hstep.frame.1, hjoins, hconditions, joinsOf, conditionsOf, List.append_assoc,
      List.append_assoc]
    exact ⟨rfl, rfl⟩
  | @brackets s g t configure rest _ _ ihg ih =>
    obtain ⟨hjoins, hconditions⟩ := s.acceptGroup_items g
    have hg : joinsIn g.nodes = joinsOf s.entity configure := ihg.1
    have hg' : conditionsIn g.nodes = conditionsOf s.entity configure := ihg.2
    rw [ih.1, ih.2, hjoins, hconditions, hg, hg', Stream.acceptGroup_entity, joinsOf, conditionsOf,
      List.append_assoc, List.append_assoc]
    exact ⟨rfl, rfl⟩
  | @join s c t accessor r target configure rest kind hr _ _ ihc ih =>
    have hc : joinsIn c.nodes = joinsOf target configure := ihc.1
    have hc' : conditionsIn c.nodes = conditionsOf target configure := ihc.2
    rw [ih.1, ih.2]
    simp [Stream.acceptJoin, Stream.push, joinsIn, conditionsIn, joinsOf, conditionsOf,
      Node.joinItems, Node.conditionItems, Call.joinItems, Call.conditionItems, Stream.bind,
      hr.mark, hc, hc']
  | @existence s c t accessor r target configure rest negated hr _ _ ihc ih =>
    have hc : joinsIn c.nodes = joinsOf target configure := ihc.1
    have hc' : conditionsIn c.nodes = conditionsOf target configure := ihc.2
    obtain ⟨hjoins, hconditions⟩ := { s with nextAlias := c.nextAlias }.pushCondition_items
      (.existence negated (s.bind r) c.index c.nodes)
    rw [ih.1, ih.2, Stream.acceptSubquery, hjoins, hconditions]
    simp [joinsIn, conditionsIn, joinsOf, conditionsOf, Node.joinItems, Node.conditionItems,
      Call.joinItems, Call.conditionItems, Stream.bind, hr.mark, hc, hc']
  | @inSubquery s c t accessor select r r' source configure rest negated hr _ hr' _ ihc ih =>
    have hc : joinsIn c.nodes = joinsOf source configure := ihc.1
    have hc' : conditionsIn c.nodes = conditionsOf source configure := ihc.2
    obtain ⟨hjoins, hconditions⟩ := { s with nextAlias := c.nextAlias }.pushCondition_items
      (.inSubquery (s.bind r) negated source.model c.index (c.bind r') c.nodes)
    rw [ih.1, ih.2, Stream.acceptSubquery, hjoins, hconditions]
    simp [joinsIn, conditionsIn, joinsOf, conditionsOf, Node.joinItems, Node.conditionItems,
      Call.joinItems, Call.conditionItems, Stream.bind, hr.mark, hr'.mark, hc, hc']

end

/-! ### Building keeps nodes tidy -/

mutual

/-- A node of a scope is tidy: a group has a condition and no join, and a join starts from the
instance of the scope. -/
def Node.Tidy (index : Alias) : Node → Prop
  | .bracket nodes =>
    hasCondition nodes ∧ (∀ n ∈ nodes, n.isJoin = false) ∧ allTidy index nodes
  | .join _ association inner nodes => association.owner = index ∧ allTidy inner nodes
  | .existence _ _ inner nodes | .inSubquery _ _ _ inner _ nodes => allTidy inner nodes
  | .predicate .. | .connector _ | .inList .. | .orderBy .. => True

/-- Several nodes of one scope are tidy. -/
def allTidy (index : Alias) : List Node → Prop
  | [] => True
  | node :: rest => node.Tidy index ∧ allTidy index rest

end

theorem allTidy_iff {index : Alias} {nodes : List Node} :
    allTidy index nodes ↔ ∀ n ∈ nodes, n.Tidy index := by
  induction nodes with
  | nil => simp [allTidy]
  | cons node rest ih => rw [allTidy, ih, List.forall_mem_cons]

section

variable {Means : Lookup → Reference → Prop} {s t : Stream} {calls : List Call}

theorem Step.tidy {call : Call} (h : Step Means s call t) (hn : ∀ n ∈ s.nodes, n.Tidy s.index) :
    ∀ n ∈ t.nodes, n.Tidy s.index := by
  have hc : ∀ c, (Node.connector c).Tidy s.index := fun _ => trivial
  cases h with
  | filter | connect | inspect | render => exact hn
  | orderBy => exact Stream.forall_push hn trivial
  | compare | nullCheck | isIn | compareOuter => exact Stream.forall_pushCondition hc hn trivial

/-- What a program adds to tidy nodes is tidy: a join asked for in a group leaves it. -/
theorem Builds.tidy (h : Builds Means s calls t) :
    (∀ n ∈ s.nodes, n.Tidy s.index) → ∀ n ∈ t.nodes, n.Tidy s.index := by
  induction h with
  | nil => exact id
  | step hstep _ ih =>
    intro hn
    have hindex := congrArg Scope.index hstep.frame.2.1
    rw [← Stream.index, ← Stream.index] at hindex
    rw [hindex] at ih
    exact ih (hstep.tidy hn)
  | @brackets s g t configure rest _ _ ihg ih =>
    intro hn
    have hgroup : ∀ n ∈ g.nodes, n.Tidy s.index := ihg (by intro _ h; cases h)
    have hindex : (s.acceptGroup g).index = s.index := by
      rw [Stream.index, Stream.acceptGroup_scope, Stream.index]
    rw [hindex] at ih
    -- the bracket gets what is left of the group without its joins
    refine ih (Stream.forall_acceptGroup (fun _ => trivial) hn hgroup fun hcond => ⟨hcond, ?_, ?_⟩)
    · exact fun n h => by simpa using (List.mem_filter.mp h).2
    · exact allTidy_iff.mpr fun n h => hgroup n (List.mem_filter.mp h).1
  | @join s c t accessor r target configure rest kind hr hc _ ihc ih =>
    intro hn
    have hchild := allTidy_iff.mpr (ihc (by intro _ h; cases h))
    rw [← hc.index] at hchild
    exact ih (Stream.forall_push hn ⟨rfl, hchild⟩)
  | existence negated hr hc _ ihc ih | inSubquery negated hr hc hr' _ ihc ih =>
    intro hn
    have hchild := allTidy_iff.mpr (ihc (by intro _ h; cases h))
    rw [← hc.index] at hchild
    exact ih (Stream.forall_pushCondition (fun _ => trivial) hn hchild)

end

end EntityQuery
