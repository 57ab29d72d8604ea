import EntityQuery.Proofs.Connection
import EntityQuery.Proofs.Readability

/-!
Checks: what can keep a query from being rendered. A text needs the table of its root and of every
entity selected from, the column of every field that is written, and no ordering in a subquery. The
checks are made in the order of the text, those of a subquery after the one of its orderings, and
the first that is violated is reported. For a built query they are all there is to ask of its nodes:
every node is visited, at any depth, and each once.

```
text:    SELECT c0 FROM orders c0 LEFT JOIN c0.lines c1 WHERE c0.id in (SELECT c2.id FROM …)
checks:                 table             column              column    unordered, column, table
```
-/

namespace EntityQuery

open EntityQuery.Field

/-! ### The nodes of a query -/

mutual

/-- A node and those inside it, at any depth. -/
def Node.within : Node → List Node
  | .bracket nodes => .bracket nodes :: nodesWithin nodes
  | .join kind association index nodes => .join kind association index nodes :: nodesWithin nodes
  | .existence negated association index nodes =>
    .existence negated association index nodes :: nodesWithin nodes
  | .inSubquery f negated source index select nodes =>
    .inSubquery f negated source index select nodes :: nodesWithin nodes
  | .predicate f op x => [.predicate f op x]
  | .connector c => [.connector c]
  | .inList f negated values => [.inList f negated values]
  | .orderBy f direction position => [.orderBy f direction position]

/-- Several nodes and those inside them, at any depth. -/
def nodesWithin : List Node → List Node
  | [] => []
  | node :: rest => node.within ++ nodesWithin rest

end

mutual

/-- A node and those inside it that belong to the same statement: a subquery is one of its own. -/
def Node.inStatement : Node → List Node
  | .bracket nodes => .bracket nodes :: nodesInStatement nodes
  | .join kind association index nodes =>
    .join kind association index nodes :: nodesInStatement nodes
  | .existence negated association index nodes => [.existence negated association index nodes]
  | .inSubquery f negated source index select nodes =>
    [.inSubquery f negated source index select nodes]
  | .predicate f op x => [.predicate f op x]
  | .connector c => [.connector c]
  | .inList f negated values => [.inList f negated values]
  | .orderBy f direction position => [.orderBy f direction position]

/-- Several nodes and those inside them that belong to the same statement. -/
def nodesInStatement : List Node → List Node
  | [] => []
  | node :: rest => node.inStatement ++ nodesInStatement rest

end

/-- The ordering that a node is, if it is one. -/
def Node.orderTerm? : Node → Option Clause.OrderTerm
  | .orderBy f direction position => some ⟨position, f, direction⟩
  | _ => none

/-! ### What a text needs -/

/-- No ordering belongs to a statement over some nodes. -/
def Unordered (nodes : List Node) : Prop :=
  ∀ f direction position, .orderBy f direction position ∉ nodesInStatement nodes

/-- A mapping has what a node itself needs in order to be written. -/
def Node.Writable (m : Mapping) : Node → Prop
  | .predicate f _ x => (m.column? f.descriptor).isSome ∧
    ∀ g, x = .field g → (m.column? g.descriptor).isSome
  | .inList f _ values => Value.leavesOf values = [] ∨ (m.column? f.descriptor).isSome
  | .join _ association _ _ => (m.column? association.descriptor).isSome
  | .existence _ association _ nodes => Unordered nodes ∧ (m.column? association.descriptor).isSome
  | .inSubquery f _ source _ select nodes => (m.column? f.descriptor).isSome ∧ Unordered nodes ∧
    (m.column? select.descriptor).isSome ∧ (m.table? source).isSome
  | .bracket _ | .connector _ | .orderBy .. => True

/-- A mapping has what a query needs in order to be written: the table of its root, what its nodes
need at any depth, and the columns it is ordered by. -/
structure Query.Writable (m : Mapping) (q : Query) : Prop where
  root : (m.table? q.entity.model).isSome
  nodes : ∀ n ∈ nodesWithin q.nodes, n.Writable m
  orderings : ∀ f direction position,
    .orderBy f direction position ∈ nodesInStatement q.nodes → (m.column? f.descriptor).isSome

/-! ### The checks in the order of the text -/

/-- Something that is made sure of while a text is written. -/
inductive Check where
  /-- An entity has a table. -/
  | table (entity : EntityModel)
  /-- A field has a column. -/
  | column (f : ScopedField)
  /-- A subquery over some nodes is not ordered. -/
  | unordered (nodes : List Node)

namespace Check

/-- The error that is reported if a check is violated. -/
def violation? (m : Mapping) : Check → Option RenderError
  | .table entity =>
    if (m.table? entity).isSome then none else some (.unmappedEntity entity.entityName)
  | .column f =>
    if (m.column? f.descriptor).isSome then none
    else some (.unmappedField f.descriptor.entity.entityName f.name)
  | .unordered nodes =>
    ((nodesInStatement nodes).findSome? Node.orderTerm?).map fun t => .orderInSubquery t.field.name

/-- The name that a check puts into the text. -/
def name? (m : Mapping) : Check → Option String
  | .table entity => m.table? entity
  | .column f => m.column? f.descriptor
  | .unordered _ => none

end Check

/-- The check of a right-hand side. -/
def Operand.checks : Operand → List Check
  | .field g => [.column g]
  | .none | .value _ => []

/-- The checks of a node itself. -/
def Node.ownChecks : Node → List Check
  | .predicate f _ x => .column f :: x.checks
  | .inList f _ values => if (Value.leavesOf values).isEmpty then [] else [.column f]
  | .join _ association _ _ => [.column association]
  | .existence _ association _ nodes => [.unordered nodes, .column association]
  | .inSubquery f _ source _ select nodes =>
    [.column f, .unordered nodes, .column select, .table source]
  | .bracket _ | .connector _ | .orderBy .. => []

mutual

/-- The checks of a condition. -/
def Node.checks : Node → List Check
  | .predicate f op x => (Node.predicate f op x).ownChecks
  | .inList f negated values => (Node.inList f negated values).ownChecks
  | .bracket nodes => conditionChecks nodes
  | .existence negated association index nodes =>
    (Node.existence negated association index nodes).ownChecks ++
      (joinChecks nodes ++ conditionChecks nodes)
  | .inSubquery f negated source index select nodes =>
    (Node.inSubquery f negated source index select nodes).ownChecks ++
      (joinChecks nodes ++ conditionChecks nodes)
  | .connector _ | .orderBy .. | .join .. => []

/-- The checks of the joins of a scope: each is followed by those of its conditions, and these by
those of the joins inside it. -/
def joinChecks : List Node → List Check
  | [] => []
  | .join _ association _ nodes :: rest =>
    .column association :: (conditionChecks nodes ++ (joinChecks nodes ++ joinChecks rest))
  | _ :: rest => joinChecks rest

/-- The checks of the conditions of a scope. -/
def conditionChecks : List Node → List Check
  | [] => []
  | node :: rest => node.checks ++ conditionChecks rest

end

namespace Query

/-- The orderings of a query by position. -/
def orderings (q : Query) : List Clause.OrderTerm :=
  ((nodesInStatement q.nodes).filterMap Node.orderTerm?).mergeSort (·.position ≤ ·.position)

/-- The checks of a query, in the order of its text. -/
def checks (q : Query) : List Check :=
  .table q.entity.model :: (joinChecks q.nodes ++ (conditionChecks q.nodes ++
    q.orderings.map (.column ·.field)))

end Query

/-! ### Every node is visited -/

/-- Nodes are ordered by the orderings among the nodes of their statement. -/
theorem orderTerms_eq_filterMap (nodes : List Node) :
    Clause.orderTerms nodes = (nodesInStatement nodes).filterMap Node.orderTerm? := by
  induction nodes using Clause.orderTerms.induct with
  | case1 => simp [Clause.orderTerms, nodesInStatement]
  | case2 f direction position rest ih =>
    rw [Clause.orderTerms, ih]
    rfl
  | case3 nodes rest ihNodes ih | case4 _ _ _ nodes rest ihNodes ih =>
    rw [Clause.orderTerms, ih, ihNodes, nodesInStatement, Node.inStatement, List.filterMap_append]
    rfl
  | case5 n rest hOrder hBracket hJoin ih =>
    cases n with
    | orderBy => exact (hOrder _ _ _ rfl).elim
    | bracket => exact (hBracket _ rfl).elim
    | join => exact (hJoin _ _ _ _ rfl).elim
    | _ =>
      simp only [Clause.orderTerms, ih]
      rfl

theorem mem_orderTerms {nodes : List Node} {t : Clause.OrderTerm} :
    t ∈ Clause.orderTerms nodes ↔
      .orderBy t.field t.direction t.position ∈ nodesInStatement nodes := by
  rw [orderTerms_eq_filterMap, List.mem_filterMap]
  constructor
  · rintro ⟨n, hn, ht⟩
    cases n with
    | orderBy => cases ht; exact hn
    | _ => cases ht
  · exact fun h => ⟨_, h, rfl⟩

theorem joinChecks_eq_nil : ∀ {nodes : List Node}, (∀ n ∈ nodes, n.isJoin = false) →
    joinChecks nodes = []
  | [], _ => rfl
  | n :: rest, h => by
    have ih := joinChecks_eq_nil fun x hx => h x (List.mem_cons_of_mem _ hx)
    cases n with
    | join => exact absurd (h _ (List.mem_cons_self ..)) (by simp [Node.isJoin])
    | _ => exact ih

theorem joinChecks_cons {n : Node} (h : n.isJoin = false) (rest : List Node) :
    joinChecks (n :: rest) = joinChecks rest := by
  cases n with
  | join => cases h
  | _ => rfl

mutual

/-- The checks of a condition are those of the nodes inside it and its own. -/
theorem Node.checks_perm (index : Alias) : ∀ n : Node, n.isCondition → n.Tidy index →
    (n.within.flatMap Node.ownChecks).Perm n.checks
  | .predicate f op x, _, _ => by simp [Node.within, Node.checks]
  | .inList f negated values, _, _ => by simp [Node.within, Node.checks]
  | .bracket nodes, _, ⟨_, hjoins, htidy⟩ => by
    have ih := checks_perm index nodes htidy
    rw [joinChecks_eq_nil hjoins] at ih
    exact ih
  | .existence _ _ inner nodes, _, htidy => (checks_perm inner nodes htidy).append_left _
  | .inSubquery _ _ _ inner _ nodes, _, htidy => (checks_perm inner nodes htidy).append_left _

/-- The checks of tidy nodes are those of all nodes inside them, each once. -/
theorem checks_perm (index : Alias) : ∀ nodes : List Node, allTidy index nodes →
    ((nodesWithin nodes).flatMap Node.ownChecks).Perm (joinChecks nodes ++ conditionChecks nodes)
  | [], _ => .refl _
  | n :: rest, ⟨hn, hrest⟩ => by
    have ih := checks_perm index rest hrest
    rw [nodesWithin, List.flatMap_append, conditionChecks]
    cases hc : n.isCondition with
    | true =>
      rw [joinChecks_cons (n.isJoin_eq_false hc)]
      exact condition_first (n.checks_perm index hc hn) ih
    | false =>
      cases n with
      | connector | orderBy => exact ih
      | join kind association inner nodes =>
        -- the text has the join's own conditions before the joins inside it
        exact (join_first (checks_perm inner nodes hn.2) ih).cons _
      | _ => cases hc

end

section

variable {m : Mapping}

theorem Check.table_iff {entity : EntityModel} :
    (Check.table entity).violation? m = none ↔ (m.table? entity).isSome := by
  rw [violation?]
  split <;> simp [*]

theorem Check.column_iff {f : ScopedField} :
    (Check.column f).violation? m = none ↔ (m.column? f.descriptor).isSome := by
  rw [violation?]
  split <;> simp [*]

theorem Check.unordered_iff {nodes : List Node} :
    (Check.unordered nodes).violation? m = none ↔ Unordered nodes := by
  rw [violation?, Option.map_eq_none_iff, ← List.head?_filterMap, ← orderTerms_eq_filterMap,
    List.head?_eq_none_iff, List.eq_nil_iff_forall_not_mem]
  simp only [mem_orderTerms]
  exact ⟨fun h f d p => h ⟨p, f, d⟩, fun h t => h _ _ _⟩

/-- A node can be written if none of its own checks is violated. -/
theorem Node.writable_iff {n : Node} :
    n.Writable m ↔ ∀ c ∈ n.ownChecks, c.violation? m = none := by
  cases n with
  | predicate f op x =>
    cases x <;> simp [Writable, ownChecks, Operand.checks, Check.column_iff]
  | inList f negated values =>
    by_cases h : Value.leavesOf values = [] <;> simp [Writable, ownChecks, Check.column_iff, h]
  | existence | inSubquery =>
    simp [Writable, ownChecks, Check.column_iff, Check.table_iff, Check.unordered_iff]
  | join | bracket | connector | orderBy => simp [Writable, ownChecks, Check.column_iff]

/-- A query over tidy nodes can be written if none of its checks is violated. -/
theorem Query.writable_iff {q : Query} (h : ∀ n ∈ q.nodes, n.Tidy q.root) :
    q.Writable m ↔ ∀ c ∈ q.checks, c.violation? m = none := by
  have hperm := checks_perm q.root q.nodes (allTidy_iff.mpr h)
  have hnodes : (∀ c ∈ joinChecks q.nodes ++ conditionChecks q.nodes, c.violation? m = none) ↔
      ∀ n ∈ nodesWithin q.nodes, n.Writable m := by
    simp only [← hperm.mem_iff, List.forall_mem_flatMap, Node.writable_iff]
  have horderings : (∀ c ∈ q.orderings.map (Check.column ·.field), c.violation? m = none) ↔
      ∀ f direction position, .orderBy f direction position ∈ nodesInStatement q.nodes →
        (m.column? f.descriptor).isSome := by
    simp only [orderings, ← orderTerms_eq_filterMap, List.forall_mem_map, List.mem_mergeSort,
      mem_orderTerms, Check.column_iff]
    exact ⟨fun h f d p => h ⟨p, f, d⟩, fun h t => h _ _ _⟩
  rw [checks, List.forall_mem_cons, ← List.append_assoc, List.forall_mem_append, hnodes, horderings,
    Check.table_iff]
  exact ⟨fun ⟨hroot, hn, ho⟩ => ⟨hroot, hn, ho⟩, fun ⟨hroot, hn, ho⟩ => ⟨hroot, hn, ho⟩⟩

end

/-! ### Clauses make their checks -/

namespace Piece

/-- The name that a piece is. -/
def name? : Piece → Option String
  | .name s => some s
  | _ => none

/-- The names among pieces, in the order of the text. -/
def names (pieces : List Piece) : List String := pieces.filterMap name?

@[simp] theorem names_nil : names [] = [] := rfl

@[simp] theorem names_append (xs ys : List Piece) : names (xs ++ ys) = names xs ++ names ys :=
  List.filterMap_append

@[simp] theorem names_name (s : String) (ps : List Piece) :
    names (.name s :: ps) = s :: names ps := rfl

@[simp] theorem names_word (s : String) (ps : List Piece) : names (.word s :: ps) = names ps := rfl

@[simp] theorem names_aliasOf (a : Alias) (ps : List Piece) :
    names (.aliasOf a :: ps) = names ps := rfl

@[simp] theorem names_separator (ps : List Piece) : names (.separator :: ps) = names ps := rfl

@[simp] theorem names_slot (b : Binding) (ps : List Piece) : names (.slot b :: ps) = names ps := rfl

end Piece

namespace Clause

open Piece

/-- The error that a clause ends in. -/
def failure? {α : Type} : Except RenderError α → Option RenderError
  | .ok _ => none
  | .error e => some e

/-- After some names, a clause makes checks in order: it fails with the first that is violated, or
writes the names that they find. -/
structure Makes (m : Mapping) (before : List String) (c : Clause) (checks : List Check) :
    Prop where
  failure : failure? c = checks.findSome? (·.violation? m)
  names : ∀ pieces, c = .ok pieces → names pieces = before ++ checks.filterMap (·.name? m)

section

variable {m : Mapping} {before : List String} {xs ys : List Check}

theorem makes_ok {pieces : List Piece} (h : names pieces = before) :
    Makes m before (.ok pieces) [] where
  failure := rfl
  names := by
    intro pieces' heq
    cases heq
    rw [h, List.filterMap_nil, List.append_nil]

/-- A clause that goes on after another one makes its checks after those. -/
theorem Makes.bind {x : Clause} {f : List Piece → Clause} (hx : Makes m [] x xs)
    (hf : ∀ pieces, Makes m (before ++ Piece.names pieces) (f pieces) ys) :
    Makes m before (x >>= f) (xs ++ ys) := by
  cases x with
  | error e =>
    refine ⟨?_, nofun⟩
    rw [List.findSome?_append, ← hx.failure]
    rfl
  | ok found =>
    refine ⟨?_, fun pieces h => ?_⟩
    · rw [List.findSome?_append, ← hx.failure]
      exact (hf found).failure
    · rw [(hf found).names pieces h, hx.names found rfl, List.filterMap_append, List.nil_append,
        List.append_assoc]

/-- The same for a check that writes nothing. -/
theorem Makes.check {x : Except RenderError Unit} {c : Check} {d : Clause}
    (hx : failure? x = c.violation? m) (hc : c.name? m = none) (hd : Makes m before d ys) :
    Makes m before (x >>= fun _ => d) (c :: ys) := by
  cases x with
  | error e =>
    refine ⟨?_, nofun⟩
    rw [List.findSome?_cons, ← hx]
    rfl
  | ok u =>
    refine ⟨?_, fun pieces h => ?_⟩
    · rw [List.findSome?_cons, ← hx]
      exact hd.failure
    · rw [hd.names pieces h, List.filterMap_cons_none hc]

theorem table_makes (entity : EntityModel) : Makes m [] (table m entity) [.table entity] := by
  unfold table
  cases h : m.table? entity with
  | none => exact ⟨by simp [failure?, Check.violation?, h], nofun⟩
  | some name =>
    refine ⟨by simp [failure?, Check.violation?, h], fun pieces hp => ?_⟩
    cases hp
    simp [Check.name?, h]

theorem field_makes (f : ScopedField) : Makes m [] (field m f) [.column f] := by
  unfold field
  cases h : m.column? f.descriptor with
  | none => exact ⟨by simp [failure?, Check.violation?, h], nofun⟩
  | some name =>
    refine ⟨by simp [failure?, Check.violation?, h], fun pieces hp => ?_⟩
    cases hp
    simp [Check.name?, h]

theorem unordered_failure (nodes : List Node) :
    failure? (unordered nodes) = (Check.unordered nodes).violation? m := by
  rw [Check.violation?, ← List.head?_filterMap, ← orderTerms_eq_filterMap, unordered]
  cases orderTerms nodes <;> rfl

@[simp] theorem tie_names (next : Option Connector) : names (tie next) = [] := by
  cases next <;> rfl

theorem members_names (f : ScopedField) : ∀ vs : List Value, names (members f vs) = []
  | [] => rfl
  | [_] => rfl
  | _ :: w :: vs => members_names f (w :: vs)

theorem operand_makes (f : ScopedField) (op : CompareOp) (x : Operand) :
    Makes m [] (operand m f op x) x.checks := by
  cases x with
  | none | value => exact makes_ok rfl
  | field g => exact (field_makes g).bind fun column => makes_ok (by simp)

theorem predicate_makes (f : ScopedField) (op : CompareOp) (x : Operand) :
    Makes m [] (predicate m f op x) (Node.predicate f op x).ownChecks := by
  have h : Makes m [] (predicate m f op x) ([.column f] ++ (x.checks ++ [])) :=
    (field_makes f).bind fun column => (operand_makes f op x).bind fun right => makes_ok (by simp)
  rw [List.append_nil] at h
  exact h

theorem membership_makes (f : ScopedField) (negated : Bool) (values : List Value) :
    Makes m [] (membership m f negated values) (Node.inList f negated values).ownChecks := by
  rw [membership, Node.ownChecks]
  cases Value.leavesOf values with
  | nil => exact makes_ok rfl
  | cons v vs =>
    exact (field_makes f).bind fun column => makes_ok (by simp [memberWord, members_names])

theorem orderList_makes : ∀ terms : List OrderTerm,
    Makes m [] (orderList m terms) (terms.map (.column ·.field))
  | [] => makes_ok rfl
  | t :: rest => by
    have h : Makes m [] (orderList m (t :: rest))
        ([.column t.field] ++ (rest.map (.column ·.field) ++ [])) := by
      refine (field_makes t.field).bind fun column => ?_
      refine (orderList_makes rest).bind fun others => makes_ok ?_
      cases rest <;> simp
    rw [List.append_nil] at h
    exact h

theorem ordering_makes (q : Query) :
    Makes m [] (ordering m q.nodes) (q.orderings.map (.column ·.field)) := by
  rw [Query.orderings, ← orderTerms_eq_filterMap, ordering]
  split
  next h => rw [h]; exact makes_ok rfl
  next =>
    rw [← List.append_nil (List.map _ _)]
    exact (orderList_makes _).bind fun list => makes_ok (by simp)

theorem conditionChecks_eq_nil : ∀ {nodes : List Node}, hasCondition nodes = false →
    conditionChecks nodes = []
  | [], _ => rfl
  | n :: rest, h => by
    rw [hasCondition, List.any_cons, Bool.or_eq_false_iff] at h
    have ih : conditionChecks rest = [] := conditionChecks_eq_nil h.2
    cases n with
    | connector | orderBy | join => exact ih
    | _ => cases h.1

/-- An optional clause makes the checks of its conditions: without a condition there are none. -/
theorem introduce_makes (word : String) {nodes : List Node} {c : Clause}
    (hc : Makes m [] c (conditionChecks nodes)) :
    Makes m [] (introduce word nodes c) (conditionChecks nodes) := by
  unfold introduce
  cases hcond : hasCondition nodes with
  | false => rw [conditionChecks_eq_nil hcond]; exact makes_ok rfl
  | true =>
    cases c with
    | error e => exact hc
    | ok inner =>
      refine ⟨hc.failure, fun pieces h => ?_⟩
      cases h
      exact hc.names inner rfl

mutual

theorem joins_makes : ∀ nodes : List Node, Makes m [] (joins m nodes) (joinChecks nodes)
  | [] => makes_ok rfl
  | n :: rest => by
    cases n with
    | join kind association index nodes =>
      have h : Makes m [] (joins m (.join kind association index nodes :: rest))
          ([.column association] ++ (conditionChecks nodes ++ (joinChecks nodes ++
            (joinChecks rest ++ [])))) := by
        rw [joins]
        refine (field_makes association).bind fun source => ?_
        refine (introduce_makes " ON " (conditions_makes none nodes)).bind fun on => ?_
        refine (joins_makes nodes).bind fun inner => ?_
        exact (joins_makes rest).bind fun others => makes_ok (by simp)
      rw [List.append_nil] at h
      exact h
    | _ => exact joins_makes rest

theorem conditions_makes (next : Option Connector) : ∀ nodes : List Node,
    Makes m [] (conditions m next nodes) (conditionChecks nodes)
  | [] => makes_ok rfl
  | n :: rest => by
    cases hn : n.isCondition with
    | true =>
      rw [conditions_cons m next hn, conditionChecks, ← List.append_nil (conditionChecks rest)]
      refine (condition_makes n).bind fun first => ?_
      exact (conditions_makes (some .and) rest).bind fun others => makes_ok (by simp)
    | false =>
      cases n with
      | connector c => exact conditions_makes _ rest
      | join | orderBy => exact conditions_makes next rest
      | _ => cases hn

theorem condition_makes : ∀ n : Node, Makes m [] (condition m n) n.checks
  | .predicate f op x => predicate_makes f op x
  | .inList f negated values => membership_makes f negated values
  | .bracket nodes => by
    rw [condition, Node.checks, ← List.append_nil (conditionChecks nodes)]
    exact (conditions_makes none nodes).bind fun inner => makes_ok (by simp)
  | .existence negated association index nodes => by
    have h : Makes m [] (condition m (.existence negated association index nodes))
        (.unordered nodes :: ([.column association] ++ (joinChecks nodes ++
          (conditionChecks nodes ++ [])))) := by
      rw [condition]
      refine .check (unordered_failure nodes) rfl ?_
      refine (field_makes association).bind fun source => ?_
      refine (joins_makes nodes).bind fun joined => ?_
      refine (introduce_makes " WHERE " (conditions_makes none nodes)).bind fun filter => ?_
      exact makes_ok (by simp [subselect])
    rw [List.append_nil] at h
    exact h
  | .inSubquery f negated source index select nodes => by
    have h : Makes m [] (condition m (.inSubquery f negated source index select nodes))
        ([.column f] ++ (.unordered nodes :: ([.column select] ++ ([.table source] ++
          (joinChecks nodes ++ (conditionChecks nodes ++ [])))))) := by
      rw [condition]
      refine (field_makes f).bind fun column => ?_
      refine .check (unordered_failure nodes) rfl ?_
      refine (field_makes select).bind fun selected => ?_
      refine (table_makes source).bind fun table => ?_
      refine (joins_makes nodes).bind fun joined => ?_
      refine (introduce_makes " WHERE " (conditions_makes none nodes)).bind fun filter => ?_
      exact makes_ok (by simp [subselect, memberWord])
    rw [List.append_nil] at h
    exact h
  | .connector _ | .orderBy .. | .join .. => makes_ok rfl

end

end

end Clause

/-- A statement makes the checks of its query. -/
theorem Query.statement_makes (m : Mapping) (q : Query) :
    Clause.Makes m [] (q.statement m) q.checks := by
  have hselection : Piece.names q.selection = [] := by
    unfold selection Head.selection
    split <;> rfl
  have h : Clause.Makes m [] (q.statement m) ([.table q.entity.model] ++ (joinChecks q.nodes ++
      (conditionChecks q.nodes ++ (q.orderings.map (.column ·.field) ++ [])))) := by
    rw [statement_clauses]
    refine (Clause.table_makes q.entity.model).bind fun table => ?_
    refine (Clause.joins_makes q.nodes).bind fun joined => ?_
    refine (Clause.introduce_makes " WHERE " (Clause.conditions_makes none q.nodes)).bind
      fun filter => ?_
    exact (Clause.ordering_makes q).bind fun ordering => Clause.makes_ok (by simp [hselection])
  rw [List.append_nil] at h
  exact h

/-! ### Comparisons with an outer field -/

/-- A comparison with an outer field has two sides. -/
def Node.TwoSided : Node → Prop
  | .predicate _ op (.field _) => op.isUnary = false
  | _ => True

theorem twoSided_ofOuter (f g : ScopedField) (op : CompareOp) :
    (Node.predicate f op (.ofOuter op g)).TwoSided := by
  unfold Operand.ofOuter
  split
  next => trivial
  next h => simpa [Node.TwoSided] using h

theorem nodesWithin_eq_flatMap (nodes : List Node) :
    nodesWithin nodes = nodes.flatMap Node.within := by
  induction nodes with
  | nil => rfl
  | cons node rest ih => rw [nodesWithin, ih, List.flatMap_cons]

section

variable {Means : Lookup → Reference → Prop} {s t : Stream} {calls : List Call}

theorem Step.twoSided {call : Call} (h : Step Means s call t)
    (hn : ∀ n ∈ s.nodes, ∀ o ∈ n.within, o.TwoSided) :
    ∀ n ∈ t.nodes, ∀ o ∈ n.within, o.TwoSided := by
  have hc : ∀ c, ∀ o ∈ (Node.connector c).within, o.TwoSided := by simp [Node.within, Node.TwoSided]
  cases h with
  | filter | connect | inspect | render => exact hn
  | orderBy => exact Stream.forall_push hn (by simp [Node.within, Node.TwoSided])
  | compare | nullCheck | isIn =>
    exact Stream.forall_pushCondition hc hn (by simp [Node.within, Node.TwoSided])
  | compareOuter =>
    exact Stream.forall_pushCondition hc hn (by simp [Node.within, twoSided_ofOuter])

/-- A program compares with an outer field only where a comparison has two sides. -/
theorem Builds.twoSided (h : Builds Means s calls t) :
    (∀ n ∈ s.nodes, ∀ o ∈ n.within, o.TwoSided) → ∀ n ∈ t.nodes, ∀ o ∈ n.within, o.TwoSided := by
  have hc : ∀ c, ∀ o ∈ (Node.connector c).within, o.TwoSided := by simp [Node.within, Node.TwoSided]
  have hinner : ∀ nodes : List Node, (∀ n ∈ nodes, ∀ o ∈ n.within, o.TwoSided) →
      ∀ o ∈ nodesWithin nodes, o.TwoSided := by
    simp only [nodesWithin_eq_flatMap, List.forall_mem_flatMap]
    exact fun _ => id
  induction h with
  | nil => exact id
  | step hstep _ ih => exact fun hn => ih (hstep.twoSided hn)
  | @brackets s g t configure rest _ _ ihg ih =>
    intro hn
    have hgroup := ihg (List.forall_mem_nil _)
    refine ih (Stream.forall_acceptGroup hc hn hgroup fun _ => List.forall_mem_cons.mpr ⟨trivial, ?_⟩)
    exact hinner _ fun n h => hgroup n (List.mem_filter.mp h).1
  | join kind hr _ _ ihc ih =>
    intro hn
    have hchild := hinner _ (ihc (List.forall_mem_nil _))
    exact ih (Stream.forall_push hn (List.forall_mem_cons.mpr ⟨trivial, hchild⟩))
  | existence negated hr _ _ ihc ih | inSubquery negated hr _ _ _ ihc ih =>
    intro hn
    have hchild := hinner _ (ihc (List.forall_mem_nil _))
    exact ih (Stream.forall_pushCondition hc hn (List.forall_mem_cons.mpr ⟨trivial, hchild⟩))

end

/-! ### Built queries -/

/-- The nodes of a built query are tidy, and its comparisons with outer fields two-sided. -/
theorem Query.Built.nodes {q : Query} (h : q.Built) :
    (∀ n ∈ q.nodes, n.Tidy q.root) ∧ ∀ n ∈ nodesWithin q.nodes, n.TwoSided := by
  obtain ⟨hroot, entity, calls, t, hbuilds, hnodes⟩ := h.builds
  rw [hnodes, hroot, nodesWithin_eq_flatMap, List.forall_mem_flatMap]
  exact ⟨hbuilds.tidy (List.forall_mem_nil _), hbuilds.twoSided (List.forall_mem_nil _)⟩

/-- A list of checks has a first one that is violated, with an error, or none. -/
theorem findSome?_violation {m : Mapping} {checks : List Check} {e : RenderError} :
    checks.findSome? (·.violation? m) = some e ↔ ∃ before check after,
      checks = before ++ check :: after ∧ (∀ c ∈ before, c.violation? m = none) ∧
        check.violation? m = some e := by
  rw [List.findSome?_eq_some_iff]
  exact ⟨fun ⟨xs, c, ys, h, hc, hxs⟩ => ⟨xs, c, ys, h, hxs, hc⟩,
    fun ⟨xs, c, ys, h, hxs, hc⟩ => ⟨xs, c, ys, h, hc, hxs⟩⟩

/-- CHECKS: a built query is rendered exactly if the mapping has the tables and columns that its nodes
need, at any depth, and no subquery is ordered. Otherwise the error is that of the first violated
check. The names that the checks find are those of the text, in its order, so the checks are made in
the order of the text. The outer field of a comparison is needed only if the comparison has a
right-hand side. -/
theorem rendering_fails_at_first_violation {q : Query} (hq : q.Built) (r : Renderer) :
    ((∃ rendered, r.render q = .ok rendered) ↔ q.Writable r.mapping) ∧
    (∀ e, r.render q = .error e ↔ ∃ before check after,
      q.checks = before ++ check :: after ∧ (∀ c ∈ before, c.violation? r.mapping = none) ∧
        check.violation? r.mapping = some e) ∧
    (∀ rendered, r.render q = .ok rendered →
      rendered.text =
        String.join ((Piece.tokensFrom r.conventions 0 (q.written r.mapping)).map (·.text)) ∧
      rendered.Binds r.conventions q.page (q.written r.mapping) ∧
      Piece.names (q.written r.mapping) = q.checks.filterMap (·.name? r.mapping)) ∧
    ∀ f op g, .predicate f op (.field g) ∈ nodesWithin q.nodes → op.isUnary = false := by
  obtain ⟨htidy, htwoSided⟩ := hq.nodes
  have hmakes := q.statement_makes r.mapping
  have hfailure := hmakes.failure
  rw [Query.writable_iff htidy, ← List.findSome?_eq_none_iff]
  simp only [← findSome?_violation, ← hfailure]
  have hrender := Renderer.render_eq r q
  cases hstatement : q.statement r.mapping with
  | error e =>
    rw [hstatement] at hrender
    rw [hrender]
    refine ⟨⟨nofun, nofun⟩, fun e' => ?_, nofun, fun _ _ _ => htwoSided _⟩
    simp [Except.map, Clause.failure?]
  | ok pieces =>
    rw [hstatement] at hrender
    refine ⟨⟨fun _ => rfl, fun _ => ⟨_, hrender⟩⟩, fun e => ?_, ?_, fun _ _ _ => htwoSided _⟩
    · rw [hrender]
      exact ⟨nofun, nofun⟩
    · intro rendered h
      obtain ⟨htext, hbinds⟩ := Renderer.render_written h
      have hnames := hmakes.names pieces hstatement
      rw [Query.statement_written hstatement] at hnames
      exact ⟨htext, hbinds, hnames⟩

/-- The accessor of staff leads to a field, whatever the store holds. -/
theorem reports_resolves (w : Workspace) : ∃ r w', w.resolve staff reports = (.ok r, w') :=
  resolve_ok (l := ⟨staff, reports⟩) rfl w

/-- Staff without superiors, with an ordering inside a group of the subquery, and an empty list. -/
def orderedInside : List Call :=
  [.isIn reports false [.list []],
    .existence true reports staff [.brackets [.orderBy reports .desc]]]

theorem orderedInside_build (w : Workspace) : ∃ r r' r'',
    (runAll orderedInside (.start staff) w).stream.build = { entity := staff, root := 0, nodes :=
      [.inList ⟨r, 0⟩ false [.list []],
        .existence true ⟨r', 0⟩ 1 [.orderBy ⟨r'', 1⟩ .desc 0]] } := by
  obtain ⟨r, w₁, h⟩ := reports_resolves w
  obtain ⟨r', w₂, h'⟩ := reports_resolves w₁
  obtain ⟨r'', w₃, h''⟩ := reports_resolves w₂
  refine ⟨r, r', r'', ?_⟩
  simp only [orderedInside, runAll, Call.run, Workspace.field, Stream.start, h, Except.map,
    Outcome.done, Stream.pushCondition, Stream.child, Stream.group, h', h'']
  rfl

/-- Table `t` for everything, and no columns. -/
def onlyTables : Mapping := ⟨fun _ => some "t", fun _ => none⟩

theorem rendering_fails_at_first_violation_ordered :
    (runAll orderedInside (.start staff) untouched).stream.build.Built ∧ ∃ f : ScopedField,
      Renderer.render ⟨{}, onlyTables⟩ (runAll orderedInside (.start staff) untouched).stream.build =
        .error (.orderInSubquery f.name) := by
  obtain ⟨r, r', r'', hquery⟩ := orderedInside_build untouched
  have hbuilt : (runAll orderedInside (.start staff) untouched).stream.build.Built :=
    ⟨staff, orderedInside, untouched, [], rfl⟩
  obtain ⟨-, herror, -⟩ := rendering_fails_at_first_violation hbuilt ⟨{}, onlyTables⟩
  refine ⟨hbuilt, ⟨r'', 1⟩, (herror _).mpr ?_⟩
  rw [hquery]
  -- the list flattens to nothing, and the ordering is looked for before the association
  refine ⟨[.table staff.model], .unordered [.orderBy ⟨r'', 1⟩ .desc 0],
    .column ⟨r', 0⟩ :: (Query.orderings _).map (.column ·.field), rfl, ?_, rfl⟩
  simp [Check.violation?, onlyTables]

end EntityQuery
