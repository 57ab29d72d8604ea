import EntityQuery.Stream.Program

/-!
Shape: what may change about nodes without being seen. A map of nodes keeps their shape if it goes
through groups, joins and subqueries and leaves a comparison a comparison; every operation on a stream
commutes with such a map. It keeps the text if besides it leaves the columns and instances of fields
alone, and changes a comparison or a membership only into one that is written the same; rendering does
not see such a map.

```
nodes      a · (b · or · c) · order          pushCondition, acceptGroup, acceptJoin, …
changed    a' · (b' · or · c') · order'      the same on the changed stream
```
-/

namespace EntityQuery

/-- A map of nodes, and of the fields in them, that leaves every node what it is. -/
structure KeepsShape (change : Node → Node) (field : ScopedField → ScopedField) : Prop where
  connector : ∀ c, change (.connector c) = .connector c
  predicate : ∀ f op x, ∃ x', change (.predicate f op x) = .predicate (field f) op x'
  inList : ∀ f negated values, ∃ values',
    change (.inList f negated values) = .inList (field f) negated values'
  orderBy : ∀ f direction position,
    change (.orderBy f direction position) = .orderBy (field f) direction position
  bracket : ∀ nodes, change (.bracket nodes) = .bracket (nodes.map change)
  join : ∀ kind association index nodes, change (.join kind association index nodes) =
    .join kind (field association) index (nodes.map change)
  existence : ∀ negated association index nodes,
    change (.existence negated association index nodes) =
      .existence negated (field association) index (nodes.map change)
  inSubquery : ∀ f negated source index select nodes,
    change (.inSubquery f negated source index select nodes) =
      .inSubquery (field f) negated source index (field select) (nodes.map change)

/-- A map of nodes that keeps what is written. -/
structure KeepsText (change : Node → Node) (field : ScopedField → ScopedField) : Prop extends
    KeepsShape change field where
  descriptor : ∀ f, (field f).descriptor = f.descriptor
  owner : ∀ f, (field f).owner = f.owner
  comparison : ∀ f op x x', change (.predicate f op x) = .predicate (field f) op x' →
    ∀ m, Clause.predicate m (field f) op x' = Clause.predicate m f op x
  membership : ∀ f negated values values',
    change (.inList f negated values) = .inList (field f) negated values' →
    ∀ m, Clause.membership m (field f) negated values' = Clause.membership m f negated values

/-- A stream with changed nodes. -/
def Stream.mapNodes (change : Node → Node) (s : Stream) : Stream :=
  { s with nodes := s.nodes.map change }

/-! ### Building -/

namespace KeepsShape

variable {change : Node → Node} {field : ScopedField → ScopedField} (h : KeepsShape change field)

include h

/-- A node stays what it is. -/
theorem kind (n : Node) :
    (change n).isJoin = n.isJoin ∧ (change n).isCondition = n.isCondition := by
  cases n with
  | predicate f op x =>
    obtain ⟨x', hx⟩ := h.predicate f op x
    rw [hx]
    exact ⟨rfl, rfl⟩
  | inList f negated values =>
    obtain ⟨values', hvalues⟩ := h.inList f negated values
    rw [hvalues]
    exact ⟨rfl, rfl⟩
  | connector => rw [h.connector]; exact ⟨rfl, rfl⟩
  | bracket => rw [h.bracket]; exact ⟨rfl, rfl⟩
  | orderBy => rw [h.orderBy]; exact ⟨rfl, rfl⟩
  | join => rw [h.join]; exact ⟨rfl, rfl⟩
  | existence => rw [h.existence]; exact ⟨rfl, rfl⟩
  | inSubquery => rw [h.inSubquery]; exact ⟨rfl, rfl⟩

theorem hasCondition_map (nodes : List Node) :
    hasCondition (nodes.map change) = hasCondition nodes := by
  simp [hasCondition, List.any_map, Function.comp_def, (h.kind _).2]

theorem pushCondition (s : Stream) (n : Node) :
    (s.pushCondition n).mapNodes change = (s.mapNodes change).pushCondition (change n) := by
  unfold Stream.pushCondition Stream.mapNodes
  cases s.pending with
  | none => simp
  | some c =>
    by_cases hc : hasCondition s.nodes <;> simp [h.hasCondition_map, hc, h.connector]

theorem pushOrder (s : Stream) (f : ScopedField) (direction : Direction) :
    (s.pushOrder f direction).mapNodes change =
      (s.mapNodes change).pushOrder (field f) direction := by
  simp [Stream.pushOrder, Stream.push, Stream.mapNodes, h.orderBy]

theorem acceptGroup (s g : Stream) :
    (s.acceptGroup g).mapNodes change =
      (s.mapNodes change).acceptGroup (g.mapNodes change) := by
  have hjoins : (g.nodes.map change).filter Node.isJoin =
      (g.nodes.filter Node.isJoin).map change := by
    simp [List.filter_map, Function.comp_def, (h.kind _).1]
  have hrest : (g.nodes.map change).filter (!·.isJoin) =
      (g.nodes.filter (!·.isJoin)).map change := by
    simp [List.filter_map, Function.comp_def, (h.kind _).1]
  simp only [Stream.acceptGroup, Stream.mapNodes, hjoins, hrest, h.hasCondition_map]
  split
  · rw [← h.bracket, ← List.map_append]
    exact h.pushCondition { s with
      nodes := s.nodes ++ g.nodes.filter Node.isJoin
      nextAlias := g.nextAlias
      orders := g.orders } (.bracket (g.nodes.filter (!·.isJoin)))
  · simp

theorem acceptJoin (s c : Stream) (kind : JoinKind) (f : ScopedField) :
    (s.acceptJoin kind f c).mapNodes change =
      (s.mapNodes change).acceptJoin kind (field f) (c.mapNodes change) := by
  simp [Stream.acceptJoin, Stream.push, Stream.mapNodes, Stream.index, h.join]

theorem acceptSubquery (s c : Stream) (n : Node) :
    (s.acceptSubquery c n).mapNodes change =
      (s.mapNodes change).acceptSubquery (c.mapNodes change) (change n) :=
  h.pushCondition { s with nextAlias := c.nextAlias } n

end KeepsShape

/-! ### Rendering -/

namespace KeepsText

variable {change : Node → Node} {field : ScopedField → ScopedField} (h : KeepsText change field)
  (m : Mapping)

include h

theorem field_eq (f : ScopedField) : Clause.field m (field f) = Clause.field m f := by
  simp only [Clause.field, ScopedField.name, h.descriptor, h.owner]

theorem orderTerms_map : ∀ nodes : List Node, Clause.orderTerms (nodes.map change) =
    (Clause.orderTerms nodes).map fun t => { t with field := field t.field }
  | [] => by simp only [List.map_nil, Clause.orderTerms]
  | n :: rest => by
    have ih := orderTerms_map rest
    cases n with
    | predicate f op x =>
      obtain ⟨x', hx⟩ := h.predicate f op x
      simp only [List.map_cons, hx, Clause.orderTerms, ih]
    | inList f negated values =>
      obtain ⟨values', hvalues⟩ := h.inList f negated values
      simp only [List.map_cons, hvalues, Clause.orderTerms, ih]
    | connector | existence | inSubquery =>
      simp only [List.map_cons, h.connector, h.existence, h.inSubquery, Clause.orderTerms, ih]
    | orderBy => simp only [List.map_cons, h.orderBy, Clause.orderTerms, ih]
    | bracket nodes | join _ _ _ nodes =>
      simp only [List.map_cons, h.bracket, h.join, Clause.orderTerms, ih, orderTerms_map nodes,
        List.map_append]

theorem orderList_map : ∀ terms : List Clause.OrderTerm,
    Clause.orderList m (terms.map fun t => { t with field := field t.field }) =
      Clause.orderList m terms
  | [] => rfl
  | t :: rest => by
    simp only [List.map_cons, Clause.orderList, orderList_map rest, List.isEmpty_map,
      h.field_eq m t.field]

theorem ordering (nodes : List Node) :
    Clause.ordering m (nodes.map change) = Clause.ordering m nodes := by
  -- the positions stay, so the sorted orderings are those of the sorted list
  have hsort := List.map_mergeSort (l := Clause.orderTerms nodes)
    (f := fun t : Clause.OrderTerm => { t with field := field t.field })
    (r := fun t u => decide (t.position ≤ u.position))
    (s := fun t u => decide (t.position ≤ u.position)) fun _ _ _ _ => rfl
  simp only [Clause.ordering, h.orderTerms_map, ← hsort]
  cases (Clause.orderTerms nodes).mergeSort fun t u => decide (t.position ≤ u.position) with
  | nil => rfl
  | cons t rest =>
    have hlist := h.orderList_map m (t :: rest)
    rw [List.map_cons] at hlist
    simp only [List.map_cons, hlist]

theorem unordered (nodes : List Node) :
    Clause.unordered (nodes.map change) = Clause.unordered nodes := by
  simp only [Clause.unordered, h.orderTerms_map]
  cases Clause.orderTerms nodes with
  | nil => rfl
  | cons t rest => simp only [List.map_cons, ScopedField.name, h.descriptor]

theorem introduce (word : String) (nodes : List Node) (c : Clause) :
    Clause.introduce word (nodes.map change) c = Clause.introduce word nodes c := by
  simp only [Clause.introduce, h.hasCondition_map]

mutual

theorem joins (nodes : List Node) : Clause.joins m (nodes.map change) = Clause.joins m nodes := by
  cases nodes with
  | nil => rfl
  | cons n rest =>
    have ih := joins rest
    rw [List.map_cons]
    cases hj : n.isJoin with
    | true =>
      cases n with
      | join kind association index nodes =>
        simp only [h.join, Clause.joins, h.introduce, h.field_eq, conditions none nodes,
          joins nodes, ih]
      | _ => cases hj
    | false =>
      rw [Clause.joins_cons m rest hj, Clause.joins_cons m _ ((h.kind n).1.trans hj), ih]

theorem conditions (next : Option Connector) (nodes : List Node) :
    Clause.conditions m next (nodes.map change) = Clause.conditions m next nodes := by
  cases nodes with
  | nil => rfl
  | cons n rest =>
    have ih := fun next => conditions next rest
    rw [List.map_cons]
    cases hc : n.isCondition with
    | true =>
      rw [Clause.conditions_cons m next ((h.kind n).2.trans hc), Clause.conditions_cons m next hc,
        condition n, ih]
    | false =>
      cases n with
      | connector c => rw [h.connector]; exact ih _
      | orderBy => rw [h.orderBy]; exact ih next
      | join => rw [h.join]; exact ih next
      | _ => cases hc

theorem condition : ∀ n : Node, Clause.condition m (change n) = Clause.condition m n
  | .predicate f op x => by
    obtain ⟨x', hx⟩ := h.predicate f op x
    rw [hx, Clause.condition, Clause.condition, h.comparison f op x x' hx]
  | .inList f negated values => by
    obtain ⟨values', hvalues⟩ := h.inList f negated values
    rw [hvalues, Clause.condition, Clause.condition, h.membership f negated values values' hvalues]
  | .bracket nodes => by
    rw [h.bracket, Clause.condition, Clause.condition, conditions none nodes]
  | .existence negated association index nodes => by
    simp only [h.existence, Clause.condition, h.unordered, h.introduce, h.field_eq, joins nodes,
      conditions none nodes]
  | .inSubquery f negated source index select nodes => by
    simp only [h.inSubquery, Clause.condition, h.unordered, h.introduce, h.field_eq, joins nodes,
      conditions none nodes]
  | .connector c => by rw [h.connector]
  | .orderBy .. => by rw [h.orderBy]; rfl
  | .join .. => by rw [h.join]; rfl

end

/-- Rendering a query does not see the change. -/
theorem render (r : Renderer) (q : Query) :
    r.render { q with nodes := q.nodes.map change } = r.render q := by
  simp only [Renderer.render_eq, Query.statement_clauses, h.joins, h.introduce, h.conditions,
    h.ordering]
  rfl

end KeepsText

end EntityQuery
