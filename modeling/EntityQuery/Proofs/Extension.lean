import EntityQuery.Proofs.Binding
import EntityQuery.Proofs.Connection
import EntityQuery.Proofs.Failure
import EntityQuery.Proofs.Numbering
import EntityQuery.Proofs.Ordering
import Mathlib.Data.List.Induction

/-!
Extension: what one more call does to a text. A stream can be rendered at any time, and what is
written of it then stays as it is: a condition goes between what is there and the orderings, an
ordering goes to the end, and the parameters keep their numbers. This needs that the connector in
front of a condition is the one asked for last, and that no ordering of the stream has a position
behind the counter; both hold of every stream that calls can be made on.

```
s               … WHERE c0.id = :p0                    ORDER BY c0.name asc
s · or · isIn   … WHERE c0.id = :p0 OR c0.id in (:p1)  ORDER BY c0.name asc
s · orderBy     … WHERE c0.id = :p0                    ORDER BY c0.name asc, c0.id desc
```
-/

namespace EntityQuery

open EntityQuery.Field

/-! ### Streams that calls can be made on -/

/-- Connectors stand between conditions, and the orderings have different positions, all of them
before the counter. -/
structure Stream.Steady (s : Stream) : Prop where
  chained : Chained s.nodes
  inner : ∀ n ∈ s.nodes, n.Chained
  ordered : ∃ terms, (Clause.orderTerms s.nodes).Perm terms ∧
    (terms.map (·.position)).Pairwise (· < ·) ∧ ∀ t ∈ terms, t.position < s.orders

theorem orderTerms_eq_flatMap (nodes : List Node) :
    Clause.orderTerms nodes = nodes.flatMap Node.orderTerms := by
  rw [orderTerms_eq_filterMap, flatMap_orderTerms]

theorem Stream.steady_of_empty {s : Stream} (h : s.nodes = []) : s.Steady := by
  refine ⟨?_, ?_, [], ?_, .nil, List.forall_mem_nil _⟩
  · rw [h]; exact chained_nil
  · rw [h]; exact List.forall_mem_nil _
  · rw [h, orderTerms_eq_flatMap]; exact .refl _

section

variable {Means : Lookup → Reference → Prop} {s t : Stream} {calls : List Call}

/-- What a program orders by comes after what was ordered by before. -/
theorem Builds.steady (h : Builds Means s calls t) (hs : s.Steady) : t.Steady := by
  obtain ⟨hchained, hinner⟩ := h.chained hs.chained hs.inner
  obtain ⟨terms, hterms, hsorted, hbound⟩ := hs.ordered
  obtain ⟨added, hadded, hcount, hperm⟩ := h.orders
  refine ⟨hchained, hinner, terms ++ added, ?_, ?_, ?_⟩
  · rw [orderTerms_eq_flatMap] at hterms ⊢
    exact hperm.trans (hterms.append_right added)
  · rw [List.map_append, hadded.positions, List.pairwise_append]
    refine ⟨hsorted, List.pairwise_lt_range' 1, fun i hi j hj => ?_⟩
    obtain ⟨term, hterm, rfl⟩ := List.mem_map.mp hi
    exact Nat.lt_of_lt_of_le (hbound term hterm) (List.mem_range'_1.mp hj).1
  · intro term hterm
    rw [hcount]
    rcases List.mem_append.mp hterm with hterm | hterm
    · exact Nat.lt_add_right _ (hbound term hterm)
    · have hposition := List.mem_map_of_mem (f := (·.position)) hterm
      rw [hadded.positions] at hposition
      exact (List.mem_range'_1.mp hposition).2

theorem Call.run_steady (call : Call) (w : Workspace) (hs : s.Steady) :
    (call.run s w).stream.Steady := by
  cases hr : (call.run s w).result with
  | error e => rw [Call.run_error hr]; exact hs
  | ok =>
    have hruns := call.run_builds trusted_marks s w trivial fun _ _ => trivial
    exact (hruns.2 hr [] _ (.nil _)).steady hs

theorem During.steady (h : During s t) (hs : s.Steady) : t.Steady := by
  induction h with
  | here => exact hs
  | call call w _ ih => exact call.run_steady w ih
  | group _ _ => exact Stream.steady_of_empty rfl
  | child _ _ _ _ => exact Stream.steady_of_empty rfl

end

/-! ### What ties the next condition -/

/-- What ties the next condition of a stream to those before it. -/
def Stream.nextTie (s : Stream) : Option Connector :=
  if hasCondition s.nodes then some (s.pending.getD .and) else none

/-- A join or an ordering at the end can be taken away. -/
theorem Chained.of_concat {xs : List Node} {n : Node} (h : Chained (xs ++ [n]))
    (hn : n.isCondition = false) : Chained xs := by
  intro before c after heq
  obtain ⟨hbefore, m, rest, hafter, hm⟩ := h before c (after ++ [n]) (by simp [heq])
  refine ⟨hbefore, ?_⟩
  cases after with
  | nil =>
    obtain ⟨rfl, -⟩ := List.cons.inj hafter
    rw [hn] at hm
    cases hm
  | cons x xs =>
    obtain ⟨rfl, -⟩ := List.cons.inj hafter
    exact ⟨_, xs, rfl, hm⟩

/-- No connector is left over after the nodes of a stream. -/
theorem Chained.nextAfter {nodes : List Node} (h : Chained nodes) :
    nextAfter none nodes = if hasCondition nodes then some .and else none := by
  induction nodes using List.reverseRecOn with
  | nil => rfl
  | append_singleton xs n ih =>
    rw [nextAfter_append, hasCondition_append]
    cases hn : n.isCondition with
    | true => rw [nextAfter_condition hn]; simp [hasCondition, hn]
    | false =>
      have hxs := ih (h.of_concat hn)
      have hnone : hasCondition [n] = false := by simp [hasCondition, hn]
      rw [hnone, Bool.or_false, ← hxs]
      cases n with
      | connector c =>
        obtain ⟨-, _, _, hafter, -⟩ := h xs c [] rfl
        cases hafter
      | orderBy | join => rfl
      | _ => cases hn

theorem Stream.pushCondition_parts {s : Stream} (hs : Chained s.nodes) {n : Node}
    (hn : n.isCondition) : conditionParts none (s.pushCondition n).nodes =
      conditionParts none s.nodes ++ n.conditionParts s.nextTie := by
  have hone : ∀ next, conditionParts next [n] = n.conditionParts next := fun next => by
    rw [conditionParts_cons hn, conditionParts, List.append_nil]
  unfold pushCondition nextTie
  dsimp only
  rw [List.append_assoc, conditionParts_append, hs.nextAfter]
  cases s.pending with
  | none => cases hasCondition s.nodes <;> exact congrArg _ (hone _)
  | some c => cases hasCondition s.nodes <;> exact congrArg _ (hone _)

/-! ### Calls that add one condition -/

/-- A call adds a condition to the scope of its stream, and no join or ordering. -/
structure Call.OnlyCondition (call : Call) (s : Stream) (w : Workspace) : Prop where
  condition : addCondition (call.trim s w) = true
  joins : EntityQuery.tiedJoins (call.trim s w) = []
  orderings : EntityQuery.asks s.entity s.index s.nextAlias (call.trim s w) = []

/-- A stream has one more condition than another one over the same instance. -/
structure Stream.AddsOne (s t : Stream) (n : Node) : Prop where
  entity : t.entity = s.entity
  index : t.index = s.index
  nodes : t.nodes = (s.pushCondition n).nodes
  condition : n.isCondition
  unordered : n.orderTerms = []

/-- A caught call leaves one call or none. -/
theorem Call.trim_cases (s : Stream) (w : Workspace) : ∀ call : Call,
    call.trim s w = [] ∨ ∃ only, call.trim s w = [only]
  | .attempt call => by
    rw [Call.trim]
    split
    · exact .inl rfl
    · exact call.trim_cases s w
  | .filter | .connect _ | .compare .. | .nullCheck .. | .isIn .. | .compareOuter .. | .orderBy ..
  | .brackets _ | .join .. | .existence .. | .inSubquery .. | .fail _ | .inspect | .render .. =>
    .inr ⟨_, rfl⟩

theorem isJoin_of_joinParts {nodes : List Node} (h : joinParts nodes = []) :
    ∀ n ∈ nodes, n.isJoin = false := by
  induction nodes with
  | nil => exact List.forall_mem_nil _
  | cons n rest ih =>
    rw [List.forall_mem_cons]
    cases n with
    | join => cases h
    | _ => exact ⟨rfl, ih h⟩

/-- A group that has conditions, and neither a join nor an ordering, is one condition. -/
theorem Stream.acceptGroup_addsOne {Means : Lookup → Reference → Prop} {s g : Stream}
    {configure : List Call} (h : Builds Means s.group configure g)
    (hadds : addCondition configure = true) (hjoins : tiedJoins configure = [])
    (hasks : asks s.entity s.index s.nextAlias configure = []) :
    s.AddsOne (s.acceptGroup g) (.bracket g.nodes) := by
  obtain ⟨htied, hconditions⟩ := h.ties.fresh rfl
  have hcond : hasCondition g.nodes = true := by
    have hempty := congrArg List.isEmpty hconditions
    rw [tiedParts_isEmpty, conditionParts_isEmpty, tiedConditions_isEmpty, hadds] at hempty
    exact Bool.not_inj hempty
  have hnojoin : ∀ n ∈ g.nodes, n.isJoin = false := by
    rw [hjoins, ← List.isEmpty_iff, tiedParts_isEmpty, List.isEmpty_iff] at htied
    exact isJoin_of_joinParts htied
  have hkept : g.nodes.filter (!·.isJoin) = g.nodes :=
    List.filter_eq_self.mpr fun n hn => by rw [hnojoin n hn]; rfl
  have hnone : g.nodes.filter Node.isJoin = [] :=
    List.filter_eq_nil_iff.mpr fun n hn => by rw [hnojoin n hn]; exact Bool.false_ne_true
  obtain ⟨u, hu, hpending, hsome, -⟩ := s.acceptGroup_eq g
  rw [hnone, List.append_nil] at hu
  rw [hkept] at hsome
  refine ⟨s.acceptGroup_entity g, congrArg Scope.index (s.acceptGroup_scope g), ?_, rfl, ?_⟩
  · rw [hsome hcond]
    simp only [pushCondition, hu, hpending]
  · obtain ⟨added, hadded, -, hperm⟩ := h.orders
    obtain rfl : added = [] := by
      have hanswers := hadded.answers
      rw [show asks s.group.entity s.group.index s.group.nextAlias configure = [] from hasks]
        at hanswers
      cases hanswers
      rfl
    exact (flatMap_orderTerms g.nodes).symm.trans hperm.eq_nil

theorem Builds.addsOne {Means : Lookup → Reference → Prop} {s t : Stream} {call : Call}
    (h : Builds Means s [call] t) (hadds : call.addsCondition = true)
    (hjoins : call.tiedJoins = []) (hasks : call.asks s.entity s.index s.nextAlias = []) :
    ∃ n, s.AddsOne t n := by
  cases h with
  | step hstep hrest =>
    cases hrest
    cases hstep with
    | filter | connect | orderBy | inspect | render => cases hadds
    | compare | nullCheck | isIn | compareOuter => exact ⟨_, rfl, rfl, rfl, rfl, rfl⟩
  | brackets hg hrest =>
    cases hrest
    exact ⟨_, Stream.acceptGroup_addsOne hg hadds hjoins hasks⟩
  | join => cases hadds
  | existence negated hr hc hrest =>
    cases hrest
    exact ⟨_, rfl, rfl, rfl, rfl, rfl⟩
  | inSubquery negated hr hc hr' hrest =>
    cases hrest
    exact ⟨_, rfl, rfl, rfl, rfl, rfl⟩

/-- The condition that a call adds is the one that it asks for. -/
theorem Call.OnlyCondition.addsOne {call : Call} {s : Stream} {w : Workspace}
    (h : call.OnlyCondition s w) (hok : (call.run s w).result = .ok ()) :
    ∃ n, s.AddsOne (call.run s w).stream n ∧
      n.conditionItems = conditionsOf s.entity (call.trim s w) := by
  have hbuilds := (call.run_builds trusted_marks s w trivial fun _ _ => trivial).2 hok [] _ (.nil _)
  rw [List.append_nil] at hbuilds
  obtain ⟨n, hn⟩ : ∃ n, s.AddsOne (call.run s w).stream n := by
    obtain ⟨hadds, hjoins, hasks⟩ := h
    rcases call.trim_cases s w with hnone | ⟨only, honly⟩
    · rw [hnone] at hadds
      cases hadds
    · rw [honly] at hadds hjoins hasks hbuilds
      simp only [addCondition, EntityQuery.tiedJoins, EntityQuery.asks, Bool.or_false,
        List.append_nil] at hadds hjoins hasks
      exact hbuilds.addsOne hadds hjoins hasks
  refine ⟨n, hn, ?_⟩
  have hitems := hbuilds.items.2
  rw [hn.nodes, (s.pushCondition_items n).2] at hitems
  have hone := List.append_cancel_left hitems
  rw [conditionsIn, conditionsIn, List.append_nil] at hone
  exact hone

/-! ### The text with one more condition -/

/-- The word in front of the next condition of a stream. -/
def Stream.conditionWord (s : Stream) : String :=
  if hasCondition s.nodes then " " ++ (s.pending.getD .and).keyword ++ " " else " WHERE "

/-- Where conditions are written, each of them is. -/
theorem Clause.condition_of_mem {m : Mapping} {n : Node} (hn : n.isCondition) :
    ∀ (nodes : List Node) (next : Option Connector) (pieces : List Piece),
    conditions m next nodes = .ok pieces → n ∈ nodes → ∃ own, condition m n = .ok own
  | [], _, _, _, hmem => by cases hmem
  | x :: rest, next, pieces, h, hmem => by
    cases hx : x.isCondition with
    | true =>
      obtain ⟨first, others, hfirst, hothers, -⟩ := conditions_ok hx h
      rcases List.mem_cons.mp hmem with rfl | hmem
      · exact ⟨first, hfirst⟩
      · exact condition_of_mem hn rest _ others hothers hmem
    | false =>
      have hrest : n ∈ rest := (List.mem_cons.mp hmem).resolve_left fun heq => by
        rw [heq, hx] at hn
        cases hn
      cases x with
      | connector c => exact condition_of_mem hn rest _ pieces h hrest
      | orderBy | join => exact condition_of_mem hn rest next pieces h hrest
      | _ => cases hx

/-- One more condition comes after its word. -/
theorem Stream.lead_pushCondition {s : Stream} (hs : Chained s.nodes) {m : Mapping} {n : Node}
    (hn : n.isCondition) {own : List Piece} (hown : Clause.condition m n = .ok own) :
    lead " WHERE " (conditionParts none (s.pushCondition n).nodes)
        (writeAll m (conditionParts none (s.pushCondition n).nodes)) =
      lead " WHERE " (conditionParts none s.nodes) (writeAll m (conditionParts none s.nodes)) ++
        .word s.conditionWord :: own := by
  have hnone := conditionParts_isEmpty none s.nodes
  have hsome : n.conditionParts s.nextTie ≠ [] := by
    rw [← List.isEmpty_eq_false_iff, n.conditionParts_isEmpty, hn]
    rfl
  rw [pushCondition_parts hs hn, writeAll_append,
    ← Clause.condition_written m s.nextTie n hn own hown, ← Clause.tie_written, lead, lead,
    List.isEmpty_eq_false_iff.mpr (List.append_ne_nil_of_right_ne_nil _ hsome),
    if_neg Bool.false_ne_true]
  unfold conditionWord nextTie
  cases hcond : hasCondition s.nodes with
  | false =>
    rw [hcond, Bool.not_false, List.isEmpty_iff] at hnone
    rw [hnone]
    rfl
  | true =>
    rw [hcond] at hnone
    rw [hnone]
    rfl

theorem Stream.AddsOne.orderTerms {s t : Stream} {n : Node} (h : s.AddsOne t n) :
    Clause.orderTerms t.nodes = Clause.orderTerms s.nodes := by
  rw [orderTerms_eq_flatMap, orderTerms_eq_flatMap, h.nodes, flatMap_pushCondition (fun _ => rfl),
    h.unordered, List.append_nil]

/-- A statement with one more condition has it before the orderings, and is the same otherwise. -/
theorem Stream.AddsOne.statement {s t : Stream} {n : Node} (h : s.AddsOne t n) (hs : Chained s.nodes)
    {m : Mapping} {front clause pieces : List Piece}
    (hfront : s.build.statement m = .ok (front ++ clause))
    (hclause : Clause.ordering m s.nodes = .ok clause) (ht : t.build.statement m = .ok pieces) :
    ∃ own, Clause.condition m n = .ok own ∧
      pieces = front ++ .word s.conditionWord :: own ++ clause := by
  have hmem : n ∈ t.build.nodes := by
    rw [Stream.build, h.nodes]
    exact List.mem_append_right _ (List.mem_singleton_self n)
  obtain ⟨own, hown⟩ : ∃ own, Clause.condition m n = .ok own := by
    obtain ⟨_, _, filter, _, -, -, hfilter, -, -⟩ := Query.statement_ok ht
    obtain ⟨inner, hinner, -⟩ := Clause.introduce_inner hfilter
    exact Clause.condition_of_mem h.condition t.build.nodes none inner hinner hmem
  refine ⟨own, hown, ?_⟩
  have hbuild : t.build = { s.build with nodes := t.nodes } := by
    rw [Stream.build, Stream.build, h.entity, h.index]
  have hordering : Clause.ordering m t.nodes = .ok clause := by
    rw [← hclause, Clause.ordering, Clause.ordering, h.orderTerms]
  have hbefore := Query.statement_front hfront hclause
  have hafter := Query.statement_front ht hordering
  obtain rfl : front = s.build.front m := List.append_cancel_right hbefore
  rw [hafter, hbuild, Query.front, Query.front]
  dsimp only [Stream.build]
  rw [h.nodes, joinParts_pushCondition s h.condition, lead_pushCondition hs h.condition hown]
  simp only [writeStatement, List.append_assoc]
  rfl

/-! ### The text with one more ordering -/

/-- The word in front of the next ordering of a stream. -/
def Stream.orderingWord (s : Stream) : String :=
  if (Clause.orderTerms s.nodes).isEmpty then " ORDER BY " else ", "

namespace Clause

variable {m : Mapping}

theorem joins_concat_order (f : ScopedField) (direction : Direction) (position : Nat)
    (nodes : List Node) : joins m (nodes ++ [.orderBy f direction position]) = joins m nodes := by
  induction nodes with
  | nil => rfl
  | cons n rest ih =>
    rw [List.cons_append]
    cases n with
    | join => rw [joins, joins, ih]
    | _ => exact ih

theorem conditions_concat_order (f : ScopedField) (direction : Direction) (position : Nat) :
    ∀ (next : Option Connector) (nodes : List Node),
    conditions m next (nodes ++ [.orderBy f direction position]) = conditions m next nodes
  | _, [] => rfl
  | next, n :: rest => by
    have ih := fun next => conditions_concat_order f direction position next rest
    rw [List.cons_append]
    cases hn : n.isCondition with
    | true => rw [conditions_cons m next hn, conditions_cons m next hn, ih]
    | false =>
      cases n with
      | connector | orderBy | join => exact ih _
      | _ => cases hn

/-- An ordering after others stands behind a comma. -/
theorem orderList_concat {t : OrderTerm} {column : List Piece}
    (hcolumn : field m t.field = .ok column) : ∀ {terms : List OrderTerm} {list : List Piece},
    orderList m terms = .ok list → orderList m (terms ++ [t]) =
      .ok (list ++ ((if terms.isEmpty then [] else [.word ", "]) ++
        (column ++ [.word (" " ++ t.direction.keyword)])))
  | [], list, h => by
    cases h
    rw [List.nil_append, orderList, hcolumn]
    exact congrArg Except.ok (by simp)
  | x :: rest, list, h => by
    obtain ⟨first, others, hfirst, hothers, rfl⟩ := orderList_ok h
    rw [List.cons_append, orderList, hfirst, orderList_concat hcolumn hothers]
    refine congrArg Except.ok ?_
    cases rest with
    | nil => cases hothers; simp
    | cons => simp

end Clause

/-- The orderings of a stream are those before with the new one behind them. -/
theorem Stream.Steady.ordering_pushOrder {s : Stream} (hs : s.Steady) {m : Mapping} {f : ScopedField}
    {column : List Piece} (hcolumn : Clause.field m f = .ok column) (direction : Direction)
    {clause : List Piece} (h : Clause.ordering m s.nodes = .ok clause) :
    Clause.ordering m (s.pushOrder f direction).nodes = .ok (clause ++
      .word s.orderingWord :: (column ++ [.word (" " ++ direction.keyword)])) := by
  obtain ⟨terms, hperm, hsorted, hbound⟩ := hs.ordered
  have hafter : Clause.orderTerms (s.pushOrder f direction).nodes =
      Clause.orderTerms s.nodes ++ [⟨s.orders, f, direction⟩] := by
    rw [orderTerms_eq_flatMap, orderTerms_eq_flatMap]
    exact flatMap_push s _
  have hsorted' : ((terms ++ [(⟨s.orders, f, direction⟩ : Clause.OrderTerm)]).map
      (·.position)).Pairwise (· < ·) := by
    rw [List.map_append, List.pairwise_append]
    refine ⟨hsorted, List.pairwise_singleton _ _, fun i hi j hj => ?_⟩
    obtain ⟨term, hterm, rfl⟩ := List.mem_map.mp hi
    rw [List.mem_singleton.mp hj]
    exact hbound term hterm
  have hword : s.orderingWord = if terms.isEmpty then " ORDER BY " else ", " := by
    rw [orderingWord, hperm.isEmpty_eq]
  rw [Clause.ordering, mergeSort_eq hperm hsorted] at h
  rw [Clause.ordering, hafter, mergeSort_eq (hperm.append_right _) hsorted', hword]
  cases terms with
  | nil =>
    have hlist : Clause.orderList m [] = .ok [] := rfl
    have hlist := Clause.orderList_concat (t := ⟨s.orders, f, direction⟩) hcolumn hlist
    cases h
    exact congrArg (do let list ← ·; return Clause.orderWord :: list) hlist
  | cons x rest =>
    obtain ⟨list, hlist, h⟩ := bind_ok h
    have hlist := Clause.orderList_concat (t := ⟨s.orders, f, direction⟩) hcolumn hlist
    cases h
    exact congrArg (do let list ← ·; return Clause.orderWord :: list) hlist

/-- A statement with one more ordering ends in it. -/
theorem Stream.Steady.statement_pushOrder {s : Stream} (hs : s.Steady) {m : Mapping}
    {f : ScopedField} {column : List Piece} (hcolumn : Clause.field m f = .ok column)
    (direction : Direction) {pieces : List Piece} (h : s.build.statement m = .ok pieces) :
    (s.pushOrder f direction).build.statement m = .ok (pieces ++
      .word s.orderingWord :: (column ++ [.word (" " ++ direction.keyword)])) := by
  obtain ⟨table, joined, filter, ordering, htable, hjoined, hfilter, hordering, rfl⟩ :=
    Query.statement_ok h
  rw [Query.statement_clauses]
  have hcondition : ∀ nodes, hasCondition (nodes ++ [.orderBy f direction s.orders]) =
      hasCondition nodes := fun nodes => by rw [hasCondition_append]; exact Bool.or_false _
  dsimp only [build, pushOrder, push, index] at htable hjoined hfilter hordering ⊢
  have hafter := hs.ordering_pushOrder hcolumn direction hordering
  dsimp only [pushOrder, push] at hafter
  rw [Clause.introduce] at hfilter
  rw [htable, Clause.joins_concat_order, hjoined, Clause.conditions_concat_order, Clause.introduce,
    hcondition, hfilter, hafter]
  exact congrArg Except.ok (by simp [Query.selection, Query.head])

/-! ### One more call -/

theorem Clause.ordering_shape {m : Mapping} {nodes : List Node} {clause : List Piece}
    (h : ordering m nodes = .ok clause) : clause = [] ∨ ∃ list, clause = orderWord :: list := by
  unfold ordering at h
  split at h
  · cases h
    exact .inl rfl
  · obtain ⟨list, -, h⟩ := bind_ok h
    cases h
    exact .inr ⟨list, rfl⟩

/-- A call that leaves an ordering makes that step. -/
theorem Call.run_orderBy {call : Call} {s : Stream} {w : Workspace} {accessor : Accessor}
    {direction : Direction} (hok : (call.run s w).result = .ok ())
    (htrim : call.trim s w = [.orderBy accessor direction]) :
    ∃ reference, Lookup.Marks ⟨s.entity, accessor⟩ reference ∧
      (call.run s w).stream = s.pushOrder (s.bind reference) direction := by
  have hbuilds := (call.run_builds trusted_marks s w trivial fun _ _ => trivial).2 hok [] _ (.nil _)
  rw [htrim] at hbuilds
  generalize (call.run s w).stream = t at hbuilds ⊢
  cases hbuilds with
  | step hstep hrest =>
    cases hrest
    cases hstep with
    | orderBy _ hr => exact ⟨_, hr, rfl⟩

/-- EXTENSION: the text of a stream has its ORDER BY clause, if any, at the end. A further call that
adds one condition, and no join or ordering, puts it before that clause, after WHERE if it is the
first and otherwise after the pending connector; its places are numbered on from the parameters, and
its values come after them. A further ordering by a column of the mapping goes to the end, after
ORDER BY if it is the first and otherwise after a comma, and leaves the parameters alone. This holds
of every stream that calls can be made on, at any depth and after any failures. -/
theorem calls_extend_text {entity : Entity} {s : Stream} (hs : During (.start entity) s) {call : Call}
    {w : Workspace} (hok : (call.run s w).result = .ok ()) {r : Renderer} {rendered : Rendered}
    (hr : r.render s.build = .ok rendered) : ∃ front clause : List Piece,
    rendered.text =
      Piece.spellFrom r.conventions 0 front ++ Piece.spellFrom r.conventions 0 clause ∧
    Clause.orderWord ∉ front ∧ (clause = [] ∨ ∃ list, clause = Clause.orderWord :: list) ∧
    Clause.ordering r.mapping s.nodes = .ok clause ∧
    (call.OnlyCondition s w → ∀ rendered', r.render (call.run s w).stream.build = .ok rendered' →
      ∃ n own, (call.run s w).stream.nodes = (s.pushCondition n).nodes ∧
        n.conditionItems = conditionsOf s.entity (call.trim s w) ∧
        Clause.condition r.mapping n = .ok own ∧
        rendered'.text = Piece.spellFrom r.conventions 0 front ++ (s.conditionWord ++
          Piece.spellFrom r.conventions rendered.parameters.length own) ++
          Piece.spellFrom r.conventions 0 clause ∧
        rendered'.parameters = rendered.parameters ++
          Piece.parametersFrom r.conventions rendered.parameters.length n.bound) ∧
    ∀ (accessor : Accessor) (direction : Direction),
      call.trim s w = [.orderBy accessor direction] →
      ∃ reference, Lookup.Marks ⟨s.entity, accessor⟩ reference ∧
        (call.run s w).stream = s.pushOrder (s.bind reference) direction ∧
        ∀ column, r.mapping.column? reference.descriptor = some column →
          ∃ rendered', r.render (call.run s w).stream.build = .ok rendered' ∧
            rendered'.text = rendered.text ++ (s.orderingWord ++
              (r.conventions.aliasName s.index ++ (r.conventions.separator.toString ++
                (column ++ (" " ++ direction.keyword))))) ∧
            rendered'.parameters = rendered.parameters := by
  have hsteady := hs.steady (Stream.steady_of_empty rfl)
  obtain ⟨pieces, hstatement, rfl⟩ := Renderer.render_ok hr
  obtain ⟨front, clause, rfl, hfront, hclause⟩ := Query.statement_ends hstatement
  have hunbound := Clause.ordering_bindings hclause
  have hcount : (Piece.render r.conventions s.build.page (front ++ clause)).parameters.length =
      (Piece.bindings front).length := by
    simp [Piece.render, hunbound]
  refine ⟨front, clause, ?_, hfront, Clause.ordering_shape hclause, hclause, ?_, ?_⟩
  · rw [Piece.render, Piece.spellFrom_append, Piece.spellFrom_unbound _ _ 0 _ hunbound]
  · intro honly rendered' hr'
    obtain ⟨n, hn, hitems⟩ := honly.addsOne hok
    obtain ⟨pieces, hafter, rfl⟩ := Renderer.render_ok hr'
    obtain ⟨own, hown, rfl⟩ := hn.statement hsteady.chained hstatement hclause hafter
    have hbound := Clause.condition_bindings r.mapping n own hown
    refine ⟨n, own, hn.nodes, hitems, hown, ?_, ?_⟩
    · rw [hcount, Piece.render, Piece.spellFrom_append, Piece.spellFrom_append,
        Piece.spellFrom_unbound _ _ 0 _ hunbound, Nat.zero_add]
      rfl
    · rw [hcount]
      simp [Piece.render, hunbound, hbound, Piece.parametersFrom_append]
  · intro accessor direction htrim
    obtain ⟨reference, hmarks, hrun⟩ := Call.run_orderBy hok htrim
    refine ⟨reference, hmarks, hrun, fun column hcolumn => ?_⟩
    have hfield : Clause.field r.mapping (s.bind reference) =
        .ok [.aliasOf s.index, .separator, .name column] := by
      rw [Clause.field, show (s.bind reference).descriptor = reference.descriptor from rfl, hcolumn]
      rfl
    have hafter := hsteady.statement_pushOrder hfield direction hstatement
    have hrender : r.render (s.pushOrder (s.bind reference) direction).build = .ok _ :=
      congrArg (Except.map (Piece.render r.conventions {})) hafter
    rw [hrun]
    refine ⟨_, hrender, ?_, ?_⟩
    · simp [Piece.render, Piece.spellFrom_append, Piece.spellFrom, String.append_assoc]
    · -- an ordering binds nothing
      rw [Piece.render, Piece.bindings_append (front ++ clause)]
      exact congrArg (Piece.parametersFrom r.conventions 0) (List.append_nil _)

theorem During.runAll {s t : Stream} (h : During s t) (calls : List Call) (w : Workspace) :
    During s (runAll calls t w).stream := by
  induction calls generalizing t w with
  | nil => exact h
  | cons call rest ih =>
    have hcall := h.call call w
    rw [EntityQuery.runAll]
    generalize call.run t w = o at hcall
    rcases o with ⟨_ | _, u, v⟩
    · exact hcall
    · exact ih hcall v

/-- Staff compared and ordered, with a connector asked for. -/
def staffOrdered : Stream :=
  (runAll [.compare reports .eq .null, .orderBy reports .asc, .connect .or] (.start staff)
    untouched).stream

theorem staffOrdered_eq : ∃ r r', staffOrdered = { Stream.start staff with
    nodes := [.predicate ⟨r, 0⟩ .eq (.value .null), .orderBy ⟨r', 0⟩ .asc 0]
    pending := some .or
    filtering := true
    orders := 1 } := by
  obtain ⟨r, w, h⟩ := reports_resolves untouched
  obtain ⟨r', w', h'⟩ := reports_resolves w
  have hcompare : (Call.compare reports .eq .null).run (.start staff) untouched =
      .done ((Stream.start staff).pushCondition (.predicate ⟨r, 0⟩ .eq (.value .null))) w := by
    rw [Call.run, field_bound (s := .start staff) h]
    rfl
  have horder : ∀ s : Stream, s.entity = staff →
      (Call.orderBy reports .asc).run s w = .done (s.pushOrder (s.bind r') .asc) w' := by
    intro s hs
    rw [Call.run, field_bound (hs ▸ h')]
  refine ⟨r, r', ?_⟩
  rw [staffOrdered, runAll_cons_done hcompare, runAll_cons_done (horder _ rfl)]
  rfl

/-- Asks for staff outside of a list. -/
def outsideList : Call := .isIn reports true [.list [.null]]

theorem calls_extend_text_listed : ∃ rendered rendered' last : Rendered,
    During (.start staff) staffOrdered ∧
    Renderer.render ⟨{}, onlyNames⟩ staffOrdered.build = .ok rendered ∧
    (outsideList.run staffOrdered untouched).result = .ok () ∧
    outsideList.OnlyCondition staffOrdered untouched ∧
    Renderer.render ⟨{}, onlyNames⟩ (outsideList.run staffOrdered untouched).stream.build =
      .ok rendered' ∧
    (∃ front own clause : String, rendered.text = front ++ clause ∧
      rendered'.text = front ++ (" OR " ++ own) ++ clause) ∧
    ((Call.orderBy reports .desc).run staffOrdered untouched).result = .ok () ∧
    Renderer.render ⟨{}, onlyNames⟩
      ((Call.orderBy reports .desc).run staffOrdered untouched).stream.build = .ok last ∧
    ∃ entry : String, last.text = rendered.text ++ (", " ++ entry) := by
  obtain ⟨r, r', hstream⟩ := staffOrdered_eq
  have hentity : staffOrdered.entity = staff := by rw [hstream]; rfl
  obtain ⟨r'', w, h⟩ := reports_resolves untouched
  have hfield := field_bound (hentity ▸ h)
  have hduring : During (.start staff) staffOrdered := by
    rw [staffOrdered]
    exact During.here.runAll _ _
  have hrun : outsideList.run staffOrdered untouched = .done (staffOrdered.pushCondition
      (.inList (staffOrdered.bind r'') true [.list [.null]])) w := by
    rw [outsideList, Call.run, hfield]
  have hrun' : (Call.orderBy reports .desc).run staffOrdered untouched =
      .done (staffOrdered.pushOrder (staffOrdered.bind r'') .desc) w := by
    rw [Call.run, hfield]
  have hok := congrArg Outcome.result hrun
  have hok' := congrArg Outcome.result hrun'
  have honly : outsideList.OnlyCondition staffOrdered untouched := ⟨rfl, rfl, rfl⟩
  -- sorting does not reduce by itself
  have hordering : ∀ s : Stream, Clause.orderTerms s.nodes = [⟨0, ⟨r', 0⟩, .asc⟩] →
      Clause.ordering (Renderer.mapping ⟨{}, onlyNames⟩) s.build.nodes =
        .ok [Clause.orderWord, .aliasOf 0, .separator, .name "x", .word " asc"] := by
    intro s hterms
    rw [Clause.ordering, Stream.build, hterms, List.mergeSort_singleton]
    rfl
  have hterms : Clause.orderTerms staffOrdered.nodes = [⟨0, ⟨r', 0⟩, .asc⟩] := by
    rw [hstream]
    simp [Clause.orderTerms]
  obtain ⟨before, hbefore⟩ : ∃ rendered,
      Renderer.render ⟨{}, onlyNames⟩ staffOrdered.build = .ok rendered := by
    rw [Renderer.render_eq, Query.statement_clauses, hordering _ hterms, hstream]
    exact ⟨_, rfl⟩
  obtain ⟨after, hafter⟩ : ∃ rendered, Renderer.render ⟨{}, onlyNames⟩
      (outsideList.run staffOrdered untouched).stream.build = .ok rendered := by
    have hterms' : Clause.orderTerms (outsideList.run staffOrdered untouched).stream.nodes =
        [⟨0, ⟨r', 0⟩, .asc⟩] := by
      rw [hrun, hstream]
      simp [Outcome.done, Stream.pushCondition, Clause.orderTerms, hasCondition, Node.isCondition]
    rw [Renderer.render_eq, Query.statement_clauses, hordering _ hterms', hrun, hstream]
    exact ⟨_, rfl⟩
  obtain ⟨front, clause, htext, -, -, -, hcondition, -⟩ :=
    calls_extend_text hduring hok hbefore
  obtain ⟨n, own, -, -, -, htext', -⟩ := hcondition honly after hafter
  obtain ⟨-, -, -, -, -, -, -, hlast⟩ := calls_extend_text hduring hok' hbefore
  obtain ⟨reference, -, -, hlast⟩ := hlast reports .desc rfl
  obtain ⟨last, hrender, hlast, -⟩ := hlast "x" rfl
  have hword : staffOrdered.conditionWord = " OR " := by rw [hstream]; rfl
  have hword' : staffOrdered.orderingWord = ", " := by rw [Stream.orderingWord, hterms]; rfl
  rw [hword] at htext'
  rw [hword'] at hlast
  exact ⟨before, after, last, hduring, hbefore, hok, honly, hafter, ⟨_, _, _, htext, htext'⟩,
    hok', hrender, _, hlast⟩

end EntityQuery
