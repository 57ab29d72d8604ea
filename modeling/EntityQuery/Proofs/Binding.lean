import EntityQuery.Proofs.Layout
import EntityQuery.Proofs.Lookup

/-!
Binding: which values a query text leaves places for, and in which order. Places are numbered as the
text is spelled, from left to right, and every clause writes the places of what stands in it. So the
order of the parameters can be read off the nodes: the joins of a statement come first, each with the
values after its ON and then those of the joins inside it, and then the conditions. A subquery is a
statement of its own at the place where it stands.

```
nodes:  a = 1 · join x [b = 2, join y [c = 3]] · exists z [d in (4, (5, 6))]
text:   … JOIN x ON b = :p0 JOIN y ON c = :p1 WHERE a = :p2 AND EXISTS (… d in (:p3,:p4,:p5))
```
-/

namespace EntityQuery

/-! ### Placeholders -/

namespace Piece

/-- The placeholders among the tokens are the marked names of the parameters. -/
theorem placeholders_eq (c : Conventions) : ∀ (pieces : List Piece) (i : Nat),
    ((tokensFrom c i pieces).filter Token.isPlaceholder).map (·.text) =
      (parametersFrom c i (bindings pieces)).map (c.parameterMark ++ ·.name)
  | [], _ => rfl
  | p :: rest, i => by
    have ih := placeholders_eq c rest
    cases p with
    | slot b =>
      show c.placeholder i :: _ = c.placeholder i :: _
      exact congrArg _ (ih (i + 1))
    | _ => exact ih i

theorem parametersFrom_eq_map (c : Conventions) : ∀ (bs : List Binding) (i : Nat),
    (parametersFrom c i bs).map (fun p => (p.value, p.temporal)) =
      bs.map fun b => (b.spell c, b.temporal)
  | [], _ => rfl
  | b :: bs, i => by rw [parametersFrom, List.map_cons, List.map_cons, parametersFrom_eq_map c bs]

end Piece

/-- Different parameters have different names. -/
theorem Conventions.parameterName_inj {c : Conventions} {i j : Nat}
    (h : c.parameterName i = c.parameterName j) : i = j := numbered_inj c.parameterStem h

/-- A name leads to the parameter that has it: no other one has. -/
theorem Rendered.parameter?_eq_some_iff {r : Rendered} {c : Conventions}
    (h : ∀ i p, r.parameters[i]? = some p → p.name = c.parameterName i) {name : String}
    {p : Parameter} : r.parameter? name = some p ↔
      ∃ i, r.parameters[i]? = some p ∧ name = c.parameterName i := by
  rw [parameter?, List.find?_eq_some_iff_getElem]
  constructor
  · rintro ⟨hname, i, hi, hp, -⟩
    have hget : r.parameters[i]? = some p := by rw [List.getElem?_eq_getElem hi, hp]
    refine ⟨i, hget, ?_⟩
    rw [← h i p hget]
    exact (beq_iff_eq.mp hname).symm
  · rintro ⟨i, hget, rfl⟩
    obtain ⟨hi, hp⟩ := List.getElem?_eq_some_iff.mp hget
    refine ⟨beq_iff_eq.mpr (h i p hget), i, hi, hp, fun j hj => ?_⟩
    have hother := h j _ (List.getElem?_eq_getElem (Nat.lt_trans hj hi))
    rw [hother]
    simpa using fun heq => Nat.ne_of_lt hj (c.parameterName_inj heq)

/-! ### What clauses leave places for -/

mutual

/-- What a condition leaves places for. -/
def Node.bound : Node → List Binding
  | .predicate f op (.value v) => [⟨v, f.descriptor.temporal, op = .like ∨ op = .notLike⟩]
  | .predicate _ _ .none | .predicate _ _ (.field _) => []
  | .bracket nodes => boundByConditions nodes
  | .inList f _ values => (Value.leavesOf values).map fun v => ⟨v, f.descriptor.temporal, false⟩
  | .existence _ _ _ nodes | .inSubquery _ _ _ _ _ nodes =>
    boundByJoins nodes ++ boundByConditions nodes
  | .connector _ | .orderBy .. | .join .. => []

/-- What the joins of a scope leave places for: each for its own conditions, then for the joins
inside it. -/
def boundByJoins : List Node → List Binding
  | [] => []
  | .join _ _ _ nodes :: rest => boundByConditions nodes ++ boundByJoins nodes ++ boundByJoins rest
  | _ :: rest => boundByJoins rest

/-- What the conditions of a scope leave places for. -/
def boundByConditions : List Node → List Binding
  | [] => []
  | node :: rest => node.bound ++ boundByConditions rest

end

/-- What a query leaves places for, in the order of its text. -/
def Query.bound (q : Query) : List Binding := boundByJoins q.nodes ++ boundByConditions q.nodes

namespace Piece

@[simp] theorem bindings_append (xs ys : List Piece) :
    bindings (xs ++ ys) = bindings xs ++ bindings ys := List.filterMap_append

theorem bindings_cons_of_none {p : Piece} (h : p.binding? = none) (ps : List Piece) :
    bindings (p :: ps) = bindings ps := List.filterMap_cons_none h

@[simp] theorem bindings_slot (b : Binding) (ps : List Piece) :
    bindings (.slot b :: ps) = b :: bindings ps := rfl

@[simp] theorem bindings_word (s : String) (ps : List Piece) :
    bindings (.word s :: ps) = bindings ps := rfl

@[simp] theorem bindings_aliasOf (a : Alias) (ps : List Piece) :
    bindings (.aliasOf a :: ps) = bindings ps := rfl

@[simp] theorem bindings_nil : bindings [] = [] := rfl

/-- What stands after some pieces is numbered on from the places in them. -/
theorem spellFrom_append (c : Conventions) (ys : List Piece) : ∀ (xs : List Piece) (i : Nat),
    spellFrom c i (xs ++ ys) = spellFrom c i xs ++ spellFrom c (i + (bindings xs).length) ys
  | [], i => by simp [spellFrom]
  | p :: xs, i => by
    have ih := spellFrom_append c ys xs
    rw [List.cons_append]
    cases p with
    | slot b =>
      rw [spellFrom, spellFrom, ih, bindings_slot, List.length_cons, Nat.add_right_comm,
        String.append_assoc, Nat.add_assoc]
    | _ => rw [spellFrom, spellFrom, ih, String.append_assoc]; rfl

/-- Where nothing is bound, no number is seen. -/
theorem spellFrom_unbound (c : Conventions) (i j : Nat) : ∀ xs : List Piece, bindings xs = [] →
    spellFrom c i xs = spellFrom c j xs
  | [], _ => rfl
  | .slot b :: xs, h => by simp at h
  | .word _ :: xs, h | .name _ :: xs, h | .aliasOf _ :: xs, h | .separator :: xs, h =>
    congrArg (_ ++ ·) (spellFrom_unbound c i j xs h)

theorem parametersFrom_append (c : Conventions) (bs' : List Binding) : ∀ (bs : List Binding) (i : Nat),
    parametersFrom c i (bs ++ bs') =
      parametersFrom c i bs ++ parametersFrom c (i + bs.length) bs'
  | [], _ => rfl
  | b :: bs, i => by
    rw [List.cons_append, parametersFrom, parametersFrom, parametersFrom_append c bs' bs (i + 1),
      List.length_cons, Nat.add_right_comm, Nat.add_assoc]
    rfl

@[simp] theorem parametersFrom_length (c : Conventions) : ∀ (bs : List Binding) (i : Nat),
    (parametersFrom c i bs).length = bs.length
  | [], _ => rfl
  | _ :: bs, i => congrArg (· + 1) (parametersFrom_length c bs (i + 1))

end Piece

namespace Clause

open Piece

theorem table_bindings {m : Mapping} {entity : EntityModel} {pieces : List Piece}
    (h : table m entity = .ok pieces) : bindings pieces = [] := by
  unfold table at h
  split at h <;> cases h
  rfl

theorem field_bindings {m : Mapping} {f : ScopedField} {pieces : List Piece}
    (h : field m f = .ok pieces) : bindings pieces = [] := by
  unfold field at h
  split at h <;> cases h
  rfl

@[simp] theorem tie_bindings (next : Option Connector) : bindings (tie next) = [] := by
  cases next <;> rfl

@[simp] theorem memberWord_bindings (negated : Bool) (ps : List Piece) :
    bindings (memberWord negated :: ps) = bindings ps := rfl

theorem members_bindings (f : ScopedField) : ∀ vs : List Value,
    bindings (members f vs) = vs.map fun v => ⟨v, f.descriptor.temporal, false⟩
  | [] => rfl
  | [_] => rfl
  | v :: w :: vs => by
    show _ :: bindings (members f (w :: vs)) = _
    rw [members_bindings f (w :: vs)]
    rfl

theorem operand_bindings {m : Mapping} {f : ScopedField} {op : CompareOp} {x : Operand}
    {pieces : List Piece} (h : operand m f op x = .ok pieces) :
    bindings pieces = (Node.predicate f op x).bound := by
  cases x with
  | none => cases h; rfl
  | value v => cases h; cases op <;> rfl
  | field g =>
    obtain ⟨column, hcolumn, h⟩ := bind_ok h
    have hnone := field_bindings hcolumn
    cases h
    exact hnone

theorem predicate_bindings {m : Mapping} {f : ScopedField} {op : CompareOp} {x : Operand}
    {pieces : List Piece} (h : predicate m f op x = .ok pieces) :
    bindings pieces = (Node.predicate f op x).bound := by
  obtain ⟨column, right, hcolumn, hright, rfl⟩ := predicate_ok h
  have hnone := field_bindings hcolumn
  have hsome := operand_bindings hright
  simp [hnone, hsome]

theorem membership_bindings {m : Mapping} {f : ScopedField} {negated : Bool} {values : List Value}
    {pieces : List Piece} (h : membership m f negated values = .ok pieces) :
    bindings pieces = (Node.inList f negated values).bound := by
  rw [Node.bound]
  obtain ⟨hleaves, rfl⟩ | ⟨v, vs, column, hleaves, hcolumn, rfl⟩ := membership_ok h
  · rw [hleaves]
    rfl
  · have hnone := field_bindings hcolumn
    simp [hleaves, hnone, members_bindings]

theorem boundByConditions_eq_nil : ∀ {nodes : List Node}, hasCondition nodes = false →
    boundByConditions nodes = []
  | [], _ => rfl
  | n :: rest, h => by
    rw [hasCondition, List.any_cons, Bool.or_eq_false_iff] at h
    have ih : boundByConditions rest = [] := boundByConditions_eq_nil h.2
    cases n with
    | connector | orderBy | join => exact ih
    | _ => cases h.1

/-- An optional clause leaves the places of its conditions: without a condition there are none. -/
theorem introduce_bindings {word : String} {nodes : List Node} {c : Clause} {pieces : List Piece}
    (hc : ∀ inner, c = .ok inner → bindings inner = boundByConditions nodes)
    (h : introduce word nodes c = .ok pieces) : bindings pieces = boundByConditions nodes := by
  unfold introduce at h
  cases hcond : hasCondition nodes with
  | false => rw [hcond] at h; cases h; exact (boundByConditions_eq_nil hcond).symm
  | true =>
    rw [hcond] at h
    cases c with
    | error e => cases h
    | ok inner => rw [← hc inner rfl]; cases h; rfl

theorem subselect_bindings {before : Piece} (hbefore : before.binding? = none)
    {select source joins conditions : List Piece} (hselect : bindings select = [])
    (hsource : bindings source = []) (index : Alias) :
    bindings (subselect before select source index joins conditions) =
      bindings joins ++ bindings conditions := by
  simp only [subselect, List.cons_append, bindings_cons_of_none hbefore]
  simp [hselect, hsource]

mutual

theorem joins_bindings (m : Mapping) : ∀ (nodes : List Node) (pieces : List Piece),
    joins m nodes = .ok pieces → bindings pieces = boundByJoins nodes
  | [], pieces, h => by cases h; rfl
  | n :: rest, pieces, h => by
    cases n with
    | join kind association index nodes =>
      obtain ⟨source, on, inner, others, hsource, hon, hinner, hothers, rfl⟩ := joins_ok h
      have hsource := field_bindings hsource
      have hon := introduce_bindings (conditions_bindings m none nodes) hon
      rw [boundByJoins, ← hon, ← joins_bindings m nodes inner hinner,
        ← joins_bindings m rest others hothers]
      simp [hsource]
    | _ => exact joins_bindings m rest pieces h

theorem conditions_bindings (m : Mapping) : ∀ (next : Option Connector) (nodes : List Node)
    (pieces : List Piece), conditions m next nodes = .ok pieces →
    bindings pieces = boundByConditions nodes
  | _, [], pieces, h => by cases h; rfl
  | next, n :: rest, pieces, h => by
    cases hn : n.isCondition with
    | true =>
      obtain ⟨first, others, hfirst, hothers, rfl⟩ := conditions_ok hn h
      rw [boundByConditions, ← condition_bindings m n first hfirst,
        ← conditions_bindings m (some .and) rest others hothers]
      simp
    | false =>
      cases n with
      | connector c => exact conditions_bindings m _ rest pieces h
      | join | orderBy => exact conditions_bindings m next rest pieces h
      | _ => cases hn

theorem condition_bindings (m : Mapping) : ∀ (n : Node) (pieces : List Piece),
    condition m n = .ok pieces → bindings pieces = n.bound
  | .predicate f op x, pieces, h => predicate_bindings h
  | .inList f negated values, pieces, h => membership_bindings h
  | .bracket nodes, pieces, h => by
    obtain ⟨inner, hinner, rfl⟩ := bracket_ok h
    rw [Node.bound, ← conditions_bindings m none nodes inner hinner]
    simp
  | .existence negated association index nodes, pieces, h => by
    obtain ⟨source, joined, filter, hsource, hjoined, hfilter, rfl⟩ := existence_ok h
    have hsource := field_bindings hsource
    have hfilter := introduce_bindings (conditions_bindings m none nodes) hfilter
    rw [Node.bound, ← hfilter, ← joins_bindings m nodes joined hjoined]
    exact subselect_bindings rfl rfl hsource index
  | .inSubquery f negated source index select nodes, pieces, h => by
    obtain ⟨column, selected, table, joined, filter, hcolumn, hselected, htable, hjoined, hfilter,
      rfl⟩ := inSubquery_ok h
    have hcolumn := field_bindings hcolumn
    have hselected := field_bindings hselected
    have htable := table_bindings htable
    have hfilter := introduce_bindings (conditions_bindings m none nodes) hfilter
    rw [Node.bound, ← hfilter, ← joins_bindings m nodes joined hjoined]
    rw [bindings_append, hcolumn, List.nil_append]
    exact subselect_bindings rfl hselected htable index
  | .connector _, pieces, h | .orderBy .., pieces, h | .join .., pieces, h => by cases h; rfl

end

theorem orderList_bindings (m : Mapping) : ∀ (terms : List OrderTerm) (pieces : List Piece),
    orderList m terms = .ok pieces → bindings pieces = []
  | [], pieces, h => by cases h; rfl
  | t :: rest, pieces, h => by
    obtain ⟨column, others, hcolumn, hothers, rfl⟩ := orderList_ok h
    have hcolumn := field_bindings hcolumn
    have hnone := orderList_bindings m rest others hothers
    split <;> simp [hcolumn, hnone]

theorem ordering_bindings {m : Mapping} {nodes : List Node} {pieces : List Piece}
    (h : ordering m nodes = .ok pieces) : bindings pieces = [] := by
  unfold ordering at h
  split at h
  · cases h; rfl
  · obtain ⟨list, hlist, h⟩ := bind_ok h
    have hlist := orderList_bindings m _ list hlist
    cases h
    exact hlist

end Clause

/-- A statement leaves places for what its joins bind, and then for what its conditions bind. -/
theorem Query.statement_bindings {m : Mapping} {q : Query} {pieces : List Piece}
    (h : q.statement m = .ok pieces) : Piece.bindings pieces = q.bound := by
  obtain ⟨table, joined, filter, ordering, htable, hjoined, hfilter, hordering, rfl⟩ := statement_ok h
  have htable := Clause.table_bindings htable
  have hfilter := Clause.introduce_bindings (Clause.conditions_bindings m none q.nodes) hfilter
  have hordering := Clause.ordering_bindings hordering
  have hselection : Piece.bindings q.selection = [] := by
    unfold selection Head.selection
    split <;> rfl
  rw [bound, ← hfilter, ← Clause.joins_bindings m q.nodes joined hjoined]
  simp [htable, hordering, hselection]

/-- BINDING: the placeholders in the text of a query, from left to right, are the marked names of the
parameters, and the name of a parameter is the stem with its number. The parameters carry what the
nodes bind in the order of the text, with the temporal kind of the field compared with, a pattern
between wildcards. A name leads to the parameter at its number, and to nothing if there is none. -/
theorem parameters_in_text_order {r : Renderer} {q : Query} {rendered : Rendered}
    (h : r.render q = .ok rendered) :
    (∃ pieces, q.statement r.mapping = .ok pieces ∧
      rendered.text =
        String.join ((Piece.tokensFrom r.conventions 0 pieces).map (·.text)) ∧
      ((Piece.tokensFrom r.conventions 0 pieces).filter Token.isPlaceholder).map (·.text) =
        rendered.parameters.map (r.conventions.parameterMark ++ ·.name)) ∧
    (∀ (i : Nat) (p : Parameter), rendered.parameters[i]? = some p →
      p.name = r.conventions.parameterStem ++ toString i) ∧
    rendered.parameters.map (fun p => (p.value, p.temporal)) =
      q.bound.map (fun b => (b.spell r.conventions, b.temporal)) ∧
    ∀ (name : String) (p : Parameter), rendered.parameter? name = some p ↔
      ∃ i : Nat, rendered.parameters[i]? = some p ∧ name = r.conventions.parameterStem ++ toString i := by
  rw [Renderer.render_eq] at h
  cases hstatement : q.statement r.mapping with
  | error e => rw [hstatement] at h; cases h
  | ok pieces =>
    rw [hstatement] at h
    obtain rfl : Piece.render r.conventions q.page pieces = rendered := Except.ok.inj h
    have hnames : ∀ i p, (Piece.render r.conventions q.page pieces).parameters[i]? = some p →
        p.name = r.conventions.parameterName i := by
      intro i p hp
      rw [Piece.render, Piece.parametersFrom_getElem?] at hp
      obtain ⟨b, -, rfl⟩ := Option.map_eq_some_iff.mp hp
      rw [Nat.zero_add]
    refine ⟨⟨pieces, rfl, ?_, ?_⟩, hnames, ?_, fun _ _ => Rendered.parameter?_eq_some_iff hnames⟩
    · exact Piece.spellFrom_eq_join r.conventions pieces 0
    · exact Piece.placeholders_eq r.conventions pieces 0
    · rw [← Query.statement_bindings hstatement]
      exact Piece.parametersFrom_eq_map r.conventions _ 0

/-- A query on staff whose nodes are in another order than its text. -/
def shuffled : Query where
  entity := staff
  root := 0
  nodes := [
    .predicate (reportsOf 0) .like (.value (.text "a")),
    .join .left (reportsOf 0) 1 [
      .join .inner (reportsOf 1) 2 [.predicate (reportsOf 2) .eq (.value (.bool false))],
      .predicate (reportsOf 1) .eq (.value (.bool true))],
    .inList (reportsOf 0) true [.null, .list [.list [], .list [.text "b"]]]]

theorem parameters_in_text_order_shuffled :
    ∃ rendered, Renderer.render {} shuffled = .ok rendered ∧
      rendered.parameters.map (·.value) =
        [.bool true, .bool false, .text "%a%", .null, .text "b"] ∧
      rendered.parameter? "p2" = rendered.parameters[2]? := by
  have hordering : Clause.ordering .ofModels shuffled.nodes = .ok [] :=
    Clause.ordering_eq_nil _ (by simp [shuffled, Clause.orderTerms])
  have hrender : ∃ rendered, Renderer.render {} shuffled = .ok rendered := by
    rw [Renderer.render_eq, Query.statement_clauses, hordering]
    exact ⟨_, rfl⟩
  obtain ⟨rendered, h⟩ := hrender
  obtain ⟨-, -, hvalues, hlookup⟩ := parameters_in_text_order h
  have hvalues : rendered.parameters.map (·.value) =
      [.bool true, .bool false, .text "%a%", .null, .text "b"] := by
    have hfst := congrArg (List.map Prod.fst) hvalues
    rw [List.map_map] at hfst
    exact hfst
  have hlength : rendered.parameters.length = 5 := by
    simpa using congrArg List.length hvalues
  refine ⟨rendered, h, hvalues, ?_⟩
  have hget := List.getElem?_eq_getElem (l := rendered.parameters) (i := 2) (by omega)
  rw [hget]
  exact (hlookup "p2" _).mpr ⟨2, hget, by decide⟩

end EntityQuery
