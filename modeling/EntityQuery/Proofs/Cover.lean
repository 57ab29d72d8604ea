import EntityQuery.Proofs.Binding

/-!
Covers: nodes with their values covered up. A cover keeps the fields, the comparisons and the number
of leaves of each list, and puts null for every value. Rendering commutes with covering, so what a
text says, and whether there is one, can be read off the covered nodes: two queries with the same
cover have the same text, and no value can change it.

```
nodes   ──render──▶  text, names, kinds, values
  │ cover                │ cover
  ▼                      ▼
nodes′  ──render──▶  text, names, kinds, null …
```
-/

namespace EntityQuery

/-- A right-hand side without its value. -/
def Operand.covered : Operand → Operand
  | .value _ => .value .null
  | x => x

/-- As many nulls as a list has leaves. -/
def coveredValues (values : List Value) : List Value :=
  (Value.leavesOf values).map fun _ => .null

mutual

/-- A node without its values. -/
def Node.covered : Node → Node
  | .predicate f op x => .predicate f op x.covered
  | .connector c => .connector c
  | .bracket nodes => .bracket (coveredNodes nodes)
  | .inList f negated values => .inList f negated (coveredValues values)
  | .orderBy f direction position => .orderBy f direction position
  | .join kind association index nodes => .join kind association index (coveredNodes nodes)
  | .existence negated association index nodes =>
    .existence negated association index (coveredNodes nodes)
  | .inSubquery f negated source index select nodes =>
    .inSubquery f negated source index select (coveredNodes nodes)

/-- Nodes without their values. -/
def coveredNodes : List Node → List Node
  | [] => []
  | node :: rest => node.covered :: coveredNodes rest

end

/-- A binding without its value. -/
def Binding.covered (b : Binding) : Binding := { b with value := .null }

/-- A piece without its value. -/
def Piece.covered : Piece → Piece
  | .slot b => .slot b.covered
  | p => p

/-! ### Covered nodes and pieces -/

theorem Node.isCondition_covered (n : Node) : n.covered.isCondition = n.isCondition := by
  cases n <;> simp [covered, isCondition]

@[simp] theorem hasCondition_covered : ∀ nodes : List Node,
    hasCondition (coveredNodes nodes) = hasCondition nodes
  | [] => by simp [coveredNodes]
  | n :: rest => by
    have ih := hasCondition_covered rest
    rw [hasCondition, hasCondition] at ih
    simp only [coveredNodes, hasCondition, List.any_cons, n.isCondition_covered, ih]

/-- A covered list has the leaves of the list, covered. -/
theorem Value.leavesOf_covered (values : List Value) :
    leavesOf (coveredValues values) = (leavesOf values).map fun _ => .null := by
  unfold coveredValues
  induction leavesOf values with
  | nil => rfl
  | cons v vs ih =>
    change .null :: leavesOf (vs.map fun _ => .null) = _
    rw [ih]
    rfl

@[simp] theorem Piece.covered_word (s : String) : (Piece.word s).covered = .word s := rfl

@[simp] theorem Piece.covered_aliasOf (a : Alias) : (Piece.aliasOf a).covered = .aliasOf a := rfl

/-! ### Rendering commutes with covering -/

namespace Clause

open Piece

theorem orderTerms_covered : ∀ nodes : List Node,
    orderTerms (coveredNodes nodes) = orderTerms nodes
  | [] => by simp [coveredNodes, orderTerms]
  | node :: rest => by
    have ih := orderTerms_covered rest
    cases node with
    | bracket nodes | join _ _ _ nodes =>
      simp only [coveredNodes, Node.covered, orderTerms, ih, orderTerms_covered nodes]
    | _ => simp only [coveredNodes, Node.covered, orderTerms, ih]

theorem unordered_covered (nodes : List Node) :
    unordered (coveredNodes nodes) = unordered nodes := by
  simp only [unordered, orderTerms_covered]

theorem field_covered (m : Mapping) (f : ScopedField) :
    List.map covered <$> field m f = field m f := by
  unfold field
  split <;> rfl

theorem table_covered (m : Mapping) (entity : EntityModel) :
    List.map covered <$> table m entity = table m entity := by
  unfold table
  split <;> rfl

theorem tie_covered (next : Option Connector) : (tie next).map covered = tie next := by
  cases next <;> rfl

/-- A clause that goes on after a covered one covers what it goes on to. -/
theorem bind_covered {x y : Clause} {f g : List Piece → Clause} (hx : x = List.map covered <$> y)
    (hf : ∀ pieces, f (pieces.map covered) = List.map covered <$> g pieces) :
    x >>= f = List.map covered <$> (y >>= g) := by
  rw [hx, bind_map_left, map_bind]
  exact bind_congr hf

/-- A check in front of a clause has nothing to cover. -/
theorem check_covered {x : Except RenderError Unit} {f g : Unit → Clause}
    (hf : ∀ u, f u = List.map covered <$> g u) : x >>= f = List.map covered <$> (x >>= g) := by
  rw [map_bind]
  exact bind_congr hf

theorem operand_covered (m : Mapping) (f : ScopedField) (op : CompareOp) (x : Operand) :
    operand m f op x.covered = List.map covered <$> operand m f op x := by
  cases x with
  | none | value => rfl
  | field g => exact bind_covered (field_covered m g).symm fun _ => rfl

theorem predicate_covered (m : Mapping) (f : ScopedField) (op : CompareOp) (x : Operand) :
    predicate m f op x.covered = List.map covered <$> predicate m f op x := by
  refine bind_covered (field_covered m f).symm fun column => ?_
  refine bind_covered (operand_covered m f op x) fun right => ?_
  simp

theorem members_covered (f : ScopedField) : ∀ vs : List Value,
    members f (vs.map fun _ => .null) = (members f vs).map covered
  | [] => rfl
  | [_] => rfl
  | v :: w :: vs => by
    have ih := members_covered f (w :: vs)
    show slot f false .null :: .word "," :: members f ((w :: vs).map fun _ => .null) = _
    rw [ih]
    rfl

theorem membership_covered (m : Mapping) (f : ScopedField) (negated : Bool) (values : List Value) :
    membership m f negated (coveredValues values) =
      List.map covered <$> membership m f negated values := by
  have hmembers := members_covered f (Value.leavesOf values)
  unfold membership
  rw [Value.leavesOf_covered]
  cases hleaves : Value.leavesOf values with
  | nil => rfl
  | cons v vs =>
    rw [hleaves] at hmembers
    refine bind_covered (field_covered m f).symm fun column => ?_
    simp [memberWord, ← hmembers]

theorem orderList_covered (m : Mapping) : ∀ terms : List OrderTerm,
    orderList m terms = List.map covered <$> orderList m terms
  | [] => rfl
  | t :: rest => by
    refine bind_covered (field_covered m t.field).symm fun column => ?_
    refine bind_covered (orderList_covered m rest) fun others => ?_
    cases rest <;> simp

theorem ordering_covered (m : Mapping) (nodes : List Node) :
    ordering m (coveredNodes nodes) = List.map covered <$> ordering m nodes := by
  unfold ordering
  rw [orderTerms_covered]
  split
  · rfl
  · refine bind_covered (orderList_covered m _) fun list => ?_
    simp

theorem introduce_covered {word : String} {nodes : List Node} {c d : Clause}
    (h : c = List.map covered <$> d) :
    introduce word (coveredNodes nodes) c = List.map covered <$> introduce word nodes d := by
  unfold introduce
  rw [hasCondition_covered, h]
  split
  · cases d <;> rfl
  · rfl

theorem subselect_covered {before : Piece} (hbefore : before.covered = before)
    (select source : List Piece) (index : Alias) (joins conditions : List Piece) :
    subselect before (select.map covered) (source.map covered) index (joins.map covered)
      (conditions.map covered) =
        (subselect before select source index joins conditions).map covered := by
  simp [subselect, hbefore]

mutual

theorem joins_covered (m : Mapping) (nodes : List Node) :
    joins m (coveredNodes nodes) = List.map covered <$> joins m nodes := by
  cases nodes with
  | nil => rfl
  | cons node rest =>
    have ih := joins_covered m rest
    cases node with
    | join kind association index nodes =>
      simp only [coveredNodes, Node.covered, joins]
      refine bind_covered (field_covered m association).symm fun source => ?_
      refine bind_covered (introduce_covered (conditions_covered m none nodes)) fun on => ?_
      refine bind_covered (joins_covered m nodes) fun inner => ?_
      refine bind_covered ih fun others => ?_
      simp
    | _ => simpa only [coveredNodes, Node.covered, joins] using ih

theorem conditions_covered (m : Mapping) (next : Option Connector) (nodes : List Node) :
    conditions m next (coveredNodes nodes) = List.map covered <$> conditions m next nodes := by
  cases nodes with
  | nil => rfl
  | cons node rest =>
    have ih := fun next => conditions_covered m next rest
    cases hc : node.isCondition with
    | true =>
      rw [coveredNodes, conditions_cons m next (by rw [node.isCondition_covered, hc]),
        conditions_cons m next hc]
      refine bind_covered (condition_covered m node) fun first => ?_
      refine bind_covered (ih (some .and)) fun others => ?_
      simp [tie_covered]
    | false =>
      cases node with
      | connector | join | orderBy => simpa only [coveredNodes, Node.covered, conditions] using ih _
      | _ => cases hc

theorem condition_covered (m : Mapping) : ∀ node : Node,
    condition m node.covered = List.map covered <$> condition m node
  | .predicate f op x => by simpa only [Node.covered, condition] using predicate_covered m f op x
  | .inList f negated values => by
    simpa only [Node.covered, condition] using membership_covered m f negated values
  | .bracket nodes => by
    simp only [Node.covered, condition]
    refine bind_covered (conditions_covered m none nodes) fun inner => ?_
    simp
  | .existence negated association index nodes => by
    simp only [Node.covered, condition, unordered_covered]
    refine check_covered fun _ => ?_
    refine bind_covered (field_covered m association).symm fun source => ?_
    refine bind_covered (joins_covered m nodes) fun joined => ?_
    refine bind_covered (introduce_covered (conditions_covered m none nodes)) fun filter => ?_
    exact congrArg pure (subselect_covered rfl [.aliasOf index] source index joined filter)
  | .inSubquery f negated source index select nodes => by
    simp only [Node.covered, condition, unordered_covered]
    refine bind_covered (field_covered m f).symm fun column => ?_
    refine check_covered fun _ => ?_
    refine bind_covered (field_covered m select).symm fun selected => ?_
    refine bind_covered (table_covered m source).symm fun table => ?_
    refine bind_covered (joins_covered m nodes) fun joined => ?_
    refine bind_covered (introduce_covered (conditions_covered m none nodes)) fun filter => ?_
    rw [map_pure, List.map_append, ← subselect_covered rfl]
  | .connector _ | .orderBy .. | .join .. => rfl

end

end Clause

/-- A query over other nodes. -/
def Query.over (q : Query) (nodes : List Node) : Query := { q with nodes }

theorem Query.statement_covered (m : Mapping) (q : Query) (nodes : List Node) :
    (q.over (coveredNodes nodes)).statement m =
      List.map Piece.covered <$> (q.over nodes).statement m := by
  have hselection : q.selection.map Piece.covered = q.selection := by
    unfold selection Head.selection
    split <;> rfl
  have hover : ∀ ns, (q.over ns).selection = q.selection := fun _ => rfl
  rw [statement_clauses, statement_clauses, hover, hover]
  refine Clause.bind_covered (Clause.table_covered m q.entity.model).symm fun table => ?_
  refine Clause.bind_covered (Clause.joins_covered m nodes) fun joined => ?_
  refine Clause.bind_covered (Clause.introduce_covered (Clause.conditions_covered m none nodes))
    fun filter => ?_
  refine Clause.bind_covered (Clause.ordering_covered m nodes) fun ordering => ?_
  simp [hselection, Query.over]

/-! ### What a text shows -/

namespace Piece

theorem spellFrom_covered (c : Conventions) : ∀ (pieces : List Piece) (i : Nat),
    spellFrom c i (pieces.map covered) = spellFrom c i pieces
  | [], _ => rfl
  | p :: rest, i => by
    cases p <;> simp only [List.map_cons, covered, spellFrom, spellFrom_covered c rest]

theorem bindings_covered : ∀ pieces : List Piece,
    bindings (pieces.map covered) = (bindings pieces).map Binding.covered
  | [] => rfl
  | .slot b :: rest => congrArg (b.covered :: ·) (bindings_covered rest)
  | .word _ :: rest | .name _ :: rest | .aliasOf _ :: rest | .separator :: rest =>
    bindings_covered rest

/-- Names and kinds of parameters are left by a cover. -/
theorem parametersFrom_covered (c : Conventions) : ∀ (bs : List Binding) (i : Nat),
    (parametersFrom c i (bs.map Binding.covered)).map (fun p => (p.name, p.temporal)) =
      (parametersFrom c i bs).map fun p => (p.name, p.temporal)
  | [], _ => rfl
  | _ :: bs, i => congrArg (_ :: ·) (parametersFrom_covered c bs (i + 1))

/-- Pieces with one cover have one text, and parameters with the same names and kinds. -/
theorem render_eq_of_covered {xs ys : List Piece} (h : xs.map covered = ys.map covered)
    (c : Conventions) (page : Page) :
    (render c page xs).text = (render c page ys).text ∧
      (render c page xs).parameters.map (fun p => (p.name, p.temporal)) =
        (render c page ys).parameters.map fun p => (p.name, p.temporal) := by
  constructor
  · show spellFrom c 0 xs = spellFrom c 0 ys
    rw [← spellFrom_covered, h, spellFrom_covered]
  · show (parametersFrom c 0 (bindings xs)).map _ = (parametersFrom c 0 (bindings ys)).map _
    rw [← parametersFrom_covered, ← bindings_covered, h, bindings_covered, parametersFrom_covered]

end Piece

/-- COVER: of two queries over nodes with the same cover, under the same conventions and mapping,
either both fail with the same error, or both are rendered with the same text and with parameters of
the same names and temporal kinds. -/
theorem values_never_reach_text {ns ms : List Node} (h : coveredNodes ns = coveredNodes ms)
    (r : Renderer) (q : Query) :
    (∃ e, r.render (q.over ns) = .error e ∧ r.render (q.over ms) = .error e) ∨
    ∃ a b, r.render (q.over ns) = .ok a ∧ r.render (q.over ms) = .ok b ∧ a.text = b.text ∧
      a.parameters.map (·.name) = b.parameters.map (·.name) ∧
      a.parameters.map (·.temporal) = b.parameters.map (·.temporal) := by
  have hstatement := q.statement_covered r.mapping ns
  rw [h, q.statement_covered r.mapping ms] at hstatement
  simp only [Renderer.render_eq]
  cases hns : (q.over ns).statement r.mapping with
  | error e =>
    cases hms : (q.over ms).statement r.mapping with
    | error e' =>
      rw [hns, hms] at hstatement
      obtain rfl : e' = e := Except.error.inj hstatement
      exact .inl ⟨e', rfl, rfl⟩
    | ok ys => rw [hns, hms] at hstatement; cases hstatement
  | ok xs =>
    cases hms : (q.over ms).statement r.mapping with
    | error e' => rw [hns, hms] at hstatement; cases hstatement
    | ok ys =>
      rw [hns, hms] at hstatement
      have hcovered : xs.map Piece.covered = ys.map Piece.covered :=
        (Except.ok.inj hstatement).symm
      obtain ⟨htext, hparameters⟩ := Piece.render_eq_of_covered hcovered r.conventions q.page
      have hnames := congrArg (List.map Prod.fst) hparameters
      have hkinds := congrArg (List.map Prod.snd) hparameters
      rw [List.map_map, List.map_map] at hnames hkinds
      exact .inr ⟨_, _, rfl, rfl, htext, hnames, hkinds⟩

/-- A membership test of staff. -/
def listed (values : List Value) : List Node := [.inList (reportsOf 0) false values]

/-- A text that would close the list and go on stays out of the text. -/
theorem values_never_reach_text_listed :
    coveredNodes (listed [.text ") OR 1 = 1 --", .list [.null]]) =
        coveredNodes (listed [.bool true, .text ""]) ∧
      ∃ a b,
        Renderer.render {} (shuffled.over (listed [.text ") OR 1 = 1 --", .list [.null]])) = .ok a ∧
        Renderer.render {} (shuffled.over (listed [.bool true, .text ""])) = .ok b ∧
        a.text = b.text := by
  have h : coveredNodes (listed [.text ") OR 1 = 1 --", .list [.null]]) =
      coveredNodes (listed [.bool true, .text ""]) := rfl
  refine ⟨h, ?_⟩
  rcases values_never_reach_text h {} shuffled with ⟨e, he, -⟩ | ⟨a, b, ha, hb, htext, -, -⟩
  · have hordering : ∀ values, Clause.ordering .ofModels (listed values) = .ok [] := fun _ =>
      Clause.ordering_eq_nil _ (by simp [listed, Clause.orderTerms])
    rw [Renderer.render_eq, Query.statement_clauses, Query.over, hordering] at he
    cases he
  · exact ⟨a, b, ha, hb, htext⟩

end EntityQuery
