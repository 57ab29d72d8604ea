import EntityQuery.Statement.Renderer

/-!
Layouts: what a statement is made of. A layout lists the joins of a statement, those inside other
joins too, and its conditions, each with what ties it to the one before. It is taken from the nodes
without looking up a name, and a rendering that succeeds is the layout written down: each part as
its words and names, and each of these spelled as the conventions say.

```
nodes:   a · join x [b, join y [c]] · (d)
layout:  joins       x ON b, y ON c
         conditions  a AND (d)
```
-/

namespace EntityQuery

/-! ### Parts -/

/-- A part of a statement. -/
inductive Part where
  /-- A comparison or a membership. -/
  | leaf (next : Option Connector) (node : Node)
  | group (next : Option Connector) (conditions : List Part)
  | existence (next : Option Connector) (negated : Bool) (association : ScopedField)
      (index : Alias) (joins conditions : List Part)
  | inSubquery (next : Option Connector) (field : ScopedField) (negated : Bool)
      (source : EntityModel) (index : Alias) (select : ScopedField) (joins conditions : List Part)
  | join (kind : JoinKind) (association : ScopedField) (index : Alias) (conditions : List Part)

mutual

/-- The condition that a node is, given what ties it to those before. -/
def Node.conditionParts (next : Option Connector) : Node → List Part
  | .bracket nodes => [.group next (conditionParts none nodes)]
  | .existence negated association index nodes =>
    [.existence next negated association index (joinParts nodes) (conditionParts none nodes)]
  | .inSubquery f negated source index select nodes =>
    [.inSubquery next f negated source index select (joinParts nodes) (conditionParts none nodes)]
  | .predicate f op x => [.leaf next (.predicate f op x)]
  | .inList f negated values => [.leaf next (.inList f negated values)]
  | .connector _ | .orderBy .. | .join .. => []

/-- The joins of a scope, each followed by the joins inside it. -/
def joinParts : List Node → List Part
  | [] => []
  | .join kind association index nodes :: rest =>
    .join kind association index (conditionParts none nodes) :: joinParts nodes ++ joinParts rest
  | _ :: rest => joinParts rest

/-- The conditions of a scope, given what ties the next one to those before. -/
def conditionParts (next : Option Connector) : List Node → List Part
  | [] => []
  | .connector c :: rest => conditionParts (next.map fun _ => c) rest
  | .join .. :: rest => conditionParts next rest
  | .orderBy .. :: rest => conditionParts next rest
  | node :: rest => node.conditionParts next ++ conditionParts (some .and) rest

end

/-! ### Writing -/

/-- A column of an instance, if there is one. -/
def ScopedField.write (m : Mapping) (f : ScopedField) : List Piece :=
  match m.column? f.descriptor with
  | some column => [.aliasOf f.owner, .separator, .name column]
  | none => []

/-- The table of an entity, if there is one. -/
def EntityModel.write (m : Mapping) (entity : EntityModel) : List Piece :=
  match m.table? entity with
  | some table => [.name table]
  | none => []

/-- What stands between a condition and the one before it. Nothing stands before the first one. -/
def tieWords : Option Connector → List Piece
  | none => []
  | some .and => [.word " AND "]
  | some .or => [.word " OR "]

/-- What a join begins with. -/
def JoinKind.word : JoinKind → Piece
  | .inner => .word " JOIN "
  | .left => .word " LEFT JOIN "
  | .fetch => .word " JOIN FETCH "
  | .leftFetch => .word " LEFT JOIN FETCH "

/-- The place of a value that is compared with a field. -/
def ScopedField.place (f : ScopedField) (pattern : Bool) (v : Value) : Piece :=
  .slot ⟨v, f.descriptor.temporal, pattern⟩

/-- What a comparison has on its right, if anything. -/
def Operand.write (m : Mapping) (f : ScopedField) (op : CompareOp) : Operand → List Piece
  | .none => []
  | .value v => [.word " ", f.place (op = .like ∨ op = .notLike) v]
  | .field g => .word " " :: g.write m

/-- A comparison or a membership. -/
def Node.writeLeaf (m : Mapping) : Node → List Piece
  | .predicate f op x => f.write m ++ .word (" " ++ op.token) :: x.write m f op
  | .inList f negated values =>
    match Value.leavesOf values with
    | [] => [.word (if negated then "1 = 1" else "1 = 0")]
    | leaves => f.write m ++ .word (if negated then " not in (" else " in (") ::
        [.word ","].intercalate (leaves.map fun v => [f.place false v]) ++ [.word ")"]
  | _ => []

/-- A word before conditions, if there are any. -/
def lead (word : String) (conditions : List Part) (pieces : List Piece) : List Piece :=
  if conditions.isEmpty then [] else .word word :: pieces

/-- A statement without its orderings. -/
def writeStatement (select source : List Piece) (index : Alias) (joins filter : List Piece) :
    List Piece :=
  .word "SELECT " :: select ++ .word " FROM " :: source ++ [.word " ", .aliasOf index] ++ joins ++
    filter

mutual

/-- A part as it stands in the text. -/
def Part.write (m : Mapping) : Part → List Piece
  | .leaf next node => tieWords next ++ node.writeLeaf m
  | .group next conditions =>
    tieWords next ++ (.word "(" :: writeAll m conditions ++ [.word ")"])
  | .existence next negated association index joins conditions =>
    tieWords next ++ (.word (if negated then "NOT EXISTS (" else "EXISTS (") ::
      writeStatement [.aliasOf index] (association.write m) index (writeAll m joins)
        (lead " WHERE " conditions (writeAll m conditions)) ++ [.word ")"])
  | .inSubquery next f negated source index select joins conditions =>
    tieWords next ++ (f.write m ++ .word (if negated then " not in (" else " in (") ::
      writeStatement (select.write m) (source.write m) index (writeAll m joins)
        (lead " WHERE " conditions (writeAll m conditions)) ++ [.word ")"])
  | .join kind association index conditions =>
    kind.word :: association.write m ++ [.word " ", .aliasOf index] ++
      lead " ON " conditions (writeAll m conditions)

/-- Parts one after the other. -/
def writeAll (m : Mapping) : List Part → List Piece
  | [] => []
  | part :: rest => part.write m ++ writeAll m rest

end

/-- An ordering by a column. -/
def Clause.OrderTerm.write (m : Mapping) (t : OrderTerm) : List Piece :=
  t.field.write m ++ [.word (match t.direction with | .asc => " asc" | .desc => " desc")]

/-- An ORDER BY clause of some entries, and nothing if there are none. -/
def orderClause (entries : List (List Piece)) : List Piece :=
  if entries.isEmpty then [] else .word " ORDER BY " :: [.word ", "].intercalate entries

namespace Query

/-- What is written of a query in front of its orderings. -/
def front (m : Mapping) (q : Query) : List Piece :=
  writeStatement q.selection (q.entity.model.write m) q.root (writeAll m (joinParts q.nodes))
    (lead " WHERE " (conditionParts none q.nodes) (writeAll m (conditionParts none q.nodes)))

/-- What is written of a query: what is selected, the joins of its layout after the table, then the
conditions of its layout, then the orderings by position. -/
def written (m : Mapping) (q : Query) : List Piece :=
  q.front m ++ orderClause
    (((Clause.orderTerms q.nodes).mergeSort (·.position ≤ ·.position)).map (·.write m))

end Query

/-! ### A rendering is its layout written down -/

@[simp] theorem writeAll_append (m : Mapping) (ys : List Part) : ∀ xs : List Part,
    writeAll m (xs ++ ys) = writeAll m xs ++ writeAll m ys
  | [] => rfl
  | x :: xs => by rw [List.cons_append, writeAll, writeAll, writeAll_append m ys xs, List.append_assoc]

/-- A condition is one part, and anything else none. -/
theorem Node.conditionParts_isEmpty (next : Option Connector) (n : Node) :
    (n.conditionParts next).isEmpty = !n.isCondition := by
  cases n <;> rfl

theorem conditionParts_cons {n : Node} (h : n.isCondition) (next : Option Connector)
    (rest : List Node) :
    conditionParts next (n :: rest) = n.conditionParts next ++ conditionParts (some .and) rest := by
  cases n with
  | connector | join | orderBy => cases h
  | _ => rfl

theorem conditionParts_isEmpty : ∀ (next : Option Connector) (nodes : List Node),
    (conditionParts next nodes).isEmpty = !hasCondition nodes
  | _, [] => rfl
  | next, n :: rest => by
    cases hn : n.isCondition with
    | true =>
      have hpart := n.conditionParts_isEmpty next
      rw [hn] at hpart
      rw [conditionParts_cons hn, hasCondition, List.any_cons, hn]
      cases hcond : n.conditionParts next with
      | nil => rw [hcond] at hpart; cases hpart
      | cons => rfl
    | false =>
      rw [hasCondition, List.any_cons, hn, Bool.false_or, ← hasCondition]
      cases n with
      | connector c => exact conditionParts_isEmpty _ rest
      | join | orderBy => exact conditionParts_isEmpty next rest
      | _ => cases hn

namespace Clause

theorem field_ok {m : Mapping} {f : ScopedField} {pieces : List Piece}
    (h : field m f = .ok pieces) : ∃ column, m.column? f.descriptor = some column ∧
      pieces = [.aliasOf f.owner, .separator, .name column] := by
  unfold field at h
  split at h
  next column hcolumn => cases h; exact ⟨column, hcolumn, rfl⟩
  next => cases h

theorem field_written {m : Mapping} {f : ScopedField} {pieces : List Piece}
    (h : field m f = .ok pieces) : pieces = f.write m := by
  obtain ⟨column, hcolumn, rfl⟩ := field_ok h
  rw [ScopedField.write, hcolumn]

theorem table_written {m : Mapping} {entity : EntityModel} {pieces : List Piece}
    (h : table m entity = .ok pieces) : pieces = entity.write m := by
  unfold table at h
  rw [EntityModel.write]
  cases htable : m.table? entity <;> rw [htable] at h <;> cases h
  rfl

theorem tie_written : ∀ next : Option Connector, tie next = tieWords next
  | none | some .and | some .or => rfl

theorem join_written : ∀ kind : JoinKind, .word (" " ++ kind.keyword ++ " ") = kind.word
  | .inner | .left | .fetch | .leftFetch => rfl

theorem predicate_written {m : Mapping} {f : ScopedField} {op : CompareOp} {x : Operand}
    {pieces : List Piece} (h : predicate m f op x = .ok pieces) :
    pieces = (Node.predicate f op x).writeLeaf m := by
  obtain ⟨column, right, hcolumn, hright, rfl⟩ := predicate_ok h
  have hright : right = x.write m f op := by
    cases x with
    | none => cases hright; rfl
    | value v => cases hright; cases op <;> rfl
    | field g =>
      obtain ⟨other, hother, hright⟩ := bind_ok hright
      cases hright
      rw [field_written hother, Operand.write]
  rw [field_written hcolumn, hright, Node.writeLeaf]

theorem members_written (f : ScopedField) : ∀ vs : List Value,
    members f vs = [.word ","].intercalate (vs.map fun v => [f.place false v])
  | [] => rfl
  | [_] => rfl
  | v :: w :: vs => by
    rw [members, members_written f (w :: vs)]
    rfl
    nofun

theorem membership_written {m : Mapping} {f : ScopedField} {negated : Bool} {values : List Value}
    {pieces : List Piece} (h : membership m f negated values = .ok pieces) :
    pieces = (Node.inList f negated values).writeLeaf m := by
  rw [Node.writeLeaf]
  obtain ⟨hleaves, rfl⟩ | ⟨v, vs, column, hleaves, hcolumn, rfl⟩ := membership_ok h
  · rw [hleaves]
  · rw [hleaves, field_written hcolumn, members_written]
    rfl

/-- Where there is no condition, nothing is written. -/
theorem conditions_eq_nil (m : Mapping) (next : Option Connector) {nodes : List Node}
    (h : hasCondition nodes = false) : conditions m next nodes = .ok [] := by
  induction nodes generalizing next with
  | nil => rfl
  | cons n rest ih =>
    rw [hasCondition, List.any_cons, Bool.or_eq_false_iff] at h
    cases n with
    | connector c => exact ih _ h.2
    | orderBy | join => exact ih next h.2
    | _ => cases h.1

/-- An optional clause has its conditions in it. -/
theorem introduce_inner {m : Mapping} {word : String} {nodes : List Node} {pieces : List Piece}
    (h : introduce word nodes (conditions m none nodes) = .ok pieces) :
    ∃ inner, conditions m none nodes = .ok inner ∧ inner <:+: pieces := by
  unfold introduce at h
  cases hc : hasCondition nodes with
  | false => exact ⟨[], conditions_eq_nil m none hc, List.nil_infix⟩
  | true =>
    rw [hc] at h
    cases hinner : conditions m none nodes with
    | error e => rw [hinner] at h; cases h
    | ok inner =>
      rw [hinner] at h
      cases h
      exact ⟨inner, rfl, (List.suffix_cons _ _).isInfix⟩

/-- A clause that ends in given pieces is made of clauses that do. -/
theorem introduce_written {word : String} {nodes : List Node} {c : Clause} {parts : List Part}
    {m : Mapping} {pieces : List Piece} (hparts : parts.isEmpty = !hasCondition nodes)
    (hc : ∀ inner, c = .ok inner → inner = writeAll m parts)
    (h : introduce word nodes c = .ok pieces) : pieces = lead word parts (writeAll m parts) := by
  unfold introduce at h
  unfold lead
  rw [hparts]
  cases hn : hasCondition nodes with
  | false => rw [hn] at h; cases h; rfl
  | true =>
    rw [hn] at h
    cases c with
    | error e => cases h
    | ok inner => rw [← hc inner rfl]; cases h; rfl

mutual

theorem joins_written (m : Mapping) : ∀ (nodes : List Node) (pieces : List Piece),
    joins m nodes = .ok pieces → pieces = writeAll m (joinParts nodes)
  | [], pieces, h => by cases h; rfl
  | n :: rest, pieces, h => by
    cases n with
    | join kind association index nodes =>
      obtain ⟨source, on, inner, others, hsource, hon, hinner, hothers, h⟩ := joins_ok h
      have hon := introduce_written (conditionParts_isEmpty none nodes)
        (conditions_written m none nodes) hon
      rw [joinParts, List.cons_append, writeAll, Part.write, writeAll_append,
        ← field_written hsource, ← hon, ← joins_written m nodes inner hinner,
        ← joins_written m rest others hothers, ← join_written, h]
      simp
    | _ => exact joins_written m rest pieces h

theorem conditions_written (m : Mapping) : ∀ (next : Option Connector) (nodes : List Node)
    (pieces : List Piece), conditions m next nodes = .ok pieces →
    pieces = writeAll m (conditionParts next nodes)
  | _, [], pieces, h => by cases h; rfl
  | next, n :: rest, pieces, h => by
    cases hn : n.isCondition with
    | true =>
      obtain ⟨first, others, hfirst, hothers, rfl⟩ := conditions_ok hn h
      rw [conditionParts_cons hn, writeAll_append, ← condition_written m next n hn first hfirst,
        ← conditions_written m (some .and) rest others hothers, tie_written]
    | false =>
      cases n with
      | connector c => exact conditions_written m _ rest pieces h
      | join | orderBy => exact conditions_written m next rest pieces h
      | _ => cases hn

theorem condition_written (m : Mapping) (next : Option Connector) : ∀ n : Node, n.isCondition →
    ∀ pieces, condition m n = .ok pieces →
    tieWords next ++ pieces = writeAll m (n.conditionParts next)
  | .predicate f op x, _, pieces, h => by
    rw [Node.conditionParts, writeAll, Part.write, ← predicate_written h, writeAll, List.append_nil]
  | .inList f negated values, _, pieces, h => by
    rw [Node.conditionParts, writeAll, Part.write, ← membership_written h, writeAll, List.append_nil]
  | .bracket nodes, _, pieces, h => by
    obtain ⟨inner, hinner, rfl⟩ := bracket_ok h
    rw [Node.conditionParts, writeAll, Part.write, ← conditions_written m none nodes inner hinner,
      writeAll, List.append_nil]
  | .existence negated association index nodes, _, pieces, h => by
    obtain ⟨source, joined, filter, hsource, hjoined, hfilter, rfl⟩ := existence_ok h
    have hfilter := introduce_written (conditionParts_isEmpty none nodes)
      (conditions_written m none nodes) hfilter
    rw [Node.conditionParts, writeAll, Part.write, ← field_written hsource, ← hfilter,
      ← joins_written m nodes joined hjoined, writeAll, List.append_nil]
    rfl
  | .inSubquery f negated source index select nodes, _, pieces, h => by
    obtain ⟨column, selected, table, joined, filter, hcolumn, hselected, htable, hjoined, hfilter,
      rfl⟩ := inSubquery_ok h
    have hfilter := introduce_written (conditionParts_isEmpty none nodes)
      (conditions_written m none nodes) hfilter
    rw [Node.conditionParts, writeAll, Part.write, ← field_written hcolumn,
      ← field_written hselected, ← table_written htable, ← hfilter,
      ← joins_written m nodes joined hjoined, writeAll, List.append_nil]
    simp [subselect, writeStatement, memberWord]

end

theorem orderList_written {m : Mapping} : ∀ {terms : List OrderTerm} {pieces : List Piece},
    orderList m terms = .ok pieces → pieces = [.word ", "].intercalate (terms.map (·.write m))
  | [], _, h => by cases h; rfl
  | t :: rest, _, h => by
    obtain ⟨column, others, hcolumn, hothers, rfl⟩ := orderList_ok h
    rw [field_written hcolumn, orderList_written hothers]
    obtain ⟨position, f, direction⟩ := t
    cases rest <;> cases direction <;> simp [OrderTerm.write, Direction.keyword, List.intercalate]

theorem ordering_written {m : Mapping} {nodes : List Node} {pieces : List Piece}
    (h : ordering m nodes = .ok pieces) : pieces = orderClause
      (((orderTerms nodes).mergeSort (·.position ≤ ·.position)).map (·.write m)) := by
  unfold ordering at h
  split at h
  next hterms => cases h; rw [hterms]; rfl
  next terms hterms =>
    obtain ⟨list, hlist, h⟩ := bind_ok h
    cases h
    rw [orderList_written hlist, orderClause, List.isEmpty_map,
      if_neg (by simpa using hterms)]

end Clause

/-- What is written of a query, with its ORDER BY clause at the end. -/
theorem Query.statement_front {m : Mapping} {q : Query} {pieces clause : List Piece}
    (h : q.statement m = .ok pieces) (hclause : Clause.ordering m q.nodes = .ok clause) :
    pieces = q.front m ++ clause := by
  obtain ⟨table, joined, filter, ordering, htable, hjoined, hfilter, hordering, rfl⟩ := statement_ok h
  have hfilter := Clause.introduce_written (conditionParts_isEmpty none q.nodes)
    (Clause.conditions_written m none q.nodes) hfilter
  obtain rfl : ordering = clause := Except.ok.inj (hordering.symm.trans hclause)
  rw [front, ← Clause.table_written htable, ← hfilter,
    ← Clause.joins_written m q.nodes joined hjoined, writeStatement]

/-- WRITING: a statement that is rendered is its layout written down. -/
theorem Query.statement_written {m : Mapping} {q : Query} {pieces : List Piece}
    (h : q.statement m = .ok pieces) : pieces = q.written m := by
  obtain ⟨_, _, _, ordering, -, -, -, hordering, -⟩ := statement_ok h
  rw [statement_front h hordering, written, Clause.ordering_written hordering]

/-! ### Spelling -/

/-- A piece with its spelling. -/
structure Token where
  piece : Piece
  text : String

/-- Whether a token stands for a value. -/
def Token.isPlaceholder (t : Token) : Bool := t.piece.binding?.isSome

namespace Piece

/-- The spelling of a piece, given the number of the next parameter. -/
def spell (c : Conventions) (i : Nat) : Piece → String
  | .word s | .name s => s
  | .aliasOf a => c.aliasStem ++ toString a
  | .separator => c.separator.toString
  | .slot _ => c.parameterMark ++ (c.parameterStem ++ toString i)

/-- The tokens of pieces, given the number of the next parameter. -/
def tokensFrom (c : Conventions) : Nat → List Piece → List Token
  | _, [] => []
  | i, .slot b :: rest => ⟨.slot b, spell c i (.slot b)⟩ :: tokensFrom c (i + 1) rest
  | i, p :: rest => ⟨p, p.spell c i⟩ :: tokensFrom c i rest

/-- The text of pieces is that of their tokens. -/
theorem spellFrom_eq_join (c : Conventions) : ∀ (pieces : List Piece) (i : Nat),
    spellFrom c i pieces = String.join ((tokensFrom c i pieces).map (·.text))
  | [], _ => rfl
  | p :: rest, i => by
    cases p <;> simp only [spellFrom, tokensFrom, spell, Conventions.aliasName,
      Conventions.placeholder, Conventions.parameterName, List.map_cons, String.join_cons,
      spellFrom_eq_join c rest]

/-- The parameters of bindings are these bindings, numbered on. -/
theorem parametersFrom_getElem? (c : Conventions) : ∀ (bs : List Binding) (i j : Nat),
    (parametersFrom c i bs)[j]? = bs[j]?.map fun b => ⟨c.parameterName (i + j), b.spell c, b.temporal⟩
  | [], _, _ => rfl
  | b :: bs, i, 0 => rfl
  | b :: bs, i, j + 1 => by
    rw [parametersFrom, List.getElem?_cons_succ, List.getElem?_cons_succ,
      parametersFrom_getElem? c bs (i + 1) j, Nat.add_right_comm, Nat.add_assoc]

end Piece

/-- A result binds the values of the places among some pieces, and asks for a page. -/
structure Rendered.Binds (rendered : Rendered) (c : Conventions) (page : Page)
    (pieces : List Piece) : Prop where
  /-- There is one parameter for each place, and they are numbered in the order of the text. -/
  parameters : ∀ i : Nat, rendered.parameters[i]? = (Piece.bindings pieces)[i]?.map fun b =>
    ⟨c.parameterStem ++ toString i, b.spell c, b.temporal⟩
  page : rendered.page = page

/-- RENDERING: the text of a query that is rendered is its layout, spelled token by token, and the
result binds the values of the layout. -/
theorem Renderer.render_written {r : Renderer} {q : Query} {rendered : Rendered}
    (h : r.render q = .ok rendered) :
    rendered.text =
        String.join ((Piece.tokensFrom r.conventions 0 (q.written r.mapping)).map (·.text)) ∧
      rendered.Binds r.conventions q.page (q.written r.mapping) := by
  obtain ⟨pieces, hstatement, rfl⟩ := render_ok h
  rw [← Query.statement_written hstatement]
  refine ⟨Piece.spellFrom_eq_join r.conventions pieces 0, fun i => ?_, rfl⟩
  rw [Piece.render, Piece.parametersFrom_getElem?, Nat.zero_add]
  rfl

end EntityQuery
