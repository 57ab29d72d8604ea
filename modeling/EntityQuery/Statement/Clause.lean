import EntityQuery.Statement.Mapping
import EntityQuery.Statement.Piece

/-!
The clauses of a statement. A scope is written as its joins, each with the joins inside it, and
then its conditions; a subquery is a statement in parentheses. Names are looked up where they
stand in the text, so of several missing names the leftmost is reported.

```
SELECT c0 FROM orders c0  LEFT JOIN c0.lines c1 ON …  WHERE (… OR …)  ORDER BY c0.total asc
                          joins                       conditions      orderings
```
-/

namespace EntityQuery

open EntityQuery.Field

/-- Part of a query text, or the first name that is missing in it. -/
abbrev Clause := Except RenderError (List Piece)

namespace Clause

/-- The name of an entity's table. -/
def table (m : Mapping) (entity : EntityModel) : Clause :=
  match m.table? entity with
  | some table => .ok [.name table]
  | none => .error (.unmappedEntity entity.entityName)

/-- A column of an instance. -/
def field (m : Mapping) (f : ScopedField) : Clause :=
  match m.column? f.descriptor with
  | some column => .ok [.aliasOf f.owner, .separator, .name column]
  | none => .error (.unmappedField f.descriptor.entity.entityName f.name)

/-! ### Conditions without a subquery -/

/-- The place of a value compared with a field. -/
def slot (f : ScopedField) (pattern : Bool) (value : Value) : Piece :=
  .slot ⟨value, f.descriptor.temporal, pattern⟩

/-- The right-hand side of a comparison of a field. -/
def operand (m : Mapping) (f : ScopedField) (op : CompareOp) : Operand → Clause
  | .none => .ok []
  | .value v => .ok [.word " ", slot f op.isPattern v]
  | .field g => do
    let column ← field m g
    return .word " " :: column

/-- A comparison of a field. -/
def predicate (m : Mapping) (f : ScopedField) (op : CompareOp) (x : Operand) : Clause := do
  let column ← field m f
  let right ← operand m f op x
  return column ++ .word (" " ++ op.token) :: right

/-- The places of the members of a list. -/
def members (f : ScopedField) : List Value → List Piece
  | [] => []
  | [v] => [slot f false v]
  | v :: vs => slot f false v :: .word "," :: members f vs

/-- How a membership begins after its field. -/
def memberWord (negated : Bool) : Piece := .word (if negated then " not in (" else " in (")

/-- Membership of a field in a list. Nothing is a member of an empty list, and everything is outside
of it; then the field is not even looked up. -/
def membership (m : Mapping) (f : ScopedField) (negated : Bool) (values : List Value) : Clause :=
  match Value.leavesOf values with
  | [] => .ok [.word (if negated then "1 = 1" else "1 = 0")]
  | leaves => do
    let column ← field m f
    return column ++ memberWord negated :: members f leaves ++ [.word ")"]

/-! ### Orderings -/

/-- An ordering with its place among all orderings of a statement. -/
structure OrderTerm where
  position : Nat
  field : ScopedField
  direction : Direction

/-- The orderings of a scope, with those in its brackets and joins. A subquery is a statement of
its own. -/
def orderTerms : List Node → List OrderTerm
  | [] => []
  | .orderBy f direction position :: rest => ⟨position, f, direction⟩ :: orderTerms rest
  | .bracket nodes :: rest => orderTerms nodes ++ orderTerms rest
  | .join _ _ _ nodes :: rest => orderTerms nodes ++ orderTerms rest
  | _ :: rest => orderTerms rest

/-- Orderings one after the other. -/
def orderList (m : Mapping) : List OrderTerm → Clause
  | [] => .ok []
  | t :: rest => do
    let column ← field m t.field
    let others ← orderList m rest
    let comma := if rest.isEmpty then [] else [.word ", "]
    return column ++ .word (" " ++ t.direction.keyword) :: comma ++ others

/-- The ORDER BY clause: the orderings by position. -/
def ordering (m : Mapping) (nodes : List Node) : Clause :=
  match (orderTerms nodes).mergeSort (·.position ≤ ·.position) with
  | [] => .ok []
  | terms => do
    let list ← orderList m terms
    return .word " ORDER BY " :: list

/-- Without an ordering there is no ORDER BY clause. -/
theorem ordering_eq_nil (m : Mapping) {nodes : List Node} (h : orderTerms nodes = []) :
    ordering m nodes = .ok [] := by
  rw [ordering, h, List.mergeSort_nil]

/-- A subquery must not be ordered. -/
def unordered (nodes : List Node) : Except RenderError Unit :=
  match orderTerms nodes with
  | [] => .ok ()
  | t :: _ => .error (.orderInSubquery t.field.name)

/-! ### Scopes -/

/-- A word before the conditions of a scope, and nothing if there are none. -/
def introduce (word : String) (nodes : List Node) (conditions : Clause) : Clause :=
  if hasCondition nodes then conditions.map (.word word :: ·) else .ok []

/-- What ties a condition to the one before it; the first condition is tied to nothing. -/
def tie : Option Connector → List Piece
  | none => []
  | some c => [.word (" " ++ c.keyword ++ " ")]

/-- A subquery in parentheses, from the word before it. -/
def subselect (before : Piece) (select : List Piece) (source : List Piece) (index : Alias)
    (joins conditions : List Piece) : List Piece :=
  before :: .word "SELECT " :: select ++ .word " FROM " :: source ++
    [.word " ", .aliasOf index] ++ joins ++ conditions ++ [.word ")"]

mutual

/-- The joins of a scope in order, each followed by the joins inside it. -/
def joins (m : Mapping) : List Node → Clause
  | [] => .ok []
  | .join kind association index nodes :: rest => do
    let source ← field m association
    let on ← introduce " ON " nodes (conditions m none nodes)
    let inner ← joins m nodes
    let others ← joins m rest
    return .word (" " ++ kind.keyword ++ " ") :: source ++ [.word " ", .aliasOf index] ++ on ++
      inner ++ others
  | _ :: rest => joins m rest

/-- The conditions of a scope, given what ties the next one to those before. Joins and orderings
are written elsewhere. -/
def conditions (m : Mapping) (next : Option Connector) : List Node → Clause
  | [] => .ok []
  | .connector c :: rest => conditions m (next.map fun _ => c) rest
  | .join .. :: rest => conditions m next rest
  | .orderBy .. :: rest => conditions m next rest
  | node :: rest => do
    let first ← condition m node
    let others ← conditions m (some .and) rest
    return tie next ++ first ++ others

/-- One condition. -/
def condition (m : Mapping) : Node → Clause
  | .predicate f op x => predicate m f op x
  | .bracket nodes => do
    let inner ← conditions m none nodes
    return .word "(" :: inner ++ [.word ")"]
  | .inList f negated values => membership m f negated values
  | .existence negated association index nodes => do
    unordered nodes
    let source ← field m association
    let joined ← joins m nodes
    let filter ← introduce " WHERE " nodes (conditions m none nodes)
    let before := .word (if negated then "NOT EXISTS (" else "EXISTS (")
    return subselect before [.aliasOf index] source index joined filter
  | .inSubquery f negated source index select nodes => do
    let column ← field m f
    unordered nodes
    let selected ← field m select
    let source ← table m source
    let joined ← joins m nodes
    let filter ← introduce " WHERE " nodes (conditions m none nodes)
    return column ++ subselect (memberWord negated) selected source index joined filter
  | .connector _ | .orderBy .. | .join .. => .ok []

end

/-- Only joins are written among the joins. -/
theorem joins_cons (m : Mapping) {node : Node} (rest : List Node) (h : node.isJoin = false) :
    joins m (node :: rest) = joins m rest := by
  cases node with
  | join => cases h
  | _ => simp only [joins]

/-- A condition is written after what ties it to the ones before. -/
theorem conditions_cons (m : Mapping) (next : Option Connector) {node : Node} {rest : List Node}
    (h : node.isCondition) : conditions m next (node :: rest) = do
      let first ← condition m node
      let others ← conditions m (some .and) rest
      return tie next ++ first ++ others := by
  cases node with
  | connector | join | orderBy => cases h
  | _ => simp only [conditions]

/-! ### The parts of clauses that are written -/

section

variable {m : Mapping} {nodes rest : List Node} {pieces : List Piece}

theorem predicate_ok {f : ScopedField} {op : CompareOp} {x : Operand}
    (h : predicate m f op x = .ok pieces) :
    ∃ column right, field m f = .ok column ∧ operand m f op x = .ok right ∧
      pieces = column ++ .word (" " ++ op.token) :: right := by
  obtain ⟨column, hcolumn, h⟩ := bind_ok h
  obtain ⟨right, hright, h⟩ := bind_ok h
  cases h
  exact ⟨column, right, hcolumn, hright, rfl⟩

/-- A list without a leaf is a condition without a field. -/
theorem membership_ok {f : ScopedField} {negated : Bool} {values : List Value}
    (h : membership m f negated values = .ok pieces) :
    (Value.leavesOf values = [] ∧ pieces = [.word (if negated then "1 = 1" else "1 = 0")]) ∨
    ∃ v vs column, Value.leavesOf values = v :: vs ∧ field m f = .ok column ∧
      pieces = column ++ memberWord negated :: members f (v :: vs) ++ [.word ")"] := by
  unfold membership at h
  cases hleaves : Value.leavesOf values with
  | nil => rw [hleaves] at h; cases h; exact .inl ⟨rfl, rfl⟩
  | cons v vs =>
    rw [hleaves] at h
    obtain ⟨column, hcolumn, h⟩ := bind_ok h
    cases h
    exact .inr ⟨v, vs, column, rfl, hcolumn, rfl⟩

/-- A join has its conditions behind it, and the joins inside it before the next one. -/
theorem joins_ok {kind : JoinKind} {association : ScopedField} {index : Alias}
    (h : joins m (.join kind association index nodes :: rest) = .ok pieces) :
    ∃ source on inner others, field m association = .ok source ∧
      introduce " ON " nodes (conditions m none nodes) = .ok on ∧ joins m nodes = .ok inner ∧
      joins m rest = .ok others ∧ pieces = .word (" " ++ kind.keyword ++ " ") :: source ++
        [.word " ", .aliasOf index] ++ on ++ inner ++ others := by
  rw [joins] at h
  obtain ⟨source, hsource, h⟩ := bind_ok h
  obtain ⟨on, hon, h⟩ := bind_ok h
  obtain ⟨inner, hinner, h⟩ := bind_ok h
  obtain ⟨others, hothers, h⟩ := bind_ok h
  cases h
  exact ⟨source, on, inner, others, hsource, hon, hinner, hothers, rfl⟩

/-- After a condition, the next one is tied by AND unless a connector comes between. -/
theorem conditions_ok {next : Option Connector} {node : Node} (hnode : node.isCondition)
    (h : conditions m next (node :: rest) = .ok pieces) :
    ∃ first others, condition m node = .ok first ∧ conditions m (some .and) rest = .ok others ∧
      pieces = tie next ++ first ++ others := by
  rw [conditions_cons m next hnode] at h
  obtain ⟨first, hfirst, h⟩ := bind_ok h
  obtain ⟨others, hothers, h⟩ := bind_ok h
  cases h
  exact ⟨first, others, hfirst, hothers, rfl⟩

theorem bracket_ok (h : condition m (.bracket nodes) = .ok pieces) :
    ∃ inner, conditions m none nodes = .ok inner ∧
      pieces = .word "(" :: inner ++ [.word ")"] := by
  rw [condition] at h
  obtain ⟨inner, hinner, h⟩ := bind_ok h
  cases h
  exact ⟨inner, hinner, rfl⟩

theorem existence_ok {negated : Bool} {association : ScopedField} {index : Alias}
    (h : condition m (.existence negated association index nodes) = .ok pieces) :
    ∃ source joined filter, field m association = .ok source ∧ joins m nodes = .ok joined ∧
      introduce " WHERE " nodes (conditions m none nodes) = .ok filter ∧
      pieces = subselect (.word (if negated then "NOT EXISTS (" else "EXISTS (")) [.aliasOf index]
        source index joined filter := by
  rw [condition] at h
  obtain ⟨_, -, h⟩ := bind_ok h
  obtain ⟨source, hsource, h⟩ := bind_ok h
  obtain ⟨joined, hjoined, h⟩ := bind_ok h
  obtain ⟨filter, hfilter, h⟩ := bind_ok h
  cases h
  exact ⟨source, joined, filter, hsource, hjoined, hfilter, rfl⟩

theorem inSubquery_ok {f select : ScopedField} {negated : Bool} {source : EntityModel}
    {index : Alias}
    (h : condition m (.inSubquery f negated source index select nodes) = .ok pieces) :
    ∃ column selected origin joined filter, field m f = .ok column ∧ field m select = .ok selected ∧
      table m source = .ok origin ∧ joins m nodes = .ok joined ∧
      introduce " WHERE " nodes (conditions m none nodes) = .ok filter ∧
      pieces = column ++ subselect (memberWord negated) selected origin index joined filter := by
  rw [condition] at h
  obtain ⟨column, hcolumn, h⟩ := bind_ok h
  obtain ⟨_, -, h⟩ := bind_ok h
  obtain ⟨selected, hselected, h⟩ := bind_ok h
  obtain ⟨origin, horigin, h⟩ := bind_ok h
  obtain ⟨joined, hjoined, h⟩ := bind_ok h
  obtain ⟨filter, hfilter, h⟩ := bind_ok h
  cases h
  exact ⟨column, selected, origin, joined, filter, hcolumn, hselected, horigin, hjoined, hfilter,
    rfl⟩

theorem orderList_ok {t : OrderTerm} {terms : List OrderTerm}
    (h : orderList m (t :: terms) = .ok pieces) :
    ∃ column others, field m t.field = .ok column ∧ orderList m terms = .ok others ∧
      pieces = column ++ .word (" " ++ t.direction.keyword) ::
        (if terms.isEmpty then [] else [.word ", "]) ++ others := by
  rw [orderList] at h
  obtain ⟨column, hcolumn, h⟩ := bind_ok h
  obtain ⟨others, hothers, h⟩ := bind_ok h
  cases h
  exact ⟨column, others, hcolumn, hothers, rfl⟩

end

end Clause

end EntityQuery
