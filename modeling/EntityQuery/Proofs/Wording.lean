import EntityQuery.Statement.Renderer

/-!
Wording: what statements are made of. A clause is composed of words, of tables and columns that a
mapping names, of aliases and of places for values. The words in front of the ORDER BY clause are
others than those in it, so where the clause begins is seen by its first word.

```
front:    SELECT  alias 0  FROM  person  alias 0  WHERE  alias 0 · name  =  place
clause:   ORDER BY  alias 0 · id  asc
```
-/

namespace EntityQuery

/-! ### Words -/

/-- The keywords and the punctuation in front of an ORDER BY clause. -/
def frontWords : List String :=
  ["SELECT ", "DISTINCT ", "count(", "count(DISTINCT ", " FROM ", " JOIN ", " LEFT JOIN ",
    " JOIN FETCH ", " LEFT JOIN FETCH ", " ON ", " WHERE ", " AND ", " OR ", "EXISTS (",
    "NOT EXISTS (", " in (", " not in (", "1 = 0", "1 = 1", "(", ")", " ", ","] ++
    CompareOp.all.map (" " ++ ·.token)

/-- Those of an ORDER BY clause. -/
def orderWords : List String := [" ORDER BY ", " asc", " desc", ", "]

/-- The keywords and the punctuation of query texts. -/
def vocabulary : List String := frontWords ++ orderWords

/-! ### Composed pieces -/

/-- Pieces that are composed of some words, and of the tables, fields, aliases and places of a
mapping. -/
inductive Composed (words : List String) (m : Mapping) : List Piece → Prop
  | nil : Composed words m []
  | word {s : String} {rest : List Piece} : s ∈ words → Composed words m rest →
      Composed words m (.word s :: rest)
  | table {entity : EntityModel} {s : String} {rest : List Piece} : m.table? entity = some s →
      Composed words m rest → Composed words m (.name s :: rest)
  | field {f : ScopedField} {s : String} {rest : List Piece} : m.column? f.descriptor = some s →
      Composed words m rest → Composed words m (.aliasOf f.owner :: .separator :: .name s :: rest)
  | aliasOf (a : Alias) {rest : List Piece} : Composed words m rest →
      Composed words m (.aliasOf a :: rest)
  | slot (b : Binding) {rest : List Piece} : Composed words m rest →
      Composed words m (.slot b :: rest)

section

variable {words : List String} {m : Mapping} {xs ys : List Piece}

theorem Composed.append (hxs : Composed words m xs) (hys : Composed words m ys) :
    Composed words m (xs ++ ys) := by
  induction hxs with
  | nil => exact hys
  | word hs _ ih => exact .word hs ih
  | table hs _ ih => exact .table hs ih
  | field hs _ ih => exact .field hs ih
  | aliasOf a _ ih => exact .aliasOf a ih
  | slot b _ ih => exact .slot b ih

/-- A word closes what is composed. -/
theorem Composed.close (hxs : Composed words m xs) {s : String} (hs : s ∈ words) :
    Composed words m (xs ++ [.word s]) := hxs.append (.word hs .nil)

/-- The words in composed pieces are among those given. -/
theorem Composed.word_mem (hxs : Composed words m xs) {s : String} (hs : .word s ∈ xs) :
    s ∈ words := by
  induction hxs with
  | nil => cases hs
  | word hword _ ih =>
    rcases List.mem_cons.mp hs with heq | hs
    · obtain rfl := Piece.word.inj heq
      exact hword
    · exact ih hs
  | table _ _ ih | aliasOf _ _ ih | slot _ _ ih =>
    exact ih ((List.mem_cons.mp hs).resolve_left nofun)
  | field _ _ ih =>
    rw [List.mem_cons, List.mem_cons, List.mem_cons] at hs
    exact ih (((hs.resolve_left nofun).resolve_left nofun).resolve_left nofun)

/-- More words may be given. -/
theorem Composed.mono (hxs : Composed words m xs) {words' : List String} (h : words ⊆ words') :
    Composed words' m xs := by
  induction hxs with
  | nil => exact .nil
  | word hs _ ih => exact .word (h hs) ih
  | table hs _ ih => exact .table hs ih
  | field hs _ ih => exact .field hs ih
  | aliasOf a _ ih => exact .aliasOf a ih
  | slot b _ ih => exact .slot b ih

end

/-! ### Every statement is composed -/

namespace Clause

variable {words : List String} {m : Mapping}

/-- A clause yields composed pieces, if any. -/
def IsComposed (words : List String) (m : Mapping) (c : Clause) : Prop :=
  ∀ pieces, c = .ok pieces → Composed words m pieces

theorem composed_ok {pieces : List Piece} (h : Composed words m pieces) :
    IsComposed words m (.ok pieces) := by
  rintro _ ⟨⟩
  exact h

theorem IsComposed.bind {x : Clause} {f : List Piece → Clause} (hx : IsComposed words m x)
    (hf : ∀ pieces, Composed words m pieces → IsComposed words m (f pieces)) :
    IsComposed words m (x >>= f) := by
  intro pieces h
  obtain ⟨found, hfound, h⟩ := bind_ok h
  exact hf found (hx found hfound) pieces h

theorem IsComposed.check {x : Except RenderError Unit} {c : Clause} (hc : IsComposed words m c) :
    IsComposed words m (x >>= fun _ => c) := by
  intro pieces h
  obtain ⟨-, -, h⟩ := bind_ok h
  exact hc pieces h

theorem table_composed (entity : EntityModel) : IsComposed words m (table m entity) := by
  unfold table
  split
  next s hs => exact composed_ok (.table hs .nil)
  next => nofun

theorem field_composed (f : ScopedField) : IsComposed words m (field m f) := by
  unfold field
  split
  next s hs => exact composed_ok (.field hs .nil)
  next => nofun

theorem tie_composed (next : Option Connector) : Composed frontWords m (tie next) := by
  rcases next with _ | _ | _
  · exact .nil
  · exact .word (by decide) .nil
  · exact .word (by decide) .nil

theorem members_composed (f : ScopedField) :
    ∀ vs : List Value, Composed frontWords m (members f vs)
  | [] => .nil
  | [_] => .slot _ .nil
  | _ :: w :: vs => .slot _ (.word (by decide) (members_composed f (w :: vs)))

theorem operand_composed (f : ScopedField) (op : CompareOp) (x : Operand) :
    IsComposed frontWords m (operand m f op x) := by
  cases x with
  | none => exact composed_ok .nil
  | value v => exact composed_ok (.word (by decide) (.slot _ .nil))
  | field g =>
    exact (field_composed g).bind fun column hcolumn => composed_ok (.word (by decide) hcolumn)

theorem predicate_composed (f : ScopedField) (op : CompareOp) (x : Operand) :
    IsComposed frontWords m (predicate m f op x) := by
  have hop : " " ++ op.token ∈ frontWords := by cases op <;> decide
  refine (field_composed f).bind fun column hcolumn => ?_
  refine (operand_composed f op x).bind fun right hright => ?_
  exact composed_ok (hcolumn.append (.word hop hright))

theorem memberWord_composed (negated : Bool) {rest : List Piece} (h : Composed frontWords m rest) :
    Composed frontWords m (memberWord negated :: rest) := by
  cases negated <;> exact .word (by decide) h

theorem membership_composed (f : ScopedField) (negated : Bool) (values : List Value) :
    IsComposed frontWords m (membership m f negated values) := by
  unfold membership
  split
  · exact composed_ok (by cases negated <;> exact .word (by decide) .nil)
  · refine (field_composed f).bind fun column hcolumn => composed_ok ?_
    refine Composed.close (hcolumn.append ?_) (by decide)
    exact memberWord_composed negated (members_composed f _)

theorem orderList_composed : ∀ terms : List OrderTerm, IsComposed orderWords m (orderList m terms)
  | [] => composed_ok .nil
  | t :: rest => by
    have hdirection : " " ++ t.direction.keyword ∈ orderWords := by cases t.direction <;> decide
    rw [orderList]
    refine (field_composed t.field).bind fun column hcolumn => ?_
    refine (orderList_composed rest).bind fun others hothers => composed_ok ?_
    refine Composed.append (hcolumn.append (.word hdirection ?_)) hothers
    split
    · exact .nil
    · exact .word (by decide) .nil

theorem ordering_composed (nodes : List Node) : IsComposed orderWords m (ordering m nodes) := by
  unfold ordering
  split
  · exact composed_ok .nil
  · exact (orderList_composed _).bind fun list hlist => composed_ok (.word (by decide) hlist)

theorem introduce_composed {s : String} (hs : s ∈ frontWords) {nodes : List Node} {c : Clause}
    (hc : IsComposed frontWords m c) : IsComposed frontWords m (introduce s nodes c) := by
  unfold introduce
  split
  · cases c with
    | error e => nofun
    | ok inner => exact composed_ok (.word hs (hc inner rfl))
  · exact composed_ok .nil

theorem subselect_composed {before : Piece} {select source joins conditions : List Piece}
    (hbefore : ∀ rest, Composed frontWords m rest → Composed frontWords m (before :: rest))
    (hselect : Composed frontWords m select) (hsource : Composed frontWords m source)
    (index : Alias) (hjoins : Composed frontWords m joins)
    (hconditions : Composed frontWords m conditions) :
    Composed frontWords m (subselect before select source index joins conditions) := by
  have hhead : Composed frontWords m (before :: .word "SELECT " :: select) :=
    hbefore _ (.word (by decide) hselect)
  have hfrom : Composed frontWords m (.word " FROM " :: source) := .word (by decide) hsource
  have hindex : Composed frontWords m [.word " ", .aliasOf index] :=
    .word (by decide) (.aliasOf index .nil)
  have hstatement := (((hhead.append hfrom).append hindex).append hjoins).append hconditions
  exact hstatement.close (by decide)

mutual

theorem joins_composed (nodes : List Node) : IsComposed frontWords m (joins m nodes) := by
  cases nodes with
  | nil => exact composed_ok .nil
  | cons n rest =>
    cases n with
    | join kind association index nodes =>
      have hkind : " " ++ kind.keyword ++ " " ∈ frontWords := by cases kind <;> decide
      rw [joins]
      refine (field_composed association).bind fun source hsource => ?_
      refine (introduce_composed (by decide) (conditions_composed none nodes)).bind fun on hon => ?_
      refine (joins_composed nodes).bind fun inner hinner => ?_
      refine (joins_composed rest).bind fun others hothers => composed_ok ?_
      have hindex : Composed frontWords m [.word " ", .aliasOf index] :=
        .word (by decide) (.aliasOf index .nil)
      have hown := ((Composed.word hkind hsource).append hindex).append hon
      exact (hown.append hinner).append hothers
    | _ => exact joins_composed rest

theorem conditions_composed (next : Option Connector) (nodes : List Node) :
    IsComposed frontWords m (conditions m next nodes) := by
  cases nodes with
  | nil => exact composed_ok .nil
  | cons n rest =>
    cases hn : n.isCondition with
    | true =>
      rw [conditions_cons m next hn]
      refine (condition_composed n).bind fun first hfirst => ?_
      refine (conditions_composed (some .and) rest).bind fun others hothers => composed_ok ?_
      exact ((tie_composed next).append hfirst).append hothers
    | false =>
      cases n with
      | connector c => exact conditions_composed _ rest
      | join | orderBy => exact conditions_composed next rest
      | _ => cases hn

theorem condition_composed : ∀ n : Node, IsComposed frontWords m (condition m n)
  | .predicate f op x => predicate_composed f op x
  | .inList f negated values => membership_composed f negated values
  | .bracket nodes =>
    (conditions_composed none nodes).bind fun inner hinner =>
      composed_ok (.word (by decide) (hinner.close (by decide)))
  | .existence negated association index nodes => by
    have hbefore : ∀ rest, Composed frontWords m rest →
        Composed frontWords m (.word (if negated then "NOT EXISTS (" else "EXISTS (") :: rest) := by
      intro rest hrest
      cases negated <;> exact .word (by decide) hrest
    rw [condition]
    refine IsComposed.check ?_
    refine (field_composed association).bind fun source hsource => ?_
    refine (joins_composed nodes).bind fun joined hjoined => ?_
    refine (introduce_composed (by decide) (conditions_composed none nodes)).bind
      fun filter hfilter => ?_
    exact composed_ok
      (subselect_composed hbefore (.aliasOf index .nil) hsource index hjoined hfilter)
  | .inSubquery f negated source index select nodes => by
    rw [condition]
    refine (field_composed f).bind fun column hcolumn => IsComposed.check ?_
    refine (field_composed select).bind fun selected hselected => ?_
    refine (table_composed source).bind fun table htable => ?_
    refine (joins_composed nodes).bind fun joined hjoined => ?_
    refine (introduce_composed (by decide) (conditions_composed none nodes)).bind
      fun filter hfilter => ?_
    refine composed_ok (hcolumn.append ?_)
    exact subselect_composed (fun _ => memberWord_composed negated) hselected htable index hjoined
      hfilter
  | .connector _ | .orderBy .. | .join .. => composed_ok .nil

end

end Clause

theorem Query.selection_composed (m : Mapping) (q : Query) : Composed frontWords m q.selection := by
  unfold selection Head.selection
  split
  · exact .aliasOf _ .nil
  · exact .word (by decide) (.aliasOf _ .nil)
  · exact .word (by decide) (.aliasOf _ (.word (by decide) .nil))
  · exact .word (by decide) (.aliasOf _ (.word (by decide) .nil))

/-- A statement is composed of what stands in front of its ORDER BY clause, and of the clause. -/
theorem Query.statement_composed {m : Mapping} {q : Query} {pieces : List Piece}
    (h : q.statement m = .ok pieces) : ∃ front clause, pieces = front ++ clause ∧
      Composed frontWords m front ∧ Clause.ordering m q.nodes = .ok clause ∧
      Composed orderWords m clause := by
  obtain ⟨table, joined, filter, ordering, htable, hjoined, hfilter, hordering, rfl⟩ :=
    statement_ok h
  refine ⟨_, ordering, rfl, ?_, hordering, Clause.ordering_composed _ ordering hordering⟩
  have hjoined := Clause.joins_composed _ joined hjoined
  have hfilter := Clause.introduce_composed (by decide) (Clause.conditions_composed none q.nodes)
    filter hfilter
  have hhead : Composed frontWords m (.word "SELECT " :: q.selection) :=
    .word (by decide) (q.selection_composed m)
  have hfrom : Composed frontWords m (.word " FROM " :: table) :=
    .word (by decide) (Clause.table_composed _ table htable)
  have hindex : Composed frontWords m [.word " ", .aliasOf q.root] :=
    .word (by decide) (.aliasOf q.root .nil)
  exact (((hhead.append hfrom).append hindex).append hjoined).append hfilter

end EntityQuery
