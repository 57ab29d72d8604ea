import EntityQuery.Proofs.Reader

/-!
Spelling: the texts of clauses, and what stands after them. A text spells pieces if it begins with
them; the numbers of parameters are left open, so that a part of a text is told from the pieces of
that part alone. Where a part ends is seen from what stands after it:

```
… JOIN c0.x c1 ON c1.a = :p0 AND c1.b = :p1 JOIN c1.y c2 JOIN c0.z c3 WHERE …
                            |              |            |            |
a condition ends            *              *            *            *
conditions end                             *            *            *
the joins of c1 end                                     *            *
the joins of c0 end                                                  *
```
-/

namespace EntityQuery

/-! ### Texts that spell pieces -/

/-- A text begins with pieces under the default conventions and goes on with the rest. Which numbers
the parameters have is left open. -/
def Spells : List Piece → List Char → List Char → Prop
  | [], text, rest => text = rest
  | .word s :: pieces, text, rest | .name s :: pieces, text, rest =>
    ∃ mid, text = s.toList ++ mid ∧ Spells pieces mid rest
  | .aliasOf a :: pieces, text, rest =>
    ∃ mid, text = "c".toList ++ (Nat.toDigits 10 a ++ mid) ∧ Spells pieces mid rest
  | .separator :: pieces, text, rest => ∃ mid, text = ".".toList ++ mid ∧ Spells pieces mid rest
  | .slot _ :: pieces, text, rest =>
    ∃ i mid, text = ":p".toList ++ (Nat.toDigits 10 i ++ mid) ∧ Spells pieces mid rest

/-- The text of pieces spells them, whatever the number of the first parameter. -/
theorem spells_spellFrom (rest : List Char) : ∀ (i : Nat) (pieces : List Piece),
    Spells pieces ((Piece.spellFrom {} i pieces).toList ++ rest) rest
  | _, [] => rfl
  | i, .word s :: pieces | i, .name s :: pieces => by
    rw [Piece.spellFrom, String.toList_append, List.append_assoc]
    exact ⟨_, rfl, spells_spellFrom rest i pieces⟩
  | i, .aliasOf a :: pieces => by
    rw [Piece.spellFrom, String.toList_append, Conventions.aliasName, String.toList_append,
      Nat.toString_eq_repr, Nat.toList_repr, List.append_assoc, List.append_assoc]
    exact ⟨_, rfl, spells_spellFrom rest i pieces⟩
  | i, .separator :: pieces => by
    rw [Piece.spellFrom, String.toList_append, List.append_assoc]
    exact ⟨_, rfl, spells_spellFrom rest i pieces⟩
  | i, .slot b :: pieces => by
    rw [Piece.spellFrom, String.toList_append, Conventions.placeholder, Conventions.parameterName,
      String.toList_append, String.toList_append, Nat.toString_eq_repr, Nat.toList_repr,
      List.append_assoc, List.append_assoc, List.append_assoc]
    exact ⟨i, _, rfl, spells_spellFrom rest (i + 1) pieces⟩

/-- Pieces are spelled one after the other. -/
theorem spells_append {ys : List Piece} {rest : List Char} : ∀ (xs : List Piece) {text : List Char},
    Spells (xs ++ ys) text rest ↔ ∃ mid, Spells xs text mid ∧ Spells ys mid rest
  | [], text => ⟨fun h => ⟨text, rfl, h⟩, fun ⟨_, htext, h⟩ => htext ▸ h⟩
  | x :: xs, text => by
    cases x <;> simp only [List.cons_append, Spells, spells_append xs] <;> grind

/-! ### The texts of clauses -/

section

variable {m : Mapping} {f : ScopedField} {pieces : List Piece} {nodes others : List Node}
  {text rest : List Char}

theorem field_spells (h : Clause.field m f = .ok pieces) (hs : Spells pieces text rest) :
    ∃ column, m.column? f.descriptor = some column ∧
      text = "c".toList ++ (Nat.toDigits 10 f.owner ++ (".".toList ++ (column.toList ++ rest))) := by
  unfold Clause.field at h
  cases hcolumn : m.column? f.descriptor with
  | none => rw [hcolumn] at h; cases h
  | some column =>
    rw [hcolumn] at h
    cases h
    obtain ⟨_, rfl, _, rfl, _, rfl, rfl⟩ := hs
    exact ⟨column, rfl, rfl⟩

/-- Conditions stand after the word that introduces them, if there are any. -/
theorem introduce_spells {s : String} {filter : Clause}
    (h : Clause.introduce s nodes filter = .ok pieces) (hs : Spells pieces text rest) :
    (hasCondition nodes = false ∧ text = rest) ∨
      (hasCondition nodes = true ∧ ∃ inner mid, filter = .ok inner ∧ text = s.toList ++ mid ∧
        Spells inner mid rest) := by
  unfold Clause.introduce at h
  cases hcond : hasCondition nodes with
  | false =>
    rw [hcond] at h
    cases h
    exact .inl ⟨rfl, hs⟩
  | true =>
    rw [hcond] at h
    cases filter with
    | error e => cases h
    | ok inner =>
      cases h
      obtain ⟨mid, rfl, hs⟩ := hs
      exact .inr ⟨rfl, inner, mid, rfl, rfl, hs⟩

/-- The text of conditions, of which the first is the first node. -/
theorem conditions_spells {next : Option Connector} {n : Node} (hn : n.isCondition)
    (h : Clause.conditions m next (n :: others) = .ok pieces) (hs : Spells pieces text rest) :
    ∃ first more start mid, Clause.condition m n = .ok first ∧
      Clause.conditions m (some .and) others = .ok more ∧ Spells (Clause.tie next) text start ∧
      Spells first start mid ∧ Spells more mid rest := by
  obtain ⟨first, more, hfirst, hmore, rfl⟩ := Clause.conditions_ok hn h
  simp only [spells_append] at hs
  obtain ⟨mid, ⟨start, htie, hsfirst⟩, hsmore⟩ := hs
  exact ⟨first, more, start, mid, hfirst, hmore, htie, hsfirst, hsmore⟩

/-- The text of joins, of which the first is the first node. -/
theorem joins_spells {kind : JoinKind} {index : Alias}
    (h : Clause.joins m (.join kind f index nodes :: others) = .ok pieces)
    (hs : Spells pieces text rest) :
    ∃ column on inner more afterAlias afterOn afterInner,
      m.column? f.descriptor = some column ∧
      Clause.introduce " ON " nodes (Clause.conditions m none nodes) = .ok on ∧
      Clause.joins m nodes = .ok inner ∧ Clause.joins m others = .ok more ∧
      text = (" " ++ kind.keyword ++ " ").toList ++ ("c".toList ++ (Nat.toDigits 10 f.owner ++
        (".".toList ++ (column.toList ++ (" ".toList ++ ("c".toList ++
        (Nat.toDigits 10 index ++ afterAlias))))))) ∧
      Spells on afterAlias afterOn ∧ Spells inner afterOn afterInner ∧
      Spells more afterInner rest := by
  obtain ⟨source, on, inner, more, hsource, hon, hinner, hmore, rfl⟩ := Clause.joins_ok h
  simp only [spells_append] at hs
  obtain ⟨afterInner, ⟨afterOn, ⟨afterAlias, ⟨_, hssource, halias⟩, hson⟩, hsinner⟩, hsmore⟩ := hs
  obtain ⟨_, rfl, hssource⟩ := hssource
  obtain ⟨_, rfl, _, rfl, rfl⟩ := halias
  obtain ⟨column, hcolumn, rfl⟩ := field_spells hsource hssource
  exact ⟨column, on, inner, more, _, afterOn, afterInner, hcolumn, hon, hinner, hmore, rfl, hson,
    hsinner, hsmore⟩

/-- The text of a subquery, part by part. -/
theorem subselect_spells {before : String} {select source joined filter : List Piece}
    {index : Alias}
    (hs : Spells (Clause.subselect (.word before) select source index joined filter) text rest) :
    ∃ start origin afterAlias afterJoins, text = before.toList ++ ("SELECT ".toList ++ start) ∧
      Spells select start (" FROM ".toList ++ origin) ∧
      Spells source origin (" ".toList ++ ("c".toList ++ (Nat.toDigits 10 index ++ afterAlias))) ∧
      Spells joined afterAlias afterJoins ∧ Spells filter afterJoins (")".toList ++ rest) := by
  unfold Clause.subselect at hs
  simp only [spells_append] at hs
  obtain ⟨_, ⟨_, ⟨_, ⟨_, ⟨_, hselect, hfrom⟩, halias⟩, hjoined⟩, hfilter⟩, hclosing⟩ := hs
  obtain ⟨_, rfl, _, rfl, hselect⟩ := hselect
  obtain ⟨_, rfl, hsource⟩ := hfrom
  obtain ⟨_, rfl, _, rfl, rfl⟩ := halias
  obtain ⟨_, rfl, rfl⟩ := hclosing
  exact ⟨_, _, _, _, rfl, hselect, hsource, hjoined, hfilter⟩

end

/-! ### Orderly nodes -/

/-- A node of a scope is orderly: it is tidy, and the scopes inside it have larger aliases than
those around them. -/
structure Node.Orderly (scope : Alias) (n : Node) : Prop where
  tidy : n.Tidy scope
  ascending : n.Ascending
  above : ∀ inner ∈ n.indices, scope < inner

theorem forall_orderly {scope : Alias} {nodes : List Node} (htidy : allTidy scope nodes)
    (hascending : allAscending nodes) (habove : ∀ inner ∈ indicesIn nodes, scope < inner) :
    ∀ n ∈ nodes, n.Orderly scope := fun n hn =>
  ⟨allTidy_iff.mp htidy n hn, allAscending_iff.mp hascending n hn, fun inner hinner =>
    habove inner (indicesIn_eq_flatMap nodes ▸ List.mem_flatMap.mpr ⟨n, hn, hinner⟩)⟩

section

variable {scope index : Alias} {nodes : List Node} {f select : ScopedField} {negated : Bool}

theorem Node.Orderly.bracket (h : (Node.bracket nodes).Orderly scope) :
    hasCondition nodes ∧ ∀ n ∈ nodes, n.Orderly scope :=
  ⟨h.tidy.1, forall_orderly h.tidy.2.2 h.ascending h.above⟩

theorem Node.Orderly.join {kind : JoinKind} (h : (Node.join kind f index nodes).Orderly scope) :
    f.owner = scope ∧ scope < index ∧ ∀ n ∈ nodes, n.Orderly index :=
  ⟨h.tidy.1, h.above index (List.mem_cons_self ..),
    forall_orderly h.tidy.2 h.ascending.2 h.ascending.1⟩

theorem Node.Orderly.existence (h : (Node.existence negated f index nodes).Orderly scope) :
    ∀ n ∈ nodes, n.Orderly index :=
  forall_orderly h.tidy h.ascending.2 h.ascending.1

theorem Node.Orderly.inSubquery {source : EntityModel}
    (h : (Node.inSubquery f negated source index select nodes).Orderly scope) :
    ∀ n ∈ nodes, n.Orderly index :=
  forall_orderly h.tidy h.ascending.2 h.ascending.1

end

/-! ### Where parts end -/

/-- What may stand after the conditions of a scope. -/
inductive Ends : List Char → Prop
  | nothing : Ends []
  | closing (text : List Char) : Ends (")".toList ++ text)
  | filter (text : List Char) : Ends (" WHERE ".toList ++ text)
  | ordering (text : List Char) : Ends (" ORDER BY ".toList ++ text)
  | join (kind : JoinKind) (text : List Char) : Ends ((" " ++ kind.keyword ++ " ").toList ++ text)

/-- What may stand after a condition. -/
inductive Breaks : List Char → Prop
  | ends {text : List Char} : Ends text → Breaks text
  | tie (c : Connector) (text : List Char) : Breaks ((" " ++ c.keyword ++ " ").toList ++ text)

/-- What may stand after the joins that start from a scope, of which the outer scopes have smaller
aliases. -/
inductive EndsJoins (scope : Alias) : List Char → Prop
  | nothing : EndsJoins scope []
  | closing (text : List Char) : EndsJoins scope (")".toList ++ text)
  | filter (text : List Char) : EndsJoins scope (" WHERE ".toList ++ text)
  | ordering (text : List Char) : EndsJoins scope (" ORDER BY ".toList ++ text)
  | join (kind : JoinKind) {owner : Alias} (text : List Char) : owner < scope → EndsJoins scope
      ((" " ++ kind.keyword ++ " ").toList ++
        ("c".toList ++ (Nat.toDigits 10 owner ++ (".".toList ++ text))))

section

variable {text : List Char}

theorem Ends.stops (h : Ends text) : Stops text := by
  cases h with
  | nothing => exact stops_nil
  | closing | filter | ordering => exact stops_word rfl
  | join kind => cases kind <;> exact stops_word rfl

theorem Breaks.stops (h : Breaks text) : Stops text := by
  cases h with
  | ends h => exact h.stops
  | tie c => cases c <;> exact stops_word rfl

theorem EndsJoins.ends {scope : Alias} (h : EndsJoins scope text) : Ends text := by
  cases h with
  | nothing => exact .nothing
  | closing => exact .closing _
  | filter => exact .filter _
  | ordering => exact .ordering _
  | join kind => exact .join kind _

theorem EndsJoins.mono {scope inner : Alias} (hlt : scope < inner) (h : EndsJoins scope text) :
    EndsJoins inner text := by
  cases h with
  | nothing => exact .nothing
  | closing => exact .closing _
  | filter => exact .filter _
  | ordering => exact .ordering _
  | join kind text howner => exact .join kind text (Nat.lt_trans howner hlt)

end

/-! ### How parts begin -/

section

variable {m : Mapping} {pieces : List Piece} {text rest : List Char}

/-- Conditions begin with what ties the first, if there are any. -/
theorem conditions_break (tie : Connector) : ∀ (nodes : List Node) {pieces : List Piece},
    Clause.conditions m (some tie) nodes = .ok pieces → Spells pieces text rest → Ends rest →
    Breaks text
  | [], _, h, hs, hrest => by
    cases h
    obtain rfl := hs
    exact .ends hrest
  | n :: others, pieces, h, hs, hrest => by
    cases hn : n.isCondition with
    | true =>
      obtain ⟨_, _, _, _, -, -, ⟨mid, rfl, -⟩, -⟩ := conditions_spells hn h hs
      exact .tie tie mid
    | false =>
      cases n with
      | connector c => exact conditions_break c others h hs hrest
      | join | orderBy => exact conditions_break tie others h hs hrest
      | _ => cases hn

/-- Joins begin with the keywords of the first, if there are any. -/
theorem joins_start {scope : Alias} : ∀ {nodes : List Node} {pieces : List Piece},
    (∀ n ∈ nodes, n.Orderly scope) → Clause.joins m nodes = .ok pieces →
    Spells pieces text rest →
    text = rest ∨ ∃ (kind : JoinKind) (after : List Char),
      text = (" " ++ kind.keyword ++ " ").toList ++
        ("c".toList ++ (Nat.toDigits 10 scope ++ (".".toList ++ after)))
  | [], _, _, h, hs => by
    cases h
    exact .inl hs
  | n :: others, pieces, horderly, h, hs => by
    obtain ⟨hn, hothers⟩ := List.forall_mem_cons.mp horderly
    cases n with
    | join kind association index nodes =>
      obtain ⟨_, _, _, _, _, _, _, -, -, -, -, rfl, -⟩ := joins_spells h hs
      rw [hn.join.1]
      exact .inr ⟨kind, _, rfl⟩
    | _ => exact joins_start hothers h hs

theorem joins_ends {scope : Alias} {nodes : List Node} (horderly : ∀ n ∈ nodes, n.Orderly scope)
    (h : Clause.joins m nodes = .ok pieces) (hs : Spells pieces text rest) (hrest : Ends rest) :
    Ends text := by
  rcases joins_start horderly h hs with rfl | ⟨kind, after, rfl⟩
  · exact hrest
  · exact .join kind _

/-- The joins inside a join end before the next join that starts from the scope around it. -/
theorem joins_endsJoins {scope inner : Alias} {nodes : List Node}
    (horderly : ∀ n ∈ nodes, n.Orderly scope) (h : Clause.joins m nodes = .ok pieces)
    (hs : Spells pieces text rest) (hlt : scope < inner) (hrest : EndsJoins scope rest) :
    EndsJoins inner text := by
  rcases joins_start horderly h hs with rfl | ⟨kind, after, rfl⟩
  · exact hrest.mono hlt
  · exact .join kind after hlt

/-- A WHERE clause ends the joins before it, if there is one. -/
theorem where_endsJoins {scope : Alias} {nodes : List Node} {filter : Clause}
    (h : Clause.introduce " WHERE " nodes filter = .ok pieces) (hs : Spells pieces text rest)
    (hrest : EndsJoins scope rest) : EndsJoins scope text := by
  rcases introduce_spells h hs with ⟨-, rfl⟩ | ⟨-, _, mid, -, rfl, -⟩
  · exact hrest
  · exact .filter mid

theorem on_stops {nodes : List Node} {filter : Clause}
    (h : Clause.introduce " ON " nodes filter = .ok pieces) (hs : Spells pieces text rest)
    (hrest : Ends rest) : Stops text := by
  rcases introduce_spells h hs with ⟨-, rfl⟩ | ⟨-, _, mid, -, rfl, -⟩
  · exact hrest.stops
  · exact stops_word rfl

theorem Ends.no_on (h : Ends text) : " ON ".toList.isPrefixOf? text = none := by
  cases h with
  | nothing | closing | filter | ordering => rfl
  | join kind => cases kind <;> rfl

end

end EntityQuery
