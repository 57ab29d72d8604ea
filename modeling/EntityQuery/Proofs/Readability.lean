import EntityQuery.Proofs.Spelling

/-!
Readability: the text of a query can be read in one way only. What the clauses of a query write is
read back as its skeleton, part by part: a reader that is given the text of a part, and something
after it that ends the part, reads the part and leaves what stands after it. So two queries with one
text have one skeleton, however the values they bind differ.

```
nodes     --clauses-->   pieces   --spelled-->   text
  |                                               |
  +------------------> skeleton <-----read--------+
```
-/

namespace EntityQuery

open Skeleton

/-! ### Columns and tables -/

/-- Every name that a mapping gives is an identifier. -/
structure Mapping.Identifiers (m : Mapping) : Prop where
  tables : ∀ entity table, m.table? entity = some table → Text.isAsciiIdentifier table.toList
  columns : ∀ descriptor column, m.column? descriptor = some column →
    Text.isAsciiIdentifier column.toList

section

variable {m : Mapping} {f : ScopedField} {pieces : List Piece} {text rest : List Char}

/-- A column is read back after the first character of its alias. -/
theorem field_reads (hm : m.Identifiers) (h : Clause.field m f = .ok pieces)
    (hs : Spells pieces text rest) (hrest : Stops rest) :
    ∃ after, text = "c".toList ++ after ∧ Reader.columnAfter after = some (f.column m, rest) := by
  obtain ⟨column, hcolumn, rfl⟩ := field_spells h hs
  refine ⟨_, rfl, ?_⟩
  have hdot : Stops (".".toList ++ (column.toList ++ rest)) := stops_word rfl
  have hname := Reader.name_append (hm.columns _ _ hcolumn) hrest
  rw [Reader.columnAfter, Reader.bind_eq (Reader.number_append _ hdot),
    Reader.bind_eq (Reader.word_append ..), Reader.bind_eq hname, ScopedField.column, hcolumn]
  rfl

theorem column_reads (hm : m.Identifiers) (h : Clause.field m f = .ok pieces)
    (hs : Spells pieces text rest) (hrest : Stops rest) :
    Reader.column text = some (f.column m, rest) := by
  obtain ⟨after, rfl, hafter⟩ := field_reads hm h hs hrest
  exact hafter

theorem table_reads (hm : m.Identifiers) {entity : EntityModel}
    (h : Clause.table m entity = .ok pieces) (hs : Spells pieces text rest) (hrest : Stops rest) :
    Reader.name text = some (m.tableName entity, rest) := by
  unfold Clause.table at h
  cases htable : m.table? entity with
  | none => rw [htable] at h; cases h
  | some table =>
    rw [htable] at h
    cases h
    obtain ⟨_, rfl, rfl⟩ := hs
    rw [Reader.name_append (hm.tables _ _ htable) hrest, Mapping.tableName, htable]
    rfl

end

/-! ### Conditions without a subquery -/

section

variable {m : Mapping} {f : ScopedField} {pieces : List Piece} {text rest : List Char}

/-- After a comparison nothing stands that could be part of it, or a blank, or a parenthesis. -/
def Parted (text : List Char) : Prop := text = [] ∨ ∃ rest, text = ' ' :: rest ∨ text = ')' :: rest

theorem Breaks.parted (h : Breaks text) : Parted text := by
  cases h with
  | ends h =>
    cases h with
    | nothing => exact .inl rfl
    | closing => exact .inr ⟨_, .inr rfl⟩
    | filter | ordering => exact .inr ⟨_, .inl rfl⟩
    | join kind => cases kind <;> exact .inr ⟨_, .inl rfl⟩
  | tie c => cases c <;> exact .inr ⟨_, .inl rfl⟩

theorem Breaks.right_none (h : Breaks text) : Reader.right text = some (.none, text) := by
  cases h with
  | ends h =>
    cases h with
    | nothing | closing | filter | ordering => rfl
    | join kind => cases kind <;> rfl
  | tie c => cases c <;> rfl

theorem operand_reads (hm : m.Identifiers) {op : CompareOp} {x : Operand}
    (h : Clause.operand m f op x = .ok pieces) (hs : Spells pieces text rest) (hrest : Breaks rest) :
    Parted text ∧ Reader.right text = some (x.right m, rest) := by
  cases x with
  | none =>
    cases h
    obtain rfl := hs
    exact ⟨hrest.parted, hrest.right_none⟩
  | value v =>
    cases h
    obtain ⟨_, rfl, i, mid, rfl, rfl⟩ := hs
    refine ⟨.inr ⟨_, .inl rfl⟩, ?_⟩
    change (Reader.number >>= fun _ => pure Right.value) (Nat.toDigits 10 i ++ mid) = _
    rw [Reader.bind_eq (Reader.number_append i hrest.stops)]
    rfl
  | field g =>
    obtain ⟨column, hcolumn, h⟩ := bind_ok h
    cases h
    obtain ⟨mid, rfl, hs⟩ := hs
    obtain ⟨after, rfl, hafter⟩ := field_reads hm hcolumn hs hrest.stops
    refine ⟨.inr ⟨_, .inl rfl⟩, ?_⟩
    change (Reader.columnAfter >>= fun c => pure (Right.field c)) after = _
    rw [Reader.bind_eq hafter]
    rfl

/-- The comparison of a column is told by the word after it, and that word by what stands after
it. -/
theorem about_token (hparted : Parted text) (column : Column) (op : CompareOp) (depth : Nat)
    (joins : Alias → Reader Joins) (conditions : Reader Conditions) :
    Reader.about column depth joins conditions ((" " ++ op.token).toList ++ text) =
      Reader.comparison column op text := by
  rcases hparted with rfl | ⟨rest, rfl | rfl⟩ <;> cases op <;> rfl

/-- A condition on a column is read as what is said about the column. -/
theorem Reads.about {column : Column} {after mid : List Char} {c : Condition}
    (hafter : Reader.columnAfter after = some (column, mid))
    (h : Reads (fun depth => Reader.about column depth (Reader.joins depth) (Reader.conditions depth))
      mid c rest) : Reads Reader.condition ("c".toList ++ after) c rest :=
  h.deeper fun _ => Reader.bind_eq hafter

theorem predicate_reads (hm : m.Identifiers) {op : CompareOp} {x : Operand}
    (h : Clause.predicate m f op x = .ok pieces) (hs : Spells pieces text rest)
    (hrest : Breaks rest) :
    Reads Reader.condition text (.comparison (f.column m) op (x.right m)) rest := by
  obtain ⟨column, right, hcolumn, hright, rfl⟩ := Clause.predicate_ok h
  rw [spells_append] at hs
  obtain ⟨_, hs, mid, rfl, hs'⟩ := hs
  obtain ⟨hparted, hright⟩ := operand_reads hm hright hs' hrest
  have hstops : Stops ((" " ++ op.token).toList ++ mid) := by
    rw [String.toList_append, List.append_assoc]
    exact stops_word rfl
  obtain ⟨after, rfl, hafter⟩ := field_reads hm hcolumn hs hstops
  have hcomparison : Reader.comparison (f.column m) op mid =
      some (.comparison (f.column m) op (x.right m), rest) := Reader.bind_eq hright
  exact Reads.about hafter ((Reads.of_eq hcomparison).as fun _ => about_token hparted ..)

/-- After the place of a member a comma says that there are more. -/
theorem members_slot (i depth : Nat) (htext : Stops text) :
    Reader.members (depth + 1) (":p".toList ++ (Nat.toDigits 10 i ++ text)) =
      Reader.choose [(",", do return (← Reader.members depth) + 1)] (pure 1) text := by
  rw [Reader.members, Reader.bind_eq (Reader.word_append ..),
    Reader.bind_eq (Reader.number_append i htext)]

theorem members_reads (f : ScopedField) : ∀ {leaves : List Value} {text : List Char},
    leaves ≠ [] → Spells (Clause.members f leaves) text (")".toList ++ rest) →
    Reads Reader.members text leaves.length (")".toList ++ rest)
  | [], _, hne, _ => absurd rfl hne
  | [v], text, _, hs => by
    obtain ⟨i, _, rfl, rfl⟩ := hs
    exact (reads_pure 1 _).deeper fun depth => members_slot i depth (stops_word rfl)
  | v :: w :: vs, text, _, hs => by
    obtain ⟨i, _, rfl, mid, rfl, hs⟩ := hs
    have ih := members_reads f (List.cons_ne_nil w vs) hs
    have hmore : Reads (fun depth => do return (← Reader.members depth) + 1) mid
        (v :: w :: vs).length (")".toList ++ rest) := ih.bind (reads_pure _ _)
    exact hmore.deeper fun depth => members_slot i depth (stops_word rfl)

theorem members_head {f : ScopedField} {v : Value} {vs : List Value}
    (hs : Spells (Clause.members f (v :: vs)) text rest) :
    ∃ after, text = ":p".toList ++ after := by
  cases vs <;> obtain ⟨_, _, rfl, -⟩ := hs <;> exact ⟨_, rfl⟩

theorem membership_reads (hm : m.Identifiers) {negated : Bool} {values : List Value}
    (h : Clause.membership m f negated values = .ok pieces) (hs : Spells pieces text rest) :
    Reads Reader.condition text (Condition.ofMembership m f negated values) rest := by
  unfold Condition.ofMembership
  obtain ⟨hleaves, rfl⟩ | ⟨v, vs, column, hleaves, hcolumn, rfl⟩ := Clause.membership_ok h
  · rw [hleaves]
    obtain ⟨_, rfl, rfl⟩ := hs
    refine (reads_pure _ _).deeper fun _ => ?_
    cases negated <;> rfl
  · rw [hleaves]
    simp only [spells_append] at hs
    obtain ⟨_, ⟨_, hs, mid, rfl, hs'⟩, rest, rfl, rfl⟩ := hs
    have hstops : Stops ((if negated then " not in (" else " in (").toList ++ mid) := by
      cases negated <;> exact stops_word rfl
    obtain ⟨after, rfl, hafter⟩ := field_reads hm hcolumn hs hstops
    have hmembers : Reads (fun depth => Reader.membership depth (f.column m) negated) mid
        (.membership (f.column m) negated (v :: vs).length) rest :=
      (members_reads f (List.cons_ne_nil v vs) hs').bind (.of_eq rfl)
    refine Reads.about hafter (hmembers.as fun depth => ?_)
    -- a list begins with a parameter, and so not as a subquery
    obtain ⟨_, rfl⟩ := members_head hs'
    cases negated <;> rfl

end

/-! ### Scopes -/

section

variable {α β : Type} {m : Mapping} {pieces : List Piece} {text mid rest : List Char}

theorem ofNodes_eq_none : ∀ (nodes : List Node), hasCondition nodes = false →
    Conditions.ofNodes m nodes = .none
  | [], _ => rfl
  | n :: rest, h => by
    rw [hasCondition, List.any_cons, Bool.or_eq_false_iff] at h
    cases n with
    | connector | join | orderBy => exact ofNodes_eq_none rest h.2
    | _ => cases h.1

/-- Conditions are read after the word that introduces them, or not at all. -/
theorem introduced_reads {s : String} {nodes : List Node} {filter : Clause}
    (h : Clause.introduce s nodes filter = .ok pieces) (hs : Spells pieces text rest)
    (hrest : s.toList.isPrefixOf? rest = none)
    (hfilter : ∀ inner text, hasCondition nodes → filter = .ok inner → Spells inner text rest →
      Reads Reader.conditions text (Conditions.ofNodes m nodes) rest) :
    Reads (fun depth => Reader.introduced s (Reader.conditions depth)) text
      (Conditions.ofNodes m nodes) rest := by
  rcases introduce_spells h hs with ⟨hcond, rfl⟩ | ⟨hcond, inner, mid, hinner, rfl, hsinner⟩
  · rw [ofNodes_eq_none nodes hcond]
    exact (reads_pure _ _).as fun depth => Reader.choose_skip _ _ _ _ hrest
  · exact (hfilter inner mid hcond hinner hsinner).as fun depth => Reader.choose_append ..

/-- The joins and the conditions of a statement are read, if those of its nodes are. -/
theorem scope_reads {scope : Alias} {nodes : List Node} {joined filter : List Piece}
    (horderly : ∀ n ∈ nodes, n.Orderly scope) (hjoined : Clause.joins m nodes = .ok joined)
    (hfilter : Clause.introduce " WHERE " nodes (Clause.conditions m none nodes) = .ok filter)
    (hsjoined : Spells joined text mid) (hsfilter : Spells filter mid rest)
    (hends : EndsJoins scope rest) (hrest : " WHERE ".toList.isPrefixOf? rest = none)
    (hjoins : EndsJoins scope mid →
      Reads (fun depth => Reader.joins depth scope) text (Joins.ofNodes m nodes) mid)
    (hconditions : ∀ inner text, hasCondition nodes → Clause.conditions m none nodes = .ok inner →
      Spells inner text rest → Reads Reader.conditions text (Conditions.ofNodes m nodes) rest) :
    Stops text ∧ Reads (fun depth => Reader.joins depth scope) text (Joins.ofNodes m nodes) mid ∧
      Reads (fun depth => Reader.introduced " WHERE " (Reader.conditions depth)) mid
        (Conditions.ofNodes m nodes) rest := by
  have hmid := where_endsJoins hfilter hsfilter hends
  exact ⟨(joins_ends horderly hjoined hsjoined hmid.ends).stops, hjoins hmid,
    introduced_reads hfilter hsfilter hrest hconditions⟩

/-- A subquery is read part by part from what it selects. -/
theorem subselect_reads {select : Reader α} {source : Reader β} {a : α} {b : β} {index : Alias}
    {origin joined filter : List Char} {js : Joins} {cs : Conditions}
    (make : α → β → Alias → Joins → Conditions → Condition)
    (hselect : select text = some (a, " FROM ".toList ++ origin))
    (hsource : source origin =
      some (b, " ".toList ++ ("c".toList ++ (Nat.toDigits 10 index ++ joined))))
    (hstops : Stops joined) (hjoins : Reads (fun depth => Reader.joins depth index) joined js filter)
    (hfilter : Reads (fun depth => Reader.introduced " WHERE " (Reader.conditions depth)) filter cs
      (")".toList ++ rest)) :
    Reads (fun depth => Reader.subselect select source (Reader.joins depth)
      (Reader.conditions depth) make) text (make a b index js cs) rest :=
  (Reads.of_eq hselect).bind <| (Reads.of_eq (Reader.word_append ..)).bind <|
    (Reads.of_eq hsource).bind <| (Reads.of_eq (Reader.word_append ..)).bind <|
    (Reads.of_eq (Reader.aliasOf_append index hstops)).bind <| hjoins.bind <| hfilter.bind <|
    (Reads.of_eq (Reader.word_append ..)).bind <| reads_pure _ _

/-- A join is read part by part from the column that it follows. -/
theorem joinRest_reads {scope index : Alias} {column : String} {origin on after : List Char}
    {cs : Conditions} {inner others : Joins} (kind : JoinKind)
    (hcolumn : Text.isAsciiIdentifier column.toList) (hstops : Stops origin)
    (hon : Reads (fun depth => Reader.introduced " ON " (Reader.conditions depth)) origin cs on)
    (hinner : Reads (fun depth => Reader.joins depth index) on inner after)
    (hothers : Reads (fun depth => Reader.joins depth scope) after others rest) :
    Reads (fun depth => Reader.joinRest kind scope (Reader.joins depth) (Reader.conditions depth))
      (".".toList ++ (column.toList ++ (" ".toList ++ ("c".toList ++
        (Nat.toDigits 10 index ++ origin)))))
      (.join kind ⟨scope, column⟩ index cs inner others) rest := by
  have hname : ∀ text, Reader.name (column.toList ++ (" ".toList ++ text)) =
      some (column, " ".toList ++ text) := fun text => Reader.name_append hcolumn (stops_word rfl)
  exact (Reads.of_eq (Reader.word_append ..)).bind <| (Reads.of_eq (hname _)).bind <|
    (Reads.of_eq (Reader.word_append ..)).bind <|
    (Reads.of_eq (Reader.aliasOf_append index hstops)).bind <|
    hon.bind <| hinner.bind <| hothers.bind <| reads_pure _ _

end

/-! ### Nodes -/

section

variable {m : Mapping} {text rest : List Char}

/-- A join that starts from a scope is told from the text after the joins of the scope by the
instance that it starts from. -/
theorem joins_step (depth : Nat) (scope : Alias) (kind : JoinKind) {owner : Alias}
    (htext : Stops text) :
    Reader.joins (depth + 1) scope ((" " ++ kind.keyword ++ " ").toList ++
        ("c".toList ++ (Nat.toDigits 10 owner ++ text))) =
      if owner = scope then
        Reader.joinRest kind scope (Reader.joins depth) (Reader.conditions depth) text
      else some (.none, (" " ++ kind.keyword ++ " ").toList ++
        ("c".toList ++ (Nat.toDigits 10 owner ++ text))) := by
  have hstart : Reader.joinStart ((" " ++ kind.keyword ++ " ").toList ++
      ("c".toList ++ (Nat.toDigits 10 owner ++ text))) = some (some (kind, owner), text) := by
    cases kind <;> exact Reader.bind_eq (Reader.number_append owner htext)
  simp only [Reader.joins, hstart]

theorem EndsJoins.reads_none {scope : Alias} (h : EndsJoins scope text) :
    Reads (fun depth => Reader.joins depth scope) text .none text := by
  refine (reads_pure Joins.none text).deeper fun depth => ?_
  cases h with
  | nothing | closing | filter | ordering => rfl
  | join kind text hlt =>
    have hdot : Stops (".".toList ++ text) := stops_word rfl
    rw [joins_step depth scope kind hdot, if_neg (Nat.ne_of_lt hlt)]
    rfl

theorem Ends.reads_done (h : Ends text) : Reads Reader.more text .done text := by
  refine (reads_pure More.done text).deeper fun depth => ?_
  cases h with
  | nothing | closing | filter | ordering => rfl
  | join kind => cases kind <;> rfl

mutual

/-- The joins of a scope are read back. -/
theorem joins_reads (hm : m.Identifiers) (scope : Alias) : ∀ (nodes : List Node)
    (pieces : List Piece) (text rest : List Char), (∀ n ∈ nodes, n.Orderly scope) →
    Clause.joins m nodes = .ok pieces → Spells pieces text rest → EndsJoins scope rest →
    Reads (fun depth => Reader.joins depth scope) text (Joins.ofNodes m nodes) rest
  | [], _, text, rest, _, h, hs, hrest => by
    cases h
    obtain rfl := hs
    exact hrest.reads_none
  | n :: others, pieces, text, rest, horderly, h, hs, hrest => by
    obtain ⟨hn, hothers⟩ := List.forall_mem_cons.mp horderly
    cases n with
    | join kind association index nodes =>
      obtain ⟨howner, hlt, hinside⟩ := hn.join
      obtain ⟨column, on, inner, more, afterAlias, afterOn, afterInner, hcolumn, hon, hinner, hmore,
        rfl, hson, hsinner, hsmore⟩ := joins_spells h hs
      -- the parts end where the next one begins, so the last one is looked at first
      have hendsInner := joins_endsJoins hothers hmore hsmore hlt hrest
      have hendsOn := joins_ends hinside hinner hsinner hendsInner.ends
      have hstops := on_stops hon hson hendsOn
      have hon := introduced_reads hon hson hendsOn.no_on fun inner text hcond h hs =>
        conditions_reads hm index nodes inner text afterOn hinside hcond h hs hendsOn
      have hinner := joins_reads hm index nodes inner _ _ hinside hinner hsinner hendsInner
      have hmore := joins_reads hm scope others more _ _ hothers hmore hsmore hrest
      have hread := joinRest_reads kind (hm.columns _ _ hcolumn) hstops hon hinner hmore
      rw [Joins.ofNodes, ScopedField.column, hcolumn, howner]
      refine hread.deeper fun depth => ?_
      rw [joins_step depth scope kind (stops_word (s := ".") rfl), if_pos rfl]
    | _ => exact joins_reads hm scope others pieces text rest hothers h hs hrest

/-- The conditions of a scope are read back. -/
theorem conditions_reads (hm : m.Identifiers) (scope : Alias) : ∀ (nodes : List Node)
    (pieces : List Piece) (text rest : List Char), (∀ n ∈ nodes, n.Orderly scope) →
    hasCondition nodes → Clause.conditions m none nodes = .ok pieces → Spells pieces text rest →
    Ends rest → Reads Reader.conditions text (Conditions.ofNodes m nodes) rest
  | [], _, _, _, _, hcond, _, _, _ => by cases hcond
  | n :: others, pieces, text, rest, horderly, hcond, h, hs, hrest => by
    obtain ⟨hn, hothers⟩ := List.forall_mem_cons.mp horderly
    cases hcondition : n.isCondition with
    | true =>
      obtain ⟨first, more, _, mid, hfirst, hmore, rfl, hsfirst, hsmore⟩ :=
        conditions_spells hcondition h hs
      have hbreaks := conditions_break .and others hmore hsmore hrest
      obtain ⟨c, hc, hfirst⟩ :=
        condition_reads hm scope n hcondition hn first _ mid hfirst hsfirst hbreaks
      have hmore := more_reads hm scope .and others more mid rest hothers hmore hsmore hrest
      have hread : Reads (fun depth => Reader.first (Reader.condition depth) (Reader.more depth))
          text (.first c (More.ofNodes m .and others)) rest :=
        hfirst.bind <| hmore.bind <| reads_pure _ _
      rw [Conditions.ofNodes, hc]
      exact hread.deeper fun _ => rfl
    | false =>
      cases n with
      | connector | join | orderBy =>
        exact conditions_reads hm scope others pieces text rest hothers hcond h hs hrest
      | _ => cases hcondition

/-- The conditions after one are read back. -/
theorem more_reads (hm : m.Identifiers) (scope : Alias) (tie : Connector) : ∀ (nodes : List Node)
    (pieces : List Piece) (text rest : List Char), (∀ n ∈ nodes, n.Orderly scope) →
    Clause.conditions m (some tie) nodes = .ok pieces → Spells pieces text rest → Ends rest →
    Reads Reader.more text (More.ofNodes m tie nodes) rest
  | [], _, text, rest, _, h, hs, hrest => by
    cases h
    obtain rfl := hs
    exact hrest.reads_done
  | n :: others, pieces, text, rest, horderly, h, hs, hrest => by
    obtain ⟨hn, hothers⟩ := List.forall_mem_cons.mp horderly
    cases hcondition : n.isCondition with
    | true =>
      obtain ⟨first, more, start, mid, hfirst, hmore, ⟨_, rfl, rfl⟩, hsfirst, hsmore⟩ :=
        conditions_spells hcondition h hs
      have hbreaks := conditions_break .and others hmore hsmore hrest
      obtain ⟨c, hc, hfirst⟩ :=
        condition_reads hm scope n hcondition hn first _ mid hfirst hsfirst hbreaks
      have hmore := more_reads hm scope .and others more mid rest hothers hmore hsmore hrest
      have hread : Reads
          (fun depth => Reader.next (Reader.condition depth) (Reader.more depth) tie) _
          (.next tie c (More.ofNodes m .and others)) rest :=
        hfirst.bind <| hmore.bind <| reads_pure _ _
      have hnodes : More.ofNodes m tie (n :: others) = .next tie c (More.ofNodes m .and others) := by
        cases n with
        | connector => cases hcondition
        | _ => simp only [More.ofNodes, hc]
      rw [hnodes]
      refine hread.deeper fun _ => ?_
      cases tie <;> rfl
    | false =>
      cases n with
      | connector c => exact more_reads hm scope c others pieces text rest hothers h hs hrest
      | join | orderBy => exact more_reads hm scope tie others pieces text rest hothers h hs hrest
      | _ => cases hcondition

/-- A condition is read back. -/
theorem condition_reads (hm : m.Identifiers) (scope : Alias) : ∀ n : Node, n.isCondition →
    n.Orderly scope → ∀ (pieces : List Piece) (text rest : List Char),
    Clause.condition m n = .ok pieces → Spells pieces text rest → Breaks rest →
    ∃ c, Condition.ofNode? m n = some c ∧ Reads Reader.condition text c rest
  | .predicate f op x, _, _, pieces, text, rest, h, hs, hrest =>
    ⟨_, rfl, predicate_reads hm h hs hrest⟩
  | .inList f negated values, _, _, pieces, text, rest, h, hs, hrest =>
    ⟨_, rfl, membership_reads hm h hs⟩
  | .bracket nodes, _, horderly, pieces, text, rest, h, hs, hrest => by
    refine ⟨_, rfl, ?_⟩
    obtain ⟨hcond, hinside⟩ := horderly.bracket
    obtain ⟨inner, hinner, rfl⟩ := Clause.bracket_ok h
    rw [spells_append] at hs
    obtain ⟨_, ⟨start, rfl, hs⟩, _, rfl, rfl⟩ := hs
    have hread : Reads (fun depth => Reader.group (Reader.conditions depth)) start
        (.group (Conditions.ofNodes m nodes)) _ :=
      (conditions_reads hm scope nodes inner start _ hinside hcond hinner hs (.closing _)).bind <|
        (Reads.of_eq (Reader.word_append ..)).bind <| reads_pure _ _
    exact hread.deeper fun _ => rfl
  | .existence negated association index nodes, _, horderly, pieces, text, rest, h, hs, hrest => by
    refine ⟨_, rfl, ?_⟩
    have hinside := horderly.existence
    obtain ⟨source, joined, filter, hsource, hjoined, hfilter, rfl⟩ := Clause.existence_ok h
    obtain ⟨_, origin, afterAlias, afterJoins, rfl, ⟨_, rfl, rfl⟩, hssource, hsjoined, hsfilter⟩ :=
      subselect_spells hs
    obtain ⟨hstops, hjoins, hfilter⟩ := scope_reads hinside hjoined hfilter hsjoined hsfilter
      (.closing rest) rfl (joins_reads hm index nodes joined _ _ hinside hjoined hsjoined)
      fun inner text hcond h hs =>
        conditions_reads hm index nodes inner text _ hinside hcond h hs (.closing rest)
    have hread := subselect_reads (fun _ source => .existence negated source)
      (Reader.aliasOf_append index (stops_word rfl))
      (column_reads hm hsource hssource (stops_word rfl)) hstops hjoins hfilter
    refine hread.deeper fun _ => ?_
    cases negated <;> rfl
  | .inSubquery f negated source index select nodes, _, horderly, pieces, text, rest, h, hs,
      hrest => by
    refine ⟨_, rfl, ?_⟩
    have hinside := horderly.inSubquery
    obtain ⟨column, selected, table, joined, filter, hcolumn, hselected, htable, hjoined, hfilter,
      rfl⟩ := Clause.inSubquery_ok h
    rw [spells_append] at hs
    obtain ⟨_, hscolumn, hs⟩ := hs
    obtain ⟨start, origin, afterAlias, afterJoins, rfl, hsselected, hstable, hsjoined, hsfilter⟩ :=
      subselect_spells hs
    obtain ⟨hstops, hjoins, hfilter⟩ := scope_reads hinside hjoined hfilter hsjoined hsfilter
      (.closing rest) rfl (joins_reads hm index nodes joined _ _ hinside hjoined hsjoined)
      fun inner text hcond h hs =>
        conditions_reads hm index nodes inner text _ hinside hcond h hs (.closing rest)
    have hread := subselect_reads
      (fun select table index => .inSubquery (f.column m) negated table index select)
      (column_reads hm hselected hsselected (stops_word rfl))
      (table_reads hm htable hstable (stops_word rfl)) hstops hjoins hfilter
    have hword : ∀ text, Stops ((if negated then " not in (" else " in (").toList ++ text) := by
      cases negated <;> exact fun _ => stops_word rfl
    obtain ⟨after, rfl, hafter⟩ := field_reads hm hcolumn hscolumn (hword _)
    refine Reads.about hafter (hread.as fun _ => ?_)
    cases negated <;> rfl

end

end

/-! ### Statements -/

section

variable {m : Mapping} {pieces : List Piece} {text : List Char}

/-- After an ordering a comma says that there are more. -/
theorem orders_step (depth : Nat) {column : Column} {direction : Direction} {rest : List Char}
    (hcolumn : Reader.column text = some (column, (" " ++ direction.keyword).toList ++ rest)) :
    Reader.orders (depth + 1) text =
      Reader.choose [(", ", do return (column, direction) :: (← Reader.orders depth))]
        (pure [(column, direction)]) rest := by
  have hdirection : Reader.choose [(" asc", pure .asc), (" desc", pure .desc)] failure
      ((" " ++ direction.keyword).toList ++ rest) = some (direction, rest) := by
    cases direction <;> rfl
  rw [Reader.orders, Reader.bind_eq hcolumn, Reader.bind_eq hdirection]

/-- The orderings at the end of a text are read back. -/
theorem orderList_reads (hm : m.Identifiers) : ∀ (terms : List Clause.OrderTerm)
    (pieces : List Piece) (text : List Char), terms ≠ [] → Clause.orderList m terms = .ok pieces →
    Spells pieces text [] →
    Reads Reader.orders text (terms.map fun t => (t.field.column m, t.direction)) []
  | [], _, _, hne, _, _ => absurd rfl hne
  | t :: others, pieces, text, _, h, hs => by
    obtain ⟨column, more, hcolumn, hmore, rfl⟩ := Clause.orderList_ok h
    simp only [spells_append] at hs
    obtain ⟨mid, ⟨_, hscolumn, rest, rfl, hscomma⟩, hsmore⟩ := hs
    have hkeyword : Stops ((" " ++ t.direction.keyword).toList ++ rest) := by
      cases t.direction <;> exact stops_word rfl
    have hcolumn := column_reads hm hcolumn hscolumn hkeyword
    cases others with
    | nil =>
      cases hmore
      obtain rfl := hscomma
      obtain rfl := hsmore
      exact (reads_pure _ _).deeper fun depth => orders_step depth hcolumn
    | cons next others =>
      obtain ⟨_, rfl, rfl⟩ := hscomma
      have hmore :=
        orderList_reads hm (next :: others) more _ (List.cons_ne_nil _ _) hmore hsmore
      have hread : Reads
          (fun depth => do return (t.field.column m, t.direction) :: (← Reader.orders depth)) _
          ((t :: next :: others).map fun t => (t.field.column m, t.direction)) [] :=
        hmore.bind (reads_pure _ _)
      exact hread.deeper fun depth => (orders_step depth hcolumn).trans (Reader.choose_append ..)

theorem ordering_reads (hm : m.Identifiers) {nodes : List Node}
    (h : Clause.ordering m nodes = .ok pieces) (hs : Spells pieces text []) :
    EndsJoins rootAlias text ∧ " WHERE ".toList.isPrefixOf? text = none ∧
      Reads (fun depth => Reader.choose [(" ORDER BY ", Reader.orders depth)] (pure [])) text
        (ordersOf m nodes) [] := by
  unfold Clause.ordering at h
  unfold ordersOf
  cases hterms : (Clause.orderTerms nodes).mergeSort (·.position ≤ ·.position) with
  | nil =>
    rw [hterms] at h
    cases h
    obtain rfl := hs
    exact ⟨.nothing, rfl, (reads_pure [] []).as fun _ => rfl⟩
  | cons t others =>
    rw [hterms] at h
    obtain ⟨list, hlist, h⟩ := bind_ok h
    cases h
    obtain ⟨mid, rfl, hs⟩ := hs
    have hlist := orderList_reads hm (t :: others) list mid (List.cons_ne_nil _ _) hlist hs
    exact ⟨.ordering mid, rfl, hlist.as fun depth => Reader.choose_append ..⟩

/-- Of what can be selected, each begins with a word of its own. -/
theorem selection_reads {q : Query} {rest : List Char} (hroot : q.root = rootAlias)
    (hs : Spells q.selection text (" FROM ".toList ++ rest)) :
    Reader.selection text = some ((q.projection, q.distinct), " FROM ".toList ++ rest) := by
  unfold Query.selection Query.head Head.selection at hs
  rw [hroot] at hs
  cases hprojection : q.projection <;> cases hdistinct : q.distinct <;>
    rw [hprojection, hdistinct] at hs
  · obtain ⟨_, rfl, rfl⟩ := hs
    rfl
  · obtain ⟨_, rfl, _, rfl, rfl⟩ := hs
    rfl
  · obtain ⟨_, rfl, _, rfl, _, rfl, rfl⟩ := hs
    rfl
  · obtain ⟨_, rfl, _, rfl, _, rfl, rfl⟩ := hs
    rfl

/-- A statement is read back. -/
theorem statement_reads (hm : m.Identifiers) {q : Query} (hroot : q.root = rootAlias)
    (horderly : ∀ n ∈ q.nodes, n.Orderly q.root) (h : q.statement m = .ok pieces)
    (hs : Spells pieces text []) : Reads Reader.statement text (q.skeleton m) [] := by
  obtain ⟨table, joined, filter, ordering, htable, hjoined, hfilter, hordering, rfl⟩ :=
    Query.statement_ok h
  simp only [spells_append] at hs
  obtain ⟨_, ⟨_, ⟨_, ⟨_, ⟨_, hsselection, hstable⟩, hsalias⟩, hsjoined⟩, hsfilter⟩, hsordering⟩ := hs
  obtain ⟨_, rfl, hsselection⟩ := hsselection
  obtain ⟨_, rfl, hstable⟩ := hstable
  obtain ⟨_, rfl, _, rfl, rfl⟩ := hsalias
  obtain ⟨hends, hnowhere, hordering⟩ := ordering_reads hm hordering hsordering
  rw [← hroot] at hends
  obtain ⟨hstops, hjoins, hfilter⟩ := scope_reads horderly hjoined hfilter hsjoined hsfilter hends
    hnowhere (joins_reads hm q.root q.nodes joined _ _ horderly hjoined hsjoined)
    fun inner text hcond h hs =>
      conditions_reads hm q.root q.nodes inner text _ horderly hcond h hs hends.ends
  have htable := table_reads hm htable hstable (stops_word rfl)
  exact (Reads.of_eq (Reader.word_append ..)).bind <|
    (Reads.of_eq (selection_reads hroot hsselection)).bind <|
    (Reads.of_eq (Reader.word_append ..)).bind <| (Reads.of_eq htable).bind <|
    (Reads.of_eq (Reader.word_append ..)).bind <|
    (Reads.of_eq (Reader.aliasOf_append q.root hstops)).bind <| hjoins.bind <| hfilter.bind <|
    hordering.bind <| reads_pure _ _

end

/-! ### Built queries -/

/-- A query is built if a program makes its nodes and modifiers change the rest. -/
def Query.Built (q : Query) : Prop :=
  ∃ (entity : Entity) (calls : List Call) (w : Workspace) (changes : List Modifier),
    q = (runAll calls (.start entity) w).stream.build.modifyAll changes

/-- A built query has the nodes that calls on a stream have left there, and starts at its root. -/
theorem Query.Built.builds {q : Query} (h : q.Built) :
    q.root = rootAlias ∧ ∃ (entity : Entity) (calls : List Call) (t : Stream),
      Builds Lookup.Marks (.start entity) calls t ∧ q.nodes = t.nodes := by
  obtain ⟨entity, calls, w, changes, rfl⟩ := h
  have hbuilds := runAll_builds_marked calls (.start entity) w
  obtain ⟨hnodes, hroot⟩ := hbuilds.modifyAll_frame changes
  exact ⟨hroot, entity, _, _, hbuilds, hnodes⟩

theorem Query.Built.orderly {q : Query} (h : q.Built) :
    q.root = rootAlias ∧ ∀ n ∈ q.nodes, n.Orderly q.root := by
  obtain ⟨hroot, entity, calls, t, hbuilds, hnodes⟩ := h.builds
  refine ⟨hroot, ?_⟩
  rw [hnodes, hroot]
  refine forall_orderly (allTidy_iff.mpr ?_) (allAscending_iff.mpr ?_) fun inner hinner => ?_
  · exact hbuilds.tidy (List.forall_mem_nil _)
  · exact hbuilds.ascending (List.forall_mem_nil _)
  · have hrange := hbuilds.indices.mem_iff.mp hinner
    exact (List.mem_range'_1.mp hrange).1

/-- The text of a built query is read back as its skeleton. -/
theorem Query.Built.reads {m : Mapping} (hm : m.Identifiers) {q : Query} (hq : q.Built)
    {rendered : Rendered} (h : Renderer.render ⟨{}, m⟩ q = .ok rendered) :
    Reads Reader.statement rendered.text.toList (q.skeleton m) [] := by
  obtain ⟨hroot, horderly⟩ := hq.orderly
  obtain ⟨pieces, hstatement, rfl⟩ := Renderer.render_ok h
  have hspells := spells_spellFrom [] 0 pieces
  rw [List.append_nil] at hspells
  exact statement_reads hm hroot horderly hstatement hspells

/-- READABILITY: if names are identifiers, the text of a built query says all that its skeleton does.
Two built queries whose texts are equal under the default conventions have the same projection, root
and orderings, the same tree of joins, and the same conditions, tied and grouped alike. -/
theorem equal_texts_equal_skeletons {m : Mapping} (hm : m.Identifiers) {q q' : Query} (hq : q.Built)
    (hq' : q'.Built) {rendered rendered' : Rendered} (h : Renderer.render ⟨{}, m⟩ q = .ok rendered)
    (h' : Renderer.render ⟨{}, m⟩ q' = .ok rendered') (htext : rendered.text = rendered'.text) :
    q.skeleton m = q'.skeleton m := by
  have hread := hq.reads hm h
  rw [htext] at hread
  exact (hread.unique (hq'.reads hm h')).1

/-- Table `t` and column `x` for everything. -/
def onlyNames : Mapping := ⟨fun _ => some "t", fun _ => some "x"⟩

/-- Staff whose superior is a value, asked for with a connector in front of everything. -/
def compared (v : Value) : Query :=
  (runAll [.connect .or, .compare reports .eq v] (.start staff) untouched).stream.build

theorem equal_texts_equal_skeletons_values :
    onlyNames.Identifiers ∧ (compared .null).Built ∧ (compared (.bool true)).Built ∧
      ∃ rendered rendered', Renderer.render ⟨{}, onlyNames⟩ (compared .null) = .ok rendered ∧
        Renderer.render ⟨{}, onlyNames⟩ (compared (.bool true)) = .ok rendered' ∧
        rendered.text = rendered'.text ∧
        (compared .null).skeleton onlyNames = (compared (.bool true)).skeleton onlyNames := by
  have hnames : onlyNames.Identifiers :=
    ⟨fun _ table h => by cases h; decide, fun _ column h => by cases h; decide⟩
  have hbuilt : ∀ v, (compared v).Built := fun v => ⟨staff, _, untouched, [], rfl⟩
  obtain ⟨r, hnodes⟩ : ∃ r, ∀ v, (compared v).nodes = [.predicate ⟨r, 0⟩ .eq (.value v)] :=
    ⟨_, fun _ => rfl⟩
  have hstatement : ∀ v, (compared v).statement onlyNames = .ok [.word "SELECT ", .aliasOf 0,
      .word " FROM ", .name "t", .word " ", .aliasOf 0, .word " WHERE ", .aliasOf 0, .separator,
      .name "x", .word (" " ++ CompareOp.eq.token), .word " ",
      .slot ⟨v, r.descriptor.temporal, false⟩] := by
    intro v
    have hordering : Clause.ordering onlyNames (compared v).nodes = .ok [] :=
      Clause.ordering_eq_nil _ (by simp [hnodes, Clause.orderTerms])
    rw [Query.statement_clauses, hordering, hnodes]
    rfl
  have hrender := fun v => congrArg (Except.map (Piece.render {} {})) (hstatement v)
  exact ⟨hnames, hbuilt _, hbuilt _, _, _, hrender _, hrender _, rfl,
    equal_texts_equal_skeletons hnames (hbuilt _) (hbuilt _) (hrender .null) (hrender (.bool true))
      rfl⟩

end EntityQuery
