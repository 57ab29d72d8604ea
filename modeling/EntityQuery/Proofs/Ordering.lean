import EntityQuery.Proofs.Binding
import EntityQuery.Proofs.Check
import EntityQuery.Proofs.Scoping
import EntityQuery.Proofs.Wording
import Mathlib.Data.List.Forall2

/-!
Ordering: what a result is ordered by. The orderings of a statement lie scattered over its nodes, in
brackets and in joins, and a join opened in a group leaves the group and moves in front of it. Only
the counter of positions, which every group and join takes over and hands back, remembers the calls:
the positions in one statement go from zero on without a gap, and sorted by them the orderings stand
in the order of the calls. What a failure took from the counter is forgotten with its stream.

```
calls:  orderBy a · brackets [isIn b, orderBy b, join x [orderBy c]] · orderBy d
nodes:         a₀ · join x [c₂] · (in b · b₁) · d₃
text:   ORDER BY c0.a asc, c0.b asc, c1.c asc, c0.d asc
```
-/

namespace EntityQuery

open EntityQuery.Field

/-! ### Orderings that a program asks for -/

/-- An ordering that is asked for: the field, the alias of the scope, and the direction. -/
structure Ask where
  lookup : Lookup
  index : Alias
  direction : Direction

mutual

/-- The orderings that a call asks for in the statement of its stream, given the stream's entity, its
alias and the next free one. What a subquery asks for belongs to another statement. -/
def Call.asks (entity : Entity) (index next : Alias) : Call → List Ask
  | .orderBy accessor direction => [⟨⟨entity, accessor⟩, index, direction⟩]
  | .brackets configure => asks entity index next configure
  | .join _ _ target configure => asks target next (next + 1) configure
  | _ => []

/-- The orderings that a program asks for in the statement of its stream, in the order of calls. -/
def asks (entity : Entity) (index next : Alias) : List Call → List Ask
  | [] => []
  | call :: rest =>
    call.asks entity index next ++ asks entity index (call.openings.length + next) rest

end

/-- The orderings of a query over an entity that the surviving calls of a program ask for. -/
def asked (entity : Entity) (calls : List Call) (w : Workspace) : List Ask :=
  asks entity rootAlias (rootAlias + 1) (surviving calls (.start entity) w)

section

variable (Means : Lookup → Reference → Prop)

/-- An ordering is one that was asked for. -/
structure Ask.Answers (ask : Ask) (t : Clause.OrderTerm) : Prop where
  means : Means ask.lookup t.field.reference
  owner : t.field.owner = ask.index
  direction : t.direction = ask.direction

/-- Orderings are those that were asked for, one for each, at the positions from a given one on. -/
structure Answered (start : Nat) (asked : List Ask) (terms : List Clause.OrderTerm) : Prop where
  answers : List.Forall₂ (Ask.Answers Means) asked terms
  positions : terms.map (·.position) = List.range' start terms.length

end

/-! ### Orderings of nodes -/

/-- The orderings that a node brings into its statement. -/
def Node.orderTerms (n : Node) : List Clause.OrderTerm := n.inStatement.filterMap Node.orderTerm?

/-- The orderings of nodes are those of the nodes of their statement. -/
theorem flatMap_orderTerms (nodes : List Node) :
    nodes.flatMap Node.orderTerms = (nodesInStatement nodes).filterMap Node.orderTerm? := by
  induction nodes with
  | nil => rfl
  | cons n rest ih =>
    rw [nodesInStatement, List.filterMap_append, ← ih]
    rfl

section

variable {Means : Lookup → Reference → Prop} {s t : Stream} {calls : List Call}

theorem Answered.append {n : Nat} {xs ys : List Ask} {ts us : List Clause.OrderTerm}
    (h : Answered Means n xs ts) (h' : Answered Means (n + ts.length) ys us) :
    Answered Means n (xs ++ ys) (ts ++ us) where
  answers := List.rel_append h.answers h'.answers
  positions := by
    rw [List.map_append, List.length_append, h.positions, h'.positions, List.range'_append_1]

theorem answered_nil (n : Nat) : Answered Means n [] [] := ⟨.nil, rfl⟩

/-- From one stream to another, the orderings that were asked for are added, and counted. -/
def Orders (Means : Lookup → Reference → Prop) (asked : List Ask) (s t : Stream) : Prop :=
  ∃ added, Answered Means s.orders asked added ∧ t.orders = s.orders + added.length ∧
    (t.nodes.flatMap Node.orderTerms).Perm (s.nodes.flatMap Node.orderTerms ++ added)

theorem Orders.append {u : Stream} {xs ys : List Ask} (h : Orders Means xs s t)
    (h' : Orders Means ys t u) : Orders Means (xs ++ ys) s u := by
  obtain ⟨ts, hts, hcount, hperm⟩ := h
  obtain ⟨us, hus, hcount', hperm'⟩ := h'
  refine ⟨ts ++ us, hts.append (hcount ▸ hus), ?_, ?_⟩
  · rw [hcount', hcount, List.length_append, Nat.add_assoc]
  · rw [← List.append_assoc]
    exact hperm'.trans (hperm.append_right us)

/-- Nothing is added by what has no ordering in it. -/
theorem orders_nothing (hcount : t.orders = s.orders)
    (hnodes : t.nodes.flatMap Node.orderTerms = s.nodes.flatMap Node.orderTerms) :
    Orders Means [] s t :=
  ⟨[], answered_nil _, hcount, by rw [hnodes, List.append_nil]⟩

theorem orders_pushCondition {n : Node} (hn : n.orderTerms = []) :
    Orders Means [] s (s.pushCondition n) :=
  orders_nothing rfl (by rw [Stream.flatMap_pushCondition (fun _ => rfl), hn, List.append_nil])

theorem Step.orders {call : Call} (h : Step Means s call t) :
    Orders Means (call.asks s.entity s.index s.nextAlias) s t := by
  cases h with
  | filter | connect | inspect | render => exact orders_nothing rfl rfl
  | compare | nullCheck | isIn | compareOuter => exact orders_pushCondition rfl
  | @orderBy accessor r direction hr =>
    refine ⟨[⟨s.orders, s.bind r, direction⟩], ⟨.cons ⟨hr, rfl, rfl⟩ .nil, rfl⟩, rfl, ?_⟩
    exact .of_eq (Stream.flatMap_push s _)

/-- A program adds the orderings that it asks for to the statement. -/
theorem Builds.orders (h : Builds Means s calls t) :
    Orders Means (asks s.entity s.index s.nextAlias calls) s t := by
  induction h with
  | nil => exact orders_nothing rfl rfl
  | step hstep _ ih =>
    obtain ⟨hentity, hscope, hnext⟩ := hstep.frame
    rw [hentity, Stream.index, hscope, hnext] at ih
    rw [asks, hstep.openings]
    refine hstep.orders.append ?_
    rw [List.length_nil, Nat.zero_add]
    exact ih
  | @brackets s g t configure rest hg _ ihg ih =>
    rw [Stream.acceptGroup_entity, Stream.index, Stream.acceptGroup_scope,
      Stream.acceptGroup_nextAlias, ← hg.nextAlias] at ih
    obtain ⟨added, hadded, hcount, hperm⟩ := ihg
    refine Orders.append ⟨added, hadded, (s.acceptGroup_orders g).trans hcount, ?_⟩ ih
    have hbracket (nodes : List Node) :
        (Node.bracket nodes).orderTerms = nodes.flatMap Node.orderTerms :=
      (flatMap_orderTerms nodes).symm
    exact (Stream.flatMap_acceptGroup (fun _ => rfl) hbracket s g).trans (hperm.append_left _)
  | @join s c t accessor r target configure rest kind hr hc _ ihc ih =>
    obtain ⟨added, hadded, hcount, hperm⟩ := ihc
    rw [asks, Call.openings, hc.child_nextAlias]
    refine Orders.append (t := s.acceptJoin kind (s.bind r) c) ⟨added, hadded, hcount, ?_⟩ ih
    have hjoin : (Node.join kind (s.bind r) c.index c.nodes).orderTerms =
      c.nodes.flatMap Node.orderTerms := (flatMap_orderTerms c.nodes).symm
    have hperm := hperm.append_left (s.nodes.flatMap Node.orderTerms)
    rw [Stream.child, List.flatMap_nil, List.nil_append, ← hjoin, ← Stream.flatMap_push] at hperm
    exact hperm
  -- the orderings of a subquery are counted anew, and not among those of its statement
  | @existence s c t accessor r target configure rest negated hr hc _ _ ih =>
    rw [asks, Call.openings, hc.child_nextAlias]
    exact (orders_pushCondition rfl).append ih
  | @inSubquery s c t accessor select r r' source configure rest negated hr hc _ _ _ ih =>
    rw [asks, Call.openings, hc.child_nextAlias]
    exact (orders_pushCondition rfl).append ih

/-- A join opened in a group is asked for after what the group asked for before. -/
example : asks staff 0 1
    [.brackets [.isIn reports false [], .orderBy reports .asc,
      .join .left reports staff [.orderBy reports .desc]], .orderBy reports .desc] =
    [⟨⟨staff, reports⟩, 0, .asc⟩, ⟨⟨staff, reports⟩, 1, .desc⟩, ⟨⟨staff, reports⟩, 0, .desc⟩] := rfl

end

/-! ### Sorting -/

/-- Orderings in any order, sorted by position, are those at increasing positions. -/
theorem mergeSort_eq {terms sorted : List Clause.OrderTerm} (hperm : terms.Perm sorted)
    (hsorted : (sorted.map (·.position)).Pairwise (· < ·)) :
    terms.mergeSort (·.position ≤ ·.position) = sorted := by
  have hsort := (terms.mergeSort_perm (·.position ≤ ·.position)).trans hperm
  have hle : (terms.mergeSort (·.position ≤ ·.position)).Pairwise
      fun t u => decide (t.position ≤ u.position) = true :=
    List.pairwise_mergeSort (by simp; omega) (by simp; omega) terms
  have hne : ((terms.mergeSort (·.position ≤ ·.position)).map (·.position)).Nodup :=
    (hsort.map _).nodup_iff.mpr (hsorted.imp Nat.ne_of_lt)
  rw [List.Nodup, List.pairwise_map] at hne
  rw [List.pairwise_map] at hsorted
  -- no position is taken twice, so what is sorted is strictly increasing
  have hlt := (hle.and hne).imp fun ⟨hle, hne⟩ => Nat.lt_of_le_of_ne (of_decide_eq_true hle) hne
  exact hsort.eq_of_pairwise (fun t u _ _ htu hut => absurd hut (Nat.lt_asymm htu)) hlt hsorted

/-! ### The ORDER BY clause -/

/-- An ordering as it stands among the pieces of a text, by a column. -/
def Ask.entry (ask : Ask) (column : String) : List Piece :=
  [.aliasOf ask.index, .separator, .name column,
    .word (match ask.direction with | .asc => " asc" | .desc => " desc")]

/-- An ordering as it is spelled, by a column. -/
def Ask.text (c : Conventions) (ask : Ask) (column : String) : String :=
  c.aliasStem ++ toString ask.index ++ c.separator.toString ++ column ++
    match ask.direction with | .asc => " asc" | .desc => " desc"

/-- An ORDER BY clause as it is spelled. -/
def orderText (entries : List String) : String :=
  if entries.isEmpty then "" else " ORDER BY " ++ ", ".intercalate entries

/-- The word before the orderings of a statement. -/
abbrev Clause.orderWord : Piece := .word " ORDER BY "

theorem mem_orderClause {entries : List (List Piece)} :
    Clause.orderWord ∈ orderClause entries ↔ entries ≠ [] := by
  cases entries <;> simp [orderClause]

/-- The column of an ordering. -/
def Clause.OrderTerm.HasColumn (m : Mapping) (t : OrderTerm) (column : String) : Prop :=
  m.column? t.field.descriptor = some column

/-- An entry is spelled, and then what stands behind it. -/
theorem Ask.spellFrom_entry (c : Conventions) (i : Nat) (ask : Ask) (column : String)
    (rest : List Piece) :
    Piece.spellFrom c i (ask.entry column ++ rest) = ask.text c column ++ Piece.spellFrom c i rest := by
  simp only [Ask.entry, Ask.text, List.cons_append, List.nil_append, Piece.spellFrom,
    Conventions.aliasName, String.append_assoc]

/-- Entries one after the other are spelled one after the other. -/
theorem spellFrom_entries (c : Conventions) (i : Nat) : ∀ entries : List (Ask × String),
    Piece.spellFrom c i ([.word ", "].intercalate (entries.map (Function.uncurry Ask.entry))) =
      ", ".intercalate (entries.map (Function.uncurry (Ask.text c)))
  | [] => by simp [Piece.spellFrom]
  | [(ask, column)] => by
    have hentry := ask.spellFrom_entry c i column []
    simpa [Piece.spellFrom] using hentry
  | (ask, column) :: entry :: rest => by
    have ih := spellFrom_entries c i (entry :: rest)
    rw [List.map_cons, List.map_cons] at ih ⊢
    rw [List.map_cons, List.map_cons, List.intercalate_cons_cons, String.intercalate_cons_cons, ← ih,
      List.append_assoc]
    exact (ask.spellFrom_entry c i column _).trans (by rw [String.append_assoc]; rfl)

theorem spellFrom_orderClause (c : Conventions) (i : Nat) (asked : List Ask)
    (columns : List String) :
    Piece.spellFrom c i (orderClause (List.zipWith Ask.entry asked columns)) =
      orderText (List.zipWith (Ask.text c) asked columns) := by
  have hentries := spellFrom_entries c i (asked.zip columns)
  rw [List.map_uncurry_zip_eq_zipWith, List.map_uncurry_zip_eq_zipWith] at hentries
  rw [orderClause, orderText, ← hentries]
  cases asked <;> cases columns <;> rfl

namespace Clause

variable {m : Mapping} {Means : Lookup → Reference → Prop}

/-- Orderings that are written have columns. -/
theorem orderList_columns : ∀ {terms : List OrderTerm} {pieces : List Piece},
    orderList m terms = .ok pieces → ∃ columns, List.Forall₂ (OrderTerm.HasColumn m) terms columns
  | [], _, _ => ⟨[], .nil⟩
  | t :: rest, _, h => by
    obtain ⟨found, others, hfound, hothers, rfl⟩ := orderList_ok h
    obtain ⟨column, hcolumn, rfl⟩ := field_ok hfound
    obtain ⟨columns, hcolumns⟩ := orderList_columns hothers
    exact ⟨column :: columns, .cons hcolumn hcolumns⟩

/-- What is written for orderings are the entries of what was asked for. -/
theorem write_eq_entries {asked : List Ask} {terms : List OrderTerm} {columns : List String}
    (h : List.Forall₂ (Ask.Answers Means) asked terms)
    (hcolumns : List.Forall₂ (OrderTerm.HasColumn m) terms columns) :
    terms.map (·.write m) = List.zipWith Ask.entry asked columns := by
  induction h generalizing columns with
  | nil => cases hcolumns; rfl
  | @cons ask t asked terms hanswers _ ih =>
    cases hcolumns with
    | @cons _ column _ columns hcolumn hcolumns =>
      rw [List.map_cons, ih hcolumns, OrderTerm.write, ScopedField.write, hcolumn, hanswers.owner,
        hanswers.direction]
      rfl

theorem ordering_columns {q : Query} {clause : List Piece} (h : ordering m q.nodes = .ok clause) :
    ∃ columns, List.Forall₂ (OrderTerm.HasColumn m) q.orderings columns := by
  rw [ordering, orderTerms_eq_filterMap, ← Query.orderings] at h
  split at h
  next hterms => exact ⟨[], hterms ▸ .nil⟩
  next terms hterms =>
    obtain ⟨list, hlist, -⟩ := bind_ok h
    exact orderList_columns hlist

end Clause

/-- A statement ends in its ORDER BY clause, and has no other. -/
theorem Query.statement_ends {m : Mapping} {q : Query} {pieces : List Piece}
    (h : q.statement m = .ok pieces) : ∃ front clause, pieces = front ++ clause ∧
      Clause.orderWord ∉ front ∧ Clause.ordering m q.nodes = .ok clause := by
  obtain ⟨front, clause, hpieces, hfront, hclause, -⟩ := Query.statement_composed h
  refine ⟨front, clause, hpieces, fun hmem => ?_, hclause⟩
  have hword : " ORDER BY " ∉ frontWords := by decide
  exact hword (hfront.word_mem hmem)

/-- A query that is rendered ends in what it was asked to be ordered by, and has it nowhere else. -/
theorem Query.written_ends {r : Renderer} {q : Query} {rendered : Rendered}
    (h : r.render q = .ok rendered) {Means : Lookup → Reference → Prop} {asked : List Ask}
    (hasked : List.Forall₂ (Ask.Answers Means) asked q.orderings) :
    ∃ columns, List.Forall₂ (Clause.OrderTerm.HasColumn r.mapping) q.orderings columns ∧
      q.written r.mapping = q.front r.mapping ++ orderClause (List.zipWith Ask.entry asked columns) ∧
      Clause.orderWord ∉ q.front r.mapping := by
  obtain ⟨pieces, hstatement, -⟩ := Renderer.render_ok h
  obtain ⟨front, clause, hpieces, hfront, hclause⟩ := statement_ends hstatement
  obtain rfl : front = q.front r.mapping :=
    List.append_cancel_right (hpieces.symm.trans (statement_front hstatement hclause))
  obtain ⟨columns, hcolumns⟩ := Clause.ordering_columns hclause
  refine ⟨columns, hcolumns, ?_, hfront⟩
  rw [written, orderTerms_eq_filterMap, ← Query.orderings, Clause.write_eq_entries hasked hcolumns]

/-- A query that a program builds is ordered by what the program asks for, in the order of calls. -/
theorem Builds.orderings {Means : Lookup → Reference → Prop} {entity : Entity} {calls : List Call}
    {t : Stream} (h : Builds Means (.start entity) calls t) (changes : List Modifier) :
    Answered Means 0 (asks entity rootAlias (rootAlias + 1) calls)
      (t.build.modifyAll changes).orderings := by
  obtain ⟨added, hadded, -, hperm⟩ := h.orders
  have hsorted : (added.map (·.position)).Pairwise (· < ·) := by
    rw [hadded.positions]
    exact List.pairwise_lt_range' 1
  have horderings : (t.build.modifyAll changes).orderings = added := by
    rw [Query.orderings, (Query.modifyAll_frame changes t.build).1, ← flatMap_orderTerms]
    exact mergeSort_eq hperm hsorted
  rw [horderings]
  exact hadded

/-- The query that a program builds over an entity, with what is changed about it afterwards. -/
def builtQuery (entity : Entity) (calls : List Call) (w : Workspace) (changes : List Modifier) :
    Query :=
  (runAll calls (.start entity) w).stream.build.modifyAll changes

/-- ORDERING: what a query is ordered by are the surviving calls that ask for an ordering on the root
or inside groups and joins, one each, in the order in which they were made: the field, the alias of
the scope and the direction are those of the call, and the positions have no gap. There is an ORDER BY
clause exactly if there was such a call, it is the end of the text, and lists them in this order. -/
theorem orderings_in_call_order (entity : Entity) (calls : List Call) (w : Workspace)
    (changes : List Modifier) :
    List.Forall₂ (Ask.Answers Lookup.Marks) (asked entity calls w)
      (builtQuery entity calls w changes).orderings ∧
    (∀ known, Separated known → Filled known w.store → (∀ l ∈ lookups entity calls, l ∈ known) →
      List.Forall₂ (Ask.Answers (Lookup.Finds known)) (asked entity calls w)
        (builtQuery entity calls w changes).orderings) ∧
    (builtQuery entity calls w changes).orderings.map (·.position) =
      List.range (asked entity calls w).length ∧
    ∀ (r : Renderer) (rendered : Rendered) (q : Query), q = builtQuery entity calls w changes →
      r.render q = .ok rendered → ∃ columns,
      List.Forall₂ (Clause.OrderTerm.HasColumn r.mapping) q.orderings columns ∧
      rendered.text =
        String.join ((Piece.tokensFrom r.conventions 0 (q.front r.mapping)).map (·.text)) ++
          orderText (List.zipWith (Ask.text r.conventions) (asked entity calls w) columns) ∧
      rendered.Binds r.conventions q.page (q.written r.mapping) ∧
      q.written r.mapping = q.front r.mapping ++
        orderClause (List.zipWith Ask.entry (asked entity calls w) columns) ∧
      (Clause.orderWord ∈ q.written r.mapping ↔ asked entity calls w ≠ []) ∧
      Clause.orderWord ∉ q.front r.mapping := by
  have hmarks : Answered Lookup.Marks 0 (asked entity calls w)
      (builtQuery entity calls w changes).orderings :=
    (runAll_builds_marked calls (.start entity) w).orderings changes
  refine ⟨hmarks.answers, fun known hsep hw hk => ?_, ?_, fun r rendered q hq hr => ?_⟩
  · have hbuilds := (runAll_builds (trusted_finds hsep) calls (.start entity) w hw hk).2
    exact (hbuilds.orderings changes).answers
  · rw [hmarks.positions, ← hmarks.answers.length_eq, List.range_eq_range']
  · rw [← hq] at hmarks
    obtain ⟨htext, hbinds⟩ := Renderer.render_written hr
    obtain ⟨columns, hcolumns, hwritten, hfront⟩ := Query.written_ends hr hmarks.answers
    refine ⟨columns, hcolumns, ?_, hbinds, hwritten, ?_, hfront⟩
    · rw [htext, ← Piece.spellFrom_eq_join, ← Piece.spellFrom_eq_join, hwritten,
        Piece.spellFrom_append, spellFrom_orderClause]
    · have hlength := hmarks.answers.length_eq.trans hcolumns.length_eq
      have hnone : columns = [] ↔ asked entity calls w = [] := by
        rw [← List.length_eq_zero_iff, ← hlength, List.length_eq_zero_iff]
      rw [hwritten, List.mem_append, or_iff_right hfront, mem_orderClause, Ne,
        List.zipWith_eq_nil_iff, hnone, or_self]

end EntityQuery
