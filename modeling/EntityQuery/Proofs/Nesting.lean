import EntityQuery.Proofs.Binding
import EntityQuery.Proofs.Ordering
import EntityQuery.Proofs.Selection
import EntityQuery.Proofs.Shape

/-!
Nesting: what a query shows of the lists that its memberships were asked with. A list is taken apart
into its leaves before anything else is decided, so nothing of its nesting is left: where there is a
leaf, each has a place of its own, numbered on from the places before, and where there is none the
membership is a constant. Programs that differ in the nesting only do the same, call by call.

```
isIn id [3, [[], [null]], [7]]     … WHERE c0.id in (:p0,:p1,:p2)     3, null, 7
isIn id [[], [[]]]                 … WHERE 1 = 0                       no parameter, no column
```
-/

namespace EntityQuery

open EntityQuery.Field

/-! ### One membership -/

/-- A membership in nothing, as it stands in a text. -/
def emptyText (negated : Bool) : String := if negated then "1 = 1" else "1 = 0"

/-- A membership in some values, as it stands in a text: its column, and the places of the values,
numbered from the first on. -/
def listText (c : Conventions) (owner : Alias) (column : String) (negated : Bool)
    (first count : Nat) : String :=
  c.aliasName owner ++ c.separator.toString ++ column ++
    (if negated then " not in (" else " in (") ++
    ",".intercalate ((List.range' first count).map c.placeholder) ++ ")"

/-- Values as parameters, numbered from the first on. -/
def listParameters (c : Conventions) (temporal : Option TemporalKind) (first : Nat)
    (values : List Value) : List Parameter :=
  values.mapIdx fun i v => ⟨c.parameterName (first + i), v, temporal⟩

namespace Clause

variable {m : Mapping} {f : ScopedField} {negated : Bool} {values : List Value}

theorem members_spell (c : Conventions) (f : ScopedField) : ∀ (vs : List Value) (first : Nat),
    Piece.spellFrom c first (members f vs) =
      ",".intercalate ((List.range' first vs.length).map c.placeholder)
  | [], _ => rfl
  | [_], first => by
    show c.placeholder first ++ "" = _
    rw [String.append_empty]
    rfl
  | _ :: w :: vs, first => by
    have ih := members_spell c f (w :: vs) (first + 1)
    show c.placeholder first ++ ("," ++ Piece.spellFrom c (first + 1) (members f (w :: vs))) = _
    rw [ih, ← String.append_assoc]
    simp only [List.length_cons, List.range'_succ, List.map_cons, String.intercalate_cons_cons]

/-- A list without a leaf is not written, and its field is not looked up. -/
theorem membership_empty (m : Mapping) (f : ScopedField) (negated : Bool)
    (h : Value.leavesOf values = []) :
    membership m f negated values = .ok [.word (emptyText negated)] := by
  rw [membership, h]
  rfl

theorem membership_listed {own : List Piece} (h : membership m f negated values = .ok own)
    (hleaves : Value.leavesOf values ≠ []) (c : Conventions) (first : Nat) :
    ∃ column, m.column? f.descriptor = some column ∧ Piece.spellFrom c first own =
      listText c f.owner column negated first (Value.leavesOf values).length := by
  obtain ⟨hnone, -⟩ | ⟨v, vs, found, hlist, hfound, rfl⟩ := membership_ok h
  · exact absurd hnone hleaves
  · obtain ⟨column, hcolumn, rfl⟩ := field_ok hfound
    refine ⟨column, hcolumn, ?_⟩
    rw [hlist]
    have hword : ∀ rest, Piece.spellFrom c first (memberWord negated :: rest) =
        (if negated then " not in (" else " in (") ++ Piece.spellFrom c first rest := fun _ => rfl
    simp only [List.cons_append, List.nil_append, Piece.spellFrom, hword, Piece.spellFrom_append,
      members_spell, listText, String.append_assoc, String.append_empty]

end Clause

/-- Members are bound as they are. -/
theorem Piece.parametersFrom_members (c : Conventions) (temporal : Option TemporalKind) :
    ∀ (vs : List Value) (first : Nat),
    parametersFrom c first (vs.map fun v => ⟨v, temporal, false⟩) =
      listParameters c temporal first vs
  | [], _ => rfl
  | v :: vs, first => by
    rw [List.map_cons, parametersFrom, parametersFrom_members c temporal vs (first + 1),
      listParameters, listParameters, List.mapIdx_cons]
    simp only [Nat.add_right_comm first 1]
    rfl

/-! ### A membership in a text -/

namespace Clause

/-- A condition is written within some pieces. -/
def Shows (m : Mapping) (n : Node) (pieces : List Piece) : Prop :=
  ∃ own, condition m n = .ok own ∧ own <:+: pieces

variable {m : Mapping} {n : Node} {nodes : List Node}

theorem Shows.mono {xs ys : List Piece} (h : Shows m n xs) (hxs : xs <:+: ys) : Shows m n ys := by
  obtain ⟨own, hown, hin⟩ := h
  exact ⟨own, hown, hin.trans hxs⟩

theorem joins_eq_nil (m : Mapping) (h : ∀ n ∈ nodes, n.isJoin = false) :
    joins m nodes = .ok [] := by
  induction nodes with
  | nil => rfl
  | cons n rest ih =>
    rw [List.forall_mem_cons] at h
    rw [joins_cons m rest h.1, ih h.2]

/-- A subquery has its joins and its conditions in it. -/
theorem subselect_shows {joins conditions inner : List Piece}
    (h : Shows m n joins ∨ Shows m n inner) (hinner : inner <:+: conditions) (before : Piece)
    (select source : List Piece) (index : Alias) :
    Shows m n (subselect before select source index joins conditions) := by
  unfold subselect
  rcases h with h | h
  · exact h.mono ⟨_, conditions ++ [.word ")"], (List.append_assoc _ _ _).symm⟩
  · exact (h.mono hinner).mono ⟨_, [.word ")"], rfl⟩

section

variable {f : ScopedField} {negated : Bool} {values : List Value} {place : Place}

mutual

/-- A membership that belongs into a condition is written within it. -/
theorem condition_shows (index statement : Alias) (here : Place) (ordinal : Nat) : ∀ n : Node,
    n.isCondition → n.Tidy index → ∀ pieces, condition m n = .ok pieces →
    (place, .inList f negated values) ∈ n.placed statement here ordinal →
    Shows m (.inList f negated values) pieces
  | .predicate .., _, _, _, _, hmem => by
    cases List.mem_singleton.mp hmem
  | .inList g negated' values', _, _, pieces, h, hmem => by
    cases List.mem_singleton.mp hmem
    exact ⟨pieces, h, List.infix_refl _⟩
  | .bracket nodes, _, ⟨_, hjoins, htidy⟩, pieces, h, hmem => by
    obtain ⟨inner, hinner, rfl⟩ := bracket_ok h
    have hmem := (List.mem_cons.mp hmem).resolve_left nofun
    have hshows := scope_shows index statement (.group here ordinal) 0 none nodes htidy [] inner
      (joins_eq_nil m hjoins) hinner hmem
    rcases hshows with hshows | hshows
    · exact hshows.mono List.nil_infix
    · exact hshows.mono ⟨[.word "("], [.word ")"], rfl⟩
  | .existence negated' association inner nodes, _, htidy, pieces, h, hmem => by
    obtain ⟨source, joined, filter, -, hjoined, hfilter, rfl⟩ := existence_ok h
    obtain ⟨written, hwritten, hin⟩ := introduce_inner hfilter
    have hmem := (List.mem_cons.mp hmem).resolve_left nofun
    have hshows := scope_shows inner inner (.filter inner) 0 none nodes htidy joined written hjoined
      hwritten hmem
    exact subselect_shows hshows hin _ _ _ _
  | .inSubquery g negated' source inner select nodes, _, htidy, pieces, h, hmem => by
    obtain ⟨column, selected, table, joined, filter, -, -, -, hjoined, hfilter, rfl⟩ :=
      inSubquery_ok h
    obtain ⟨written, hwritten, hin⟩ := introduce_inner hfilter
    have hmem := (List.mem_cons.mp hmem).resolve_left nofun
    have hshows := scope_shows inner inner (.filter inner) 0 none nodes htidy joined written hjoined
      hwritten hmem
    exact (subselect_shows hshows hin _ _ _ _).mono (List.suffix_append _ _).isInfix

/-- A membership that belongs into a scope is written within its joins or its conditions. -/
theorem scope_shows (index statement : Alias) (here : Place) (ordinal : Nat)
    (next : Option Connector) : ∀ nodes : List Node, allTidy index nodes →
    ∀ joined written, joins m nodes = .ok joined → conditions m next nodes = .ok written →
    (place, .inList f negated values) ∈ placed statement here ordinal nodes →
    Shows m (.inList f negated values) joined ∨ Shows m (.inList f negated values) written
  | [], _, _, _, _, _, hmem => by cases hmem
  | n :: rest, ⟨hn, hrest⟩, joined, written, hj, hc, hmem => by
    have ih := fun ordinal next => scope_shows index statement here ordinal next rest hrest
    rw [placed, List.mem_append] at hmem
    cases hcond : n.isCondition with
    | true =>
      obtain ⟨first, others, hfirst, hothers, rfl⟩ := conditions_ok hcond hc
      have hj : joins m rest = .ok joined := by
        cases n with
        | connector | orderBy | join => cases hcond
        | _ => exact hj
      rcases hmem with hmem | hmem
      · have hshows := condition_shows index statement here ordinal n hcond hn first hfirst hmem
        exact .inr (hshows.mono ⟨_, others, rfl⟩)
      · refine (ih _ _ joined others hj hothers hmem).imp_right fun hshows => ?_
        exact hshows.mono (List.suffix_append _ _).isInfix
    | false =>
      cases n with
      | connector c => exact ih _ _ joined written hj hc (hmem.resolve_left nofun)
      | orderBy => exact ih _ _ joined written hj hc (hmem.resolve_left nofun)
      | join kind association inner nodes =>
        obtain ⟨source, on, inside, others, -, hon, hinside, hothers, rfl⟩ := joins_ok hj
        obtain ⟨filter, hfilter, hin⟩ := introduce_inner hon
        rcases hmem with hmem | hmem
        · have hmem := (List.mem_cons.mp hmem).resolve_left nofun
          have hshows := scope_shows inner statement (.on inner) 0 none nodes hn.2 inside filter
            hinside hfilter hmem
          rcases hshows with hshows | hshows
          · exact .inl (hshows.mono ⟨_, others, rfl⟩)
          · have hshows := hshows.mono hin
            exact .inl (hshows.mono ⟨_, inside ++ others, (List.append_assoc _ _ _).symm⟩)
        · refine (ih _ _ others written hothers hc hmem).imp_left fun hshows => ?_
          exact hshows.mono (List.suffix_append _ _).isInfix
      | _ => cases hcond

end

end

end Clause

/-- A membership that belongs into a statement is written within it. -/
theorem Query.statement_shows {m : Mapping} {q : Query} {pieces : List Piece}
    (htidy : ∀ n ∈ q.nodes, n.Tidy q.root) (h : q.statement m = .ok pieces) {place : Place}
    {f : ScopedField} {negated : Bool} {values : List Value}
    (hmem : (place, .inList f negated values) ∈ placed q.root (.filter q.root) 0 q.nodes) :
    Clause.Shows m (.inList f negated values) pieces := by
  obtain ⟨table, joined, filter, ordering, -, hjoined, hfilter, -, rfl⟩ := statement_ok h
  obtain ⟨written, hwritten, hin⟩ := Clause.introduce_inner hfilter
  have hshows := Clause.scope_shows q.root q.root (.filter q.root) 0 none q.nodes
    (allTidy_iff.mpr htidy) joined written hjoined hwritten hmem
  rcases hshows with hshows | hshows
  · exact hshows.mono ⟨_, filter ++ ordering, (List.append_assoc _ _ _).symm⟩
  · exact (hshows.mono hin).mono ⟨_, ordering, rfl⟩

/-! ### Lists without nesting -/

namespace Value

mutual

theorem leavesOf_leaves : ∀ v : Value, leavesOf v.leaves = v.leaves
  | .list items => by rw [leaves, leavesOf_leavesOf items]
  | .null | .bool _ | .int _ | .uint _ | .float _ | .text _ | .date _ | .time _ | .timestamp _ => rfl

/-- Leaves are their own leaves. -/
theorem leavesOf_leavesOf : ∀ vs : List Value, leavesOf (leavesOf vs) = leavesOf vs
  | [] => rfl
  | v :: vs => by rw [leavesOf, leavesOf_append, leavesOf_leaves v, leavesOf_leavesOf vs]

end

example : leavesOf [.list [.bool true, .list []], .list [.list [.null]]] = [.bool true, .null] := rfl

end Value

mutual

/-- A node whose lists are their leaves. -/
def Node.flat : Node → Node
  | .inList f negated values => .inList f negated (Value.leavesOf values)
  | .bracket nodes => .bracket (flatNodes nodes)
  | .join kind association index nodes => .join kind association index (flatNodes nodes)
  | .existence negated association index nodes =>
    .existence negated association index (flatNodes nodes)
  | .inSubquery f negated source index select nodes =>
    .inSubquery f negated source index select (flatNodes nodes)
  | .predicate f op x => .predicate f op x
  | .connector c => .connector c
  | .orderBy f direction position => .orderBy f direction position

/-- Nodes whose lists are their leaves. -/
def flatNodes : List Node → List Node
  | [] => []
  | node :: rest => node.flat :: flatNodes rest

end

mutual

/-- A call whose lists are their leaves. -/
def Call.flat : Call → Call
  | .isIn accessor negated values => .isIn accessor negated (Value.leavesOf values)
  | .brackets configure => .brackets (flatCalls configure)
  | .join kind accessor target configure => .join kind accessor target (flatCalls configure)
  | .existence negated accessor target configure =>
    .existence negated accessor target (flatCalls configure)
  | .inSubquery accessor negated source select configure =>
    .inSubquery accessor negated source select (flatCalls configure)
  | .attempt call => .attempt call.flat
  | call => call

/-- Calls whose lists are their leaves. -/
def flatCalls : List Call → List Call
  | [] => []
  | call :: rest => call.flat :: flatCalls rest

end

theorem flatNodes_eq_map (nodes : List Node) : flatNodes nodes = nodes.map Node.flat := by
  induction nodes with
  | nil => rfl
  | cons node rest ih => rw [flatNodes, ih, List.map_cons]

/-- The nesting of a list is not written. -/
theorem flat_keepsText : KeepsText Node.flat id where
  descriptor _ := rfl
  owner _ := rfl
  comparison f op x x' hx m := by
    rw [Node.flat] at hx
    cases hx
    rfl
  membership f negated values values' hvalues m := by
    rw [Node.flat] at hvalues
    cases hvalues
    rw [Clause.membership, Clause.membership, Value.leavesOf_leavesOf]
    rfl
  connector _ := by rw [Node.flat]
  predicate f op x := ⟨x, by rw [Node.flat]; rfl⟩
  inList f negated values := ⟨Value.leavesOf values, by rw [Node.flat]; rfl⟩
  orderBy _ _ _ := by rw [Node.flat]; rfl
  bracket _ := by rw [Node.flat, flatNodes_eq_map]
  join _ _ _ _ := by rw [Node.flat, flatNodes_eq_map]; rfl
  existence _ _ _ _ := by rw [Node.flat, flatNodes_eq_map]; rfl
  inSubquery _ _ _ _ _ _ := by rw [Node.flat, flatNodes_eq_map]; rfl

/-- A stream whose lists are their leaves. -/
abbrev Stream.flat (s : Stream) : Stream := s.mapNodes Node.flat

/-- What was seen, with lists that are their leaves. -/
def Observation.flat : Observation → Observation
  | .seen nodes filtering => .seen (nodes.map Node.flat) filtering
  | .rendered result names => .rendered result names
  | .caught e nodes => .caught e nodes

/-- A workspace in which lists that were seen are their leaves. -/
def Workspace.flat (w : Workspace) : Workspace := { w with seen := w.seen.map Observation.flat }

/-- An outcome whose lists are their leaves. -/
def Outcome.flat (o : Outcome) : Outcome := ⟨o.result, o.stream.flat, o.workspace.flat⟩

/-- A lookup does not see lists. -/
theorem Workspace.resolve_flat (w : Workspace) (entity : Entity) (accessor : Accessor) :
    w.flat.resolve entity accessor =
      ((w.resolve entity accessor).1, (w.resolve entity accessor).2.flat) := rfl

theorem Workspace.field_flat (w : Workspace) (s : Stream) (accessor : Accessor) :
    w.flat.field s.flat accessor = ((w.field s accessor).1, (w.field s accessor).2.flat) := rfl

theorem Outcome.done_flat {s t : Stream} {w : Workspace} (h : s.flat = t) :
    .done t w.flat = (Outcome.done s w).flat := by
  rw [← h]
  rfl

/-- What is noted is flat as well. -/
theorem Outcome.noted_flat (s : Stream) (w : Workspace) (o : Observation) :
    .done s.flat (w.flat.note o.flat) = (Outcome.done s (w.note o)).flat := by
  simp [Outcome.done, Outcome.flat, Workspace.note, Workspace.flat]

/-- Rendering does not see the nesting of lists, whatever is changed about the query. -/
theorem Renderer.render_flat (r : Renderer) (s : Stream) (changes : List Modifier) :
    r.render (s.flat.build.modifyAll changes) = r.render (s.build.modifyAll changes) := by
  have hrender := flat_keepsText.render r (s.build.modifyAll changes)
  rw [s.modifyAll_build] at hrender ⊢
  rw [s.flat.modifyAll_build]
  exact hrender

mutual

/-- A call does the same with lists that are their leaves. -/
theorem Call.run_flat : ∀ (call : Call) (s : Stream) (w : Workspace),
    call.flat.run s.flat w.flat = (call.run s w).flat
  | .filter, s, w | .connect c, s, w | .fail e, s, w => rfl
  | .compare accessor op value, s, w => by
    simp only [Call.flat, Call.run, Workspace.field_flat]
    rcases w.field s accessor with ⟨_ | f, w⟩
    · rfl
    · exact Outcome.done_flat (flat_keepsText.pushCondition s _)
  | .nullCheck accessor negated, s, w => by
    simp only [Call.flat, Call.run, Workspace.field_flat]
    rcases w.field s accessor with ⟨_ | f, w⟩
    · rfl
    · exact Outcome.done_flat (flat_keepsText.pushCondition s _)
  | .isIn accessor negated values, s, w => by
    simp only [Call.flat, Call.run, Workspace.field_flat]
    rcases w.field s accessor with ⟨_ | f, w⟩
    · rfl
    · exact Outcome.done_flat (flat_keepsText.pushCondition s _)
  | .compareOuter accessor op outer outerAccessor, s, w => by
    simp only [Call.flat, Call.run, Workspace.field_flat]
    rcases w.field s accessor with ⟨_ | f, w⟩
    · rfl
    dsimp only
    rw [Workspace.resolve_flat]
    rcases w.resolve outer outerAccessor with ⟨_ | reference, w⟩
    · rfl
    have hscope : s.flat.scope = s.scope := rfl
    dsimp only
    rw [hscope]
    cases s.scope.findOuter? outer.path with
    | none => rfl
    | some owner => exact Outcome.done_flat (flat_keepsText.pushCondition s _)
  | .orderBy accessor direction, s, w => by
    simp only [Call.flat, Call.run, Workspace.field_flat]
    rcases w.field s accessor with ⟨_ | f, w⟩
    · rfl
    · exact Outcome.done_flat (flat_keepsText.pushOrder s f direction)
  | .brackets configure, s, w => by
    have hgroup : runAll (flatCalls configure) s.flat.group w.flat = _ :=
      runAll_flat configure s.group w
    simp only [Call.flat, Call.run, hgroup]
    rcases runAll configure s.group w with ⟨_ | _, g, w⟩
    · rfl
    · exact Outcome.done_flat (flat_keepsText.acceptGroup s g)
  | .join kind accessor target configure, s, w => by
    simp only [Call.flat, Call.run, Workspace.field_flat]
    rcases w.field s accessor with ⟨_ | f, w⟩
    · rfl
    have hchild : runAll (flatCalls configure) (s.flat.child target s.flat.orders) w.flat = _ :=
      runAll_flat configure (s.child target s.orders) w
    dsimp only
    rw [hchild]
    rcases runAll configure (s.child target s.orders) w with ⟨_ | _, c, w⟩
    · rfl
    · exact Outcome.done_flat (flat_keepsText.acceptJoin s c kind f)
  | .existence negated accessor target configure, s, w => by
    simp only [Call.flat, Call.run, Workspace.field_flat]
    rcases w.field s accessor with ⟨_ | f, w⟩
    · rfl
    have hchild : runAll (flatCalls configure) (s.flat.child target 0) w.flat = _ :=
      runAll_flat configure (s.child target 0) w
    dsimp only
    rw [hchild]
    rcases runAll configure (s.child target 0) w with ⟨_ | _, c, w⟩
    · rfl
    · exact Outcome.done_flat ((flat_keepsText.acceptSubquery s c _).trans (by
        rw [flat_keepsText.existence]; rfl))
  | .inSubquery accessor negated source select configure, s, w => by
    simp only [Call.flat, Call.run, Workspace.field_flat]
    rcases w.field s accessor with ⟨_ | f, w⟩
    · rfl
    have hchild : runAll (flatCalls configure) (s.flat.child source 0) w.flat = _ :=
      runAll_flat configure (s.child source 0) w
    dsimp only
    rw [hchild]
    rcases runAll configure (s.child source 0) w with ⟨_ | _, c, w⟩
    · rfl
    dsimp only [Outcome.flat]
    rw [Workspace.field_flat]
    rcases w.field c select with ⟨_ | g, w⟩
    · rfl
    · exact Outcome.done_flat ((flat_keepsText.acceptSubquery s c _).trans (by
        rw [flat_keepsText.inSubquery]; rfl))
  | .inspect, s, w => by
    exact Outcome.noted_flat s w (.seen s.nodes s.filtering)
  | .render r names, s, w => by
    have hrender : r.render s.flat.build = r.render s.build := r.render_flat s []
    have htelling : r.renderTelling s.flat.build w.flat.journal =
        r.renderTelling s.build w.journal := by
      unfold Renderer.renderTelling
      rw [hrender]
      rfl
    simp only [Call.flat, Call.run, Renderer.renderStreamTelling_eq, htelling]
    exact Outcome.noted_flat s { w with journal := (r.renderTelling s.build w.journal).2 }
      (.rendered _ names)
  | .attempt call, s, w => by
    have hcall := call.run_flat s w
    simp only [Call.flat, Call.run, hcall]
    rcases call.run s w with ⟨e | _, t, w⟩
    · have hlength : t.flat.nodes.length = t.nodes.length := List.length_map _
      show .done t.flat (w.flat.note (.caught e t.flat.nodes.length)) =
        (Outcome.done t (w.note (.caught e t.nodes.length))).flat
      rw [hlength]
      exact Outcome.noted_flat t w (.caught e _)
    · rfl

theorem runAll_flat : ∀ (calls : List Call) (s : Stream) (w : Workspace),
    runAll (flatCalls calls) s.flat w.flat = (runAll calls s w).flat
  | [], s, w => rfl
  | call :: rest, s, w => by
    have hcall := call.run_flat s w
    simp only [flatCalls, runAll, hcall]
    rcases call.run s w with ⟨_ | _, t, w⟩
    · rfl
    · exact runAll_flat rest t w

end

/-! ### Whole queries -/

/-- A rendering shows a membership between what is written before it and what is written after it: its
leaves are the parameters between those of the two, and its places are numbered on from the places
before. -/
structure Rendered.ShowsMembership (rendered : Rendered) (r : Renderer) (f : ScopedField)
    (negated : Bool) (leaves : List Value) (front back : List Piece) (own : String) : Prop where
  text : rendered.text = Piece.spellFrom r.conventions 0 front ++ own ++
    Piece.spellFrom r.conventions ((Piece.bindings front).length + leaves.length) back
  parameters : rendered.parameters = Piece.parametersFrom r.conventions 0 (Piece.bindings front) ++
    listParameters r.conventions f.descriptor.temporal (Piece.bindings front).length leaves ++
    Piece.parametersFrom r.conventions ((Piece.bindings front).length + leaves.length)
      (Piece.bindings back)
  /-- Without a leaf, a constant stands in its place. -/
  empty : leaves = [] → own = emptyText negated
  listed : leaves ≠ [] → ∃ column, r.mapping.column? f.descriptor = some column ∧
    own = listText r.conventions f.owner column negated (Piece.bindings front).length leaves.length

/-- A membership that is written within a statement shows in its rendering. -/
theorem Clause.Shows.rendered {r : Renderer} {f : ScopedField} {negated : Bool} {values : List Value}
    {pieces : List Piece} (h : Shows r.mapping (.inList f negated values) pieces) (page : Page) :
    ∃ front back own, (Piece.render r.conventions page pieces).ShowsMembership r f negated
      (Value.leavesOf values) front back own := by
  obtain ⟨own, hown, front, back, rfl⟩ := h
  have hbindings : Piece.bindings own = (Value.leavesOf values).map fun v =>
      ⟨v, f.descriptor.temporal, false⟩ := membership_bindings hown
  have hlength : (Piece.bindings own).length = (Value.leavesOf values).length := by
    rw [hbindings, List.length_map]
  refine ⟨front, back, Piece.spellFrom r.conventions (Piece.bindings front).length own, ?_, ?_,
    fun hleaves => ?_, fun hleaves => ?_⟩
  · rw [Piece.render, Piece.spellFrom_append, Piece.spellFrom_append, Piece.bindings_append,
      List.length_append, Nat.zero_add, Nat.zero_add, hlength]
  · rw [Piece.render, Piece.bindings_append, Piece.bindings_append, Piece.parametersFrom_append,
      Piece.parametersFrom_append, List.length_append, Nat.zero_add, hlength, hbindings,
      Piece.parametersFrom_members]
    simp only [Nat.zero_add]
  · cases hown.symm.trans (membership_empty r.mapping f negated hleaves)
    exact String.append_empty
  · exact membership_listed hown hleaves r.conventions _

theorem builtQuery_tidy (entity : Entity) (calls : List Call) (w : Workspace)
    (changes : List Modifier) : (builtQuery entity calls w changes).root = rootAlias ∧
    ∀ n ∈ (builtQuery entity calls w changes).nodes, n.Tidy rootAlias := by
  have hbuilds := runAll_builds_marked calls (.start entity) w
  obtain ⟨hnodes, hroot⟩ := hbuilds.modifyAll_frame changes
  refine ⟨hroot, ?_⟩
  rw [builtQuery, hnodes]
  exact hbuilds.tidy (List.forall_mem_nil _)

/-- NESTING: a membership that is asked for becomes one node with the list as it was given. Without a
leaf it is written as a constant under every mapping, so no column is looked up and nothing bound.
Wherever it belongs in a query that is rendered, it is its column and a place for each leaf, numbered
on from the places before, and the leaves are the parameters there, as they are. Programs that differ
in the nesting of lists only end alike, with the same store and journal, and render alike on the way
and in the end. -/
theorem memberships_depend_on_leaves (entity : Entity) (calls : List Call) (w : Workspace) :
    (∀ (s : Stream) (v : Workspace) (accessor : Accessor) (negated : Bool) (values : List Value),
      ((Call.isIn accessor negated values).run s v).result = .ok () →
      ∃ reference, Lookup.Marks ⟨s.entity, accessor⟩ reference ∧
        ((Call.isIn accessor negated values).run s v).stream =
          s.pushCondition (.inList (s.bind reference) negated values)) ∧
    (∀ (f : ScopedField) (negated : Bool) (values : List Value), Value.leavesOf values = [] →
      ∀ m, Clause.condition m (.inList f negated values) = .ok [.word (emptyText negated)]) ∧
    (∀ (changes : List Modifier) (r : Renderer) (rendered : Rendered),
      r.render (builtQuery entity calls w changes) = .ok rendered →
      ∀ (place : Place) (f : ScopedField) (negated : Bool) (values : List Value),
        (place, .inList f negated values) ∈ placed rootAlias (.filter rootAlias) 0
          (builtQuery entity calls w changes).nodes →
        ∃ front back own, rendered.ShowsMembership r f negated (Value.leavesOf values) front back
          own) ∧
    ∀ calls' : List Call, flatCalls calls = flatCalls calls' →
      (runAll calls (.start entity) w).result = (runAll calls' (.start entity) w).result ∧
      (runAll calls (.start entity) w).workspace.flat =
        (runAll calls' (.start entity) w).workspace.flat ∧
      ∀ (changes : List Modifier) (r : Renderer), r.render (builtQuery entity calls w changes) =
        r.render (builtQuery entity calls' w changes) := by
  refine ⟨fun s v accessor negated values hok => ?_, fun f negated values hleaves m => ?_,
    fun changes r rendered hr place f negated values hmem => ?_, fun calls' hcalls => ?_⟩
  · have hbuilds := (Call.run_builds trusted_marks (.isIn accessor negated values) s v trivial
      fun _ _ => trivial).2 hok [] _ (.nil _)
    generalize ((Call.isIn accessor negated values).run s v).stream = t at hbuilds ⊢
    cases hbuilds with
    | step hstep hrest =>
      cases hrest
      cases hstep with
      | isIn _ _ hr => exact ⟨_, hr, rfl⟩
  · rw [Clause.condition]
    exact Clause.membership_empty m f negated hleaves
  · obtain ⟨pieces, hstatement, rfl⟩ := Renderer.render_ok hr
    obtain ⟨hroot, htidy⟩ := builtQuery_tidy entity calls w changes
    rw [← hroot] at hmem htidy
    exact (Query.statement_shows htidy hstatement hmem).rendered _
  · have hflat : (runAll calls (.start entity) w).flat = (runAll calls' (.start entity) w).flat := by
      rw [← runAll_flat, ← runAll_flat, hcalls]
    obtain ⟨hresult, hstream, hworkspace⟩ := Outcome.mk.inj hflat
    refine ⟨hresult, hworkspace, fun changes r => ?_⟩
    unfold builtQuery
    rw [← r.render_flat, hstream, r.render_flat]

end EntityQuery
