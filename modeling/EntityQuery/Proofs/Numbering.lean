import EntityQuery.Proofs.Placement
import EntityQuery.Proofs.Scoping

/-!
Numbering: which aliases the nodes of a query have. A stream opened inside another one counts on from
its counter, and the counter comes back only with the stream; a failure forgets both. So the aliases
among the nodes are always those below the counter, without a gap and each once, and an alias is
smaller than all that are handed out while its own scope is configured.

```
counter:  1 ──join──> 2 ──exists──> 3 ──fails──> 2 ──exists──> 3 ──accept──> 3
nodes:                                                         1 [2]
```
-/

namespace EntityQuery

open EntityQuery.Field

/-! ### The aliases of nodes -/

mutual

/-- The alias that a node opens a scope under, and those inside it. -/
def Node.indices : Node → List Alias
  | .bracket nodes => indicesIn nodes
  | .join _ _ index nodes | .existence _ _ index nodes | .inSubquery _ _ _ index _ nodes =>
    index :: indicesIn nodes
  | .predicate .. | .connector _ | .inList .. | .orderBy .. => []

/-- The aliases that nodes open scopes under, at every depth. -/
def indicesIn : List Node → List Alias
  | [] => []
  | node :: rest => node.indices ++ indicesIn rest

end

theorem indicesIn_eq_flatMap (nodes : List Node) :
    indicesIn nodes = nodes.flatMap Node.indices := by
  induction nodes with
  | nil => rfl
  | cons node rest ih => rw [indicesIn, ih, List.flatMap_cons]

namespace Stream

/-- A condition adds its own aliases; a connector has none. -/
theorem pushCondition_indices (s : Stream) (n : Node) :
    indicesIn (s.pushCondition n).nodes = indicesIn s.nodes ++ n.indices := by
  simp only [indicesIn_eq_flatMap]
  exact flatMap_pushCondition (fun _ => rfl) s n

theorem push_indices (s : Stream) (n : Node) :
    indicesIn (s.push n).nodes = indicesIn s.nodes ++ n.indices := by
  simp only [indicesIn_eq_flatMap]
  exact flatMap_push s n

/-- Taking a group apart reorders its aliases and keeps them all. -/
theorem acceptGroup_indices (s g : Stream) :
    (indicesIn (s.acceptGroup g).nodes).Perm (indicesIn s.nodes ++ indicesIn g.nodes) := by
  simp only [indicesIn_eq_flatMap]
  exact flatMap_acceptGroup (fun _ => rfl) (fun nodes => indicesIn_eq_flatMap nodes) s g

end Stream

section

variable {Means : Lookup → Reference → Prop} {s t : Stream} {calls : List Call}

theorem Step.indices {call : Call} (h : Step Means s call t) :
    indicesIn t.nodes = indicesIn s.nodes := by
  cases h with
  | filter | connect | inspect | render => rfl
  | orderBy => exact (Stream.push_indices s _).trans (List.append_nil _)
  | compare | nullCheck | isIn | compareOuter =>
    exact (Stream.pushCondition_indices s _).trans (List.append_nil _)

/-- What two programs in a row number, where the second counts on from the first. -/
theorem range_append {xs ys zs : List Alias} {n k l : Nat} (hxs : xs.Perm (ys ++ List.range' n k))
    (hzs : zs.Perm (xs ++ List.range' (k + n) l)) : zs.Perm (ys ++ List.range' n (k + l)) := by
  rw [← List.range'_append_1, ← List.append_assoc, Nat.add_comm n k]
  exact hzs.trans (hxs.append_right _)

/-- A child has the alias that the counter stands at, and what is inside it the ones after. -/
theorem Builds.child_indices {c : Stream} {entity : Entity} {orders : Nat}
    (h : Builds Means (s.child entity orders) calls c)
    (hc : (indicesIn c.nodes).Perm (List.range' (s.nextAlias + 1) (openings calls).length)) :
    (indicesIn s.nodes ++ c.index :: indicesIn c.nodes).Perm
        (indicesIn s.nodes ++ List.range' s.nextAlias ((openings calls).length + 1)) ∧
      (openings calls).length + 1 + s.nextAlias = c.nextAlias := by
  have hindex : c.index = s.nextAlias := h.index
  refine ⟨?_, h.child_nextAlias⟩
  rw [hindex, List.range'_succ]
  exact (hc.cons _).append_left _

/-- A program numbers the scopes that it opens from the counter on. -/
theorem Builds.indices (h : Builds Means s calls t) : (indicesIn t.nodes).Perm
    (indicesIn s.nodes ++ List.range' s.nextAlias (openings calls).length) := by
  induction h with
  | nil => simp [openings]
  | step hstep _ ih =>
    rw [openings, hstep.openings, List.nil_append]
    rwa [hstep.indices, hstep.frame.2.2] at ih
  | @brackets s g t configure rest hg _ ihg ih =>
    have hgroup := (s.acceptGroup_indices g).trans (ihg.append_left _)
    rw [Stream.acceptGroup_nextAlias, ← hg.nextAlias] at ih
    rw [openings, Call.openings, List.length_append]
    exact range_append hgroup ih
  | @join s c t accessor r target configure rest kind hr hc _ ihc ih =>
    obtain ⟨hchild, hnext⟩ := hc.child_indices ihc
    rw [Stream.acceptJoin_nextAlias, ← hnext] at ih
    rw [openings, Call.openings, List.length_append, List.length_cons]
    refine range_append ?_ ih
    exact (Stream.push_indices s _).symm ▸ hchild
  | @existence s c t accessor r target configure rest negated hr hc _ ihc ih =>
    obtain ⟨hchild, hnext⟩ := hc.child_indices ihc
    rw [Stream.acceptSubquery_nextAlias, ← hnext, Stream.acceptSubquery,
      Stream.pushCondition_indices] at ih
    rw [openings, Call.openings, List.length_append, List.length_cons]
    exact range_append hchild ih
  | @inSubquery s c t accessor select r r' source configure rest negated hr hc _ _ ihc ih =>
    obtain ⟨hchild, hnext⟩ := hc.child_indices ihc
    rw [Stream.acceptSubquery_nextAlias, ← hnext, Stream.acceptSubquery,
      Stream.pushCondition_indices] at ih
    rw [openings, Call.openings, List.length_append, List.length_cons]
    exact range_append hchild ih

end

/-! ### Outer aliases are smaller -/

mutual

/-- The alias of a scope in a node is smaller than those of the scopes inside it. -/
def Node.Ascending : Node → Prop
  | .bracket nodes => allAscending nodes
  | .join _ _ index nodes | .existence _ _ index nodes | .inSubquery _ _ _ index _ nodes =>
    (∀ inner ∈ indicesIn nodes, index < inner) ∧ allAscending nodes
  | .predicate .. | .connector _ | .inList .. | .orderBy .. => True

/-- The alias of a scope in some nodes is smaller than those of the scopes inside it. -/
def allAscending : List Node → Prop
  | [] => True
  | node :: rest => node.Ascending ∧ allAscending rest

end

theorem allAscending_iff {nodes : List Node} :
    allAscending nodes ↔ ∀ n ∈ nodes, n.Ascending := by
  induction nodes with
  | nil => simp [allAscending]
  | cons node rest ih => rw [allAscending, ih, List.forall_mem_cons]

section

variable {Means : Lookup → Reference → Prop} {s t : Stream} {calls : List Call}

theorem Step.ascending {call : Call} (h : Step Means s call t) (hn : ∀ n ∈ s.nodes, n.Ascending) :
    ∀ n ∈ t.nodes, n.Ascending := by
  have hc : ∀ c, (Node.connector c).Ascending := fun _ => trivial
  cases h with
  | filter | connect | inspect | render => exact hn
  | orderBy => exact Stream.forall_push hn trivial
  | compare | nullCheck | isIn | compareOuter => exact Stream.forall_pushCondition hc hn trivial

/-- The scopes inside a child come after the child. -/
theorem Builds.child_lt {c : Stream} {entity : Entity} {orders : Nat}
    (h : Builds Means (s.child entity orders) calls c) :
    ∀ inner ∈ indicesIn c.nodes, c.index < inner := by
  intro inner hinner
  have hrange := h.indices.mem_iff.mp hinner
  rw [h.index]
  exact (List.mem_range'_1.mp hrange).1

/-- What a program adds to ascending nodes is ascending. -/
theorem Builds.ascending (h : Builds Means s calls t) :
    (∀ n ∈ s.nodes, n.Ascending) → ∀ n ∈ t.nodes, n.Ascending := by
  induction h with
  | nil => exact id
  | step hstep _ ih => exact fun hn => ih (hstep.ascending hn)
  | @brackets s g t configure rest _ _ ihg ih =>
    intro hn
    have hgroup : ∀ n ∈ g.nodes, n.Ascending := ihg (by intro _ h; cases h)
    refine ih (Stream.forall_acceptGroup (fun _ => trivial) hn hgroup fun _ => ?_)
    exact allAscending_iff.mpr fun n h => hgroup n (List.mem_filter.mp h).1
  | join kind hr hc _ ihc ih =>
    intro hn
    have hchild := allAscending_iff.mpr (ihc (by intro _ h; cases h))
    exact ih (Stream.forall_push hn ⟨hc.child_lt, hchild⟩)
  | existence negated hr hc _ ihc ih | inSubquery negated hr hc hr' _ ihc ih =>
    intro hn
    have hchild := allAscending_iff.mpr (ihc (by intro _ h; cases h))
    exact ih (Stream.forall_pushCondition (fun _ => trivial) hn ⟨hc.child_lt, hchild⟩)

end

/-! ### Aliases that are handed out and lost again -/

/-- The streams on which calls may be made while one is configured: itself, after any calls, failed
ones too, and the groups and children opened on the way, whether they are accepted or not. -/
inductive During (s : Stream) : Stream → Prop
  | here : During s s
  | call {t : Stream} (call : Call) (w : Workspace) : During s t → During s (call.run t w).stream
  | group {t : Stream} : During s t → During s t.group
  | child {t : Stream} (entity : Entity) (orders : Nat) :
      During s t → During s (t.child entity orders)

/-- No call takes the counter back. -/
theorem Call.nextAlias_le (call : Call) (s : Stream) (w : Workspace) :
    s.nextAlias ≤ (call.run s w).stream.nextAlias := by
  cases hr : (call.run s w).result with
  | error e => exact Nat.le_of_eq (congrArg Stream.nextAlias (Call.run_error hr)).symm
  | ok =>
    have hruns := call.run_builds trusted_marks s w trivial fun _ _ => trivial
    rw [← (hruns.2 hr [] _ (.nil _)).nextAlias]
    exact Nat.le_add_left ..

theorem During.nextAlias_le {s t : Stream} (h : During s t) : s.nextAlias ≤ t.nextAlias := by
  induction h with
  | here => exact Nat.le_refl _
  | call call w _ ih => exact Nat.le_trans ih (call.nextAlias_le _ w)
  | group _ ih => exact ih
  | child _ _ _ ih => exact Nat.le_trans ih (Nat.le_succ _)

/-! ### Aliases in the text -/

/-- The alias that a node opens a scope under. -/
def Node.index? : Node → Option Alias
  | .join _ _ index _ | .existence _ _ index _ | .inSubquery _ _ _ index _ _ => some index
  | _ => none

mutual

theorem Node.placed_indices (statement : Alias) (here : Place) (ordinal : Nat) : ∀ n : Node,
    (n.placed statement here ordinal).filterMap (·.2.index?) = n.indices
  | .predicate .. | .connector _ | .inList .. | .orderBy .. => rfl
  | .bracket nodes => placed_indices statement (.group here ordinal) 0 nodes
  | .join _ _ index nodes =>
    congrArg (index :: ·) (placed_indices statement (.on index) 0 nodes)
  | .existence _ _ index nodes | .inSubquery _ _ _ index _ nodes =>
    congrArg (index :: ·) (placed_indices index (.filter index) 0 nodes)

theorem placed_indices (statement : Alias) (here : Place) (ordinal : Nat) : ∀ nodes : List Node,
    (placed statement here ordinal nodes).filterMap (·.2.index?) = indicesIn nodes
  | [] => rfl
  | n :: rest => by
    rw [placed, indicesIn, List.filterMap_append, n.placed_indices, placed_indices]

end

/-- The aliases that the text of a query declares, in the order of the text. -/
def Query.declaredAliases (q : Query) : List Alias :=
  q.root :: (placedJoins q.root (joinParts q.nodes) ++
    placedConditions (.filter q.root) 0 (conditionParts none q.nodes)).filterMap (·.2.index?)

theorem Query.WrittenOnce.declaredAliases {q : Query} (h : q.WrittenOnce) :
    q.declaredAliases.Perm (q.root :: indicesIn q.nodes) := by
  have honce := h.once.filterMap (·.2.index?)
  rw [placed_indices] at honce
  exact honce.symm.cons _

/-- Different aliases are spelled differently. -/
theorem Conventions.aliasName_inj {c : Conventions} {a b : Alias}
    (h : c.aliasName a = c.aliasName b) : a = b := numbered_inj c.aliasStem h

/-- NUMBERING: the aliases of a program's nodes are those from one up to the counter, each once, and
the root's is not among them; there is one for each scope that the surviving calls open. An alias is
smaller than those inside its scope, also than those that were handed out there and lost. So the text
of the query declares every alias below the counter once, each with a spelling of its own. -/
theorem aliases_distinct_without_gap (entity : Entity) (calls : List Call) (w : Workspace) :
    (indicesIn (runAll calls (.start entity) w).stream.nodes).Nodup ∧
    (∀ a, a ∈ indicesIn (runAll calls (.start entity) w).stream.nodes ↔
      1 ≤ a ∧ a < (runAll calls (.start entity) w).stream.nextAlias) ∧
    (openings (surviving calls (.start entity) w)).length + 1 =
      (runAll calls (.start entity) w).stream.nextAlias ∧
    rootAlias ∉ indicesIn (runAll calls (.start entity) w).stream.nodes ∧
    (∀ n ∈ (runAll calls (.start entity) w).stream.nodes, n.Ascending) ∧
    (∀ (s t : Stream) (e e' : Entity) (orders orders' : Nat), During (s.child e orders) t →
      (s.child e orders).index < (t.child e' orders').index) ∧
    ∀ (q : Query) (changes : List Modifier) (r : Renderer) (rendered : Rendered),
      q = (runAll calls (.start entity) w).stream.build.modifyAll changes →
      r.render q = .ok rendered →
      rendered.text =
        String.join ((Piece.tokensFrom r.conventions 0 (q.written r.mapping)).map (·.text)) ∧
      rendered.Binds r.conventions q.page (q.written r.mapping) ∧ q.WrittenOnce ∧
      q.declaredAliases.Perm (List.range (runAll calls (.start entity) w).stream.nextAlias) ∧
      (q.declaredAliases.map fun a => r.conventions.aliasStem ++ toString a).Nodup := by
  have hbuilds := runAll_builds_marked calls (.start entity) w
  generalize (runAll calls (.start entity) w).stream = t at *
  generalize surviving calls (.start entity) w = survivors at *
  have hindices : (indicesIn t.nodes).Perm (List.range' 1 (openings survivors).length) :=
    hbuilds.indices
  have hnext : (openings survivors).length + 1 = t.nextAlias := hbuilds.nextAlias
  have hmem : ∀ a, a ∈ indicesIn t.nodes ↔ 1 ≤ a ∧ a < t.nextAlias := by
    intro a
    rw [hindices.mem_iff, List.mem_range'_1, ← hnext, Nat.add_comm 1]
  refine ⟨hindices.nodup_iff.mpr List.nodup_range', hmem, hnext, ?_, ?_, ?_, ?_⟩
  · intro hroot
    exact Nat.not_succ_le_zero 0 ((hmem rootAlias).mp hroot).1
  · exact hbuilds.ascending (by intro _ h; cases h)
  · intro s t e e' orders orders' h
    exact h.nextAlias_le
  · intro q changes r rendered hq hr
    obtain ⟨htext, hbinds, hwritten⟩ := hbuilds.render_writtenOnce hq hr
    obtain ⟨hnodes, hroot⟩ := Query.modifyAll_frame changes t.build
    rw [← hq] at hnodes hroot
    have hindex : q.root = rootAlias := hroot.trans hbuilds.index
    have hperm : q.declaredAliases.Perm (List.range t.nextAlias) := by
      refine hwritten.declaredAliases.trans ?_
      rw [hnodes, hindex, ← hnext, List.range_eq_range', List.range'_succ]
      exact hindices.cons _
    refine ⟨htext, hbinds, hwritten, hperm, ?_⟩
    refine List.Pairwise.map _ (fun _ _ hne heq => ?_) (hperm.nodup_iff.mpr List.nodup_range)
    exact hne (Conventions.aliasName_inj heq)

end EntityQuery
