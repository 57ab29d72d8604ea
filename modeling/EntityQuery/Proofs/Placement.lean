import EntityQuery.Proofs.Contents
import EntityQuery.Proofs.Layout

/-!
Placement: where the nodes of a query stand in its text. A join belongs into the FROM part of the
statement around it, whatever joins lie between; a condition belongs after WHERE, after the ON of its
join, or into the parentheses of its group. Walking the nodes tells where each belongs; walking the
layout, in the order of the text, tells where each is written. For tidy nodes the two walks meet the
same nodes at the same places, and each as often.

```
nodes:  a · join x [b] · (d)           a: WHERE   x: FROM   b: ON x   (): WHERE   d: 2nd in WHERE
text:   … FROM t JOIN x ON b WHERE a AND (d)
```
-/

namespace EntityQuery

open EntityQuery.Field

/-- A place in the text of a query. -/
inductive Place where
  /-- The FROM part of the statement over an instance. -/
  | source (statement : Alias)
  /-- The conditions after WHERE in the statement over an instance. -/
  | filter (statement : Alias)
  /-- The conditions after ON in the join of an instance. -/
  | on (join : Alias)
  /-- The parentheses of a group, which is the condition of the given number at its own place. -/
  | group (outer : Place) (ordinal : Nat)

/-! ### Where nodes belong -/

mutual

/-- A node and those inside it, each without what is inside it, and where they belong: joins into
the statement over the given instance, the node itself to the given place. -/
def Node.placed (statement : Alias) (here : Place) (ordinal : Nat) : Node → List (Place × Node)
  | .predicate f op x => [(here, .predicate f op x)]
  | .inList f negated values => [(here, .inList f negated values)]
  | .bracket nodes => (here, .bracket []) :: placed statement (.group here ordinal) 0 nodes
  | .join kind association index nodes =>
    (.source statement, .join kind association index []) :: placed statement (.on index) 0 nodes
  | .existence negated association index nodes =>
    (here, .existence negated association index []) :: placed index (.filter index) 0 nodes
  | .inSubquery f negated source index select nodes =>
    (here, .inSubquery f negated source index select []) :: placed index (.filter index) 0 nodes
  | .connector _ | .orderBy .. => []

/-- Several nodes and where they belong. Conditions are counted from the given number on. -/
def placed (statement : Alias) (here : Place) (ordinal : Nat) : List Node → List (Place × Node)
  | [] => []
  | node :: rest => node.placed statement here ordinal ++
    placed statement here (if node.isCondition then ordinal + 1 else ordinal) rest

end

/-! ### Where parts are written -/

mutual

/-- The nodes that a part at a place is written from, in the order of the text. -/
def Part.placed (here : Place) (ordinal : Nat) : Part → List (Place × Node)
  | .leaf _ node => [(here, node)]
  | .group _ conditions => (here, .bracket []) :: placedConditions (.group here ordinal) 0 conditions
  | .existence _ negated association index joins conditions =>
    (here, .existence negated association index []) ::
      (placedJoins index joins ++ placedConditions (.filter index) 0 conditions)
  | .inSubquery _ f negated source index select joins conditions =>
    (here, .inSubquery f negated source index select []) ::
      (placedJoins index joins ++ placedConditions (.filter index) 0 conditions)
  | .join kind association index conditions =>
    (here, .join kind association index []) :: placedConditions (.on index) 0 conditions

/-- The joins of a statement, all in its FROM part. -/
def placedJoins (statement : Alias) : List Part → List (Place × Node)
  | [] => []
  | part :: rest => part.placed (.source statement) 0 ++ placedJoins statement rest

/-- The conditions at a place, counted from the given number on. -/
def placedConditions (here : Place) (ordinal : Nat) : List Part → List (Place × Node)
  | [] => []
  | part :: rest => part.placed here ordinal ++ placedConditions here (ordinal + 1) rest

end

@[simp] theorem placedJoins_append (statement : Alias) (ys : List Part) : ∀ xs : List Part,
    placedJoins statement (xs ++ ys) = placedJoins statement xs ++ placedJoins statement ys
  | [] => rfl
  | x :: xs => by
    rw [List.cons_append, placedJoins, placedJoins, placedJoins_append statement ys xs,
      List.append_assoc]

/-! ### Every node is written once, where it belongs -/

theorem joinParts_eq_nil : ∀ {nodes : List Node}, (∀ n ∈ nodes, n.isJoin = false) →
    joinParts nodes = []
  | [], _ => rfl
  | n :: rest, h => by
    have ih := joinParts_eq_nil fun x hx => h x (List.mem_cons_of_mem _ hx)
    cases n with
    | join => exact absurd (h _ (List.mem_cons_self ..)) (by simp [Node.isJoin])
    | _ => exact ih

theorem joinParts_cons {n : Node} (h : n.isJoin = false) (rest : List Node) :
    joinParts (n :: rest) = joinParts rest := by
  cases n with
  | join => cases h
  | _ => rfl

/-- A condition in front of the others, with the joins in front of all of them. -/
theorem condition_first {α : Type} {first first' rest joins conditions : List α}
    (h : first.Perm first') (hrest : rest.Perm (joins ++ conditions)) :
    (first ++ rest).Perm (joins ++ (first' ++ conditions)) :=
  (h.append hrest).trans (by
    rw [← List.append_assoc, ← List.append_assoc]
    exact List.perm_append_comm.append_right conditions)

/-- What is inside a join in front of the others: its conditions, its joins, and then the rest. -/
theorem join_first {α : Type} {inner joins conditions rest joins' conditions' : List α}
    (h : inner.Perm (joins ++ conditions)) (hrest : rest.Perm (joins' ++ conditions')) :
    (inner ++ rest).Perm (conditions ++ (joins ++ joins') ++ conditions') := by
  have hall := (h.trans List.perm_append_comm).append hrest
  rw [List.append_assoc, ← List.append_assoc joins, ← List.append_assoc conditions] at hall
  exact hall

mutual

theorem Node.placed_perm (statement : Alias) (here : Place) (ordinal : Nat)
    (next : Option Connector) (index : Alias) : ∀ n : Node, n.isCondition → n.Tidy index →
    ∃ part, n.conditionParts next = [part] ∧
      (n.placed statement here ordinal).Perm (part.placed here ordinal)
  | .predicate f op x, _, _ => ⟨_, rfl, .refl _⟩
  | .inList f negated values, _, _ => ⟨_, rfl, .refl _⟩
  | .bracket nodes, _, ⟨_, hjoins, htidy⟩ => by
    have ih := placed_perm statement (.group here ordinal) 0 none index nodes htidy
    rw [joinParts_eq_nil hjoins] at ih
    exact ⟨_, rfl, ih.cons _⟩
  | .existence negated association inner nodes, _, htidy =>
    ⟨_, rfl, (placed_perm inner (.filter inner) 0 none inner nodes htidy).cons _⟩
  | .inSubquery f negated source inner select nodes, _, htidy =>
    ⟨_, rfl, (placed_perm inner (.filter inner) 0 none inner nodes htidy).cons _⟩

theorem placed_perm (statement : Alias) (here : Place) (ordinal : Nat)
    (next : Option Connector) (index : Alias) : ∀ nodes : List Node, allTidy index nodes →
    (placed statement here ordinal nodes).Perm (placedJoins statement (joinParts nodes) ++
      placedConditions here ordinal (conditionParts next nodes))
  | [], _ => .refl _
  | n :: rest, ⟨hn, hrest⟩ => by
    have ih := fun ordinal next => placed_perm statement here ordinal next index rest hrest
    cases hc : n.isCondition with
    | true =>
      obtain ⟨part, hpart, hperm⟩ := n.placed_perm statement here ordinal next index hc hn
      have hj : n.isJoin = false := by cases n <;> first | rfl | cases hc
      rw [placed, hc, joinParts_cons hj, conditionParts_cons hc, hpart]
      exact condition_first hperm (ih (ordinal + 1) (some .and))
    | false =>
      cases n with
      | connector c => exact ih ordinal _
      | orderBy => exact ih ordinal next
      | join kind association inner nodes =>
        -- the text has the join's own conditions before the joins inside it, the nodes mix them
        have hinner := placed_perm statement (.on inner) 0 none inner nodes hn.2
        rw [joinParts, List.cons_append, placedJoins, placedJoins_append]
        exact (join_first hinner (ih ordinal next)).cons _
      | _ => cases hc

end

/-! ### Every join starts from an instance declared before it -/

/-- Parts that are joins, each from an instance that is declared: one of those given, or one of an
earlier join. -/
def StartDeclared (declared : List Alias) : List Part → Prop
  | [] => True
  | .join _ association index _ :: rest =>
    association.owner ∈ declared ∧ StartDeclared (index :: declared) rest
  | _ :: _ => False

mutual

/-- In every subquery within a part, the joins start from declared instances. -/
def Part.Declared : Part → Prop
  | .leaf .. => True
  | .group _ conditions | .join _ _ _ conditions => allDeclared conditions
  | .existence _ _ _ index joins conditions | .inSubquery _ _ _ _ index _ joins conditions =>
    StartDeclared [index] joins ∧ allDeclared joins ∧ allDeclared conditions

/-- In every subquery within some parts, the joins start from declared instances. -/
def allDeclared : List Part → Prop
  | [] => True
  | part :: rest => part.Declared ∧ allDeclared rest

end

theorem StartDeclared.append {xs ys : List Part} {declared : List Alias}
    (hxs : StartDeclared declared xs)
    (hys : ∀ more, declared ⊆ more → StartDeclared more ys) :
    StartDeclared declared (xs ++ ys) := by
  induction xs generalizing declared with
  | nil => exact hys declared (List.Subset.refl _)
  | cons x xs ih =>
    cases x with
    | join kind association index conditions =>
      obtain ⟨howner, hxs⟩ := hxs
      exact ⟨howner, ih hxs fun more h => hys more fun _ ha => h (List.mem_cons_of_mem index ha)⟩
    | _ => exact hxs.elim

theorem allDeclared_append {ys : List Part} (hys : allDeclared ys) : ∀ {xs : List Part},
    allDeclared xs → allDeclared (xs ++ ys)
  | [], _ => hys
  | _ :: _, ⟨hx, hxs⟩ => ⟨hx, allDeclared_append hys hxs⟩

/-- The instance of a join is declared before the joins inside it, and stays so. -/
theorem joinParts_startDeclared : ∀ (nodes : List Node) {index : Alias} {declared : List Alias},
    allTidy index nodes → index ∈ declared → StartDeclared declared (joinParts nodes)
  | [], _, _, _, _ => trivial
  | n :: rest, index, declared, ⟨hn, hrest⟩, hindex => by
    have ih : ∀ more, index ∈ more → StartDeclared more (joinParts rest) := fun _ h =>
      joinParts_startDeclared rest hrest h
    cases n with
    | join kind association inner nodes =>
      obtain ⟨howner, hnodes⟩ := hn
      refine ⟨howner ▸ hindex, StartDeclared.append ?_ fun more hmore => ?_⟩
      · exact joinParts_startDeclared nodes hnodes (List.mem_cons_self ..)
      · exact ih more (hmore (List.mem_cons_of_mem _ hindex))
    | _ => exact ih declared hindex

mutual

theorem Node.conditionParts_declared (index : Alias) : ∀ n : Node, n.Tidy index →
    ∀ next, allDeclared (n.conditionParts next)
  | .predicate .., _, _ | .inList .., _, _ => ⟨trivial, trivial⟩
  | .connector _, _, _ | .orderBy .., _, _ | .join .., _, _ => trivial
  | .bracket nodes, ⟨_, _, htidy⟩, _ => ⟨(parts_declared index nodes htidy).2 none, trivial⟩
  | .existence _ _ inner nodes, htidy, _ | .inSubquery _ _ _ inner _ nodes, htidy, _ => by
    obtain ⟨hjoins, hconditions⟩ := parts_declared inner nodes htidy
    have hstart := joinParts_startDeclared nodes htidy (List.mem_singleton_self inner)
    exact ⟨⟨hstart, hjoins, hconditions none⟩, trivial⟩

theorem parts_declared (index : Alias) : ∀ nodes : List Node, allTidy index nodes →
    allDeclared (joinParts nodes) ∧ ∀ next, allDeclared (conditionParts next nodes)
  | [], _ => ⟨trivial, fun _ => trivial⟩
  | n :: rest, ⟨hn, hrest⟩ => by
    obtain ⟨hjoins, hconditions⟩ := parts_declared index rest hrest
    cases hc : n.isCondition with
    | true =>
      have hfirst := n.conditionParts_declared index hn
      have hj : n.isJoin = false := by cases n <;> first | rfl | cases hc
      rw [joinParts_cons hj]
      refine ⟨hjoins, fun next => ?_⟩
      rw [conditionParts_cons hc]
      exact allDeclared_append (hconditions _) (hfirst next)
    | false =>
      cases n with
      | connector | orderBy => exact ⟨hjoins, fun _ => hconditions _⟩
      | join kind association inner nodes =>
        obtain ⟨hjoins', hconditions'⟩ := parts_declared inner nodes hn.2
        exact ⟨⟨hconditions' none, allDeclared_append hjoins hjoins'⟩, hconditions⟩
      | _ => cases hc

end

/-! ### Whole queries -/

/-- The layout of a query has its nodes once each, where they belong. -/
structure Query.WrittenOnce (q : Query) : Prop where
  /-- The layout has every node as often as the query, at the place where it belongs. -/
  once : (placed q.root (.filter q.root) 0 q.nodes).Perm
    (placedJoins q.root (joinParts q.nodes) ++
      placedConditions (.filter q.root) 0 (conditionParts none q.nodes))
  /-- The joins of the query start from declared instances. -/
  starts : StartDeclared [q.root] (joinParts q.nodes)
  /-- So do the joins of the subqueries. -/
  inner : allDeclared (joinParts q.nodes) ∧ allDeclared (conditionParts none q.nodes)

theorem Query.writtenOnce {q : Query} (htidy : ∀ n ∈ q.nodes, n.Tidy q.root) : q.WrittenOnce := by
  have htidy := allTidy_iff.mpr htidy
  obtain ⟨hjoins, hconditions⟩ := parts_declared q.root q.nodes htidy
  exact ⟨placed_perm _ _ _ none q.root q.nodes htidy,
    joinParts_startDeclared q.nodes htidy (List.mem_singleton_self _), hjoins, hconditions none⟩

/-- Modifiers leave the nodes and the root alone. -/
theorem Query.modifyAll_frame (changes : List Modifier) : ∀ q : Query,
    (q.modifyAll changes).nodes = q.nodes ∧ (q.modifyAll changes).root = q.root := by
  induction changes with
  | nil => exact fun q => ⟨rfl, rfl⟩
  | cons change rest ih =>
    intro q
    obtain ⟨hnodes, hroot⟩ := ih (q.modify change)
    rw [modifyAll, List.foldl_cons, ← modifyAll, hnodes, hroot]
    cases change <;> exact ⟨rfl, rfl⟩

/-- Nor do they change what a program builds, or where it starts. -/
theorem Builds.modifyAll_frame {Means : Lookup → Reference → Prop} {entity : Entity}
    {calls : List Call} {t : Stream} (h : Builds Means (.start entity) calls t)
    (changes : List Modifier) : (t.build.modifyAll changes).nodes = t.nodes ∧
      (t.build.modifyAll changes).root = rootAlias := by
  obtain ⟨hnodes, hroot⟩ := Query.modifyAll_frame changes t.build
  exact ⟨hnodes, hroot.trans h.index⟩

/-- A rendering of what a program builds writes it once, whatever is changed about the query. -/
theorem Builds.render_writtenOnce {Means : Lookup → Reference → Prop} {entity : Entity}
    {calls : List Call} {t : Stream} (h : Builds Means (.start entity) calls t) {r : Renderer}
    {q : Query} {changes : List Modifier} {rendered : Rendered}
    (hq : q = t.build.modifyAll changes) (hr : r.render q = .ok rendered) :
    rendered.text =
        String.join ((Piece.tokensFrom r.conventions 0 (q.written r.mapping)).map (·.text)) ∧
      rendered.Binds r.conventions q.page (q.written r.mapping) ∧ q.WrittenOnce := by
  obtain ⟨hnodes, hroot⟩ := h.modifyAll_frame changes
  rw [← hq] at hnodes hroot
  have htidy : ∀ n ∈ q.nodes, n.Tidy q.root := by
    rw [hnodes, hroot]
    exact h.tidy (List.forall_mem_nil _)
  obtain ⟨htext, hbinds⟩ := Renderer.render_written hr
  exact ⟨htext, hbinds, Query.writtenOnce htidy⟩

/-- CONTENTS: the scopes of a program's nodes contain the joins and conditions that its surviving
calls ask for, in that order, and the nodes are tidy. A rendering that succeeds spells the layout of
the nodes, token by token, and the layout has each node once: joins in the FROM part of the statement
around them and after the instance they start from, conditions in their own parentheses, ON or
WHERE. -/
theorem contents_kept_and_written_once (entity : Entity) (calls : List Call) (w : Workspace) :
    joinsIn (runAll calls (.start entity) w).stream.nodes =
      joinsOf entity (surviving calls (.start entity) w) ∧
    conditionsIn (runAll calls (.start entity) w).stream.nodes =
      conditionsOf entity (surviving calls (.start entity) w) ∧
    (∀ n ∈ (runAll calls (.start entity) w).stream.nodes, n.Tidy rootAlias) ∧
    ∀ (q : Query) (changes : List Modifier) (r : Renderer) (rendered : Rendered),
      q = (runAll calls (.start entity) w).stream.build.modifyAll changes →
      r.render q = .ok rendered →
      rendered.text =
        String.join ((Piece.tokensFrom r.conventions 0 (q.written r.mapping)).map (·.text)) ∧
      rendered.Binds r.conventions q.page (q.written r.mapping) ∧ q.WrittenOnce := by
  have hbuilds := runAll_builds_marked calls (.start entity) w
  obtain ⟨hjoins, hconditions⟩ := hbuilds.items
  have htidy := hbuilds.tidy (List.forall_mem_nil _)
  exact ⟨hjoins, hconditions, htidy, fun q changes r rendered => hbuilds.render_writtenOnce⟩

end EntityQuery
