import EntityQuery.Proofs.Shape
import EntityQuery.Proofs.Survivor

/-!
Plain forms: nodes of which less counts. Two runs of one program over different stores give references
at different places, so a form of the nodes says what of a reference counts: all that it carries, or
only its fingerprint. Every operation on a stream commutes with taking a form. Rendering does not see
the places at all, and a plain form is a form without them.

```
nodes    c0.⟨store 3, slot 5, total⟩ > 1
plain    c0.⟨total⟩ > 1                     the same text
marks    c0.⟨fingerprint of total⟩ > 1      the same key of the same type
```
-/

namespace EntityQuery

open EntityQuery.Field

/-! ### Forms -/

/-- A reference without its place. -/
def Field.Reference.plain (r : Reference) : Reference := ⟨0, 0, r.descriptor⟩

/-- A reference with its fingerprint alone. -/
def Field.Reference.mark (r : Reference) : Reference :=
  ⟨0, 0, ⟨r.descriptor.fingerprint, ⟨"", "", "", []⟩, ⟨"", ""⟩, "", none⟩⟩

/-- A field with another form of its reference. -/
def ScopedField.mapRefs (form : Reference → Reference) (f : ScopedField) : ScopedField :=
  ⟨form f.reference, f.owner⟩

/-- A right-hand side with other forms of its references. -/
def Operand.mapRefs (form : Reference → Reference) : Operand → Operand
  | .field f => .field (f.mapRefs form)
  | x => x

mutual

/-- A node with other forms of its references. -/
def Node.mapRefs (form : Reference → Reference) : Node → Node
  | .predicate f op x => .predicate (f.mapRefs form) op (x.mapRefs form)
  | .connector c => .connector c
  | .bracket nodes => .bracket (mapRefs form nodes)
  | .inList f negated values => .inList (f.mapRefs form) negated values
  | .orderBy f direction position => .orderBy (f.mapRefs form) direction position
  | .join kind association index nodes =>
    .join kind (association.mapRefs form) index (mapRefs form nodes)
  | .existence negated association index nodes =>
    .existence negated (association.mapRefs form) index (mapRefs form nodes)
  | .inSubquery f negated source index select nodes =>
    .inSubquery (f.mapRefs form) negated source index (select.mapRefs form) (mapRefs form nodes)

/-- Nodes with other forms of their references. -/
def mapRefs (form : Reference → Reference) : List Node → List Node
  | [] => []
  | node :: rest => node.mapRefs form :: mapRefs form rest

end

/-- A stream with other forms of the references in its nodes. -/
def Stream.mapRefs (form : Reference → Reference) (s : Stream) : Stream :=
  { s with nodes := EntityQuery.mapRefs form s.nodes }

/-- A field without the place of its reference. -/
abbrev ScopedField.plain (f : ScopedField) : ScopedField := f.mapRefs Reference.plain

/-- A node without places. -/
abbrev Node.plain (n : Node) : Node := n.mapRefs Reference.plain

/-- Nodes without places. -/
abbrev plainNodes (nodes : List Node) : List Node := mapRefs Reference.plain nodes

/-- A stream whose nodes have no places. -/
abbrev Stream.plain (s : Stream) : Stream := s.mapRefs Reference.plain

/-- A stream whose references are their fingerprints. -/
abbrev Stream.marks (s : Stream) : Stream := s.mapRefs Reference.mark

theorem mapRefs_eq_map (form : Reference → Reference) : ∀ nodes : List Node,
    mapRefs form nodes = nodes.map (Node.mapRefs form)
  | [] => rfl
  | node :: rest => by rw [mapRefs, mapRefs_eq_map form rest, List.map_cons]

/-! ### Building -/

theorem mapRefs_keepsShape (form : Reference → Reference) :
    KeepsShape (Node.mapRefs form) (ScopedField.mapRefs form) where
  connector _ := by rw [Node.mapRefs]
  predicate f op x := ⟨x.mapRefs form, by rw [Node.mapRefs]⟩
  inList f negated values := ⟨values, by rw [Node.mapRefs]⟩
  orderBy _ _ _ := by rw [Node.mapRefs]
  bracket _ := by rw [Node.mapRefs, mapRefs_eq_map]
  join _ _ _ _ := by rw [Node.mapRefs, mapRefs_eq_map]
  existence _ _ _ _ := by rw [Node.mapRefs, mapRefs_eq_map]
  inSubquery _ _ _ _ _ _ := by rw [Node.mapRefs, mapRefs_eq_map]

namespace Stream

variable {form : Reference → Reference} {s s' c c' : Stream}

theorem mapRefs_eq_mapNodes (form : Reference → Reference) (s : Stream) :
    s.mapRefs form = s.mapNodes (Node.mapRefs form) := by
  rw [mapRefs, mapNodes, mapRefs_eq_map]

/-- Streams of one form are over one entity, in one scope, at one ordering position, and have nodes
of one form. -/
theorem mapRefs_inj (h : s.mapRefs form = s'.mapRefs form) :
    s.entity = s'.entity ∧ s.scope = s'.scope ∧ s.orders = s'.orders ∧
      EntityQuery.mapRefs form s.nodes = EntityQuery.mapRefs form s'.nodes := by
  have hentity := congrArg Stream.entity h
  have hscope := congrArg Stream.scope h
  have horders := congrArg Stream.orders h
  have hnodes := congrArg Stream.nodes h
  exact ⟨hentity, hscope, horders, hnodes⟩

theorem mapRefs_pushCondition (form : Reference → Reference) (s : Stream) (n : Node) :
    (s.pushCondition n).mapRefs form = (s.mapRefs form).pushCondition (n.mapRefs form) := by
  simp only [mapRefs_eq_mapNodes, (mapRefs_keepsShape form).pushCondition]

/-! What is done to streams of one form gives streams of one form. -/

theorem mapRefs_pushCondition_congr (h : s.mapRefs form = s'.mapRefs form) {n n' : Node}
    (hn : n.mapRefs form = n'.mapRefs form) :
    (s.pushCondition n).mapRefs form = (s'.pushCondition n').mapRefs form := by
  rw [mapRefs_pushCondition, mapRefs_pushCondition, h, hn]

theorem mapRefs_pushOrder_congr (h : s.mapRefs form = s'.mapRefs form) {f f' : ScopedField}
    (hf : f.mapRefs form = f'.mapRefs form) (direction : Direction) :
    (s.pushOrder f direction).mapRefs form = (s'.pushOrder f' direction).mapRefs form := by
  simp only [mapRefs_eq_mapNodes, (mapRefs_keepsShape form).pushOrder, hf] at h ⊢
  rw [h]

theorem mapRefs_group_congr (h : s.mapRefs form = s'.mapRefs form) :
    s.group.mapRefs form = s'.group.mapRefs form := by
  have hgroup := congrArg Stream.group h
  exact hgroup

theorem mapRefs_child_congr (h : s.mapRefs form = s'.mapRefs form) (entity : Entity)
    (orders : Nat) :
    (s.child entity orders).mapRefs form = (s'.child entity orders).mapRefs form := by
  have hchild := congrArg (Stream.child · entity orders) h
  exact hchild

theorem mapRefs_acceptGroup_congr (h : s.mapRefs form = s'.mapRefs form)
    (hc : c.mapRefs form = c'.mapRefs form) :
    (s.acceptGroup c).mapRefs form = (s'.acceptGroup c').mapRefs form := by
  simp only [mapRefs_eq_mapNodes, (mapRefs_keepsShape form).acceptGroup] at h hc ⊢
  rw [h, hc]

theorem mapRefs_acceptJoin_congr (h : s.mapRefs form = s'.mapRefs form) (kind : JoinKind)
    {f f' : ScopedField} (hf : f.mapRefs form = f'.mapRefs form)
    (hc : c.mapRefs form = c'.mapRefs form) :
    (s.acceptJoin kind f c).mapRefs form = (s'.acceptJoin kind f' c').mapRefs form := by
  simp only [mapRefs_eq_mapNodes, (mapRefs_keepsShape form).acceptJoin, hf] at h hc ⊢
  rw [h, hc]

theorem mapRefs_acceptSubquery_congr (h : s.mapRefs form = s'.mapRefs form)
    (hc : c.mapRefs form = c'.mapRefs form) {n n' : Node} (hn : n.mapRefs form = n'.mapRefs form) :
    (s.acceptSubquery c n).mapRefs form = (s'.acceptSubquery c' n').mapRefs form := by
  simp only [mapRefs_eq_mapNodes, (mapRefs_keepsShape form).acceptSubquery, hn] at h hc ⊢
  rw [h, hc]

end Stream

/-! ### Rendering -/

theorem members_plain (f : ScopedField) : ∀ vs : List Value,
    Clause.members f.plain vs = Clause.members f vs
  | [] => rfl
  | [_] => rfl
  | v :: w :: vs => by simp only [Clause.members, members_plain f (w :: vs)]; rfl

/-- The place of a reference is not written. -/
theorem plain_keepsText : KeepsText Node.plain ScopedField.plain where
  toKeepsShape := mapRefs_keepsShape Reference.plain
  descriptor _ := rfl
  owner _ := rfl
  comparison f op x x' hx m := by
    rw [Node.plain, Node.mapRefs] at hx
    cases hx
    cases x <;> rfl
  membership f negated values values' hvalues m := by
    rw [Node.plain, Node.mapRefs] at hvalues
    cases hvalues
    simp only [Clause.membership, members_plain]
    rfl

/-- A query whose nodes have no places. -/
def Query.plain (q : Query) : Query := { q with nodes := plainNodes q.nodes }

theorem Query.plain_modifyAll (changes : List Modifier) : ∀ q : Query,
    (q.modifyAll changes).plain = q.plain.modifyAll changes := by
  induction changes with
  | nil => exact fun _ => rfl
  | cons change rest ih =>
    intro q
    rw [modifyAll, List.foldl_cons, ← modifyAll, ih]
    cases change <;> rfl

/-- Rendering a query does not depend on where its references lie. -/
theorem Query.render_plain (q : Query) (r : Renderer) : r.render q.plain = r.render q := by
  rw [Query.plain, plainNodes, mapRefs_eq_map]
  exact plain_keepsText.render r q

/-- Queries are rendered alike if their nodes have one plain form, whatever is changed about them. -/
theorem render_congr {s s' : Stream} (h : s.plain = s'.plain) (changes : List Modifier)
    (r : Renderer) :
    r.render (s.build.modifyAll changes) = r.render (s'.build.modifyAll changes) := by
  have hbuild : s.build.plain = s'.build.plain := congrArg Stream.build h
  rw [← Query.render_plain, ← (s'.build.modifyAll changes).render_plain, Query.plain_modifyAll,
    Query.plain_modifyAll, hbuild]

end EntityQuery
