import EntityQuery.Proofs.Survivor

/-!
Scoping: whose field stands where. The scopes of a query are its root and the bodies of its joins and
subqueries; a bracket opens none. The aliases are handed out in the order in which the surviving
calls open the scopes, so the path of the entity behind an alias can be read off the program. Walking
the nodes with these paths, every field belongs to the instance whose scope it stands in, and the
outer field of a comparison to the nearest enclosing instance of its entity.

```
Person  join addresses → Address [exists owner → Person [..]]  in Order [..]
  0              1                          2                    3
```
-/

namespace EntityQuery

open EntityQuery.Field

/-! ### Well-scoped nodes -/

namespace Scope

/-- The field is one of the current instance and of its entity. -/
def Owns (scope : Scope) (f : ScopedField) : Prop :=
  f.owner = scope.index ∧ f.descriptor.entity.path = scope.current.path

/-- The instance is the nearest enclosing one over a path. -/
def Nearest (scope : Scope) (path : String) (index : Alias) : Prop :=
  ∃ nearer farther, scope.outer = nearer ++ ⟨path, index⟩ :: farther ∧
    ∀ frame ∈ nearer, frame.path ≠ path

end Scope

/-- A field on the right-hand side belongs to the nearest enclosing instance of its entity. -/
def Operand.WellScoped (scope : Scope) : Operand → Prop
  | .field f => scope.Nearest f.descriptor.entity.path f.owner
  | .none | .value _ => True

mutual

/-- A node is well scoped, given the paths of the entities behind the aliases. -/
def Node.WellScoped (paths : List String) (scope : Scope) : Node → Prop
  | .predicate f _ x => scope.Owns f ∧ x.WellScoped scope
  | .connector _ => True
  | .bracket nodes => allWellScoped paths scope nodes
  | .inList f _ _ => scope.Owns f
  | .orderBy f _ _ => scope.Owns f
  | .join _ association index nodes | .existence _ association index nodes =>
    scope.Owns association ∧
      ∃ path, paths[index]? = some path ∧ allWellScoped paths (scope.child path index) nodes
  | .inSubquery f _ source index select nodes =>
    scope.Owns f ∧ paths[index]? = some source.path ∧
      (scope.child source.path index).Owns select ∧
      allWellScoped paths (scope.child source.path index) nodes

/-- Several nodes of one scope are well scoped. -/
def allWellScoped (paths : List String) (scope : Scope) : List Node → Prop
  | [] => True
  | node :: rest => node.WellScoped paths scope ∧ allWellScoped paths scope rest

end

mutual

/-- The paths of the entities over which a call opens scopes, in the order of opening. -/
def Call.openings : Call → List String
  | .brackets configure => openings configure
  | .join _ _ target configure | .existence _ _ target configure =>
    target.path :: openings configure
  | .inSubquery _ _ source _ configure => source.path :: openings configure
  | _ => []

/-- The paths of the entities over which a program opens scopes, in the order of opening. -/
def openings : List Call → List String
  | [] => []
  | call :: rest => call.openings ++ openings rest

end

theorem Step.openings {Means : Lookup → Reference → Prop} {s t : Stream} {call : Call}
    (h : Step Means s call t) : call.openings = [] := by
  cases h <;> rfl

/-- Every scope that is opened takes one alias. -/
theorem Builds.nextAlias {Means : Lookup → Reference → Prop} {s t : Stream} {calls : List Call}
    (h : Builds Means s calls t) :
    (openings calls).length + s.nextAlias = t.nextAlias := by
  induction h with
  | nil => simp [openings]
  | step hstep _ ih => rw [← ih, hstep.frame.2.2, openings, hstep.openings, List.nil_append]
  | @brackets s g t configure rest _ _ ihg ih =>
    rw [← ih, Stream.acceptGroup_nextAlias, ← ihg, openings, Call.openings, List.length_append,
      Nat.add_assoc, Nat.add_left_comm]
    rfl
  | join _ _ _ _ ihc ih | existence _ _ _ _ ihc ih | inSubquery _ _ _ _ _ ihc ih =>
    simp only [Stream.acceptJoin_nextAlias, Stream.acceptSubquery_nextAlias,
      Stream.child_nextAlias] at ih ihc
    simp only [openings, Call.openings, List.length_append, List.length_cons]
    omega

/-- A child takes an alias for itself and one for each scope that is opened in it. -/
theorem Builds.child_nextAlias {Means : Lookup → Reference → Prop} {s c : Stream} {entity : Entity}
    {orders : Nat} {calls : List Call} (h : Builds Means (s.child entity orders) calls c) :
    (entity.path :: openings calls).length + s.nextAlias = c.nextAlias := by
  rw [← h.nextAlias, Stream.child_nextAlias, List.length_cons, Nat.add_right_comm, Nat.add_assoc]

section

variable {xs ys paths : List String} {n : Nat}

theorem prefix_append (h : xs ++ ys <+: paths.drop n) :
    xs <+: paths.drop n ∧ ys <+: paths.drop (xs.length + n) := by
  obtain ⟨zs, hz⟩ := h
  refine ⟨⟨ys ++ zs, by rw [← hz, List.append_assoc]⟩, ⟨zs, ?_⟩⟩
  rw [Nat.add_comm, ← List.drop_drop, ← hz, List.append_assoc, List.drop_left]

end

/-! ### Building keeps nodes well scoped -/

variable {known : List Lookup}

section

variable {paths : List String} {s t : Stream} {calls : List Call}

end

end EntityQuery
