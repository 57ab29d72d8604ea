import EntityQuery.Proofs.Binding
import EntityQuery.Proofs.Placement
import Mathlib.Data.List.Induction

/-!
Selection: what modifiers change about a query. A statement is made of what is selected and of what
stands after FROM, and only the first part knows of modifiers. Which of them came first is not seen:
a flag stays once it is set, and a later limit or offset replaces the one before.

```
build · limit 9 · distinct · count · limit 5
SELECT count(DISTINCT c0) FROM person c0 WHERE …     page: 5 from 0
```
-/

namespace EntityQuery

/-! ### What modifiers leave -/

/-- The limit that a modifier sets. -/
def Modifier.limit? : Modifier → Option Nat
  | .limit n => some n
  | _ => none

/-- The offset that a modifier sets. -/
def Modifier.offset? : Modifier → Option Nat
  | .offset n => some n
  | _ => none

/-- The last limit that modifiers set. -/
def lastLimit (changes : List Modifier) : Option Nat := (changes.filterMap Modifier.limit?).getLast?

/-- The last offset that modifiers set; it is zero if there is none. -/
def lastOffset (changes : List Modifier) : Nat :=
  (changes.filterMap Modifier.offset?).getLast?.getD 0

/-- An alias as it is selected: each once, and counted. -/
def selected (count distinct : Bool) (name : String) : String :=
  let chosen := if distinct then "DISTINCT " ++ name else name
  if count then "count(" ++ chosen ++ ")" else chosen

theorem Query.modifyAll_concat (q : Query) (changes : List Modifier) (change : Modifier) :
    q.modifyAll (changes ++ [change]) = (q.modifyAll changes).modify change := by
  simp [modifyAll, List.foldl_append]

/-- Of modifiers in a row, a built query shows whether a flag is among them, and the last limit and
offset. -/
theorem Stream.modifyAll_build (s : Stream) (changes : List Modifier) :
    s.build.modifyAll changes =
      { s.build with
        projection := if .count ∈ changes then .count else .entity
        distinct := .distinct ∈ changes
        page := ⟨lastLimit changes, lastOffset changes⟩ } := by
  induction changes using List.reverseRecOn with
  | nil => rfl
  | append_singleton changes change ih =>
    rw [Query.modifyAll_concat, ih]
    cases change <;>
      simp [Query.modify, lastLimit, lastOffset, Modifier.limit?, Modifier.offset?]

/-! ### What stands after FROM -/

/-- A statement from its table on. -/
def Query.source (m : Mapping) (q : Query) : Clause := do
  let table ← Clause.table m q.entity.model
  let joined ← Clause.joins m q.nodes
  let filter ← Clause.introduce " WHERE " q.nodes (Clause.conditions m none q.nodes)
  let ordering ← Clause.ordering m q.nodes
  return table ++ [.word " ", .aliasOf q.root] ++ joined ++ filter ++ ordering

/-- What is selected, before the rest of a statement. -/
def Query.headed (q : Query) (rest : List Piece) : List Piece :=
  .word "SELECT " :: q.selection ++ .word " FROM " :: rest

theorem Query.statement_eq (m : Mapping) (q : Query) :
    q.statement m = (q.source m).map q.headed := by
  rw [statement_clauses]
  unfold source
  cases Clause.table m q.entity.model with
  | error e => rfl
  | ok table =>
    cases Clause.joins m q.nodes with
    | error e => rfl
    | ok joined =>
      cases Clause.introduce " WHERE " q.nodes (Clause.conditions m none q.nodes) with
      | error e => rfl
      | ok filter =>
        cases Clause.ordering m q.nodes with
        | error e => rfl
        | ok ordering =>
          refine congrArg Except.ok ?_
          simp [headed]

/-- The text of a statement is that of its two parts. -/
theorem Stream.headed_spell (c : Conventions) (s : Stream) (changes : List Modifier)
    (rest : List Piece) :
    Piece.spellFrom c 0 ((s.build.modifyAll changes).headed rest) =
      "SELECT " ++ (selected (.count ∈ changes) (.distinct ∈ changes) (c.aliasName s.index) ++
        (" FROM " ++ Piece.spellFrom c 0 rest)) := by
  have hboth (t : String) : "count(DISTINCT " ++ t = "count(" ++ ("DISTINCT " ++ t) := by
    rw [← String.append_assoc]
    rfl
  rw [s.modifyAll_build]
  by_cases hcount : .count ∈ changes <;> by_cases hdistinct : .distinct ∈ changes <;>
    simp [Query.headed, Query.selection, Query.head, Head.selection, selected, hcount, hdistinct, Piece.spellFrom,
      String.append_assoc, hboth, Stream.build]

/-- Nothing is bound in what is selected. -/
theorem Query.headed_bindings (q : Query) (rest : List Piece) :
    Piece.bindings (q.headed rest) = Piece.bindings rest := by
  unfold headed selection head
  cases q.projection <;> cases q.distinct <;> simp [Head.selection]

/-- SELECTION: rendering a query after modifiers fails exactly if it fails before, with the same
error. Otherwise the parameters and the text from FROM on are the same; between SELECT and FROM stands
the alias, behind DISTINCT and within `count(…)` exactly if the modifier for it is among them, and the
page has the last limit and the last offset. So modifiers with the same flags, last limit and last
offset give the same in any order. A stream that is rendered as it is gives what its query gives
without modifiers, and that is what a program sees of it. -/
theorem modifiers_change_selection_and_page (s : Stream) (r : Renderer) (changes : List Modifier) :
    ((∃ e, r.render s.build = .error e ∧ r.render (s.build.modifyAll changes) = .error e) ∨
      ∃ plain changed rest,
        r.render s.build = .ok plain ∧ r.render (s.build.modifyAll changes) = .ok changed ∧
        changed.parameters = plain.parameters ∧
        plain.text = "SELECT " ++ (r.conventions.aliasName s.index ++ (" FROM " ++ rest)) ∧
        changed.text = "SELECT " ++ (selected (.count ∈ changes) (.distinct ∈ changes)
          (r.conventions.aliasName s.index) ++ (" FROM " ++ rest)) ∧
        plain.page = {} ∧ changed.page = ⟨lastLimit changes, lastOffset changes⟩) ∧
    (∀ changes' : List Modifier, (.count ∈ changes ↔ .count ∈ changes') →
      (.distinct ∈ changes ↔ .distinct ∈ changes') → lastLimit changes = lastLimit changes' →
      lastOffset changes = lastOffset changes' →
      r.render (s.build.modifyAll changes) = r.render (s.build.modifyAll changes')) ∧
    r.renderStream s = r.render (s.build.modifyAll []) ∧
    ∀ (names : List String) (w : Workspace), ((Call.render r names).run s w).workspace.seen =
      w.seen ++ [.rendered (r.render (s.build.modifyAll [])) names] := by
  refine ⟨?_, ?_, r.renderStream_eq s, ?_⟩
  · have hsource : (s.build.modifyAll changes).source r.mapping = s.build.source r.mapping := by
      rw [s.modifyAll_build]
      rfl
    simp only [Renderer.render_eq, Query.statement_eq, hsource]
    cases s.build.source r.mapping with
    | error e => exact .inl ⟨e, rfl, rfl⟩
    | ok rest =>
      refine .inr ⟨_, _, Piece.spellFrom r.conventions 0 rest, rfl, rfl, ?_, ?_, ?_, rfl, ?_⟩
      · simp only [Piece.render, Query.headed_bindings]
      · exact s.headed_spell r.conventions [] rest
      · exact s.headed_spell r.conventions changes rest
      · rw [s.modifyAll_build]
        rfl
  · intro changes' hcount hdistinct hlimit hoffset
    simp only [s.modifyAll_build, hcount, hdistinct, hlimit, hoffset]
  · intro names w
    have hmodified : s.build.modifyAll [] = s.build := rfl
    rw [hmodified, ← r.renderStream_eq s, Call.run, Renderer.renderStreamTelling]
    cases r.renderStream s with
    | error e | ok rendered => rfl

end EntityQuery
