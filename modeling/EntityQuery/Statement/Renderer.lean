import EntityQuery.Query
import EntityQuery.Statement.Clause

/-!
Renderers: conventions and a mapping, which together turn a query into text. The pieces of the text
depend on the mapping alone, and the conventions only spell them.
-/

namespace EntityQuery

open EntityQuery.Telemetry

/-- Conventions and a mapping. -/
structure Renderer where
  conventions : Conventions := {}
  mapping : Mapping := .ofModels

/-- What a statement begins with: the instance that is selected, and how. -/
structure Head where
  root : Alias
  projection : Projection := .entity
  distinct : Bool := false

/-- What is selected, from `SELECT` on. -/
def Head.selection (h : Head) : List Piece :=
  match h.projection, h.distinct with
  | .entity, false => [.aliasOf h.root]
  | .entity, true => [.word "DISTINCT ", .aliasOf h.root]
  | .count, false => [.word "count(", .aliasOf h.root, .word ")"]
  | .count, true => [.word "count(DISTINCT ", .aliasOf h.root, .word ")"]

/-- A statement over an entity. -/
def Clause.statement (m : Mapping) (entity : EntityModel) (head : Head) (nodes : List Node) :
    Clause := do
  let table ← table m entity
  let joined ← joins m nodes
  let filter ← introduce " WHERE " nodes (conditions m none nodes)
  let ordering ← ordering m nodes
  return .word "SELECT " :: head.selection ++
    .word " FROM " :: table ++ [.word " ", .aliasOf head.root] ++ joined ++ filter ++ ordering

namespace Query

/-- What the statement of a query begins with. -/
def head (q : Query) : Head := ⟨q.root, q.projection, q.distinct⟩

/-- What a query selects. -/
def selection (q : Query) : List Piece := q.head.selection

/-- The statement that a query amounts to. -/
def statement (m : Mapping) (q : Query) : Clause :=
  Clause.statement m q.entity.model q.head q.nodes

/-- The clauses of a statement, one after the other. -/
theorem statement_clauses (m : Mapping) (q : Query) : q.statement m = do
    let table ← Clause.table m q.entity.model
    let joined ← Clause.joins m q.nodes
    let filter ← Clause.introduce " WHERE " q.nodes (Clause.conditions m none q.nodes)
    let ordering ← Clause.ordering m q.nodes
    return .word "SELECT " :: q.selection ++
      .word " FROM " :: table ++ [.word " ", .aliasOf q.root] ++ joined ++ filter ++ ordering := rfl

/-- The parts of a statement that is written. -/
theorem statement_ok {m : Mapping} {q : Query} {pieces : List Piece}
    (h : q.statement m = .ok pieces) : ∃ table joined filter ordering,
      Clause.table m q.entity.model = .ok table ∧ Clause.joins m q.nodes = .ok joined ∧
      Clause.introduce " WHERE " q.nodes (Clause.conditions m none q.nodes) = .ok filter ∧
      Clause.ordering m q.nodes = .ok ordering ∧ pieces = .word "SELECT " :: q.selection ++
        .word " FROM " :: table ++ [.word " ", .aliasOf q.root] ++ joined ++ filter ++ ordering := by
  rw [statement_clauses] at h
  obtain ⟨table, htable, h⟩ := bind_ok h
  obtain ⟨joined, hjoined, h⟩ := bind_ok h
  obtain ⟨filter, hfilter, h⟩ := bind_ok h
  obtain ⟨ordering, hordering, h⟩ := bind_ok h
  cases h
  exact ⟨table, joined, filter, ordering, htable, hjoined, hfilter, hordering, rfl⟩

end Query

namespace Renderer

/-- The text of a statement with the values it binds, beside the page that is asked for. -/
def finish (r : Renderer) (entity : Entity) (head : Head) (nodes : List Node) (page : Page) :
    Except RenderError Rendered :=
  (Clause.statement r.mapping entity.model head nodes).map (Piece.render r.conventions page)

/-- The text of a query. -/
def render (r : Renderer) (q : Query) : Except RenderError Rendered :=
  r.finish q.entity q.head q.nodes q.page

/-- The text of a stream that is not finished: its entities, all of them. -/
def renderStream (r : Renderer) (s : Stream) : Except RenderError Rendered :=
  r.finish s.entity { root := s.index } s.nodes {}

theorem render_eq (r : Renderer) (q : Query) :
    r.render q = (q.statement r.mapping).map (Piece.render r.conventions q.page) := rfl

/-- A stream is rendered as the query that it would be if it were finished now. -/
theorem renderStream_eq (r : Renderer) (s : Stream) : r.renderStream s = r.render s.build := rfl

/-- A rendering is a statement with its pieces spelled. -/
theorem render_ok {r : Renderer} {q : Query} {rendered : Rendered} (h : r.render q = .ok rendered) :
    ∃ pieces, q.statement r.mapping = .ok pieces ∧
      rendered = Piece.render r.conventions q.page pieces := by
  rw [render_eq] at h
  cases hstatement : q.statement r.mapping with
  | error e => rw [hstatement] at h; cases h
  | ok pieces => rw [hstatement] at h; cases h; exact ⟨pieces, rfl, rfl⟩

/-! ### Telling the journal -/

/-- The line for a query that was rendered. -/
def doneLine (entity : Entity) (rendered : Rendered) : LogLine :=
  ⟨.debug, "query rendered",
    [("entity", entity.model.entityName), ("parameters", toString rendered.parameters.length),
      ("text", rendered.text)]⟩

/-- The line for a query that cannot be rendered. -/
def failureLine (entity : Entity) (error : RenderError) : LogLine :=
  ⟨.debug, "query render failed",
    [("entity", entity.model.entityName), ("error", error.message)]⟩

/-- What came of a rendering, with the journal that tells of it. -/
def tell (entity : Entity) (journal : Journal) :
    Except RenderError Rendered → Except RenderError Rendered × Journal
  | .ok rendered =>
    (.ok rendered, journal.add (.rendered entity.path rendered.parameters.length)
      (doneLine entity rendered))
  | .error e => (.error e, journal.add (.renderFailed entity.path) (failureLine entity e))

/-- Renders a query and tells of it. -/
def renderTelling (r : Renderer) (q : Query) (journal : Journal) :
    Except RenderError Rendered × Journal := tell q.entity journal (r.render q)

/-- Renders a stream and tells of it. -/
def renderStreamTelling (r : Renderer) (s : Stream) (journal : Journal) :
    Except RenderError Rendered × Journal := tell s.entity journal (r.renderStream s)

/-- What is told of a stream is what is told of the query. -/
theorem renderStreamTelling_eq (r : Renderer) (s : Stream) (journal : Journal) :
    r.renderStreamTelling s journal = r.renderTelling s.build journal := rfl

end Renderer

end EntityQuery
