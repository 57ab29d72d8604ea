import EntityQuery.Statement.Renderer

/-!
Builder programs. A program is a list of calls on a stream; a call that opens a group, a join or a
subquery carries the program that configures it. A program stops at the first call that fails,
unless the failure is caught.

Every call that names a field resolves it first. A call that fails leaves its stream as it was, so
that after a caught failure building goes on as if the call had not been made; what it looked up
stays in the store, and what it told stays in the journal.
-/

namespace EntityQuery

open EntityQuery.Field EntityQuery.Telemetry

/-- A call on a stream. -/
inductive Call where
  /-- Opens the boolean expression. -/
  | filter
  /-- Asks for a connector before the next condition. -/
  | connect (c : Connector)
  /-- Compares a field with a value. -/
  | compare (field : Accessor) (op : CompareOp) (value : Value)
  /-- Asks whether a field is null, or not. -/
  | nullCheck (field : Accessor) (negated : Bool)
  /-- Asks whether a field is among values, or not. -/
  | isIn (field : Accessor) (negated : Bool) (values : List Value)
  /-- Compares a field with one of the nearest enclosing instance of an entity. -/
  | compareOuter (field : Accessor) (op : CompareOp) (outer : Entity) (outerField : Accessor)
  /-- Orders by a field. -/
  | orderBy (field : Accessor) (direction : Direction)
  /-- Groups conditions. -/
  | brackets (configure : List Call)
  /-- Joins an associated entity. -/
  | join (kind : JoinKind) (association : Accessor) (target : Entity) (configure : List Call)
  /-- Asks whether an association leads to any entity, or to none. -/
  | existence (negated : Bool) (association : Accessor) (target : Entity) (configure : List Call)
  /-- Asks whether a field is among those selected from an entity, or not. -/
  | inSubquery (field : Accessor) (negated : Bool) (source : Entity) (select : Accessor)
      (configure : List Call)
  /-- Fails with an error of the caller's own. -/
  | fail (e : ResolutionError)
  /-- Looks at the stream. -/
  | inspect
  /-- Renders the stream as it is, with parameters to look up in the result. -/
  | render (r : Renderer) (names : List String)
  /-- Makes a call, and goes on if it fails. -/
  | attempt (call : Call)

/-- Something a program saw while it ran. -/
inductive Observation where
  /-- The nodes of a stream, and whether its boolean expression was opened. -/
  | seen (nodes : List Node) (filtering : Bool)
  /-- What rendering a stream gave, and the parameters to look up in it. -/
  | rendered (result : Except RenderError Rendered) (names : List String)
  /-- A failure that was caught, and how many nodes its stream had. -/
  | caught (e : ResolutionError) (nodes : Nat)

/-- What the calls of a program share: the descriptor store, the journal, and what was seen. -/
structure Workspace where
  store : Store
  journal : Journal := {}
  seen : List Observation := []

namespace Workspace

/-- Resolves an accessor of an entity. -/
def resolve (w : Workspace) (entity : Entity) (accessor : Accessor) :
    Except ResolutionError Reference × Workspace :=
  match Field.resolve entity accessor w.store w.journal with
  | (result, store, journal) => (result, { w with store, journal })

/-- Resolves a field of a stream's own instance. -/
def field (w : Workspace) (s : Stream) (accessor : Accessor) :
    Except ResolutionError ScopedField × Workspace :=
  match w.resolve s.entity accessor with
  | (result, w) => (result.map s.bind, w)

/-- Takes note of something seen. -/
def note (w : Workspace) (o : Observation) : Workspace := { w with seen := w.seen ++ [o] }

end Workspace

/-- How a call ended, the stream it was made on, and the workspace after it. -/
structure Outcome where
  result : Except ResolutionError Unit
  stream : Stream
  workspace : Workspace

namespace Outcome

/-- A call that succeeded. -/
def done (s : Stream) (w : Workspace) : Outcome := ⟨.ok (), s, w⟩

/-- A call that failed. -/
def failed (e : ResolutionError) (s : Stream) (w : Workspace) : Outcome := ⟨.error e, s, w⟩

end Outcome

/-- The comparison that a null check amounts to. -/
def CompareOp.ofNullCheck (negated : Bool) : CompareOp := if negated then .notNull else .isNull

/-- The right-hand side of a comparison with a field of an enclosing instance. -/
def Operand.ofOuter (op : CompareOp) (f : ScopedField) : Operand :=
  if op.isUnary then .none else .field f

mutual

/-- Makes a call on a stream. -/
def Call.run : Call → Stream → Workspace → Outcome
  | .filter, s, w => .done { s with filtering := true } w
  | .connect c, s, w => .done { s with pending := some c } w
  | .compare accessor op value, s, w =>
    match w.field s accessor with
    | (.error e, w) => .failed e s w
    | (.ok f, w) => .done (s.pushCondition (.predicate f op (.value value))) w
  | .nullCheck accessor negated, s, w =>
    match w.field s accessor with
    | (.error e, w) => .failed e s w
    | (.ok f, w) => .done (s.pushCondition (.predicate f (.ofNullCheck negated) .none)) w
  | .isIn accessor negated values, s, w =>
    match w.field s accessor with
    | (.error e, w) => .failed e s w
    | (.ok f, w) => .done (s.pushCondition (.inList f negated values)) w
  | .compareOuter accessor op outer outerAccessor, s, w =>
    match w.field s accessor with
    | (.error e, w) => .failed e s w
    | (.ok f, w) =>
      match w.resolve outer outerAccessor with
      | (.error e, w) => .failed e s w
      | (.ok reference, w) =>
        match s.scope.findOuter? outer.path with
        | none => .failed (.noOuterScope outer.model.entityName reference.descriptor.name) s w
        | some owner =>
          .done (s.pushCondition (.predicate f op (.ofOuter op ⟨reference, owner⟩))) w
  | .orderBy accessor direction, s, w =>
    match w.field s accessor with
    | (.error e, w) => .failed e s w
    | (.ok f, w) => .done (s.pushOrder f direction) w
  | .brackets configure, s, w =>
    match runAll configure s.group w with
    | ⟨.error e, _, w⟩ => .failed e s w
    | ⟨.ok (), group, w⟩ => .done (s.acceptGroup group) w
  | .join kind accessor target configure, s, w =>
    match w.field s accessor with
    | (.error e, w) => .failed e s w
    | (.ok association, w) =>
      match runAll configure (s.child target s.orders) w with
      | ⟨.error e, _, w⟩ => .failed e s w
      | ⟨.ok (), child, w⟩ => .done (s.acceptJoin kind association child) w
  | .existence negated accessor target configure, s, w =>
    match w.field s accessor with
    | (.error e, w) => .failed e s w
    | (.ok association, w) =>
      match runAll configure (s.child target 0) w with
      | ⟨.error e, _, w⟩ => .failed e s w
      | ⟨.ok (), child, w⟩ =>
        .done (s.acceptSubquery child (.existence negated association child.index child.nodes)) w
  | .inSubquery accessor negated source select configure, s, w =>
    match w.field s accessor with
    | (.error e, w) => .failed e s w
    | (.ok f, w) =>
      match runAll configure (s.child source 0) w with
      | ⟨.error e, _, w⟩ => .failed e s w
      | ⟨.ok (), child, w⟩ =>
        match w.field child select with
        | (.error e, w) => .failed e s w
        | (.ok selected, w) =>
          .done (s.acceptSubquery child
            (.inSubquery f negated source.model child.index selected child.nodes)) w
  | .fail e, s, w => .failed e s w
  | .inspect, s, w => .done s (w.note (.seen s.nodes s.filtering))
  | .render r names, s, w =>
    match r.renderStreamTelling s w.journal with
    | (result, journal) => .done s ({ w with journal }.note (.rendered result names))
  | .attempt call, s, w =>
    match call.run s w with
    | ⟨.error e, s, w⟩ => .done s (w.note (.caught e s.nodes.length))
    | outcome => outcome

/-- Makes calls one after the other, up to the first that fails. -/
def runAll : List Call → Stream → Workspace → Outcome
  | [], s, w => .done s w
  | call :: rest, s, w =>
    match call.run s w with
    | ⟨.ok (), s, w⟩ => runAll rest s w
    | outcome => outcome

end

end EntityQuery
