import EntityQuery.Proofs.Sharing
import EntityQuery.Telemetry.Tally
import Mathlib.Data.List.Dedup

/-!
Chronicles: what a run tells of itself. A run makes lookups and renders queries, in programs and by
themselves; the store counts, and the journal takes an event and a line for each of these operations,
whether it succeeds or not and whatever becomes of the calls around it. All three tell the same story,
which can be written down from the operations alone: a lookup that succeeds is a miss if no lookup
before it has found its fingerprint, and a hit otherwise.

```
operation   lookup name   lookup name   lookup nothing   render
event       miss          hit           failed           rendered 0
line        debug         trace         warn             debug
store       size 1        hits 1
```
-/

namespace EntityQuery

open EntityQuery.Field EntityQuery.Telemetry

/-! ### Operations -/

/-- Something that is told of. -/
inductive Operation where
  /-- A lookup, with what it led to. -/
  | lookup (l : Lookup) (result : Except ResolutionError Reference)
  | rendering (r : Renderer) (q : Query)

namespace Operation

/-- The fingerprint that was found, if the operation is a lookup that succeeded. -/
def found : Operation → Option Digest
  | .lookup _ (.ok r) => some r.descriptor.fingerprint
  | .lookup _ (.error _) | .rendering .. => none

/-- What is told of an operation, given the fingerprints that were found before it: an event, and a
line of some level with a message and details. -/
def telling (known : List Digest) : Operation → Event × LogLine
  | .lookup l (.error e) =>
    (.resolved l.entity.path .failed, ⟨.warn, "accessor resolution failed",
      [("entity", l.entity.model.entityName), ("error", e.message)]⟩)
  | .lookup l (.ok r) =>
    if r.descriptor.fingerprint ∈ known then
      (.resolved l.entity.path .hit, ⟨.trace, "accessor cache hit",
        [("fingerprint", r.descriptor.fingerprint.shortHex), ("field", r.descriptor.name)]⟩)
    else
      (.resolved l.entity.path .miss, ⟨.debug, "accessor resolved",
        [("fingerprint", r.descriptor.fingerprint.shortHex),
          ("entity", r.descriptor.entity.entityName), ("accessor", r.descriptor.key.method),
          ("field", r.descriptor.name)]⟩)
  | .rendering r q =>
    match r.render q with
    | .ok rendered =>
      (.rendered q.entity.path rendered.parameters.length, ⟨.debug, "query rendered",
        [("entity", q.entity.model.entityName),
          ("parameters", toString rendered.parameters.length), ("text", rendered.text)]⟩)
    | .error e =>
      (.renderFailed q.entity.path, ⟨.debug, "query render failed",
        [("entity", q.entity.model.entityName), ("error", e.message)]⟩)

end Operation

/-- The fingerprints that operations found, in order. -/
def foundBy (ops : List Operation) : List Digest := ops.filterMap (·.found)

/-- What is told of operations, one after the other. -/
def tellings : List Digest → List Operation → List (Event × LogLine)
  | _, [] => []
  | known, op :: rest => op.telling known :: tellings (known ++ op.found.toList) rest

/-- The lookup of an accessor. -/
def Workspace.lookup (w : Workspace) (entity : Entity) (accessor : Accessor) : Operation :=
  .lookup ⟨entity, accessor⟩ (w.resolve entity accessor).1

mutual

/-- The operations of a call, those of its closure among them, also if it fails. -/
def Call.operations : Call → Stream → Workspace → List Operation
  | .filter, _, _ | .connect _, _, _ | .fail _, _, _ | .inspect, _, _ => []
  | .compare accessor _ _, s, w | .nullCheck accessor _, s, w | .isIn accessor _ _, s, w
  | .orderBy accessor _, s, w => [w.lookup s.entity accessor]
  | .compareOuter accessor _ outer outerAccessor, s, w =>
    w.lookup s.entity accessor ::
      match w.field s accessor with
      | (.error _, _) => []
      | (.ok _, w) => [w.lookup outer outerAccessor]
  | .brackets configure, s, w => operations configure s.group w
  | .join _ accessor target configure, s, w =>
    w.lookup s.entity accessor ::
      match w.field s accessor with
      | (.error _, _) => []
      | (.ok _, w) => operations configure (s.child target s.orders) w
  | .existence _ accessor target configure, s, w =>
    w.lookup s.entity accessor ::
      match w.field s accessor with
      | (.error _, _) => []
      | (.ok _, w) => operations configure (s.child target 0) w
  | .inSubquery accessor _ source select configure, s, w =>
    w.lookup s.entity accessor ::
      match w.field s accessor with
      | (.error _, _) => []
      | (.ok _, w) =>
        operations configure (s.child source 0) w ++
          match runAll configure (s.child source 0) w with
          | ⟨.error _, _, _⟩ => []
          | ⟨.ok (), child, w⟩ => [w.lookup child.entity select]
  | .render r _, s, _ => [.rendering r s.build]
  | .attempt call, s, w => call.operations s w

/-- The operations of calls made one after the other, up to the first that fails. -/
def operations : List Call → Stream → Workspace → List Operation
  | [], _, _ => []
  | call :: rest, s, w =>
    call.operations s w ++
      match call.run s w with
      | ⟨.ok (), s, w⟩ => operations rest s w
      | _ => []

end

/-! ### Runs -/

/-- What may be done with one store. -/
inductive Action where
  | resolve (l : Lookup)
  /-- Makes calls on a stream. -/
  | build (calls : List Call) (s : Stream)
  | render (r : Renderer) (q : Query)

/-- The workspace after an action. -/
def Action.run : Action → Workspace → Workspace
  | .resolve l, w => (w.resolve l.entity l.accessor).2
  | .build calls s, w => (runAll calls s w).workspace
  | .render r q, w => { w with journal := (r.renderTelling q w.journal).2 }

/-- The operations of an action. -/
def Action.operations : Action → Workspace → List Operation
  | .resolve l, w => [w.lookup l.entity l.accessor]
  | .build calls s, w => EntityQuery.operations calls s w
  | .render r q, _ => [.rendering r q]

/-- The workspace after actions. -/
def runActions : List Action → Workspace → Workspace
  | [], w => w
  | action :: rest, w => runActions rest (action.run w)

/-- The operations of actions. -/
def actionOperations : List Action → Workspace → List Operation
  | [], _ => []
  | action :: rest, w => action.operations w ++ actionOperations rest (action.run w)

/-- Operations take a workspace to another. What is noted besides is not told of. -/
inductive Happens (w : Workspace) : List Operation → Workspace → Prop
  | nothing : Happens w [] w
  | note {ops : List Operation} {w' : Workspace} (o : Observation) :
      Happens w ops w' → Happens w ops (w'.note o)
  | lookup {ops : List Operation} {w' : Workspace} (entity : Entity) (accessor : Accessor) :
      Happens w ops w' →
      Happens w (ops ++ [w'.lookup entity accessor]) (w'.resolve entity accessor).2
  | rendering {ops : List Operation} {w' : Workspace} (r : Renderer) (q : Query) :
      Happens w ops w' →
      Happens w (ops ++ [.rendering r q]) { w' with journal := (r.renderTelling q w'.journal).2 }

theorem Happens.trans {w w' w'' : Workspace} {ops ops' : List Operation} (h : Happens w ops w')
    (h' : Happens w' ops' w'') : Happens w (ops ++ ops') w'' := by
  induction h' with
  | nothing => rwa [List.append_nil]
  | note o _ ih => exact ih.note o
  | lookup entity accessor _ ih =>
    rw [← List.append_assoc]
    exact ih.lookup entity accessor
  | rendering r q _ ih =>
    rw [← List.append_assoc]
    exact ih.rendering r q

theorem happens_lookup (w : Workspace) (entity : Entity) (accessor : Accessor) :
    Happens w [w.lookup entity accessor] (w.resolve entity accessor).2 :=
  Happens.nothing.lookup entity accessor

theorem happens_field (w : Workspace) (s : Stream) (accessor : Accessor) :
    Happens w [w.lookup s.entity accessor] (w.field s accessor).2 :=
  happens_lookup w s.entity accessor

/-- A call that does no more than look a field up has that one operation. -/
theorem happens_of_field {s : Stream} {w : Workspace} {call : Call} {accessor : Accessor}
    {add : ScopedField → Stream}
    (hrun : call.run s w = match w.field s accessor with
      | (.error e, w) => .failed e s w
      | (.ok f, w) => .done (add f) w) :
    Happens w [w.lookup s.entity accessor] (call.run s w).workspace := by
  have h := happens_field w s accessor
  rw [hrun]
  generalize w.field s accessor = field at h
  rcases field with ⟨_ | f, w₁⟩ <;> exact h

/-- A call that looks a field up and then configures a child has the child's operations besides. -/
theorem happens_of_child {s child : Stream} {w : Workspace} {call : Call} {accessor : Accessor}
    {configure : List Call} {add : ScopedField → Stream → Stream}
    (hrun : call.run s w = match w.field s accessor with
      | (.error e, w) => .failed e s w
      | (.ok f, w) =>
        match runAll configure child w with
        | ⟨.error e, _, w⟩ => .failed e s w
        | ⟨.ok (), c, w⟩ => .done (add f c) w)
    (hoperations : call.operations s w = w.lookup s.entity accessor ::
      match w.field s accessor with
      | (.error _, _) => []
      | (.ok _, w) => operations configure child w)
    (hchild : ∀ w, Happens w (operations configure child w) (runAll configure child w).workspace) :
    Happens w (call.operations s w) (call.run s w).workspace := by
  have h := happens_field w s accessor
  rw [hrun, hoperations]
  generalize w.field s accessor = field at h
  rcases field with ⟨_ | f, w₁⟩
  · exact h
  dsimp only
  have h' := h.trans (hchild w₁)
  generalize runAll configure child w₁ = o at h'
  rcases o with ⟨_ | _, c, w₂⟩ <;> exact h'

mutual

/-- A call does what its operations do. -/
theorem Call.run_happens : ∀ (call : Call) (s : Stream) (w : Workspace),
    Happens w (call.operations s w) (call.run s w).workspace
  | .filter, s, w | .connect c, s, w | .fail e, s, w => .nothing
  | .inspect, s, w => .note _ .nothing
  | .compare accessor op value, s, w => happens_of_field rfl
  | .nullCheck accessor negated, s, w => happens_of_field rfl
  | .isIn accessor negated values, s, w => happens_of_field rfl
  | .orderBy accessor direction, s, w => happens_of_field rfl
  | .compareOuter accessor op outer outerAccessor, s, w => by
    have h := happens_field w s accessor
    simp only [Call.run, Call.operations]
    generalize w.field s accessor = field at h
    rcases field with ⟨_ | f, w₁⟩
    · exact h
    dsimp only
    have h' := h.trans (happens_lookup w₁ outer outerAccessor)
    generalize w₁.resolve outer outerAccessor = resolved at h'
    rcases resolved with ⟨_ | r, w₂⟩
    · exact h'
    · dsimp only
      split <;> exact h'
  | .brackets configure, s, w => by
    have h := runAll_happens configure s.group w
    simp only [Call.run, Call.operations]
    generalize runAll configure s.group w = o at h
    rcases o with ⟨_ | _, g, w₁⟩ <;> exact h
  | .join kind accessor target configure, s, w =>
    happens_of_child rfl rfl (runAll_happens configure (s.child target s.orders))
  | .existence negated accessor target configure, s, w =>
    happens_of_child rfl rfl (runAll_happens configure (s.child target 0))
  | .inSubquery accessor negated source select configure, s, w => by
    have h := happens_field w s accessor
    simp only [Call.run, Call.operations]
    generalize w.field s accessor = field at h
    rcases field with ⟨_ | f, w₁⟩
    · exact h
    dsimp only
    have h' := h.trans (runAll_happens configure (s.child source 0) w₁)
    generalize runAll configure (s.child source 0) w₁ = o at h'
    rcases o with ⟨_ | _, c, w₂⟩
    · rw [List.append_nil]
      exact h'
    dsimp only
    -- the selected field is looked up on the child after its program ran
    have h'' := h'.trans (happens_field w₂ c select)
    generalize w₂.field c select = selected at h''
    rcases selected with ⟨_ | g, w₃⟩ <;> exact h''
  | .render r names, s, w => .note _ (Happens.nothing.rendering r s.build)
  | .attempt call, s, w => by
    have h := call.run_happens s w
    simp only [Call.run, Call.operations]
    generalize call.run s w = o at h
    rcases o with ⟨_ | _, t, w₁⟩
    · exact h.note _
    · exact h

/-- A program does what its operations do. -/
theorem runAll_happens : ∀ (calls : List Call) (s : Stream) (w : Workspace),
    Happens w (operations calls s w) (runAll calls s w).workspace
  | [], s, w => .nothing
  | call :: rest, s, w => by
    have h := call.run_happens s w
    simp only [runAll, operations]
    generalize call.run s w = o at h
    rcases o with ⟨_ | _, t, w₁⟩
    · rw [List.append_nil]
      exact h
    · exact h.trans (runAll_happens rest t w₁)

end

theorem Action.run_happens (action : Action) (w : Workspace) :
    Happens w (action.operations w) (action.run w) := by
  cases action with
  | resolve l => exact happens_lookup w l.entity l.accessor
  | build calls s => exact runAll_happens calls s w
  | render r q => exact Happens.nothing.rendering r q

theorem runActions_happens (actions : List Action) (w : Workspace) :
    Happens w (actionOperations actions w) (runActions actions w) := by
  induction actions generalizing w with
  | nil => exact .nothing
  | cons action rest ih => exact (action.run_happens w).trans (ih (action.run w))

/-! ### What is told -/

/-- How much an event matters. -/
def Telemetry.Event.level (e : Event) : Level :=
  match e.kind with
  | .hit => .trace
  | .miss | .render | .renderFailure => .debug
  | .failure => .warn

theorem foundBy_concat (ops : List Operation) (op : Operation) :
    foundBy (ops ++ [op]) = foundBy ops ++ op.found.toList := by
  cases h : op.found <;> simp [foundBy, List.filterMap_append, h]

theorem tellings_concat (op : Operation) : ∀ (ops : List Operation) (known : List Digest),
    tellings known (ops ++ [op]) = tellings known ops ++ [op.telling (known ++ foundBy ops)]
  | [], known => by simp [tellings, foundBy]
  | first :: rest, known => by
    have hfound : foundBy (first :: rest) = first.found.toList ++ foundBy rest := by
      cases h : first.found <;> simp [foundBy, h]
    rw [List.cons_append, tellings, tellings, tellings_concat op rest, hfound, List.append_assoc,
      List.cons_append]

theorem length_tellings : ∀ (ops : List Operation) (known : List Digest),
    (tellings known ops).length = ops.length
  | [], _ => rfl
  | _ :: rest, _ => congrArg (· + 1) (length_tellings rest _)

/-- The line of an event has its level. -/
theorem telling_level (known : List Digest) (op : Operation) :
    (op.telling known).2.level = (op.telling known).1.level := by
  rcases op with ⟨l, _ | r⟩ | ⟨r, q⟩
  · rfl
  · unfold Operation.telling
    dsimp only
    split <;> rfl
  · unfold Operation.telling
    dsimp only
    split <;> rfl

theorem tellings_level : ∀ (ops : List Operation) (known : List Digest),
    ∀ told ∈ tellings known ops, told.2.level = told.1.level
  | op :: rest, known, told, h => by
    rcases List.mem_cons.mp h with rfl | h
    · exact telling_level known op
    · exact tellings_level rest _ told h

/-- A lookup fails and is told of, or finds what the store has, or publishes what it has not. -/
theorem resolve_cases (l : Lookup) (w : Workspace) :
    (∃ e, w.resolve l.entity l.accessor = (.error e, { w with
      journal := w.journal.add (.resolved l.entity.path .failed) (failureLine l.entity.model e) })) ∨
    (∃ r, r.descriptor.fingerprint ∈ w.store.entries.map (·.fingerprint) ∧
      w.resolve l.entity l.accessor = (.ok r, { w with
        store := w.store.countHit
        journal := w.journal.add (.resolved l.entity.path .hit) (hitLine r.descriptor) })) ∨
    ∃ r, r.descriptor.fingerprint ∉ w.store.entries.map (·.fingerprint) ∧
      w.resolve l.entity l.accessor = (.ok r, { w with
        store := w.store.publish r.descriptor
        journal := w.journal.add (.resolved l.entity.path .miss) (missLine r.descriptor) }) := by
  unfold Workspace.resolve Field.resolve
  cases l.accessor.key l.entity.typeName with
  | error e => exact .inl ⟨e, rfl⟩
  | ok k =>
    dsimp only
    unfold Store.intern
    cases hfind : w.store.find? (fingerprint k l.entity.typeName) with
    | some r =>
      obtain ⟨hmem, -⟩ := Store.find?_spec hfind
      exact .inr (.inl ⟨r, List.mem_map_of_mem hmem, rfl⟩)
    | none =>
      refine .inr (.inr ⟨_, ?_, rfl⟩)
      have hnew := Store.find?_eq_none hfind
      simpa [Descriptor.ofKey] using hnew

/-- A journal with the given entries. -/
def Telemetry.Journal.of (told : List (Event × LogLine)) : Journal :=
  ⟨told.map (·.1), told.map (·.2)⟩

theorem Telemetry.Journal.of_add (told : List (Event × LogLine)) (event : Event) (line : LogLine) :
    (Journal.of told).add event line = .of (told ++ [(event, line)]) := by
  simp [Journal.of, Journal.add]

/-- How often an event of a kind is told of. -/
def countKind (kind : Kind) (told : List (Event × LogLine)) : Nat := told.countP (·.1.kind = kind)

/-- The journal and the store of a workspace tell of operations. -/
structure Told (ops : List Operation) (w : Workspace) : Prop where
  journal : w.journal = .of (tellings [] ops)
  distinct : w.store.Unambiguous
  entries : ∀ fp, fp ∈ w.store.entries.map (·.fingerprint) ↔ fp ∈ foundBy ops
  hits : w.store.hits = countKind .hit (tellings [] ops)
  misses : w.store.misses = countKind .miss (tellings [] ops)
  size : w.store.misses = w.store.size

theorem told_fresh (number : Nat) : Told [] (.fresh number) where
  journal := rfl
  distinct := List.nodup_nil
  entries fp := by simp [Workspace.fresh, foundBy]
  hits := rfl
  misses := rfl
  size := rfl

theorem countKind_concat (kind : Kind) (ops : List Operation) (op : Operation) :
    countKind kind (tellings [] (ops ++ [op])) = countKind kind (tellings [] ops) +
      if (op.telling (foundBy ops)).1.kind = kind then 1 else 0 := by
  rw [tellings_concat, List.nil_append, countKind, List.countP_append, List.countP_singleton]
  simp [countKind]

namespace Told

variable {ops : List Operation} {w : Workspace}

/-- One more operation is told of if the journal has its entry, and the store what it found. -/
theorem concat (h : Told ops w) {op : Operation} {w' : Workspace} {event : Event} {line : LogLine}
    (htelling : op.telling (foundBy ops) = (event, line))
    (hjournal : w'.journal = w.journal.add event line) (hdistinct : w'.store.Unambiguous)
    (hentries : ∀ fp, fp ∈ w'.store.entries.map (·.fingerprint) ↔
      fp ∈ w.store.entries.map (·.fingerprint) ∨ op.found = some fp)
    (hhits : w'.store.hits = w.store.hits + if event.kind = .hit then 1 else 0)
    (hmisses : w'.store.misses = w.store.misses + if event.kind = .miss then 1 else 0)
    (hsize : w'.store.misses = w'.store.size) : Told (ops ++ [op]) w' where
  journal := by rw [hjournal, h.journal, Journal.of_add, tellings_concat, List.nil_append, htelling]
  distinct := hdistinct
  entries fp := by rw [hentries, h.entries, foundBy_concat, List.mem_append, Option.mem_toList]
  hits := by rw [hhits, h.hits, countKind_concat, htelling]
  misses := by rw [hmisses, h.misses, countKind_concat, htelling]
  size := hsize

/-- A lookup is told of. -/
theorem lookup (h : Told ops w) (entity : Entity) (accessor : Accessor) :
    Told (ops ++ [w.lookup entity accessor]) (w.resolve entity accessor).2 := by
  have hdistinct := (resolve_keeps ⟨entity, accessor⟩ w).2 h.distinct
  unfold Workspace.lookup
  rcases resolve_cases ⟨entity, accessor⟩ w with ⟨e, hr⟩ | ⟨r, hmem, hr⟩ | ⟨r, hnew, hr⟩ <;>
    dsimp only at hr hdistinct <;> rw [hr] at hdistinct ⊢
  · exact h.concat rfl rfl hdistinct (by simp [Operation.found]) rfl rfl h.size
  · refine h.concat (if_pos ((h.entries _).mp hmem)) rfl hdistinct (fun fp => ?_) rfl rfl h.size
    simp only [Operation.found, Option.some.injEq]
    exact ⟨.inl, fun hfp => hfp.elim id fun hfp => hfp ▸ hmem⟩
  · refine h.concat (if_neg fun hold => hnew ((h.entries _).mpr hold)) rfl hdistinct
      (fun fp => ?_) rfl rfl ?_
    · simp [Operation.found, Store.publish, eq_comm]
    · simp [Store.publish, Store.size, h.size]

/-- So is a rendering. -/
theorem rendering (h : Told ops w) (r : Renderer) (q : Query) :
    Told (ops ++ [.rendering r q]) { w with journal := (r.renderTelling q w.journal).2 } := by
  cases hr : r.render q with
  | ok rendered =>
    have htelling : (Operation.rendering r q).telling (foundBy ops) =
        (.rendered q.entity.path rendered.parameters.length,
          Renderer.doneLine q.entity rendered) := by
      simp only [Operation.telling, hr]
      rfl
    exact h.concat htelling (by simp only [Renderer.renderTelling, hr, Renderer.tell]) h.distinct
      (by simp [Operation.found]) rfl rfl h.size
  | error e =>
    have htelling : (Operation.rendering r q).telling (foundBy ops) =
        (.renderFailed q.entity.path, Renderer.failureLine q.entity e) := by
      simp only [Operation.telling, hr]
      rfl
    exact h.concat htelling (by simp only [Renderer.renderTelling, hr, Renderer.tell]) h.distinct
      (by simp [Operation.found]) rfl rfl h.size

/-- All that happens is told of. -/
theorem happens (h : Told ops w) {more : List Operation} {w' : Workspace}
    (hmore : Happens w more w') : Told (ops ++ more) w' := by
  induction hmore with
  | nothing => rwa [List.append_nil]
  | note o _ ih => exact ⟨ih.journal, ih.distinct, ih.entries, ih.hits, ih.misses, ih.size⟩
  | lookup entity accessor _ ih =>
    rw [← List.append_assoc]
    exact ih.lookup entity accessor
  | rendering r q _ ih =>
    rw [← List.append_assoc]
    exact ih.rendering r q

/-- The store has as many entries as different fingerprints were found. -/
theorem size_eq (h : Told ops w) : w.store.size = (foundBy ops).dedup.length := by
  have hperm : (w.store.entries.map (·.fingerprint)).Perm (foundBy ops).dedup :=
    (List.perm_ext_iff_of_nodup h.distinct (List.nodup_dedup _)).mpr fun fp => by
      rw [h.entries, List.mem_dedup]
  rw [← hperm.length_eq, List.length_map, Store.size]

end Told

/-- ONE STORY: after any actions on one store that was empty, the journal has an event and a line for
each operation, in the order in which they were made, those of failing closures included. The store
has counted as many hits and misses as there are events of these kinds, and has an entry for each of
the different fingerprints that were found, each of which was missed once. -/
theorem journal_and_store_agree (actions : List Action) (number : Nat) :
    let w := runActions actions (.fresh number)
    let ops := actionOperations actions (.fresh number)
    w.journal.events = (tellings [] ops).map (·.1) ∧
    w.journal.lines = (tellings [] ops).map (·.2) ∧
    w.journal.events.length = ops.length ∧ w.journal.lines.length = ops.length ∧
    w.journal.lines.map (·.level) = w.journal.events.map (·.level) ∧
    w.store.hits = w.journal.events.countP (·.kind = .hit) ∧
    w.store.misses = w.journal.events.countP (·.kind = .miss) ∧
    w.store.misses = w.store.size ∧ w.store.size = (foundBy ops).dedup.length := by
  have h := (told_fresh number).happens (runActions_happens actions (.fresh number))
  rw [List.nil_append] at h
  have hevents := congrArg Journal.events h.journal
  have hlines := congrArg Journal.lines h.journal
  dsimp only [Journal.of] at hevents hlines
  refine ⟨hevents, hlines, ?_, ?_, ?_, ?_, ?_, h.size, h.size_eq⟩
  · rw [hevents, List.length_map, length_tellings]
  · rw [hlines, List.length_map, length_tellings]
  · rw [hevents, hlines, List.map_map, List.map_map]
    exact List.map_congr_left (tellings_level _ [])
  · rw [h.hits, hevents, List.countP_map]
    rfl
  · rw [h.misses, hevents, List.countP_map]
    rfl

/-- A closure that fails on its second call is told of as far as it went. -/
example :
    let w := runActions [.build [.brackets [.orderBy reports .asc, .orderBy (.declared "") .asc,
      .orderBy reports .asc]] (.start staff), .resolve ⟨staff, reports⟩] (.fresh 0)
    w.journal.events.map (·.kind) = [.miss, .failure, .hit] ∧ w.store.size = 1 := by
  decide +kernel

end EntityQuery
