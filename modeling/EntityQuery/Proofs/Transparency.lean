import EntityQuery.Proofs.Failure
import Mathlib.Data.List.Forall2

/-!
Transparency: a program does the same over every store that lookups have filled. Where one store has
an entry and tells of a hit, another one computes it and tells of a miss, and files it at another
place; the descriptor is the same. Two runs of a program over two such stores therefore go through
the same calls side by side, with the same results, and leave nodes of one plain form.

```
                  empty store             store after other lookups
lookup            miss  ⟨0, 0, total⟩      hit  ⟨3, 5, total⟩
nodes             c0.total > 1            c0.total > 1
```
-/

namespace EntityQuery

open EntityQuery.Field EntityQuery.Telemetry

/-! ### What may differ -/

/-- Two events are the same, or one tells of a hit and the other of a miss on the same entity. -/
inductive Telemetry.Event.Alike : Event → Event → Prop
  | same (e : Event) : Alike e e
  | found {how how' : Resolution} (path : String) : how ≠ .failed → how' ≠ .failed →
      Alike (.resolved path how) (.resolved path how')

/-- A line tells of a descriptor that was found or computed. -/
def Telemetry.LogLine.Tells (line : LogLine) (d : Descriptor) : Prop :=
  line = hitLine d ∨ line = missLine d

/-- Two lines are the same, or tell of the same descriptor. -/
inductive Telemetry.LogLine.Alike : LogLine → LogLine → Prop
  | same (line : LogLine) : Alike line line
  | found {line line' : LogLine} {d : Descriptor} : line.Tells d → line'.Tells d → Alike line line'

/-- Two observations are the same, up to the places of references in nodes. -/
inductive Observation.Alike : Observation → Observation → Prop
  | seen {nodes nodes' : List Node} (filtering : Bool) : plainNodes nodes = plainNodes nodes' →
      Alike (.seen nodes filtering) (.seen nodes' filtering)
  | rendered (result : Except RenderError Rendered) (names : List String) :
      Alike (.rendered result names) (.rendered result names)
  | caught (e : ResolutionError) (nodes : Nat) : Alike (.caught e nodes) (.caught e nodes)

theorem Observation.alike_refl (o : Observation) : o.Alike o := by
  cases o with
  | seen nodes filtering => exact .seen filtering rfl
  | rendered result names => exact .rendered result names
  | caught e nodes => exact .caught e nodes

section

variable (known : List Lookup)

/-- Two workspaces with stores that known lookups have filled, and in which the same has happened. -/
structure Workspace.Alike (w w' : Workspace) : Prop where
  filled : Filled known w.store
  filled' : Filled known w'.store
  events : List.Forall₂ Event.Alike w.journal.events w'.journal.events
  lines : List.Forall₂ LogLine.Alike w.journal.lines w'.journal.lines
  seen : List.Forall₂ Observation.Alike w.seen w'.seen

/-- Two lookups end alike: both with the same error, or both with something of one plain form. -/
inductive Agree {α : Type} (plain : α → α) :
    Except ResolutionError α × Workspace → Except ResolutionError α × Workspace → Prop
  | ok {a a' : α} {w w' : Workspace} : plain a = plain a' → w.Alike known w' →
      Agree plain (.ok a, w) (.ok a', w')
  | error {w w' : Workspace} (e : ResolutionError) : w.Alike known w' →
      Agree plain (.error e, w) (.error e, w')

/-- Two calls end alike: both succeed or both fail with the same error, on streams of one plain
form. -/
inductive Outcome.Alike : Outcome → Outcome → Prop
  | done {s s' : Stream} {w w' : Workspace} : s.plain = s'.plain → w.Alike known w' →
      Alike ⟨.ok (), s, w⟩ ⟨.ok (), s', w'⟩
  | failed {s s' : Stream} {w w' : Workspace} (e : ResolutionError) : s.plain = s'.plain →
      w.Alike known w' → Alike ⟨.error e, s, w⟩ ⟨.error e, s', w'⟩

end

variable {known : List Lookup} {s s' : Stream} {w w' : Workspace}

/-- Something alike is seen in both workspaces. -/
theorem Workspace.Alike.note (h : w.Alike known w') {o o' : Observation} (ho : o.Alike o') :
    (w.note o).Alike known (w'.note o') :=
  { h with seen := List.rel_append h.seen (.cons ho .nil) }

/-- Something alike is told in both, by a lookup that may change the stores. -/
theorem Workspace.Alike.tell (h : w.Alike known w') {event event' : Event} {line line' : LogLine}
    (hevent : event.Alike event') (hline : line.Alike line') {store store' : Store}
    (hstore : Filled known store) (hstore' : Filled known store') :
    { w with store, journal := w.journal.add event line }.Alike known
      { w' with store := store', journal := w'.journal.add event' line' } where
  filled := hstore
  filled' := hstore'
  events := List.rel_append h.events (.cons hevent .nil)
  lines := List.rel_append h.lines (.cons hline .nil)
  seen := h.seen

/-! ### Lookups -/

/-- A lookup that leads to a key tells of what it hands out. -/
theorem resolve_tells {l : Lookup} {k : Key} (hk : l.key = .ok k) (w : Workspace) :
    ∃ r store how line, w.resolve l.entity l.accessor = (.ok r, { w with
        store, journal := w.journal.add (.resolved l.entity.path how) line }) ∧
      how ≠ .failed ∧ line.Tells r.descriptor := by
  rw [Lookup.key] at hk
  unfold Workspace.resolve Field.resolve
  rw [hk]
  dsimp only
  rcases w.store.intern l.entity.model k (fingerprint k l.entity.typeName) with ⟨r, _ | _, store⟩
  · exact ⟨r, store, .miss, missLine r.descriptor, rfl, by decide, .inr rfl⟩
  · exact ⟨r, store, .hit, hitLine r.descriptor, rfl, by decide, .inl rfl⟩

/-- A known lookup ends alike in two workspaces. -/
theorem resolve_agrees (hsep : Separated known) {l : Lookup} (hl : l ∈ known)
    (hw : w.Alike known w') : Agree known Reference.plain (w.resolve l.entity l.accessor)
      (w'.resolve l.entity l.accessor) := by
  cases hk : l.key with
  | error e =>
    have h : ∀ w : Workspace, w.resolve l.entity l.accessor = (.error e, { w with
        journal := w.journal.add (.resolved l.entity.path .failed)
          (failureLine l.entity.model e) }) := by
      intro w
      rw [Lookup.key] at hk
      unfold Workspace.resolve Field.resolve
      rw [hk]
    rw [h, h]
    exact .error e (hw.tell (.same _) (.same _) hw.filled hw.filled')
  | ok k =>
    obtain ⟨r, store, how, line, h, hhow, hline⟩ := resolve_tells hk w
    obtain ⟨r', store', how', line', h', hhow', hline'⟩ := resolve_tells hk w'
    obtain ⟨hstore, hmeans⟩ := (trusted_finds hsep).resolve hl hw.filled h
    obtain ⟨hstore', hmeans'⟩ := (trusted_finds hsep).resolve hl hw.filled' h'
    have hdescriptor : r.descriptor = r'.descriptor :=
      Except.ok.inj ((hmeans r rfl).2.symm.trans (hmeans' r' rfl).2)
    rw [h, h']
    refine .ok (by rw [Reference.plain, hdescriptor, Reference.plain]) ?_
    exact hw.tell (.found _ hhow hhow') (.found hline (hdescriptor ▸ hline')) hstore hstore'

/-- So does a known lookup of a field. -/
theorem field_agrees (hsep : Separated known) {accessor : Accessor}
    (hl : ⟨s.entity, accessor⟩ ∈ known) (hs : s.plain = s'.plain) (hw : w.Alike known w') :
    Agree known ScopedField.plain (w.field s accessor) (w'.field s' accessor) := by
  obtain ⟨hentity, hscope, -⟩ := Stream.mapRefs_inj hs
  have h := resolve_agrees hsep hl hw
  unfold Workspace.field
  rw [← hentity]
  dsimp only at h
  generalize w.resolve s.entity accessor = x, w'.resolve s.entity accessor = x' at h
  cases h with
  | error e hw => exact .error e hw
  | ok hplain hw =>
    refine .ok ?_ hw
    simp only [ScopedField.mapRefs, Stream.bind, Stream.index, hplain, hscope]

/-! ### Calls -/

/-- A program leaves a stream over the same entity. -/
theorem runAll_entity (calls : List Call) (s : Stream) (w : Workspace) :
    (runAll calls s w).stream.entity = s.entity := (runAll_builds_marked calls s w).frame.1

/-- So does a call. -/
theorem Call.run_entity (call : Call) (s : Stream) (w : Workspace) :
    (call.run s w).stream.entity = s.entity := by
  have h := runAll_entity [call] s w
  simp only [runAll] at h
  generalize call.run s w = o at h ⊢
  rcases o with ⟨_ | _, t, w'⟩ <;> exact h

/-- Calls that only resolve a field and add something of one plain form with it end alike. -/
theorem alike_of_field {accessor : Accessor} {add add' : ScopedField → Stream}
    (hf : Agree known ScopedField.plain (w.field s accessor) (w'.field s' accessor))
    (hs : s.plain = s'.plain) (hadd : ∀ f f', f.plain = f'.plain → (add f).plain = (add' f').plain) :
    Outcome.Alike known
      (match w.field s accessor with
        | (.error e, w) => .failed e s w
        | (.ok f, w) => .done (add f) w)
      (match w'.field s' accessor with
        | (.error e, w) => .failed e s' w
        | (.ok f, w) => .done (add' f) w) := by
  generalize w.field s accessor = x, w'.field s' accessor = x' at hf
  cases hf with
  | error e hw => exact .failed e hs hw
  | ok hplain hw => exact .done (hadd _ _ hplain) hw

/-- So do calls that resolve a field, configure a child, and then do something alike with both. -/
theorem alike_of_child {accessor : Accessor} {target : Entity} {orders : Nat}
    {configure : List Call} {finish finish' : ScopedField → Stream → Workspace → Outcome}
    (hf : Agree known ScopedField.plain (w.field s accessor) (w'.field s' accessor))
    (hs : s.plain = s'.plain)
    (hc : ∀ {w w' : Workspace}, w.Alike known w' → Outcome.Alike known
      (runAll configure (s.child target orders) w) (runAll configure (s'.child target orders) w'))
    (hfinish : ∀ {f f' : ScopedField} {c c' : Stream} {w w' : Workspace}, f.plain = f'.plain →
      c.entity = target → c.plain = c'.plain → w.Alike known w' →
      Outcome.Alike known (finish f c w) (finish' f' c' w')) :
    Outcome.Alike known
      (match w.field s accessor with
        | (.error e, w) => .failed e s w
        | (.ok f, w) =>
          match runAll configure (s.child target orders) w with
          | ⟨.error e, _, w⟩ => .failed e s w
          | ⟨.ok (), c, w⟩ => finish f c w)
      (match w'.field s' accessor with
        | (.error e, w) => .failed e s' w
        | (.ok f, w) =>
          match runAll configure (s'.child target orders) w with
          | ⟨.error e, _, w⟩ => .failed e s' w
          | ⟨.ok (), c, w⟩ => finish' f c w) := by
  generalize w.field s accessor = x, w'.field s' accessor = x' at hf
  cases hf with
  | error e hw => exact .failed e hs hw
  | @ok f f' w₁ w₁' hf hw =>
    have hchild := hc hw
    have hentity := runAll_entity configure (s.child target orders) w₁
    dsimp only
    generalize runAll configure (s.child target orders) w₁ = o,
      runAll configure (s'.child target orders) w₁' = o' at hchild hentity
    cases hchild with
    | failed e _ hw => exact .failed e hs hw
    | done hc hw => exact hfinish hf hentity hc hw

mutual

/-- A call ends alike over two filled stores. -/
theorem Call.run_alike (hsep : Separated known) : ∀ (call : Call) {s s' : Stream} {w w' : Workspace},
    s.plain = s'.plain → w.Alike known w' → (∀ l ∈ call.lookups s.entity, l ∈ known) →
    Outcome.Alike known (call.run s w) (call.run s' w')
  | .filter, _, _, _, _, hs, hw, _ =>
    .done (congrArg (fun u : Stream => { u with filtering := true }) hs) hw
  | .connect c, _, _, _, _, hs, hw, _ =>
    .done (congrArg (fun u : Stream => { u with pending := some c }) hs) hw
  | .fail e, _, _, _, _, hs, hw, _ => .failed e hs hw
  | .inspect, s, s', w, w', hs, hw, _ => by
    obtain ⟨-, -, -, hnodes⟩ := Stream.mapRefs_inj hs
    have hfiltering : s.filtering = s'.filtering := congrArg (·.filtering) hs
    refine .done hs (hw.note ?_)
    rw [hfiltering]
    exact .seen _ hnodes
  | .render r names, s, s', w, w', hs, hw, _ => by
    have hentity : s.build.entity = s'.build.entity := (Stream.mapRefs_inj hs).1
    have hrender : r.render s.build = r.render s'.build := render_congr hs [] r
    simp only [Call.run, Renderer.renderStreamTelling_eq, Renderer.renderTelling, hrender, hentity]
    cases r.render s'.build with
    | error e | ok rendered =>
      exact .done hs ((hw.tell (.same _) (.same _) hw.filled hw.filled').note (.rendered ..))
  | .compare accessor op value, s, s', w, w', hs, hw, hk =>
    alike_of_field (field_agrees hsep (hk _ (by simp [Call.lookups])) hs hw) hs fun f f' hf =>
      Stream.mapRefs_pushCondition_congr hs (by simp only [Node.mapRefs, hf])
  | .nullCheck accessor negated, s, s', w, w', hs, hw, hk =>
    alike_of_field (field_agrees hsep (hk _ (by simp [Call.lookups])) hs hw) hs fun f f' hf =>
      Stream.mapRefs_pushCondition_congr hs (by simp only [Node.mapRefs, hf])
  | .isIn accessor negated values, s, s', w, w', hs, hw, hk =>
    alike_of_field (field_agrees hsep (hk _ (by simp [Call.lookups])) hs hw) hs fun f f' hf =>
      Stream.mapRefs_pushCondition_congr hs (by simp only [Node.mapRefs, hf])
  | .orderBy accessor direction, s, s', w, w', hs, hw, hk =>
    alike_of_field (field_agrees hsep (hk _ (by simp [Call.lookups])) hs hw) hs fun f f' hf =>
      Stream.mapRefs_pushOrder_congr hs hf direction
  | .compareOuter accessor op outer outerAccessor, s, s', w, w', hs, hw, hk => by
    have hf := field_agrees hsep (hk ⟨s.entity, accessor⟩ (by simp [Call.lookups])) hs hw
    simp only [Call.run]
    generalize w.field s accessor = x, w'.field s' accessor = x' at hf
    cases hf with
    | error e hw => exact .failed e hs hw
    | @ok f f' w₁ w₁' hf hw =>
      have hr := resolve_agrees hsep (hk ⟨outer, outerAccessor⟩ (by simp [Call.lookups])) hw
      dsimp only at hr ⊢
      generalize w₁.resolve outer outerAccessor = y, w₁'.resolve outer outerAccessor = y' at hr
      cases hr with
      | error e hw => exact .failed e hs hw
      | @ok r r' w₂ w₂' hr hw =>
        have hscope := (Stream.mapRefs_inj hs).2.1
        have hname : r.descriptor = r'.descriptor := congrArg (·.descriptor) hr
        simp only [hscope]
        cases s'.scope.findOuter? outer.path with
        | none =>
          rw [hname]
          exact .failed _ hs hw
        | some owner =>
          refine .done (Stream.mapRefs_pushCondition_congr hs ?_) hw
          have hright : (Operand.ofOuter op ⟨r, owner⟩).mapRefs Reference.plain =
              (Operand.ofOuter op ⟨r', owner⟩).mapRefs Reference.plain := by
            unfold Operand.ofOuter
            split
            · rfl
            · simp only [Operand.mapRefs, ScopedField.mapRefs, hr]
          simp only [Node.mapRefs, hf, hright]
  | .brackets configure, s, s', w, w', hs, hw, hk => by
    have hg := runAll_alike hsep configure (Stream.mapRefs_group_congr hs) hw hk
    simp only [Call.run]
    generalize runAll configure s.group w = o, runAll configure s'.group w' = o' at hg
    cases hg with
    | failed e _ hw => exact .failed e hs hw
    | done hg hw =>
      exact .done (Stream.mapRefs_acceptGroup_congr hs hg) hw
  | .join kind accessor target configure, s, s', w, w', hs, hw, hk => by
    have hf := field_agrees hsep (hk ⟨s.entity, accessor⟩ (by simp [Call.lookups])) hs hw
    have horders : s.orders = s'.orders := (Stream.mapRefs_inj hs).2.2.1
    rw [Call.run, Call.run, ← horders]
    refine alike_of_child hf hs ?_ ?_
    · intro w w' hw
      exact runAll_alike hsep configure (Stream.mapRefs_child_congr hs target s.orders) hw
        fun l hl => hk l (List.mem_cons_of_mem _ hl)
    · intro f f' c c' w w' hf _ hc hw
      exact .done (Stream.mapRefs_acceptJoin_congr hs kind hf hc) hw
  | .existence negated accessor target configure, s, s', w, w', hs, hw, hk => by
    have hf := field_agrees hsep (hk ⟨s.entity, accessor⟩ (by simp [Call.lookups])) hs hw
    rw [Call.run, Call.run]
    refine alike_of_child hf hs ?_ ?_
    · intro w w' hw
      exact runAll_alike hsep configure (Stream.mapRefs_child_congr hs target 0) hw
        fun l hl => hk l (List.mem_cons_of_mem _ hl)
    · intro f f' c c' w w' hf _ hc hw
      obtain ⟨-, hscope, -, hnodes⟩ := Stream.mapRefs_inj hc
      refine .done (Stream.mapRefs_acceptSubquery_congr hs hc ?_) hw
      simp only [Node.mapRefs, hf, Stream.index, hscope, hnodes]
  | .inSubquery accessor negated source select configure, s, s', w, w', hs, hw, hk => by
    have hf := field_agrees hsep (hk ⟨s.entity, accessor⟩ (by simp [Call.lookups])) hs hw
    rw [Call.run, Call.run]
    refine alike_of_child hf hs ?_ ?_
    · intro w w' hw
      exact runAll_alike hsep configure (Stream.mapRefs_child_congr hs source 0) hw
        fun l hl => hk l (List.mem_cons_of_mem _ (List.mem_cons_of_mem _ hl))
    · intro f f' c c' w w' hf hentity hc hw
      have hl : ⟨c.entity, select⟩ ∈ known := by
        rw [hentity]
        exact hk _ (by simp [Call.lookups])
      have hg := field_agrees hsep hl hc hw
      generalize w.field c select = y, w'.field c' select = y' at hg
      cases hg with
      | error e hw => exact .failed e hs hw
      | ok hg hw =>
        obtain ⟨-, hscope, -, hnodes⟩ := Stream.mapRefs_inj hc
        refine .done (Stream.mapRefs_acceptSubquery_congr hs hc ?_) hw
        simp only [Node.mapRefs, hf, hg, Stream.index, hscope, hnodes]
  | .attempt call, s, s', w, w', hs, hw, hk => by
    have h := call.run_alike hsep hs hw hk
    simp only [Call.run]
    generalize call.run s w = o, call.run s' w' = o' at h
    cases h with
    | done hs hw => exact .done hs hw
    | @failed t t' w₁ w₁' e hs hw =>
      have hlength : t.nodes.length = t'.nodes.length := by
        have hnodes := congrArg List.length (Stream.mapRefs_inj hs).2.2.2
        simpa only [mapRefs_eq_map, List.length_map] using hnodes
      refine .done hs (hw.note ?_)
      rw [hlength]
      exact .caught e _

/-- A program ends alike over two filled stores. -/
theorem runAll_alike (hsep : Separated known) : ∀ (calls : List Call) {s s' : Stream}
    {w w' : Workspace}, s.plain = s'.plain → w.Alike known w' →
    (∀ l ∈ lookups s.entity calls, l ∈ known) →
    Outcome.Alike known (runAll calls s w) (runAll calls s' w')
  | [], _, _, _, _, hs, hw, _ => .done hs hw
  | call :: rest, s, s', w, w', hs, hw, hk => by
    have h := call.run_alike hsep hs hw fun l hl => hk l (List.mem_append_left _ hl)
    have hentity := call.run_entity s w
    simp only [runAll]
    generalize call.run s w = o, call.run s' w' = o' at h hentity
    cases h with
    | failed e hs hw => exact .failed e hs hw
    | done hs hw =>
      exact runAll_alike hsep rest hs hw fun l hl =>
        hk l (List.mem_append_right _ (hentity ▸ hl))

end

/-! ### How every call ends -/

mutual

/-- How the calls inside a call end, at any depth and in this order. -/
def Call.innerEndings : Call → Stream → Workspace → List (Except ResolutionError Unit)
  | .brackets configure, s, w => endings configure s.group w
  | .join _ accessor target configure, s, w =>
    match w.field s accessor with
    | (.error _, _) => []
    | (.ok _, w) => endings configure (s.child target s.orders) w
  | .existence _ accessor target configure, s, w | .inSubquery accessor _ target _ configure, s, w =>
    match w.field s accessor with
    | (.error _, _) => []
    | (.ok _, w) => endings configure (s.child target 0) w
  | .attempt call, s, w => call.innerEndings s w ++ [(call.run s w).result]
  | _, _, _ => []

/-- How the calls of a program end, at any depth and in this order, up to a failure that nobody
catches. -/
def endings : List Call → Stream → Workspace → List (Except ResolutionError Unit)
  | [], _, _ => []
  | call :: rest, s, w =>
    call.innerEndings s w ++ (call.run s w).result ::
      match call.run s w with
      | ⟨.ok (), s, w⟩ => endings rest s w
      | _ => []

end

theorem Outcome.Alike.result {o o' : Outcome} (h : Outcome.Alike known o o') :
    o.result = o'.result := by
  cases h <;> rfl

/-- The calls that configure a child end in the same way, if there is one. -/
theorem endings_child {accessor : Accessor} {configure : List Call} {child child' : Stream}
    (hf : Agree known ScopedField.plain (w.field s accessor) (w'.field s' accessor))
    (h : ∀ {w w' : Workspace}, w.Alike known w' →
      endings configure child w = endings configure child' w') :
    (match w.field s accessor with
      | (.error _, _) => []
      | (.ok _, w) => endings configure child w) =
    match w'.field s' accessor with
      | (.error _, _) => []
      | (.ok _, w) => endings configure child' w := by
  generalize w.field s accessor = x, w'.field s' accessor = x' at hf
  cases hf with
  | error e hw => rfl
  | ok _ hw => exact h hw

mutual

theorem Call.innerEndings_eq (hsep : Separated known) : ∀ (call : Call) {s s' : Stream}
    {w w' : Workspace}, s.plain = s'.plain → w.Alike known w' →
    (∀ l ∈ call.lookups s.entity, l ∈ known) → call.innerEndings s w = call.innerEndings s' w'
  | .brackets configure, s, s', w, w', hs, hw, hk =>
    endings_eq hsep configure (Stream.mapRefs_group_congr hs) hw hk
  | .join kind accessor target configure, s, s', w, w', hs, hw, hk => by
    have hf := field_agrees hsep (hk ⟨s.entity, accessor⟩ (by simp [Call.lookups])) hs hw
    have horders : s.orders = s'.orders := (Stream.mapRefs_inj hs).2.2.1
    rw [Call.innerEndings, Call.innerEndings, ← horders]
    exact endings_child hf fun hw =>
      endings_eq hsep configure (Stream.mapRefs_child_congr hs target s.orders) hw
        fun l hl => hk l (List.mem_cons_of_mem _ hl)
  | .existence negated accessor target configure, s, s', w, w', hs, hw, hk => by
    have hf := field_agrees hsep (hk ⟨s.entity, accessor⟩ (by simp [Call.lookups])) hs hw
    rw [Call.innerEndings, Call.innerEndings]
    exact endings_child hf fun hw =>
      endings_eq hsep configure (Stream.mapRefs_child_congr hs target 0) hw
        fun l hl => hk l (List.mem_cons_of_mem _ hl)
  | .inSubquery accessor negated source select configure, s, s', w, w', hs, hw, hk => by
    have hf := field_agrees hsep (hk ⟨s.entity, accessor⟩ (by simp [Call.lookups])) hs hw
    rw [Call.innerEndings, Call.innerEndings]
    exact endings_child hf fun hw =>
      endings_eq hsep configure (Stream.mapRefs_child_congr hs source 0) hw
        fun l hl => hk l (List.mem_cons_of_mem _ (List.mem_cons_of_mem _ hl))
  | .attempt call, s, s', w, w', hs, hw, hk => by
    rw [Call.innerEndings, Call.innerEndings, call.innerEndings_eq hsep hs hw hk,
      (call.run_alike hsep hs hw hk).result]
  | .filter, _, _, _, _, _, _, _ | .connect _, _, _, _, _, _, _, _ | .fail _, _, _, _, _, _, _, _
  | .inspect, _, _, _, _, _, _, _ | .render _ _, _, _, _, _, _, _, _
  | .compare .., _, _, _, _, _, _, _ | .nullCheck .., _, _, _, _, _, _, _
  | .isIn .., _, _, _, _, _, _, _ | .orderBy .., _, _, _, _, _, _, _
  | .compareOuter .., _, _, _, _, _, _, _ => rfl

/-- Every call of a program ends in the same way over two filled stores. -/
theorem endings_eq (hsep : Separated known) : ∀ (calls : List Call) {s s' : Stream}
    {w w' : Workspace}, s.plain = s'.plain → w.Alike known w' →
    (∀ l ∈ lookups s.entity calls, l ∈ known) → endings calls s w = endings calls s' w'
  | [], _, _, _, _, _, _, _ => rfl
  | call :: rest, s, s', w, w', hs, hw, hk => by
    have hcall : ∀ l ∈ call.lookups s.entity, l ∈ known := fun l hl =>
      hk l (List.mem_append_left _ hl)
    have h := call.run_alike hsep hs hw hcall
    have hentity := call.run_entity s w
    rw [endings, endings, call.innerEndings_eq hsep hs hw hcall, h.result]
    generalize call.run s w = o, call.run s' w' = o' at h hentity
    cases h with
    | failed e hs hw => rfl
    | done hs hw =>
      have hrest := endings_eq hsep rest hs hw fun l hl =>
        hk l (List.mem_append_right _ (hentity ▸ hl))
      dsimp only
      rw [hrest]

end

/-- Workspaces that differ in their stores alone. -/
theorem Workspace.alike_of_filled (w : Workspace) {store store' : Store}
    (hstore : Filled known store) (hstore' : Filled known store') :
    { w with store }.Alike known { w with store := store' } where
  filled := hstore
  filled' := hstore'
  events := List.forall₂_same.mpr fun _ _ => .same _
  lines := List.forall₂_same.mpr fun _ _ => .same _
  seen := List.forall₂_same.mpr fun o _ => o.alike_refl

/-- TRANSPARENCY: over any two stores that separated lookups have filled, every call of a program
ends in the same way, at any depth, and the stream has one plain form: the same nodes with references
to the same descriptors. So the texts, parameters and render errors are the same, whatever is changed
about the query, and so is all that the program saw. What is told differs in hits and misses alone. -/
theorem program_independent_of_store (hsep : Separated known) (w : Workspace) {store store' : Store}
    (hstore : Filled known store) (hstore' : Filled known store') {s : Stream} {calls : List Call}
    (hk : ∀ l ∈ lookups s.entity calls, l ∈ known) :
    endings calls s { w with store } = endings calls s { w with store := store' } ∧
    (runAll calls s { w with store }).result =
      (runAll calls s { w with store := store' }).result ∧
    (runAll calls s { w with store }).stream.plain =
      (runAll calls s { w with store := store' }).stream.plain ∧
    (∀ (changes : List Modifier) (r : Renderer),
      r.render ((runAll calls s { w with store }).stream.build.modifyAll changes) =
        r.render ((runAll calls s { w with store := store' }).stream.build.modifyAll changes)) ∧
    (runAll calls s { w with store }).workspace.Alike known
      (runAll calls s { w with store := store' }).workspace := by
  have hw := w.alike_of_filled hstore hstore'
  have hendings := endings_eq hsep calls (rfl : s.plain = s.plain) hw hk
  have hrun := runAll_alike hsep calls (rfl : s.plain = s.plain) hw hk
  generalize runAll calls s { w with store } = o, runAll calls s { w with store := store' } = o'
    at hrun ⊢
  cases hrun with
  | done hs hw => exact ⟨hendings, rfl, hs, render_congr hs, hw⟩
  | failed e hs hw => exact ⟨hendings, rfl, hs, render_congr hs, hw⟩

/-- The store of staff after one lookup. -/
def visited : Store := (Field.resolve staff reports untouched.store {}).2.1

theorem program_independent_of_store_mishaps :
    Separated [⟨staff, reports⟩] ∧ Filled [⟨staff, reports⟩] untouched.store ∧
      Filled [⟨staff, reports⟩] visited ∧
      (∀ l ∈ lookups (Stream.start staff).entity mishaps, l ∈ [(⟨staff, reports⟩ : Lookup)]) ∧
      endings mishaps (.start staff) { untouched with store := untouched.store } =
        endings mishaps (.start staff) { untouched with store := visited } ∧
      ∀ (changes : List Modifier) (r : Renderer),
        r.render ((runAll mishaps (.start staff) { untouched with
          store := untouched.store }).stream.build.modifyAll changes) =
        r.render ((runAll mishaps (.start staff) { untouched with
          store := visited }).stream.build.modifyAll changes) := by
  have hsep := separated_singleton ⟨staff, reports⟩
  have hstore := filled_untouched [⟨staff, reports⟩]
  have hvisited : Filled [⟨staff, reports⟩] visited := .resolve {} hstore (List.mem_singleton_self _)
  have hk : ∀ l ∈ lookups (Stream.start staff).entity mishaps,
      l ∈ [(⟨staff, reports⟩ : Lookup)] := by
    simp [Stream.start, lookups, mishaps, Call.lookups]
  obtain ⟨hendings, -, -, htext, -⟩ :=
    program_independent_of_store hsep untouched hstore hvisited hk
  exact ⟨hsep, hstore, hvisited, hk, hendings, htext⟩

end EntityQuery
