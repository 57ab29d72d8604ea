import EntityQuery.Proofs.Plain

/-!
Failures leave no trace. A call that fails hands its stream back as it was, and a program is as good
as its survivors: made again, they all succeed and build the same stream, up to what the store says of
the fields. For the store is another matter: what a failed call looked up stays there. As long as
fingerprints tell the lookups apart, the second run may start from any store, and gives the same text.
Two types of one name are not told apart, and then a failed call decides what is said of a field.

```
calls       attempt (issuer = code of an outer ticket on a phone) · code is null
text        … c0.phone_code is null
survivors   code is null
text        … c0.paper_code is null
```
-/

namespace EntityQuery

open EntityQuery.Field

/-! ### Lookups made again -/

/-- What a lookup has led to once, it leads to again over every store that is as it should be, in one
form and leaving the store so. -/
def Repeats (Means : Lookup → Reference → Prop) (Good : Store → Prop)
    (form : Reference → Reference) : Prop :=
  ∀ ⦃l : Lookup⦄ ⦃r : Reference⦄, Means l r → ∀ ⦃w : Workspace⦄, Good w.store →
    ∃ r' w', w.resolve l.entity l.accessor = (.ok r', w') ∧ form r' = form r ∧ Good w'.store

/-- Over any store, a lookup leads to the same fingerprint. -/
theorem repeats_marks : Repeats Lookup.Marks (fun _ => True) Reference.mark := by
  intro l r h w _
  obtain ⟨k, hk⟩ := h.key
  obtain ⟨r', w', hr⟩ := resolve_ok hk w
  have hmarks : l.Marks r' := trusted_marks.means l trivial w trivial r' (congrArg Prod.fst hr)
  have hfingerprint := Option.some.inj (hmarks.symm.trans h)
  exact ⟨r', w', hr, by rw [Reference.mark, hfingerprint, Reference.mark], trivial⟩

/-- Over stores that separated lookups have filled, a lookup leads to the same descriptor. -/
theorem repeats_finds {known : List Lookup} (hsep : Separated known) :
    Repeats (Lookup.Finds known) (Filled known) Reference.plain := by
  intro l r h w hw
  obtain ⟨hl, hd⟩ := h
  obtain ⟨k, hk, -⟩ := Lookup.describe_ok hd
  obtain ⟨r', w', hr⟩ := resolve_ok hk w
  obtain ⟨hw', hfinds⟩ := (trusted_finds hsep).resolve hl hw hr
  have hd' := (hfinds r' rfl).2
  rw [hd, Except.ok.injEq] at hd'
  exact ⟨r', w', hr, by rw [Reference.plain, ← hd', Reference.plain], hw'⟩

section

variable {Means : Lookup → Reference → Prop} {Good : Store → Prop} {form : Reference → Reference}

/-- The same for a field of a stream. -/
theorem Repeats.field (h : Repeats Means Good form) {s s' : Stream} {accessor : Accessor}
    {r : Reference} (hr : Means ⟨s.entity, accessor⟩ r) (hs : s'.mapRefs form = s.mapRefs form)
    {w : Workspace} (hw : Good w.store) :
    ∃ f w', w.field s' accessor = (.ok f, w') ∧ f.mapRefs form = (s.bind r).mapRefs form ∧
      Good w'.store := by
  obtain ⟨hentity, hscope, -⟩ := Stream.mapRefs_inj hs
  obtain ⟨r', w', hr', hform, hw'⟩ := h hr hw
  refine ⟨s'.bind r', w', field_bound (by rw [hentity, hr']), ?_, hw'⟩
  simp only [ScopedField.mapRefs, Stream.bind, Stream.index, hform, hscope]

/-! ### Calls made again -/

theorem runAll_cons_done {call : Call} {rest : List Call} {s s' : Stream} {w w' : Workspace}
    (h : call.run s w = .done s' w') : runAll (call :: rest) s w = runAll rest s' w' := by
  simp only [runAll, h, Outcome.done]

/-- A step made once can be made again. -/
theorem Step.again (h : Repeats Means Good form) {s s' t : Stream} {call : Call}
    (hstep : Step Means s call t) (hs : s'.mapRefs form = s.mapRefs form) {w : Workspace}
    (hw : Good w.store) :
    ∃ t' w', call.run s' w = .done t' w' ∧ t'.mapRefs form = t.mapRefs form ∧ Good w'.store := by
  cases hstep with
  | filter =>
    exact ⟨_, w, rfl, congrArg (fun u : Stream => { u with filtering := true }) hs, hw⟩
  | connect c =>
    exact ⟨_, w, rfl, congrArg (fun u : Stream => { u with pending := some c }) hs, hw⟩
  | inspect => exact ⟨s', _, rfl, hs, hw⟩
  | render r names =>
    refine ⟨s', _, rfl, hs, ?_⟩
    exact hw
  | compare op v hr =>
    obtain ⟨f, w', hf, hform, hw'⟩ := h.field hr hs hw
    refine ⟨_, w', by simp only [Call.run, hf]; rfl, ?_, hw'⟩
    exact Stream.mapRefs_pushCondition_congr hs (by simp only [Node.mapRefs, hform])
  | nullCheck negated hr =>
    obtain ⟨f, w', hf, hform, hw'⟩ := h.field hr hs hw
    refine ⟨_, w', by simp only [Call.run, hf]; rfl, ?_, hw'⟩
    exact Stream.mapRefs_pushCondition_congr hs (by simp only [Node.mapRefs, hform])
  | isIn negated values hr =>
    obtain ⟨f, w', hf, hform, hw'⟩ := h.field hr hs hw
    refine ⟨_, w', by simp only [Call.run, hf]; rfl, ?_, hw'⟩
    exact Stream.mapRefs_pushCondition_congr hs (by simp only [Node.mapRefs, hform])
  | orderBy direction hr =>
    obtain ⟨f, w', hf, hform, hw'⟩ := h.field hr hs hw
    refine ⟨_, w', by simp only [Call.run, hf]; rfl, ?_, hw'⟩
    exact Stream.mapRefs_pushOrder_congr hs hform direction
  | compareOuter op hr hr' howner =>
    obtain ⟨f, w₁, hf, hform, hw₁⟩ := h.field hr hs hw
    obtain ⟨r', w₂, hres, hform', hw₂⟩ := h hr' hw₁
    have hscope := (Stream.mapRefs_inj hs).2.1
    refine ⟨_, w₂, by simp only [Call.run, hf, hres, hscope, howner]; rfl, ?_, hw₂⟩
    refine Stream.mapRefs_pushCondition_congr hs ?_
    simp only [Node.mapRefs, hform, Operand.ofOuter]
    split
    · rfl
    · simp only [Operand.mapRefs, ScopedField.mapRefs, hform']

/-- What a program builds once, it builds from every such store and with nothing failing. -/
theorem Builds.again (h : Repeats Means Good form) {s t : Stream} {calls : List Call}
    (hbuilds : Builds Means s calls t) : ∀ {s' : Stream} {w : Workspace},
    s'.mapRefs form = s.mapRefs form → Good w.store →
    ∃ t' w', runAll calls s' w = .done t' w' ∧ t'.mapRefs form = t.mapRefs form ∧
      Good w'.store := by
  induction hbuilds with
  | nil => exact fun hs hw => ⟨_, _, rfl, hs, hw⟩
  | step hstep _ ih =>
    intro s' w hs hw
    obtain ⟨t₁, w₁, hrun, hform, hw₁⟩ := hstep.again h hs hw
    rw [runAll_cons_done hrun]
    exact ih hform hw₁
  | @brackets s g t configure rest _ _ ihg ih =>
    intro s' w hs hw
    obtain ⟨g, w₁, hg, hform, hw₁⟩ := ihg (Stream.mapRefs_group_congr hs) hw
    rw [runAll_cons_done (by simp only [Call.run, hg, Outcome.done]; rfl)]
    exact ih (Stream.mapRefs_acceptGroup_congr hs hform) hw₁
  | @join s c t accessor r target configure rest kind hr _ _ ihc ih =>
    intro s' w hs hw
    obtain ⟨f, w₁, hf, hfield, hw₁⟩ := h.field hr hs hw
    have hchild := Stream.mapRefs_child_congr hs target s'.orders
    rw [(Stream.mapRefs_inj hs).2.2.1] at hchild
    obtain ⟨c', w₂, hc, hform, hw₂⟩ := ihc hchild hw₁
    rw [← (Stream.mapRefs_inj hs).2.2.1] at hc
    rw [runAll_cons_done (by simp only [Call.run, hf, hc, Outcome.done]; rfl)]
    exact ih (Stream.mapRefs_acceptJoin_congr hs kind hfield hform) hw₂
  | @existence s c t accessor r target configure rest negated hr _ _ ihc ih =>
    intro s' w hs hw
    obtain ⟨f, w₁, hf, hfield, hw₁⟩ := h.field hr hs hw
    obtain ⟨c', w₂, hc, hform, hw₂⟩ := ihc (Stream.mapRefs_child_congr hs target 0) hw₁
    rw [runAll_cons_done (by simp only [Call.run, hf, hc, Outcome.done]; rfl)]
    obtain ⟨-, hscope, -, hnodes⟩ := Stream.mapRefs_inj hform
    have hindex : c'.index = c.index := by rw [Stream.index, hscope, Stream.index]
    refine ih (Stream.mapRefs_acceptSubquery_congr hs hform ?_) hw₂
    simp only [Node.mapRefs, hfield, hindex, hnodes]
  | @inSubquery s c t accessor select r r' source configure rest negated hr hc hr' _ ihc ih =>
    intro s' w hs hw
    obtain ⟨f, w₁, hf, hfield, hw₁⟩ := h.field hr hs hw
    obtain ⟨c', w₂, hrun, hform, hw₂⟩ := ihc (Stream.mapRefs_child_congr hs source 0) hw₁
    have hentity : c.entity = source := hc.frame.1
    obtain ⟨g, w₃, hg, hselect, hw₃⟩ := h.field (s := c) (hentity.symm ▸ hr') hform hw₂
    rw [runAll_cons_done (by simp only [Call.run, hf, hrun, hg, Outcome.done]; rfl)]
    obtain ⟨-, hscope, -, hnodes⟩ := Stream.mapRefs_inj hform
    have hindex : c'.index = c.index := by rw [Stream.index, hscope, Stream.index]
    refine ih (Stream.mapRefs_acceptSubquery_congr hs hform ?_) hw₃
    simp only [Node.mapRefs, hfield, hselect, hindex, hnodes]

end

/-- FAILURE: a call that fails leaves its stream as it was. A program therefore leaves its stream as
its surviving calls alone leave it, all of which succeed when they are made again, over any store: the
same nodes up to what is said of the fields besides their fingerprints, the same connector, counters
and scope. If there is no collision among the lookups, and no type name that two entities share, the
same is said of the fields too, and text and parameters are the same. -/
theorem failures_leave_no_trace (s : Stream) (calls : List Call) (w w' : Workspace) :
    (∀ (call : Call) (s : Stream) (w : Workspace) (e : ResolutionError),
      (call.run s w).result = .error e → (call.run s w).stream = s) ∧
    (runAll (surviving calls s w) s w').result = .ok () ∧
    (runAll (surviving calls s w) s w').stream.marks = (runAll calls s w).stream.marks ∧
    ∀ known, CollisionFree known → WellTyped known → Filled known w.store →
      Filled known w'.store → (∀ l ∈ lookups s.entity calls, l ∈ known) →
      (runAll (surviving calls s w) s w').stream.plain = (runAll calls s w).stream.plain ∧
      ∀ (changes : List Modifier) (r : Renderer),
        r.render ((runAll (surviving calls s w) s w').stream.build.modifyAll changes) =
          r.render ((runAll calls s w).stream.build.modifyAll changes) := by
  obtain ⟨t', w'', hrun, hmarks, -⟩ :=
    (runAll_builds_marked calls s w).again repeats_marks (rfl : s.marks = s.marks) (w := w') trivial
  refine ⟨fun call s w e => Call.run_error, by rw [hrun]; rfl, by rw [hrun]; exact hmarks, ?_⟩
  intro known hdigests htypes hw hw' hk
  have hsep : Separated known := ⟨hdigests, htypes⟩
  have hbuilds := (runAll_builds (trusted_finds hsep) calls s w hw hk).2
  obtain ⟨t', w'', hrun, hplain, -⟩ :=
    hbuilds.again (repeats_finds hsep) (rfl : s.plain = s.plain) hw'
  rw [hrun]
  exact ⟨hplain, render_congr hplain⟩

/-- A program on staff with a failure at every depth: in front of any outer scope, after a closure
has opened a scope, and inside a group. -/
def mishaps : List Call :=
  [.attempt (.compareOuter reports .eq staff reports),
    .connect .or,
    .attempt (.join .left reports staff [.isIn reports false [], .fail (.noOuterScope "" "")]),
    .brackets [.existence false reports staff
      [.attempt (.brackets [.nullCheck reports true, .fail (.noOuterScope "" "")]),
        .compareOuter reports .eq staff reports]]]

theorem failures_leave_no_trace_mishaps :
    CollisionFree [⟨staff, reports⟩] ∧ WellTyped [⟨staff, reports⟩] ∧
      Filled [⟨staff, reports⟩] untouched.store ∧
      (∀ l ∈ lookups (Stream.start staff).entity mishaps, l ∈ [(⟨staff, reports⟩ : Lookup)]) ∧
      ∀ (changes : List Modifier) (r : Renderer),
        r.render ((runAll (surviving mishaps (.start staff) untouched) (.start staff)
          untouched).stream.build.modifyAll changes) =
        r.render ((runAll mishaps (.start staff) untouched).stream.build.modifyAll changes) := by
  have hsep := separated_singleton ⟨staff, reports⟩
  have hw := filled_untouched [⟨staff, reports⟩]
  have hk : ∀ l ∈ lookups (Stream.start staff).entity mishaps,
      l ∈ [(⟨staff, reports⟩ : Lookup)] := by
    simp [Stream.start, lookups, mishaps, Call.lookups]
  obtain ⟨-, -, -, hforms⟩ :=
    failures_leave_no_trace (.start staff) mishaps untouched untouched
  exact ⟨hsep.digests, hsep.types, hw, hk, (hforms _ hsep.digests hsep.types hw hw hk).2⟩

/-- A program on tickets on paper. Its first call looks up the issuer, and the code of a ticket on a
phone, and then fails, as there is no outer scope. -/
def mixedTickets : List Call :=
  [.attempt (.compareOuter ticketIssuer .eq phoneTicket ticketCode), .nullCheck ticketCode false]

/-- Whether a node is a comparison. -/
def Node.isComparison : Node → Bool
  | .predicate .. => true
  | _ => false

/-- Comparisons alone ask for no ordering. -/
theorem Clause.ordering_comparisons (m : Mapping) {nodes : List Node}
    (h : nodes.all Node.isComparison) : ordering m nodes = .ok [] := by
  refine ordering_eq_nil m ?_
  induction nodes with
  | nil => rw [orderTerms]
  | cons n rest ih =>
    rw [List.all_cons, Bool.and_eq_true] at h
    cases n with
    | predicate => simpa [orderTerms] using ih h.2
    | _ => cases h.1

/-- Without a collision, but with two entities of one type name, a failure leaves a trace: the code is
read from a phone after it, and from paper without it. -/
theorem failure_decides_shared_type_name :
    CollisionFree (lookups paperTicket mixedTickets) ∧
    Filled (lookups paperTicket mixedTickets) untouched.store ∧
    ((Renderer.render {}
        (runAll mixedTickets (.start paperTicket) untouched).stream.build).map (·.text)).toOption =
      some "SELECT c0 FROM tickets c0 WHERE c0.phone_code is null" ∧
    ((Renderer.render {} (runAll (surviving mixedTickets (.start paperTicket) untouched)
        (.start paperTicket) untouched).stream.build).map (·.text)).toOption =
      some "SELECT c0 FROM tickets c0 WHERE c0.paper_code is null" := by
  refine ⟨?_, .empty 0, ?_, ?_⟩
  · refine collisionFree_of_two (a := ⟨paperTicket, ticketIssuer⟩) (b := ⟨paperTicket, ticketCode⟩)
      (by decide +kernel) fun l hl _ => ?_
    have hcases : l = ⟨paperTicket, ticketIssuer⟩ ∨ l = ⟨phoneTicket, ticketCode⟩ ∨
        l = ⟨paperTicket, ticketCode⟩ := by
      simpa [lookups, mixedTickets, Call.lookups] using hl
    rcases hcases with rfl | rfl | rfl
    · exact .inl ⟨rfl, rfl⟩
    · exact .inr ⟨rfl, rfl⟩
    · exact .inr ⟨rfl, rfl⟩
  · rw [Renderer.render_eq, Query.statement_clauses,
      Clause.ordering_comparisons _ (by decide +kernel)]
    decide +kernel
  · rw [Renderer.render_eq, Query.statement_clauses,
      Clause.ordering_comparisons _ (by decide +kernel)]
    decide +kernel

end EntityQuery
