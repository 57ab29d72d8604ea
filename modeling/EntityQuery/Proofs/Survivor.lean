import EntityQuery.Proofs.Lookup

/-!
Survivors: the calls of a program that succeed. A program that catches failures leaves behind what
its surviving calls build, so whatever holds of a stream after a program is proved once for
programs in which every call succeeds. `Builds` is that run without its store: a call either makes
one step on its stream, or is given a stream that its own program builds.

```
brackets [a, attempt b, c]   --b fails-->   brackets [a, c]
attempt (join k x [a, b])    --b fails-->   (nothing)
```
-/

namespace EntityQuery

open EntityQuery.Field

/-! ### Deleting what fails -/

mutual

/-- What is left of a call that succeeds when all that fails inside it is deleted. A caught failure
leaves nothing. -/
def Call.trim : Call → Stream → Workspace → List Call
  | .attempt call, s, w =>
    match (call.run s w).result with
    | .error _ => []
    | .ok () => call.trim s w
  | .brackets configure, s, w => [.brackets (surviving configure s.group w)]
  | .join kind accessor target configure, s, w =>
    [.join kind accessor target
      (surviving configure (s.child target s.orders) (w.field s accessor).2)]
  | .existence negated accessor target configure, s, w =>
    [.existence negated accessor target
      (surviving configure (s.child target 0) (w.field s accessor).2)]
  | .inSubquery accessor negated source select configure, s, w =>
    [.inSubquery accessor negated source select
      (surviving configure (s.child source 0) (w.field s accessor).2)]
  | call, _, _ => [call]

/-- The calls of a program that succeed, up to a failure that nobody catches. -/
def surviving : List Call → Stream → Workspace → List Call
  | [], _, _ => []
  | call :: rest, s, w =>
    match call.run s w with
    | ⟨.ok (), s', w'⟩ => call.trim s w ++ surviving rest s' w'
    | _ => []

end

mutual

/-- The lookups that a call on a stream over an entity may make. -/
def Call.lookups (entity : Entity) : Call → List Lookup
  | .compare accessor _ _ | .nullCheck accessor _ | .isIn accessor _ _ | .orderBy accessor _ =>
    [⟨entity, accessor⟩]
  | .compareOuter accessor _ outer outerAccessor => [⟨entity, accessor⟩, ⟨outer, outerAccessor⟩]
  | .brackets configure => lookups entity configure
  | .join _ accessor target configure | .existence _ accessor target configure =>
    ⟨entity, accessor⟩ :: lookups target configure
  | .inSubquery accessor _ source select configure =>
    ⟨entity, accessor⟩ :: ⟨source, select⟩ :: lookups source configure
  | .attempt call => call.lookups entity
  | .filter | .connect _ | .fail _ | .inspect | .render _ _ => []

/-- The lookups that the calls of a program may make. -/
def lookups (entity : Entity) : List Call → List Lookup
  | [] => []
  | call :: rest => call.lookups entity ++ lookups entity rest

end

/-! ### Programs in which every call succeeds -/

/-- What a call without a program of its own makes of its stream. -/
inductive Step (Means : Lookup → Reference → Prop) (s : Stream) : Call → Stream → Prop
  | filter : Step Means s .filter { s with filtering := true }
  | connect (c : Connector) : Step Means s (.connect c) { s with pending := some c }
  | compare {accessor : Accessor} {r : Reference} (op : CompareOp) (v : Value) :
      Means ⟨s.entity, accessor⟩ r →
      Step Means s (.compare accessor op v)
        (s.pushCondition (.predicate (s.bind r) op (.value v)))
  | nullCheck {accessor : Accessor} {r : Reference} (negated : Bool) :
      Means ⟨s.entity, accessor⟩ r →
      Step Means s (.nullCheck accessor negated)
        (s.pushCondition (.predicate (s.bind r) (.ofNullCheck negated) .none))
  | isIn {accessor : Accessor} {r : Reference} (negated : Bool) (values : List Value) :
      Means ⟨s.entity, accessor⟩ r →
      Step Means s (.isIn accessor negated values)
        (s.pushCondition (.inList (s.bind r) negated values))
  | compareOuter {accessor outerAccessor : Accessor} {outer : Entity} {r r' : Reference}
      {owner : Alias} (op : CompareOp) :
      Means ⟨s.entity, accessor⟩ r → Means ⟨outer, outerAccessor⟩ r' →
      s.scope.findOuter? outer.path = some owner →
      Step Means s (.compareOuter accessor op outer outerAccessor)
        (s.pushCondition (.predicate (s.bind r) op (.ofOuter op ⟨r', owner⟩)))
  | orderBy {accessor : Accessor} {r : Reference} (direction : Direction) :
      Means ⟨s.entity, accessor⟩ r →
      Step Means s (.orderBy accessor direction) (s.pushOrder (s.bind r) direction)
  | inspect : Step Means s .inspect s
  | render (r : Renderer) (names : List String) : Step Means s (.render r names) s

/-- A program in which every call succeeds, at every depth, takes one stream to another. -/
inductive Builds (Means : Lookup → Reference → Prop) : Stream → List Call → Stream → Prop
  | nil (s : Stream) : Builds Means s [] s
  | step {s s' t : Stream} {call : Call} {rest : List Call} :
      Step Means s call s' → Builds Means s' rest t → Builds Means s (call :: rest) t
  | brackets {s g t : Stream} {configure rest : List Call} :
      Builds Means s.group configure g → Builds Means (s.acceptGroup g) rest t →
      Builds Means s (.brackets configure :: rest) t
  | join {s c t : Stream} {accessor : Accessor} {r : Reference} {target : Entity}
      {configure rest : List Call} (kind : JoinKind) :
      Means ⟨s.entity, accessor⟩ r → Builds Means (s.child target s.orders) configure c →
      Builds Means (s.acceptJoin kind (s.bind r) c) rest t →
      Builds Means s (.join kind accessor target configure :: rest) t
  | existence {s c t : Stream} {accessor : Accessor} {r : Reference} {target : Entity}
      {configure rest : List Call} (negated : Bool) :
      Means ⟨s.entity, accessor⟩ r → Builds Means (s.child target 0) configure c →
      Builds Means (s.acceptSubquery c (.existence negated (s.bind r) c.index c.nodes)) rest t →
      Builds Means s (.existence negated accessor target configure :: rest) t
  | inSubquery {s c t : Stream} {accessor select : Accessor} {r r' : Reference}
      {source : Entity} {configure rest : List Call} (negated : Bool) :
      Means ⟨s.entity, accessor⟩ r → Builds Means (s.child source 0) configure c →
      Means ⟨source, select⟩ r' →
      Builds Means (s.acceptSubquery c
        (.inSubquery (s.bind r) negated source.model c.index (c.bind r') c.nodes)) rest t →
      Builds Means s (.inSubquery accessor negated source select configure :: rest) t

/-! ### What a stream keeps -/

namespace Stream

@[simp] theorem pushCondition_entity (s : Stream) (n : Node) :
    (s.pushCondition n).entity = s.entity := rfl

@[simp] theorem acceptGroup_entity (s g : Stream) : (s.acceptGroup g).entity = s.entity := by
  unfold acceptGroup; dsimp only; split <;> rfl

@[simp] theorem acceptGroup_scope (s g : Stream) : (s.acceptGroup g).scope = s.scope := by
  unfold acceptGroup; dsimp only; split <;> rfl

@[simp] theorem acceptGroup_nextAlias (s g : Stream) :
    (s.acceptGroup g).nextAlias = g.nextAlias := by
  unfold acceptGroup; dsimp only; split <;> rfl

@[simp] theorem acceptGroup_orders (s g : Stream) : (s.acceptGroup g).orders = g.orders := by
  unfold acceptGroup; dsimp only; split <;> rfl

@[simp] theorem acceptJoin_nextAlias (s c : Stream) (kind : JoinKind) (f : ScopedField) :
    (s.acceptJoin kind f c).nextAlias = c.nextAlias := rfl

@[simp] theorem acceptSubquery_nextAlias (s c : Stream) (n : Node) :
    (s.acceptSubquery c n).nextAlias = c.nextAlias := rfl

@[simp] theorem child_nextAlias (s : Stream) (e : Entity) (orders : Nat) :
    (s.child e orders).nextAlias = s.nextAlias + 1 := rfl

section

variable {P : Node → Prop} {s g : Stream} {n : Node}

theorem forall_push (hs : ∀ x ∈ s.nodes, P x) (hn : P n) : ∀ x ∈ (s.push n).nodes, P x := by
  intro x hx
  rcases List.mem_append.mp hx with hx | hx
  · exact hs x hx
  · rw [List.mem_singleton.mp hx]; exact hn

/-- A condition is added with a connector at most. -/
theorem forall_pushCondition (hc : ∀ c, P (.connector c)) (hs : ∀ x ∈ s.nodes, P x) (hn : P n) :
    ∀ x ∈ (s.pushCondition n).nodes, P x := by
  intro x hx
  unfold pushCondition at hx
  simp only [List.mem_append, List.mem_singleton] at hx
  rcases hx with (hx | hx) | rfl
  · exact hs x hx
  · split at hx
    · split at hx
      · rw [List.mem_singleton.mp hx]; exact hc _
      · cases hx
    · cases hx
  · exact hn

/-- A group leaves its own nodes, or its joins and one bracket around the rest, in which there is a
condition. -/
theorem forall_acceptGroup (hc : ∀ c, P (.connector c)) (hs : ∀ x ∈ s.nodes, P x)
    (hg : ∀ x ∈ g.nodes, P x)
    (hb : hasCondition (g.nodes.filter (!·.isJoin)) → P (.bracket (g.nodes.filter (!·.isJoin)))) :
    ∀ x ∈ (s.acceptGroup g).nodes, P x := by
  have hjoins : ∀ x ∈ s.nodes ++ g.nodes.filter Node.isJoin, P x := fun x hx =>
    (List.mem_append.mp hx).elim (hs x) fun hx => hg x (List.mem_filter.mp hx).1
  unfold acceptGroup
  dsimp only
  split
  next hcond => exact forall_pushCondition hc hjoins (hb hcond)
  next =>
    intro x hx
    rcases List.mem_append.mp hx with hx | hx
    · exact hjoins x hx
    · exact hg x (List.mem_filter.mp hx).1

end

section

variable {α : Type} {f : Node → List α}

/-- What is read off nodes one by one comes last for the node added last. -/
theorem flatMap_push (s : Stream) (n : Node) :
    (s.push n).nodes.flatMap f = s.nodes.flatMap f ++ f n := by
  simp [push]

/-- The same for a condition, if there is nothing to read off connectors. -/
theorem flatMap_pushCondition (hc : ∀ c, f (.connector c) = []) (s : Stream) (n : Node) :
    (s.pushCondition n).nodes.flatMap f = s.nodes.flatMap f ++ f n := by
  unfold pushCondition
  cases s.pending with
  | none => simp
  | some c => by_cases hcond : hasCondition s.nodes <;> simp [hcond, hc]

/-- Taking a group apart reorders what is read off it and keeps it all, if a bracket is read as the
nodes in it. -/
theorem flatMap_acceptGroup (hc : ∀ c, f (.connector c) = [])
    (hb : ∀ nodes, f (.bracket nodes) = nodes.flatMap f) (s g : Stream) :
    ((s.acceptGroup g).nodes.flatMap f).Perm (s.nodes.flatMap f ++ g.nodes.flatMap f) := by
  have hsplit : ((g.nodes.filter Node.isJoin ++ g.nodes.filter (!·.isJoin)).flatMap f).Perm
      (g.nodes.flatMap f) := (List.filter_append_perm Node.isJoin g.nodes).flatMap_right _
  have hall := hsplit.append_left (s.nodes.flatMap f)
  rw [List.flatMap_append, ← List.append_assoc] at hall
  unfold acceptGroup
  dsimp only
  split
  · rw [flatMap_pushCondition hc, hb, List.flatMap_append]
    exact hall
  · rw [List.flatMap_append, List.flatMap_append]
    exact hall

end

end Stream

/-- A step keeps the entity, the scope and the alias counter of its stream. -/
theorem Step.frame {Means : Lookup → Reference → Prop} {s t : Stream} {call : Call}
    (h : Step Means s call t) :
    t.entity = s.entity ∧ t.scope = s.scope ∧ t.nextAlias = s.nextAlias := by
  cases h <;> exact ⟨rfl, rfl, rfl⟩

/-- A program keeps the entity and the scope of its stream. -/
theorem Builds.frame {Means : Lookup → Reference → Prop} {s t : Stream} {calls : List Call}
    (h : Builds Means s calls t) : t.entity = s.entity ∧ t.scope = s.scope := by
  induction h with
  | nil => exact ⟨rfl, rfl⟩
  | step hstep _ ih => rw [ih.1, ih.2, hstep.frame.1, hstep.frame.2.1]; exact ⟨rfl, rfl⟩
  | brackets _ _ _ ih => simpa using ih
  | join _ _ _ _ _ ih | existence _ _ _ _ _ ih | inSubquery _ _ _ _ _ _ ih => exact ih

theorem Builds.index {Means : Lookup → Reference → Prop} {s t : Stream} {calls : List Call}
    (h : Builds Means s calls t) : t.index = s.index := congrArg Scope.index h.frame.2

/-! ### Runs -/

/-- A call that fails leaves its stream as it was. -/
theorem Call.run_error {call : Call} {s : Stream} {w : Workspace} {e : ResolutionError} :
    (call.run s w).result = .error e → (call.run s w).stream = s := by
  cases call with
  | filter | connect | inspect | render => intro h; cases h
  | fail e' => exact fun _ => rfl
  | compare accessor | nullCheck accessor | isIn accessor | orderBy accessor =>
    simp only [Call.run]
    rcases w.field s accessor with ⟨_ | f, w₁⟩
    · exact fun _ => rfl
    · intro h; cases h
  | compareOuter accessor op outer outerAccessor =>
    simp only [Call.run]
    rcases w.field s accessor with ⟨_ | f, w₁⟩
    · exact fun _ => rfl
    dsimp only
    rcases w₁.resolve outer outerAccessor with ⟨_ | r, w₂⟩
    · exact fun _ => rfl
    dsimp only
    cases s.scope.findOuter? outer.path with
    | none => exact fun _ => rfl
    | some owner => intro h; cases h
  | brackets configure =>
    simp only [Call.run]
    rcases runAll configure s.group w with ⟨_ | _, g, w₁⟩
    · exact fun _ => rfl
    · intro h; cases h
  | join kind accessor target configure =>
    simp only [Call.run]
    rcases w.field s accessor with ⟨_ | f, w₁⟩
    · exact fun _ => rfl
    dsimp only
    rcases runAll configure (s.child target s.orders) w₁ with ⟨_ | _, c, w₂⟩
    · exact fun _ => rfl
    · intro h; cases h
  | existence negated accessor target configure =>
    simp only [Call.run]
    rcases w.field s accessor with ⟨_ | f, w₁⟩
    · exact fun _ => rfl
    dsimp only
    rcases runAll configure (s.child target 0) w₁ with ⟨_ | _, c, w₂⟩
    · exact fun _ => rfl
    · intro h; cases h
  | inSubquery accessor negated source select configure =>
    simp only [Call.run]
    rcases w.field s accessor with ⟨_ | f, w₁⟩
    · exact fun _ => rfl
    dsimp only
    rcases runAll configure (s.child source 0) w₁ with ⟨_ | _, c, w₂⟩
    · exact fun _ => rfl
    dsimp only
    rcases w₂.field c select with ⟨_ | g, w₃⟩
    · exact fun _ => rfl
    · intro h; cases h
  | attempt call =>
    simp only [Call.run]
    rcases call.run s w with ⟨_ | _, t, w₁⟩ <;> intro h <;> cases h

section

variable {Known : Lookup → Prop} {Good : Store → Prop} {Means : Lookup → Reference → Prop}

/-- A lookup keeps a store good, and gives what it means. -/
theorem Trusted.resolve (h : Trusted Known Good Means) {w w₁ : Workspace} {entity : Entity}
    {accessor : Accessor} {x : Except ResolutionError Reference} (hk : Known ⟨entity, accessor⟩)
    (hw : Good w.store) (hr : w.resolve entity accessor = (x, w₁)) :
    Good w₁.store ∧ ∀ r, x = .ok r → Means ⟨entity, accessor⟩ r := by
  have hkeeps := h.keeps _ hk w hw
  have hmeans := h.means _ hk w hw
  rw [hr] at hkeeps hmeans
  exact ⟨hkeeps, hmeans⟩

/-- A field of a stream is such a reference, bound to the stream's own instance. -/
theorem Trusted.field (h : Trusted Known Good Means) {s : Stream} {w w₁ : Workspace}
    {accessor : Accessor} {x : Except ResolutionError ScopedField}
    (hk : Known ⟨s.entity, accessor⟩) (hw : Good w.store) (hf : w.field s accessor = (x, w₁)) :
    Good w₁.store ∧ ∀ f, x = .ok f → ∃ r, f = s.bind r ∧ Means ⟨s.entity, accessor⟩ r := by
  unfold Workspace.field at hf
  rcases hr : w.resolve s.entity accessor with ⟨_ | r, w₂⟩ <;>
    obtain ⟨hw₂, hmeans⟩ := h.resolve hk hw hr <;> rw [hr] at hf <;> obtain ⟨rfl, rfl⟩ := hf
  · exact ⟨hw₂, fun f hf => by cases hf⟩
  · refine ⟨hw₂, fun f hf => ⟨r, ?_, hmeans r rfl⟩⟩
    simpa [Except.map] using hf.symm

/-- A call that does no more than resolve a field and add something with it makes one step. -/
theorem Trusted.field_step (h : Trusted Known Good Means) {s : Stream} {w : Workspace} {call : Call}
    {accessor : Accessor} {add : ScopedField → Stream}
    (hrun : call.run s w = match w.field s accessor with
      | (.error e, w) => .failed e s w
      | (.ok f, w) => .done (add f) w)
    (htrim : call.trim s w = [call])
    (hstep : ∀ r, Means ⟨s.entity, accessor⟩ r → Step Means s call (add (s.bind r)))
    (hw : Good w.store) (hk : Known ⟨s.entity, accessor⟩) :
    Good (call.run s w).workspace.store ∧
      ((call.run s w).result = .ok () → ∀ rest t,
        Builds Means (call.run s w).stream rest t → Builds Means s (call.trim s w ++ rest) t) := by
  rw [hrun, htrim]
  rcases hf : w.field s accessor with ⟨_ | f, w₁⟩ <;> obtain ⟨hw₁, hf⟩ := h.field hk hw hf
  · exact ⟨hw₁, fun hr => by cases hr⟩
  · obtain ⟨r, rfl, hr⟩ := hf f rfl
    exact ⟨hw₁, fun _ _ _ hb => .step (hstep r hr) hb⟩

mutual

/-- What a call that succeeds makes of its stream is what its survivors build. -/
theorem Call.run_builds (h : Trusted Known Good Means) : ∀ (call : Call) (s : Stream) (w : Workspace),
    Good w.store → (∀ l ∈ call.lookups s.entity, Known l) →
    Good (call.run s w).workspace.store ∧
      ((call.run s w).result = .ok () → ∀ rest t,
        Builds Means (call.run s w).stream rest t → Builds Means s (call.trim s w ++ rest) t)
  | .filter, s, w, hw, _ => ⟨hw, fun _ _ _ hb => .step .filter hb⟩
  | .connect c, s, w, hw, _ => ⟨hw, fun _ _ _ hb => .step (.connect c) hb⟩
  | .inspect, s, w, hw, _ => ⟨hw, fun _ _ _ hb => .step .inspect hb⟩
  | .render r names, s, w, hw, _ => ⟨hw, fun _ _ _ hb => .step (.render r names) hb⟩
  | .fail e, s, w, hw, _ => ⟨hw, fun hr => by cases hr⟩
  | .compare accessor op value, s, w, hw, hk =>
    h.field_step rfl rfl (fun _ hr => .compare op value hr) hw (hk _ (by simp [Call.lookups]))
  | .nullCheck accessor negated, s, w, hw, hk =>
    h.field_step rfl rfl (fun _ hr => .nullCheck negated hr) hw (hk _ (by simp [Call.lookups]))
  | .isIn accessor negated values, s, w, hw, hk =>
    h.field_step rfl rfl (fun _ hr => .isIn negated values hr) hw (hk _ (by simp [Call.lookups]))
  | .orderBy accessor direction, s, w, hw, hk =>
    h.field_step rfl rfl (fun _ hr => .orderBy direction hr) hw (hk _ (by simp [Call.lookups]))
  | .compareOuter accessor op outer outerAccessor, s, w, hw, hk => by
    simp only [Call.run, Call.trim]
    rcases hf : w.field s accessor with ⟨_ | f, w₁⟩ <;>
      obtain ⟨hw₁, hf⟩ := h.field (hk _ (by simp [Call.lookups])) hw hf
    · exact ⟨hw₁, fun hr => by cases hr⟩
    obtain ⟨r, rfl, hr⟩ := hf f rfl
    have hko : Known ⟨outer, outerAccessor⟩ := hk _ (by simp [Call.lookups])
    dsimp only
    rcases ho : w₁.resolve outer outerAccessor with ⟨_ | r', w₂⟩ <;>
      obtain ⟨hw₂, hr'⟩ := h.resolve hko hw₁ ho
    · exact ⟨hw₂, fun hr => by cases hr⟩
    dsimp only
    cases howner : s.scope.findOuter? outer.path with
    | none => exact ⟨hw₂, fun hr => by cases hr⟩
    | some owner => exact ⟨hw₂, fun _ _ _ hb => .step (.compareOuter op hr (hr' r' rfl) howner) hb⟩
  | .brackets configure, s, w, hw, hk => by
    obtain ⟨hw₁, hg⟩ := runAll_builds h configure s.group w hw fun l hl => hk l hl
    simp only [Call.run, Call.trim]
    generalize surviving configure s.group w = calls,
      runAll configure s.group w = o at *
    rcases o with ⟨_ | _, g, w₁⟩
    · exact ⟨hw₁, fun hr => by cases hr⟩
    · exact ⟨hw₁, fun _ _ _ hb => .brackets hg hb⟩
  | .join kind accessor target configure, s, w, hw, hk => by
    simp only [Call.run, Call.trim]
    rcases hf : w.field s accessor with ⟨_ | f, w₁⟩ <;>
      obtain ⟨hw₁, hf⟩ := h.field (hk _ (by simp [Call.lookups])) hw hf
    · exact ⟨hw₁, fun hr => by cases hr⟩
    obtain ⟨r, rfl, hr⟩ := hf f rfl
    obtain ⟨hw₂, hc⟩ := runAll_builds h configure (s.child target s.orders) w₁ hw₁
      fun l hl => hk l (List.mem_cons_of_mem _ hl)
    dsimp only
    generalize surviving configure (s.child target s.orders) w₁ = calls,
      runAll configure (s.child target s.orders) w₁ = o at *
    rcases o with ⟨_ | _, c, w₂⟩
    · exact ⟨hw₂, fun hr => by cases hr⟩
    · exact ⟨hw₂, fun _ _ _ hb => .join kind hr hc hb⟩
  | .existence negated accessor target configure, s, w, hw, hk => by
    simp only [Call.run, Call.trim]
    rcases hf : w.field s accessor with ⟨_ | f, w₁⟩ <;>
      obtain ⟨hw₁, hf⟩ := h.field (hk _ (by simp [Call.lookups])) hw hf
    · exact ⟨hw₁, fun hr => by cases hr⟩
    obtain ⟨r, rfl, hr⟩ := hf f rfl
    obtain ⟨hw₂, hc⟩ := runAll_builds h configure (s.child target 0) w₁ hw₁
      fun l hl => hk l (List.mem_cons_of_mem _ hl)
    dsimp only
    generalize surviving configure (s.child target 0) w₁ = calls,
      runAll configure (s.child target 0) w₁ = o at *
    rcases o with ⟨_ | _, c, w₂⟩
    · exact ⟨hw₂, fun hr => by cases hr⟩
    · exact ⟨hw₂, fun _ _ _ hb => .existence negated hr hc hb⟩
  | .inSubquery accessor negated source select configure, s, w, hw, hk => by
    simp only [Call.run, Call.trim]
    rcases hf : w.field s accessor with ⟨_ | f, w₁⟩ <;>
      obtain ⟨hw₁, hf⟩ := h.field (hk _ (by simp [Call.lookups])) hw hf
    · exact ⟨hw₁, fun hr => by cases hr⟩
    obtain ⟨r, rfl, hr⟩ := hf f rfl
    obtain ⟨hw₂, hc⟩ := runAll_builds h configure (s.child source 0) w₁ hw₁
      fun l hl => hk l (List.mem_cons_of_mem _ (List.mem_cons_of_mem _ hl))
    dsimp only
    generalize surviving configure (s.child source 0) w₁ = calls,
      runAll configure (s.child source 0) w₁ = o at *
    rcases o with ⟨_ | _, c, w₂⟩
    · exact ⟨hw₂, fun hr => by cases hr⟩
    dsimp only at hw₂ hc ⊢
    -- the selected field is resolved on the child after its program ran
    have hentity : c.entity = source := hc.frame.1
    rcases hg : w₂.field c select with ⟨_ | g, w₃⟩ <;>
      obtain ⟨hw₃, hg⟩ := h.field (by rw [hentity]; exact hk _ (by simp [Call.lookups])) hw₂ hg
    · exact ⟨hw₃, fun hr => by cases hr⟩
    obtain ⟨r', rfl, hr'⟩ := hg g rfl
    exact ⟨hw₃, fun _ _ _ hb => .inSubquery negated hr hc (hentity ▸ hr') hb⟩
  | .attempt call, s, w, hw, hk => by
    obtain ⟨hw₁, hb⟩ := call.run_builds h s w hw hk
    have herr : ∀ e, (call.run s w).result = .error e → (call.run s w).stream = s :=
      fun _ => Call.run_error
    simp only [Call.run, Call.trim]
    generalize call.trim s w = calls, call.run s w = o at *
    rcases o with ⟨e | _, t, w₁⟩
    -- a caught failure leaves nothing to build
    · obtain rfl : t = s := herr e rfl
      exact ⟨hw₁, fun _ _ _ hb => hb⟩
    · exact ⟨hw₁, hb⟩

/-- What a program makes of its stream is what its survivors build. -/
theorem runAll_builds (h : Trusted Known Good Means) : ∀ (calls : List Call) (s : Stream)
    (w : Workspace), Good w.store → (∀ l ∈ lookups s.entity calls, Known l) →
    Good (runAll calls s w).workspace.store ∧
      Builds Means s (surviving calls s w) (runAll calls s w).stream
  | [], s, w, hw, _ => ⟨hw, .nil s⟩
  | call :: rest, s, w, hw, hk => by
    obtain ⟨hw₁, hb⟩ := call.run_builds h s w hw fun l hl => hk l (List.mem_append_left _ hl)
    have herr : ∀ e, (call.run s w).result = .error e → (call.run s w).stream = s :=
      fun _ => Call.run_error
    simp only [runAll, surviving]
    generalize call.trim s w = calls, call.run s w = o at *
    rcases o with ⟨e | _, t, w₁⟩
    · obtain rfl : t = s := herr e rfl
      exact ⟨hw₁, .nil _⟩
    · have ht : t.entity = s.entity := (hb rfl [] t (.nil t)).frame.1
      obtain ⟨hw₂, hrest⟩ := runAll_builds h rest t w₁ hw₁ fun l hl =>
        hk l (List.mem_append_right _ (ht ▸ hl))
      exact ⟨hw₂, hb rfl _ _ hrest⟩

end

end

/-- Whatever the store holds, a stream is what its survivors build from fields with the right
fingerprints. -/
theorem runAll_builds_marked (calls : List Call) (s : Stream) (w : Workspace) :
    Builds Lookup.Marks s (surviving calls s w) (runAll calls s w).stream :=
  (runAll_builds trusted_marks calls s w trivial fun _ _ => trivial).2

end EntityQuery
