import EntityQuery.Proofs.Survivor

/-!
Sharing: one entry for one field. Any number of programs may look fields up in one store, a lookup of
the one between two of another. All that the store sees is lookups one after the other, and in any
such order it has one entry under each fingerprint and never gives it up. What was handed out once is
therefore handed out again for the same key of the same type, and for no other. A type is hashed by
its name alone: of two types of one name, both get what the one asked for first has led to.

```
lookups   Person name    Person age    Order name    Person name
slots           0             1             2              0
entries   +name          +age          +name
```
-/

namespace EntityQuery

open EntityQuery.Field

/-- Makes lookups one after the other. -/
def resolveAll : List Lookup → Workspace → List (Except ResolutionError Reference) × Workspace
  | [], w => ([], w)
  | l :: rest, w =>
    let (result, w) := w.resolve l.entity l.accessor
    let (results, w) := resolveAll rest w
    (result :: results, w)

/-- A workspace with an empty store. -/
def Workspace.fresh (id : Nat) : Workspace := { store := { id } }

/-- The first of some lookups that has the key and the type name of a given one. -/
def FirstFor (ls : List Lookup) (l first : Lookup) : Prop :=
  ∃ before after, ls = before ++ first :: after ∧
    (first.key = l.key ∧ first.entity.typeName = l.entity.typeName) ∧
    ∀ earlier ∈ before, ¬(earlier.key = l.key ∧ earlier.entity.typeName = l.entity.typeName)

theorem FirstFor.mem {ls : List Lookup} {l first : Lookup} (h : FirstFor ls l first) :
    first ∈ ls := by
  obtain ⟨before, after, rfl, -⟩ := h
  simp

theorem FirstFor.meets {ls : List Lookup} {l first : Lookup} (h : FirstFor ls l first) :
    first.key = l.key ∧ first.entity.typeName = l.entity.typeName := by
  obtain ⟨_, _, -, hmeets, -⟩ := h
  exact hmeets

/-! ### What a store keeps -/

namespace Field.Store

/-- The same store later on: it may have more entries, and has lost none. -/
def Grows (s t : Store) : Prop := t.id = s.id ∧ s.entries <+: t.entries

theorem Grows.trans {s t u : Store} (h : s.Grows t) (h' : t.Grows u) : s.Grows u :=
  ⟨h'.1.trans h.1, h.2.trans h'.2⟩

/-- No two entries are under one fingerprint. -/
def Unambiguous (s : Store) : Prop := (s.entries.map (·.fingerprint)).Nodup

theorem find?_place {s : Store} {fp : Digest} {r : Reference} (h : s.find? fp = some r) :
    r.store = s.id ∧ s.entries[r.slot]? = some r.descriptor := by
  unfold find? at h
  split at h
  · cases h
  next slot _ =>
    obtain ⟨d, hd, rfl⟩ := Option.map_eq_some_iff.mp h
    exact ⟨rfl, hd⟩

theorem find?_eq_none {s : Store} {fp : Digest} (h : s.find? fp = none) :
    ∀ d ∈ s.entries, d.fingerprint ≠ fp := by
  unfold find? at h
  split at h
  next hs => simpa using hs
  next slot hs =>
    obtain ⟨hlt, -⟩ := List.findIdx?_eq_some_iff_getElem.mp hs
    rw [List.getElem?_eq_getElem hlt] at h
    cases h

theorem intern_grows (s : Store) (m : EntityModel) (k : Key) (fp : Digest) :
    s.Grows (s.intern m k fp).2.2 := by
  unfold intern
  split
  · exact ⟨rfl, List.prefix_refl _⟩
  · exact ⟨rfl, List.prefix_append _ _⟩

/-- What is handed out lies in the store, at its place. -/
theorem intern_place (s : Store) (m : EntityModel) (k : Key) (fp : Digest) :
    (s.intern m k fp).1.store = s.id ∧
      (s.intern m k fp).2.2.entries[(s.intern m k fp).1.slot]? =
        some (s.intern m k fp).1.descriptor := by
  unfold intern
  split
  next r hr => exact find?_place hr
  next => exact ⟨rfl, by simp [publish, size]⟩

/-- An entry is published only under a fingerprint that has none. -/
theorem Unambiguous.intern {s : Store} (h : s.Unambiguous) (m : EntityModel) (k : Key)
    (fp : Digest) : (s.intern m k fp).2.2.Unambiguous := by
  unfold Store.intern
  split
  next => exact h
  next hnone =>
    have hnew := find?_eq_none hnone
    unfold Unambiguous publish
    rw [List.map_append, List.nodup_append]
    refine ⟨h, by simp, ?_⟩
    simpa [Descriptor.ofKey] using hnew

end Field.Store

/-- A reference that a store handed out for a lookup, as long as the store has it. -/
structure Served (s : Store) (l : Lookup) (r : Reference) : Prop where
  home : r.store = s.id
  entry : s.entries[r.slot]? = some r.descriptor
  marks : l.Marks r

section

variable {s t : Store} {l l' : Lookup} {r r' : Reference}

theorem Served.later (h : Served s l r) (hst : s.Grows t) : Served t l r where
  home := h.home.trans hst.1.symm
  entry := by
    obtain ⟨more, hmore⟩ := hst.2
    obtain ⟨hlt, -⟩ := List.getElem?_eq_some_iff.mp h.entry
    rw [← hmore, List.getElem?_append_left hlt, h.entry]
  marks := h.marks

/-- Two references from one store are to one entry exactly if the fingerprints are the same. -/
theorem Served.same_iff_fingerprint (hs : s.Unambiguous) (h : Served s l r) (h' : Served s l' r') :
    r.same r' ↔ r.descriptor.fingerprint = r'.descriptor.fingerprint := by
  rw [Reference.same, h.home, h'.home, beq_self_eq_true, Bool.true_and, beq_iff_eq]
  constructor
  · intro hslot
    have hentry := h.entry
    rw [hslot, h'.entry] at hentry
    rw [Option.some.inj hentry]
  · intro hfingerprint
    obtain ⟨hlt, -⟩ := List.getElem?_eq_some_iff.mp h.entry
    refine (List.getElem?_inj (by rwa [List.length_map]) hs).mp ?_
    rw [List.getElem?_map, List.getElem?_map, h.entry, h'.entry, Option.map_some, Option.map_some,
      hfingerprint]

/-- The same entry is handed out exactly for the same key of the same type. -/
theorem Served.same_iff {known : List Lookup} (hc : CollisionFree known) (hl : l ∈ known)
    (hl' : l' ∈ known) (hs : s.Unambiguous) (h : Served s l r) (h' : Served s l' r') :
    r.same r' ↔ l.key = l'.key ∧ l.entity.typeName = l'.entity.typeName := by
  rw [h.same_iff_fingerprint hs h']
  constructor
  · intro hfingerprint
    exact hc l hl l' hl' _ h.marks (hfingerprint ▸ h'.marks)
  · rintro ⟨hkey, htype⟩
    have hmarks := h.marks
    rw [Lookup.Marks, Lookup.fingerprint?, hkey, htype] at hmarks
    exact Option.some.inj (hmarks.symm.trans h'.marks)

theorem Served.eq_of_same (h : Served s l r) (h' : Served s l' r') (hsame : r.same r') : r = r' := by
  obtain ⟨hstore, hslot⟩ : r.store = r'.store ∧ r.slot = r'.slot := by
    simpa [Reference.same] using hsame
  have hentry := h.entry
  rw [hslot, h'.entry] at hentry
  cases r
  cases r'
  cases hstore
  cases hslot
  cases hentry
  rfl

end

/-! ### Lookups one after the other -/

/-- A lookup that fails leaves the store alone. -/
theorem resolve_error {l : Lookup} {w : Workspace} {e : ResolutionError}
    (h : (w.resolve l.entity l.accessor).1 = .error e) :
    (w.resolve l.entity l.accessor).2.store = w.store := by
  rw [resolve_result] at h
  rw [resolve_store]
  cases hk : l.key with
  | error => rfl
  | ok k => rw [hk] at h; cases h

/-- A lookup takes nothing from the store, and keeps it unambiguous. -/
theorem resolve_keeps (l : Lookup) (w : Workspace) :
    w.store.Grows (w.resolve l.entity l.accessor).2.store ∧
      (w.store.Unambiguous → (w.resolve l.entity l.accessor).2.store.Unambiguous) := by
  rw [resolve_store]
  cases l.key with
  | error e => exact ⟨⟨rfl, List.prefix_refl _⟩, id⟩
  | ok k => exact ⟨w.store.intern_grows .., fun h => h.intern ..⟩

/-- What a lookup hands out lies in the store after it. -/
theorem resolve_served {l : Lookup} {w w' : Workspace} {r : Reference}
    (h : w.resolve l.entity l.accessor = (.ok r, w')) : Served w'.store l r := by
  have hok : (w.resolve l.entity l.accessor).1 = .ok r := congrArg Prod.fst h
  have hmarks := trusted_marks.means l trivial w trivial r hok
  obtain ⟨k, hk, rfl⟩ := resolve_handed hok
  have hstore := resolve_store l w
  have hgrows := (resolve_keeps l w).1
  rw [h] at hstore hgrows
  rw [hk] at hstore
  obtain ⟨hhome, hentry⟩ :=
    w.store.intern_place l.entity.model k (fingerprint k l.entity.typeName)
  exact ⟨hhome.trans hgrows.1.symm, by rw [hstore]; exact hentry, hmarks⟩

theorem resolveAll_append (xs ys : List Lookup) : ∀ w : Workspace,
    resolveAll (xs ++ ys) w = ((resolveAll xs w).1 ++ (resolveAll ys (resolveAll xs w).2).1,
      (resolveAll ys (resolveAll xs w).2).2) := by
  induction xs with
  | nil => exact fun _ => rfl
  | cons l rest ih =>
    intro w
    simp only [List.cons_append, resolveAll, ih]

theorem resolveAll_keeps : ∀ (ls : List Lookup) (w : Workspace),
    w.store.Grows (resolveAll ls w).2.store ∧
      (w.store.Unambiguous → (resolveAll ls w).2.store.Unambiguous)
  | [], w => ⟨⟨rfl, List.prefix_refl _⟩, id⟩
  | l :: rest, w => by
    obtain ⟨hgrows, hkeeps⟩ := resolve_keeps l w
    obtain ⟨hgrows', hkeeps'⟩ := resolveAll_keeps rest (w.resolve l.entity l.accessor).2
    exact ⟨hgrows.trans hgrows', hkeeps' ∘ hkeeps⟩

theorem resolveAll_filled {known : List Lookup} : ∀ (ls : List Lookup) (w : Workspace),
    Filled known w.store → (∀ l ∈ ls, l ∈ known) → Filled known (resolveAll ls w).2.store
  | [], _, hw, _ => hw
  | l :: rest, w, hw, hk =>
    resolveAll_filled rest _ (.resolve w.journal hw (hk l (List.mem_cons_self ..)))
      fun x hx => hk x (List.mem_cons_of_mem _ hx)

/-- What was handed out at any time still lies in the store at the end. -/
theorem resolveAll_served : ∀ {ls : List Lookup} {w : Workspace} {l : Lookup} {r : Reference},
    (l, .ok r) ∈ ls.zip (resolveAll ls w).1 → Served (resolveAll ls w).2.store l r
  | [], _, _, _, h => by cases h
  | l' :: rest, w, l, r, h => by
    rcases hr : w.resolve l'.entity l'.accessor with ⟨result, w'⟩
    simp only [resolveAll, hr, List.zip_cons_cons, List.mem_cons] at h ⊢
    rcases h with h | h
    · cases h
      exact (resolve_served hr).later (resolveAll_keeps rest w').1
    · exact resolveAll_served h

/-- An entry that was handed out for a lookup is what some lookup of the same key and type leads to. -/
theorem Served.described {known : List Lookup} (hc : CollisionFree known) {store : Store}
    (hstore : Filled known store) {l : Lookup} (hl : l ∈ known) {r : Reference}
    (h : Served store l r) : ∃ l' ∈ known, l'.describe = .ok r.descriptor ∧ l'.key = l.key ∧
      l'.entity.typeName = l.entity.typeName := by
  obtain ⟨l', hl', hd⟩ := hstore.described _ (List.mem_of_getElem? h.entry)
  exact ⟨l', hl', hd, hc l' hl' l hl _ (Lookup.describe_fingerprint hd) h.marks⟩

theorem CollisionFree.mono {known more : List Lookup} (h : CollisionFree more) (hk : known ⊆ more) :
    CollisionFree known :=
  fun l hl l' hl' => h l (hk hl) l' (hk hl')

/-- Among lookups, each one has a first one for its field. -/
theorem exists_firstFor {ls : List Lookup} {l : Lookup} (hl : l ∈ ls) : ∃ first, FirstFor ls l first := by
  classical
  cases hfind : ls.find? fun l' => l'.key = l.key ∧ l'.entity.typeName = l.entity.typeName with
  | none =>
    have hnone := List.find?_eq_none.mp hfind l hl
    simp at hnone
  | some first =>
    obtain ⟨hfirst, before, after, hls, hbefore⟩ := List.find?_eq_some_iff_append.mp hfind
    refine ⟨first, before, after, hls, of_decide_eq_true hfirst, fun earlier hearlier => ?_⟩
    exact of_decide_eq_false (Bool.not_eq_true' _ ▸ hbefore earlier hearlier)

/-- Of what was handed out at any two times, two references are to one entry exactly if the key and the
type name are the same, and then they are one. -/
theorem handed_same {ls : List Lookup} (hc : CollisionFree ls) (number : Nat) {l l' : Lookup}
    {r r' : Reference} (h : (l, .ok r) ∈ ls.zip (resolveAll ls (.fresh number)).1)
    (h' : (l', .ok r') ∈ ls.zip (resolveAll ls (.fresh number)).1) :
    (r.same r' ↔ l.key = l'.key ∧ l.entity.typeName = l'.entity.typeName) ∧
      (r.same r' → r = r') := by
  have hstore := (resolveAll_keeps ls (.fresh number)).2 List.nodup_nil
  have hserved := resolveAll_served h
  have hserved' := resolveAll_served h'
  exact ⟨hserved.same_iff hc (List.of_mem_zip h).1 (List.of_mem_zip h').1 hstore hserved',
    hserved.eq_of_same hserved'⟩

/-- What is handed out for a field is what the first lookup for it leads to. -/
theorem described_by_first {ls : List Lookup} (hc : CollisionFree ls) (number : Nat) {l : Lookup}
    {r : Reference} (h : (l, .ok r) ∈ ls.zip (resolveAll ls (.fresh number)).1) {first : Lookup}
    (hfirst : FirstFor ls l first) : first.describe = .ok r.descriptor := by
  have hserved := resolveAll_served h
  have hstore := (resolveAll_keeps ls (.fresh number)).2 List.nodup_nil
  have hl := (List.of_mem_zip h).1
  obtain ⟨k, hk⟩ := hserved.marks.key
  obtain ⟨before, after, rfl, hmeets, hbefore⟩ := hfirst
  generalize hw : (resolveAll before (.fresh number)).2 = w
  obtain ⟨r', w', hr⟩ := resolve_ok (hmeets.1.trans hk) w
  have hfirst : first ∈ before ++ first :: after := by simp
  -- the entry is there from the first lookup on, so that one handed out the same reference
  have hlater : w'.store.Grows (resolveAll (before ++ first :: after) (.fresh number)).2.store := by
    rw [resolveAll_append, hw]
    simp only [resolveAll, hr]
    exact (resolveAll_keeps after w').1
  have hserved' := (resolve_served hr).later hlater
  obtain rfl : r' = r :=
    hserved'.eq_of_same hserved ((hserved'.same_iff hc hfirst hl hstore hserved).mpr hmeets)
  -- nothing before it has filled the entry
  have hfilled : Filled (before ++ [first]) w'.store := by
    have hbefore : Filled (before ++ [first]) w.store := by
      rw [← hw]
      exact resolveAll_filled before _ (.empty number) fun x hx => List.mem_append_left _ hx
    have hstep := hbefore.resolve w.journal (List.mem_append_right _ (List.mem_singleton_self first))
    have hworkspace := congrArg (·.2.store) hr
    exact hworkspace ▸ hstep
  obtain ⟨l', hl', hd, hkey, htype⟩ := (resolve_served hr).described
    (hc.mono (by simp)) hfilled (List.mem_append_right _ (List.mem_singleton_self first))
  rcases List.mem_append.mp hl' with hl' | hl'
  · exact absurd ⟨hkey.trans hmeets.1, htype.trans hmeets.2⟩ (hbefore l' hl')
  · rwa [List.mem_singleton.mp hl'] at hd

/-- What a program does to a store are lookups of its own. -/
theorem runAll_resolveAll (calls : List Call) (s : Stream) (w : Workspace) :
    ∃ ls, (∀ l ∈ ls, l ∈ lookups s.entity calls) ∧
      (runAll calls s w).workspace.store = (resolveAll ls w).2.store := by
  have htrusted : Trusted (· ∈ lookups s.entity calls)
      (fun store => ∃ ls, (∀ l ∈ ls, l ∈ lookups s.entity calls) ∧
        store = (resolveAll ls w).2.store) Lookup.Marks := by
    refine ⟨?_, fun l _ w _ => trusted_marks.means l trivial w trivial⟩
    rintro l hl w' ⟨ls, hls, hstore⟩
    refine ⟨ls ++ [l], ?_, ?_⟩
    · simpa [or_imp, forall_and, hl] using hls
    · rw [resolveAll_append, resolve_store, hstore]
      exact (resolve_store l _).symm
  exact (runAll_builds htrusted calls s w ⟨[], by simp, rfl⟩ fun _ hl => hl).1

/-- SHARING: among lookups without a collision, made one after the other in a store that was empty,
two hand out one reference exactly if their keys and type names are the same. A reference carries the
key, the fingerprint and the name of its lookup. What it carries besides, the entity and the temporal
kind, is what the first lookup with this key and type name leads to; that is what this one leads to
if a type name belongs to one entity. What is in the store stays at its place, a lookup that fails
changes nothing about the store, and programs do nothing else to it. -/
theorem one_entry_for_each_field {ls : List Lookup} (hc : CollisionFree ls) (number : Nat) :
    (∀ l r l' r', (l, .ok r) ∈ ls.zip (resolveAll ls (.fresh number)).1 →
      (l', .ok r') ∈ ls.zip (resolveAll ls (.fresh number)).1 →
      (r.same r' ↔ l.key = l'.key ∧ l.entity.typeName = l'.entity.typeName) ∧
        (r.same r' → r = r')) ∧
    (∀ l r, (l, .ok r) ∈ ls.zip (resolveAll ls (.fresh number)).1 →
      l.key = .ok r.descriptor.key ∧
      r.descriptor.fingerprint = fingerprint r.descriptor.key l.entity.typeName ∧
      r.descriptor.name = nameOfMethod r.descriptor.key.method ∧
      (∃ first, FirstFor ls l first ∧ first.describe = .ok r.descriptor ∧
        (first.entity.model = l.entity.model → l.describe = .ok r.descriptor)) ∧
      (WellTyped ls → l.describe = .ok r.descriptor)) ∧
    (∀ before after, ls = before ++ after →
      (resolveAll before (.fresh number)).2.store.entries <+:
        (resolveAll ls (.fresh number)).2.store.entries ∧
      ∀ l r, (l, .ok r) ∈ before.zip (resolveAll before (.fresh number)).1 →
        (resolveAll ls (.fresh number)).2.store.entries[r.slot]? = some r.descriptor) ∧
    (∀ (l : Lookup) (w : Workspace) (e : ResolutionError),
      (w.resolve l.entity l.accessor).1 = .error e →
      (w.resolve l.entity l.accessor).2.store = w.store) ∧
    ∀ (calls : List Call) (s : Stream) (w : Workspace),
      ∃ ls, (∀ l ∈ ls, l ∈ lookups s.entity calls) ∧
        (runAll calls s w).workspace.store = (resolveAll ls w).2.store := by
  refine ⟨fun l r l' r' => handed_same hc number, ?_, ?_, fun l w e => resolve_error,
    runAll_resolveAll⟩
  · intro l r h
    have hl := (List.of_mem_zip h).1
    obtain ⟨first, hfirst⟩ := exists_firstFor hl
    have hd := described_by_first hc number h hfirst
    obtain ⟨k, hk, hr⟩ := Lookup.describe_ok hd
    obtain ⟨hkey, htype⟩ := hfirst.meets
    have hown : first.entity.model = l.entity.model → l.describe = .ok r.descriptor := fun hmodel =>
      (Lookup.describe_congr hkey htype hmodel).symm.trans hd
    refine ⟨?_, ?_, ?_, ⟨first, hfirst, hd, hown⟩, fun ht => ?_⟩
    · rw [← hkey, hk, hr]
      rfl
    · rw [hr, ← htype]
      rfl
    · rw [hr]
      rfl
    · exact hown (ht first hfirst.mem l hl htype)
  · rintro before after rfl
    have hgrows := (resolveAll_keeps after (resolveAll before (.fresh number)).2).1
    rw [resolveAll_append]
    exact ⟨hgrows.2, fun l r h => ((resolveAll_served h).later hgrows).entry⟩

/-- Lookups of two fields of staff, with one that fails and one that recurs. -/
def recurring : List Lookup :=
  [⟨staff, reports⟩, ⟨staff, .declared "name"⟩, ⟨staff, .declared ""⟩, ⟨staff, reports⟩]

theorem collisionFree_recurring : CollisionFree recurring := by
  have hnone : (⟨staff, .declared ""⟩ : Lookup).fingerprint? = none := by decide +kernel
  refine collisionFree_of_two (a := ⟨staff, reports⟩) (b := ⟨staff, .declared "name"⟩)
    (by decide +kernel) ?_
  simp [recurring, hnone]

theorem one_entry_for_each_field_recurring :
    CollisionFree recurring ∧ ∃ r r' e r'',
      (resolveAll recurring (.fresh 0)).1 = [.ok r, .ok r', .error e, .ok r''] ∧
      r = r'' ∧ r.same r' = false := by
  obtain ⟨r, w, h⟩ := resolve_ok (l := ⟨staff, reports⟩) rfl (.fresh 0)
  obtain ⟨r', w', h'⟩ := resolve_ok (l := ⟨staff, .declared "name"⟩) rfl w
  obtain ⟨r'', w'', h''⟩ := resolve_ok (l := ⟨staff, reports⟩) rfl (w'.resolve staff (.declared "")).2
  obtain ⟨e, hfails⟩ : ∃ e, (w'.resolve staff (.declared "")).1 = .error e :=
    ⟨_, resolve_result ⟨staff, .declared ""⟩ w'⟩
  have hresults : (resolveAll recurring (.fresh 0)).1 = [.ok r, .ok r', .error e, .ok r''] := by
    simp only [recurring, resolveAll, h, h', hfails, h'']
  obtain ⟨hsame, -⟩ := one_entry_for_each_field collisionFree_recurring 0
  rw [hresults] at hsame
  have hagain := hsame ⟨staff, reports⟩ r ⟨staff, reports⟩ r'' (by simp [recurring])
    (by simp [recurring])
  have hother := hsame ⟨staff, reports⟩ r ⟨staff, .declared "name"⟩ r' (by simp [recurring])
    (by simp [recurring])
  refine ⟨collisionFree_recurring, r, r', e, r'', hresults, hagain.2 (hagain.1.mpr ⟨rfl, rfl⟩), ?_⟩
  rw [Bool.eq_false_iff, Ne, hother.1]
  rintro ⟨hkey, -⟩
  have hmethod : "reports" = "name" := congrArg Key.method (Except.ok.inj hkey)
  exact absurd hmethod (by decide)

/-- Tickets on a phone and on paper, of types of one name. -/
def tickets : List Lookup := [⟨phoneTicket, ticketCode⟩, ⟨paperTicket, ticketCode⟩]

/-- Without a collision, the code of a ticket on paper is handed out as that of a ticket on a phone, if
that was asked for before: with its entity and its temporal kind. -/
theorem second_type_gets_first_entity :
    CollisionFree tickets ∧ ∃ r d, (resolveAll tickets (.fresh 0)).1 = [.ok r, .ok r] ∧
      Lookup.describe ⟨paperTicket, ticketCode⟩ = .ok d ∧
      r.descriptor.entity = phoneTicket.model ∧ d.entity = paperTicket.model ∧
      r.descriptor.temporal = some .time ∧ d.temporal = none := by
  have hsame : ∀ l ∈ tickets, l.key = (⟨phoneTicket, ticketCode⟩ : Lookup).key ∧
      l.entity.typeName = phoneTicket.typeName := by
    rw [tickets, List.forall_mem_cons, List.forall_mem_singleton]
    exact ⟨⟨rfl, rfl⟩, ⟨rfl, rfl⟩⟩
  have hc : CollisionFree tickets := fun l hl l' hl' _ _ _ =>
    ⟨(hsame l hl).1.trans (hsame l' hl').1.symm, (hsame l hl).2.trans (hsame l' hl').2.symm⟩
  obtain ⟨r, w, h⟩ := resolve_ok (l := ⟨phoneTicket, ticketCode⟩) rfl (.fresh 0)
  obtain ⟨r', w', h'⟩ := resolve_ok (l := ⟨paperTicket, ticketCode⟩) rfl w
  have hresults : (resolveAll tickets (.fresh 0)).1 = [.ok r, .ok r'] := by
    simp only [tickets, resolveAll, h, h']
  have hzip : tickets.zip (resolveAll tickets (.fresh 0)).1 =
      [(⟨phoneTicket, ticketCode⟩, .ok r), (⟨paperTicket, ticketCode⟩, .ok r')] := by
    rw [hresults]
    rfl
  have hphone : (⟨phoneTicket, ticketCode⟩, .ok r) ∈
      tickets.zip (resolveAll tickets (.fresh 0)).1 := hzip ▸ List.mem_cons_self ..
  have hpaper : (⟨paperTicket, ticketCode⟩, .ok r') ∈
      tickets.zip (resolveAll tickets (.fresh 0)).1 := hzip ▸ by simp
  have hboth := handed_same hc 0 hphone hpaper
  obtain rfl : r = r' := hboth.2 (hboth.1.mpr ⟨rfl, rfl⟩)
  have hd := described_by_first hc 0 hphone
    ⟨[], [⟨paperTicket, ticketCode⟩], rfl, ⟨rfl, rfl⟩, List.forall_mem_nil _⟩
  obtain ⟨d, hd'⟩ : ∃ d, Lookup.describe ⟨paperTicket, ticketCode⟩ = .ok d := ⟨_, rfl⟩
  refine ⟨hc, r, d, hresults, hd', Lookup.describe_entity hd, Lookup.describe_entity hd', ?_, ?_⟩
  · rw [Lookup.describe_temporal hd rfl]
    decide +kernel
  · rw [Lookup.describe_temporal hd' rfl]
    decide +kernel

end EntityQuery
