import EntityQuery.Telemetry.Recorder
import Mathlib.Data.List.Basic
import Mathlib.Data.String.Basic
import Mathlib.Data.UInt

/-!
Tallying: what the global tally tells of the events that it counted. Totals and rows are raised one
after the other, and a row is entered only once there is something to raise in it; still, after whole
events, a row is the tally of the events of its path, and each total the sum over the rows. Nothing of
this depends on the order of the events, so neither does the tally.

```
events      hit Order, rendered Order 3, hit Person
totals      hits 2   renders 1   parameters 3
Order       hits 1   renders 1
Person      hits 1
```
-/

namespace EntityQuery.Telemetry

/-- One of the counts. -/
def Counts.get (c : Counts) : Kind → UInt64
  | .hit => c.hits
  | .miss => c.misses
  | .failure => c.failures
  | .render => c.renders
  | .renderFailure => c.renderFailures

/-- By how much a counter that is raised by a number raises one of the counts. -/
def Counter.share (counter : Counter) (n : UInt64) (kind : Kind) : UInt64 :=
  if counter = .events kind then n else 0

namespace Counts

theorem get_empty (kind : Kind) : ({} : Counts).get kind = 0 := by
  cases kind <;> rfl

theorem get_raise (c : Counts) (n : UInt64) (counter : Counter) (kind : Kind) :
    (c.raise n counter).get kind = c.get kind + counter.share n kind := by
  cases counter with
  | parameters => simp [raise, Counter.share]
  | events k => cases k <;> cases kind <;> simp [raise, get, Counter.share]

/-- Counts are equal if all of them are. -/
theorem ext_get {c c' : Counts} (h : ∀ kind, c.get kind = c'.get kind) : c = c' := by
  cases c
  cases c'
  simp only [mk.injEq]
  exact ⟨h .hit, h .miss, h .failure, h .render, h .renderFailure⟩

end Counts

namespace Rows

/-- The paths of rows. -/
def paths (rows : Rows) : List String := rows.map (·.1)

/-- Rows stand in the order of their paths, one for each path. -/
def Sorted (rows : Rows) : Prop := rows.paths.Pairwise (· < ·)

/-- The sum of one of the counts over all rows. -/
def total (rows : Rows) (kind : Kind) : UInt64 := (rows.map (·.2.get kind)).sum

/-- The counts in the row of a path, nothing if it has none. -/
def countsOf (rows : Rows) (path : String) : Counts := (rows.lookup path).getD {}

theorem lookup_eq_none_iff {rows : Rows} {path : String} :
    rows.lookup path = none ↔ path ∉ rows.paths := by
  induction rows with
  | nil => simp [paths]
  | cons row rest ih =>
    obtain ⟨found, counts⟩ := row
    by_cases h : path = found
    · simp [paths, h]
    · simpa [paths, List.lookup_cons, h, beq_eq_false_iff_ne.mpr h] using ih

/-! ### Raising a row that is there -/

theorem raiseFound?_eq_none {path : String} {counter : Counter} {n : UInt64} {rows : Rows}
    (h : raiseFound? path counter n rows = none) : path ∉ rows.paths := by
  induction rows with
  | nil => simp [paths]
  | cons row rest ih =>
    obtain ⟨found, counts⟩ := row
    unfold raiseFound? at h
    split at h
    · cases h
    next hne =>
      have hrest := ih (Option.map_eq_none_iff.mp h)
      simpa [paths, Ne.symm hne] using hrest

/-- A row that is there stays in its place. -/
theorem raiseFound?_paths {path : String} {counter : Counter} {n : UInt64} {rows raised : Rows}
    (h : raiseFound? path counter n rows = some raised) : raised.paths = rows.paths := by
  induction rows generalizing raised with
  | nil => cases h
  | cons row rest ih =>
    obtain ⟨found, counts⟩ := row
    unfold raiseFound? at h
    split at h
    · cases h
      rfl
    · obtain ⟨others, hothers, rfl⟩ := Option.map_eq_some_iff.mp h
      exact congrArg (found :: ·) (ih hothers)

theorem raiseFound?_lookup {path : String} {counter : Counter} {n : UInt64} {rows raised : Rows}
    (h : raiseFound? path counter n rows = some raised) (asked : String) :
    raised.lookup asked =
      if asked = path then some ((rows.countsOf path).raise n counter) else rows.lookup asked := by
  induction rows generalizing raised with
  | nil => cases h
  | cons row rest ih =>
    obtain ⟨found, counts⟩ := row
    unfold raiseFound? at h
    split at h
    next heq =>
      cases h
      subst heq
      by_cases hasked : asked = found
      · simp [hasked, countsOf]
      · simp [List.lookup_cons, hasked, beq_eq_false_iff_ne.mpr hasked]
    next hne =>
      obtain ⟨others, hothers, rfl⟩ := Option.map_eq_some_iff.mp h
      have hcounts : countsOf ((found, counts) :: rest) path = countsOf rest path := by
        simp [countsOf, List.lookup_cons, beq_eq_false_iff_ne.mpr (Ne.symm hne)]
      rw [List.lookup_cons, List.lookup_cons, ih hothers, hcounts]
      by_cases hasked : asked = found
      · subst hasked
        simp [hne]
      · simp [beq_eq_false_iff_ne.mpr hasked]

theorem raiseFound?_total {path : String} {counter : Counter} {n : UInt64} {rows raised : Rows}
    (h : raiseFound? path counter n rows = some raised) (kind : Kind) :
    raised.total kind = rows.total kind + counter.share n kind := by
  induction rows generalizing raised with
  | nil => cases h
  | cons row rest ih =>
    obtain ⟨found, counts⟩ := row
    unfold raiseFound? at h
    split at h
    · cases h
      simp only [total, List.map_cons, List.sum_cons, Counts.get_raise]
      ac_rfl
    · obtain ⟨others, hothers, rfl⟩ := Option.map_eq_some_iff.mp h
      have hrest := ih hothers
      simp only [total, List.map_cons, List.sum_cons] at hrest ⊢
      rw [hrest]
      ac_rfl

/-! ### Entering a row -/

theorem raiseEntry_lookup {path : String} {rows : Rows} (h : path ∉ rows.paths) (counter : Counter)
    (n : UInt64) (asked : String) :
    (raiseEntry path counter n rows).lookup asked =
      if asked = path then some (Counts.raise {} n counter) else rows.lookup asked := by
  induction rows with
  | nil =>
    by_cases hasked : asked = path
    · simp [raiseEntry, hasked]
    · simp [raiseEntry, List.lookup_cons, hasked, beq_eq_false_iff_ne.mpr hasked]
  | cons row rest ih =>
    obtain ⟨found, counts⟩ := row
    obtain ⟨hne, hrest⟩ : path ≠ found ∧ path ∉ paths rest := by
      simpa [paths] using h
    unfold raiseEntry
    split
    · by_cases hasked : asked = path
      · simp [hasked]
      · simp [List.lookup_cons, hasked, beq_eq_false_iff_ne.mpr hasked]
    · rw [List.lookup_cons, List.lookup_cons, ih hrest]
      by_cases hasked : asked = found
      · subst hasked
        simp [Ne.symm hne]
      · simp [beq_eq_false_iff_ne.mpr hasked]

theorem raiseEntry_total {path : String} {counter : Counter} {n : UInt64} {rows : Rows}
    (kind : Kind) : (raiseEntry path counter n rows).total kind =
      rows.total kind + counter.share n kind := by
  induction rows with
  | nil => simp [raiseEntry, total, Counts.get_raise, Counts.get_empty]
  | cons row rest ih =>
    obtain ⟨found, counts⟩ := row
    unfold raiseEntry
    split
    · simp only [total, List.map_cons, List.sum_cons, Counts.get_raise, Counts.get_empty]
      ac_rfl
    · split
      · simp only [total, List.map_cons, List.sum_cons, Counts.get_raise]
        ac_rfl
      · simp only [total, List.map_cons, List.sum_cons] at ih ⊢
        rw [ih]
        ac_rfl

theorem mem_raiseEntry_paths {path : String} {counter : Counter} {n : UInt64} {rows : Rows}
    {p : String} (hp : p ∈ (raiseEntry path counter n rows).paths) : p = path ∨ p ∈ rows.paths := by
  induction rows with
  | nil => simpa [raiseEntry, paths] using hp
  | cons row rest ih =>
    obtain ⟨found, counts⟩ := row
    unfold raiseEntry at hp
    split at hp
    · simpa [paths] using hp
    · split at hp
      · exact .inr hp
      · simp only [paths, List.map_cons, List.mem_cons] at hp ih ⊢
        rcases hp with rfl | hp
        · exact .inr (.inl rfl)
        · exact (ih hp).imp_right .inr

/-- A row is entered in its place. -/
theorem Sorted.raiseEntry {rows : Rows} (h : rows.Sorted) (path : String) (counter : Counter)
    (n : UInt64) : (Rows.raiseEntry path counter n rows).Sorted := by
  induction rows with
  | nil => exact List.pairwise_singleton _ _
  | cons row rest ih =>
    obtain ⟨found, counts⟩ := row
    obtain ⟨hfirst, hrest⟩ := List.pairwise_cons.mp h
    unfold Rows.raiseEntry
    split
    next hlt =>
      refine List.pairwise_cons.mpr ⟨fun p hp => ?_, h⟩
      rcases List.mem_cons.mp hp with rfl | hp
      · exact hlt
      · exact String.lt_trans hlt (hfirst p hp)
    next hle =>
      split
      · exact h
      next hne =>
        refine List.pairwise_cons.mpr ⟨fun p hp => ?_, ih hrest⟩
        rcases mem_raiseEntry_paths hp with rfl | hp
        · exact lt_of_le_of_ne (not_lt.mp hle) (Ne.symm hne)
        · exact hfirst p hp

/-! ### Either way -/

theorem paths_nodup {rows : Rows} (h : rows.Sorted) : rows.paths.Nodup :=
  h.imp fun hlt => ne_of_lt hlt

/-- Rows in order are told by their paths and the counts of these. -/
theorem Sorted.eq_map {rows : Rows} (h : rows.Sorted) :
    rows = rows.paths.map fun path => (path, rows.countsOf path) := by
  induction rows with
  | nil => rfl
  | cons row rest ih =>
    obtain ⟨found, counts⟩ := row
    obtain ⟨hfirst, hrest⟩ := List.pairwise_cons.mp h
    have hcounts : ∀ p ∈ paths rest, countsOf ((found, counts) :: rest) p = countsOf rest p := by
      intro p hp
      have hne : (p == found) = false := beq_eq_false_iff_ne.mpr (ne_of_gt (hfirst p hp))
      simp [countsOf, List.lookup_cons, hne]
    have hown : countsOf ((found, counts) :: rest) found = counts := by simp [countsOf]
    change (found, counts) :: rest = (found, _) :: (paths rest).map _
    rw [hown, List.map_congr_left fun p hp => by rw [hcounts p hp], ← ih hrest]

theorem Sorted.mem_iff {rows : Rows} (h : rows.Sorted) {path : String} {counts : Counts} :
    (path, counts) ∈ rows ↔ path ∈ rows.paths ∧ counts = rows.countsOf path := by
  constructor
  · intro hmem
    rw [h.eq_map] at hmem
    obtain ⟨p, hp, heq⟩ := List.mem_map.mp hmem
    cases heq
    exact ⟨hp, rfl⟩
  · rintro ⟨hpath, rfl⟩
    have hmem : (path, rows.countsOf path) ∈ rows.paths.map fun p => (p, rows.countsOf p) :=
      List.mem_map.mpr ⟨path, hpath, rfl⟩
    rwa [← h.eq_map] at hmem

/-- Rows in order are equal if they have the same paths with the same counts. -/
theorem Sorted.ext {rows rows' : Rows} (h : rows.Sorted) (h' : rows'.Sorted)
    (hpaths : ∀ path, path ∈ rows.paths ↔ path ∈ rows'.paths)
    (hcounts : ∀ path, rows.countsOf path = rows'.countsOf path) : rows = rows' := by
  have hperm : rows.paths.Perm rows'.paths :=
    (List.perm_ext_iff_of_nodup (paths_nodup h) (paths_nodup h')).mpr hpaths
  have heq : rows.paths = rows'.paths :=
    hperm.eq_of_pairwise (fun a b _ _ hab hba => absurd (hab.trans hba) (lt_irrefl a)) h h'
  rw [h.eq_map, h'.eq_map, heq]
  exact List.map_congr_left fun path _ => by rw [hcounts]

end Rows

/-! ### Raising a counter of a tally -/

namespace Tally

variable (t : Tally) (path : String) (counter : Counter) (n : UInt64)

theorem raise_totals (kind : Kind) :
    (t.raise path counter n).totals.get kind = t.totals.get kind + counter.share n kind :=
  Counts.get_raise ..

theorem raise_total (kind : Kind) :
    (t.raise path counter n).rows.total kind = t.rows.total kind + counter.share n kind := by
  unfold raise
  dsimp only
  cases h : Rows.raiseFound? path counter n t.rows with
  | none => exact Rows.raiseEntry_total kind
  | some raised => exact Rows.raiseFound?_total h kind

theorem raise_lookup (asked : String) : (t.raise path counter n).rows.lookup asked =
    if asked = path then some ((t.rows.countsOf path).raise n counter)
    else t.rows.lookup asked := by
  unfold raise
  dsimp only
  cases h : Rows.raiseFound? path counter n t.rows with
  | none =>
    have hpath := Rows.raiseFound?_eq_none h
    have hnothing : t.rows.countsOf path = {} := by
      rw [Rows.countsOf, Rows.lookup_eq_none_iff.mpr hpath, Option.getD_none]
    rw [Option.getD_none, Rows.raiseEntry_lookup hpath, hnothing]
  | some raised => exact Rows.raiseFound?_lookup h asked

theorem raise_paths (asked : String) : asked ∈ (t.raise path counter n).rows.paths ↔
    asked = path ∨ asked ∈ t.rows.paths := by
  rw [← not_iff_not, not_or, ← Rows.lookup_eq_none_iff, ← Rows.lookup_eq_none_iff, raise_lookup]
  split <;> simp [*]

theorem raise_counts (asked : String) (kind : Kind) :
    ((t.raise path counter n).rows.countsOf asked).get kind =
      (t.rows.countsOf asked).get kind + if asked = path then counter.share n kind else 0 := by
  rw [Rows.countsOf, raise_lookup]
  by_cases h : asked = path
  · rw [if_pos h, if_pos h, Option.getD_some, Counts.get_raise, h]
  · rw [if_neg h, if_neg h, UInt64.add_zero, Rows.countsOf]

theorem raise_sorted (h : t.rows.Sorted) : (t.raise path counter n).rows.Sorted := by
  unfold raise
  dsimp only
  cases hfound : Rows.raiseFound? path counter n t.rows with
  | none => exact h.raiseEntry path counter n
  | some raised =>
    rw [Option.getD_some, Rows.Sorted, Rows.raiseFound?_paths hfound]
    exact h

end Tally

/-! ### Counting an event -/

/-- The number of parameters that an event bound. -/
def Event.parameters : Event → Nat
  | .rendered _ n => n
  | .resolved .. | .renderFailed _ => 0

namespace Tally

variable (t : Tally) (e : Event)

/-- A rendering raises a second counter, which shows in no count. -/
theorem add_totals (kind : Kind) : (t.add e).totals.get kind =
    t.totals.get kind + if e.kind = kind then 1 else 0 := by
  rcases e with ⟨path, _ | _ | _⟩ | ⟨path, n⟩ | path <;>
    simp [add, Event.raises, raise_totals, Counter.share]

theorem add_total (kind : Kind) : (t.add e).rows.total kind =
    t.rows.total kind + if e.kind = kind then 1 else 0 := by
  rcases e with ⟨path, _ | _ | _⟩ | ⟨path, n⟩ | path <;>
    simp [add, Event.raises, raise_total, Counter.share]

theorem add_counts (asked : String) (kind : Kind) : ((t.add e).rows.countsOf asked).get kind =
    (t.rows.countsOf asked).get kind + if e.path = asked ∧ e.kind = kind then 1 else 0 := by
  by_cases hpath : asked = e.path <;>
    rcases e with ⟨path, _ | _ | _⟩ | ⟨path, n⟩ | path <;>
    simp_all [add, Event.raises, raise_counts, Counter.share, Event.path, eq_comm]

/-- Nor does it enter a row, for the first counter has done so. -/
theorem add_paths (asked : String) :
    asked ∈ (t.add e).rows.paths ↔ asked = e.path ∨ asked ∈ t.rows.paths := by
  rcases e with ⟨path, _ | _ | _⟩ | ⟨path, n⟩ | path <;>
    simp [add, Event.raises, raise_paths, Event.path]

theorem add_sorted (h : t.rows.Sorted) : (t.add e).rows.Sorted := by
  rcases e with ⟨path, how⟩ | ⟨path, n⟩ | path
  · exact raise_sorted _ _ _ _ h
  · exact raise_sorted _ _ _ _ (raise_sorted _ _ _ _ h)
  · exact raise_sorted _ _ _ _ h

theorem add_parameters : (t.add e).parameters = t.parameters + .ofNat e.parameters := by
  rcases e with ⟨path, how⟩ | ⟨path, n⟩ | path
  · exact (UInt64.add_zero _).symm
  · rfl
  · exact (UInt64.add_zero _).symm

end Tally

/-- What a tally tells of the events that it counted. -/
structure Tally.Tells (t : Tally) (events : List Event) : Prop where
  totals : ∀ kind, t.totals.get kind = .ofNat (events.countP (·.kind = kind))
  sums : ∀ kind, t.rows.total kind = t.totals.get kind
  parameters : t.parameters = .ofNat (events.map (·.parameters)).sum
  sorted : t.rows.Sorted
  paths : ∀ path, path ∈ t.rows.paths ↔ ∃ e ∈ events, e.path = path
  counts : ∀ path kind, (t.rows.countsOf path).get kind =
    .ofNat ((events.filter (·.path = path)).countP (·.kind = kind))

theorem tells_nothing : Tally.Tells {} [] where
  totals := Counts.get_empty
  sums kind := (Counts.get_empty kind).symm
  parameters := rfl
  sorted := List.Pairwise.nil
  paths path := by simp [Rows.paths]
  counts path kind := Counts.get_empty kind

namespace Tally.Tells

variable {t t' : Tally} {events events' : List Event}

/-- One more event is told of by the tally that counted it. -/
theorem add (h : t.Tells events) (e : Event) : (t.add e).Tells (events ++ [e]) where
  totals kind := by
    rw [add_totals, h.totals, List.countP_append, List.countP_singleton, UInt64.ofNat_add]
    congr 1
    by_cases hkind : e.kind = kind <;> simp [hkind]
  sums kind := by rw [add_total, add_totals, h.sums]
  parameters := by
    rw [add_parameters, h.parameters, List.map_append, List.sum_append, UInt64.ofNat_add]
    simp
  sorted := t.add_sorted e h.sorted
  paths path := by
    rw [add_paths, h.paths]
    simp only [List.mem_append, List.mem_singleton, or_and_right, exists_or, exists_eq_left]
    rw [or_comm, eq_comm]
  counts path kind := by
    rw [add_counts, h.counts, List.filter_append, List.countP_append, UInt64.ofNat_add]
    congr 1
    by_cases hpath : e.path = path <;> by_cases hkind : e.kind = kind <;> simp [hpath, hkind]

/-- So are many. -/
theorem addAll (h : t.Tells events) (more : List Event) :
    (more.foldl Tally.add t).Tells (events ++ more) := by
  induction more generalizing t events with
  | nil => simpa using h
  | cons e rest ih => simpa using ih (h.add e)

theorem ofEvents (events : List Event) : (Tally.ofEvents events).Tells events :=
  tells_nothing.addAll events

/-- What is told does not depend on the order of the events. -/
theorem perm (h : t.Tells events) (hperm : events.Perm events') : t.Tells events' where
  totals kind := by rw [h.totals, hperm.countP_eq]
  sums := h.sums
  parameters := by rw [h.parameters, (hperm.map _).sum_nat]
  sorted := h.sorted
  paths path := by simp only [h.paths, hperm.mem_iff]
  counts path kind := by rw [h.counts, (hperm.filter _).countP_eq]

/-- It tells the tally. -/
theorem unique (h : t.Tells events) (h' : t'.Tells events) : t = t' := by
  have htotals : t.totals = t'.totals :=
    Counts.ext_get fun kind => (h.totals kind).trans (h'.totals kind).symm
  have hparameters : t.parameters = t'.parameters := h.parameters.trans h'.parameters.symm
  have hrows : t.rows = t'.rows := by
    refine h.sorted.ext h'.sorted (fun path => ?_) fun path => ?_
    · rw [h.paths, h'.paths]
    · exact Counts.ext_get fun kind => (h.counts path kind).trans (h'.counts path kind).symm
  cases t
  cases t'
  cases htotals
  cases hparameters
  cases hrows
  rfl

/-- A row is the tally of the events of its path. -/
theorem mem_rows (h : t.Tells events) (path : String) (counts : Counts) :
    (path, counts) ∈ t.rows ↔ (∃ e ∈ events, e.path = path) ∧
      counts = (Tally.ofEvents (events.filter (·.path = path))).totals := by
  have hown : t.rows.countsOf path = (Tally.ofEvents (events.filter (·.path = path))).totals :=
    Counts.ext_get fun kind => by rw [h.counts, (ofEvents _).totals]
  rw [← hown, ← h.paths]
  exact h.sorted.mem_iff

end Tally.Tells

/-! ### Recording and resetting -/

/-- What happens to the global tally. -/
inductive Recorder.Step where
  | record (e : Event)
  | reset

/-- The recorder after a step. -/
def Recorder.step (r : Recorder) : Recorder.Step → Recorder
  | .record e => r.record e
  | .reset => r.reset

/-- The events since the last reset, or since the beginning, where there were some already. -/
def sinceReset : List Event → List Recorder.Step → List Event
  | events, [] => events
  | events, .record e :: rest => sinceReset (events ++ [e]) rest
  | _, .reset :: rest => sinceReset [] rest

/-- While no sink is active, the tally counts the events since the last reset. -/
theorem recorded_since_reset (steps : List Recorder.Step) {r : Recorder} (hactive : r.active = none)
    {events : List Event} (h : r.tally.Tells events) :
    (steps.foldl Recorder.step r).tally.Tells (sinceReset events steps) := by
  induction steps generalizing r events with
  | nil => exact h
  | cons step rest ih =>
    cases step with
    | record e =>
      have hrecord : r.record e = { r with tally := r.tally.add e } := by
        rw [Recorder.record, hactive]
      refine ih ?_ ?_
      · rw [Recorder.step, hrecord, hactive]
      · rw [Recorder.step, hrecord]
        exact h.add e
    | reset => exact ih (r := r.reset) hactive tells_nothing

/-- TALLYING: after any events and resets, the report is the tally of the events since the last reset.
Each total is the number of events of its kind and the sum over the rows, and as many parameters are
reported as those events bound, all as 64-bit words. A row is the tally of the events of its path,
there are rows for exactly the paths with an event, and the order of the events leaves no trace. -/
theorem report_tells_events_since_reset (steps : List Recorder.Step) :
    let report := (steps.foldl Recorder.step {}).tally
    let events := sinceReset [] steps
    report = Tally.ofEvents events ∧
    (∀ kind, report.totals.get kind = .ofNat (events.countP (·.kind = kind)) ∧
      report.totals.get kind = (report.rows.map (·.2.get kind)).sum) ∧
    report.parameters = .ofNat (events.map (·.parameters)).sum ∧
    (report.rows.map (·.1)).Pairwise (· < ·) ∧
    (∀ path counts, (path, counts) ∈ report.rows ↔ (∃ e ∈ events, e.path = path) ∧
      counts = (Tally.ofEvents (events.filter (·.path = path))).totals) ∧
    ∀ steps' : List Recorder.Step, (sinceReset [] steps').Perm events →
      (steps'.foldl Recorder.step {}).tally = report := by
  have htells := recorded_since_reset steps (r := {}) rfl tells_nothing
  refine ⟨htells.unique (.ofEvents _), fun kind => ⟨htells.totals kind, (htells.sums kind).symm⟩,
    htells.parameters, htells.sorted, htells.mem_rows, fun steps' hperm => ?_⟩
  have htells' := recorded_since_reset steps' (r := {}) rfl tells_nothing
  exact (htells'.perm hperm).unique htells

end EntityQuery.Telemetry
