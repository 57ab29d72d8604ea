import EntityQuery.Telemetry.Recorder
import Mathlib.Data.List.FinRange

/-!
Delivery: where events go while sinks are installed and put away. Work may install sinks within one
another, and it may break off at any place, which breaks off the work around it up to where that is
caught. Every event goes to the sink that was installed last of those whose work is going on, and to the
tally if there is none.

```
record a, withSink 0 [record b, attempt [withSink 1 [record c, breakOff, record d]], record e], record f
tally      a f
sink 0     b e
sink 1     c
```

The recorder knows the active sink only; what lies below it is known to the calls that will put it back.
-/

namespace EntityQuery.Telemetry

/-- A piece of work with a number of sinks at hand. -/
inductive Work (sinks : Nat) where
  /-- Records an event. -/
  | record (e : Event)
  /-- Does work while a sink is active. -/
  | withSink (sink : Fin sinks) (inner : List (Work sinks))
  /-- Breaks off. -/
  | breakOff
  /-- Does work, and goes on if that breaks off. -/
  | attempt (inner : List (Work sinks))

/-- How work ends. -/
inductive Ending where
  | finished
  | brokenOff
deriving DecidableEq

/-- An event with the sinks that are installed when it is recorded, the last one first. -/
structure Delivery (sinks : Nat) where
  installed : List (Fin sinks)
  event : Event

section

variable {sinks : Nat}

/-- The sink that takes an event, if any does. -/
def Delivery.target (d : Delivery sinks) : Option (Fin sinks) := d.installed.head?

/-- The events that go to a sink, or to the tally. -/
def receivedBy (target : Option (Fin sinks)) (deliveries : List (Delivery sinks)) : List Event :=
  (deliveries.filter (·.target = target)).map (·.event)

/-! ### What work does -/

mutual

/-- Does a piece of work. -/
def Work.run : Work sinks → Recorder → Ending × Recorder
  | .record e, r => (.finished, r.record e)
  | .withSink sink inner, r => r.withSink sink (runWork inner)
  | .breakOff, r => (.brokenOff, r)
  | .attempt inner, r => (.finished, (runWork inner r).2)

/-- Does several pieces of work one after the other, up to the first that breaks off. -/
def runWork : List (Work sinks) → Recorder → Ending × Recorder
  | [], r => (.finished, r)
  | first :: rest, r =>
    match first.run r with
    | (.finished, r) => runWork rest r
    | (.brokenOff, r) => (.brokenOff, r)

end

/-! ### What is to be delivered -/

mutual

/-- How a piece of work ends. -/
def Work.ending : Work sinks → Ending
  | .record _ => .finished
  | .withSink _ inner => endingOf inner
  | .breakOff => .brokenOff
  | .attempt _ => .finished

/-- How several pieces of work end. -/
def endingOf : List (Work sinks) → Ending
  | [] => .finished
  | first :: rest =>
    match first.ending with
    | .finished => endingOf rest
    | .brokenOff => .brokenOff

end

mutual

/-- The events of a piece of work, given the sinks that are installed around it. -/
def Work.deliveries (installed : List (Fin sinks)) : Work sinks → List (Delivery sinks)
  | .record e => [⟨installed, e⟩]
  | .withSink sink inner => deliveriesOf (sink :: installed) inner
  | .breakOff => []
  | .attempt inner => deliveriesOf installed inner

/-- The events of several pieces of work. -/
def deliveriesOf (installed : List (Fin sinks)) : List (Work sinks) → List (Delivery sinks)
  | [] => []
  | first :: rest =>
    first.deliveries installed ++
      match first.ending with
      | .finished => deliveriesOf installed rest
      | .brokenOff => []

end

/-! ### Targets -/

theorem receivedBy_append (target : Option (Fin sinks)) (before after : List (Delivery sinks)) :
    receivedBy target (before ++ after) = receivedBy target before ++ receivedBy target after := by
  rw [receivedBy, List.filter_append, List.map_append, receivedBy, receivedBy]

theorem receivedBy_cons_self {d : Delivery sinks} {target : Option (Fin sinks)} (h : d.target = target)
    (rest : List (Delivery sinks)) :
    receivedBy target (d :: rest) = d.event :: receivedBy target rest := by
  simp [receivedBy, h]

theorem receivedBy_cons_of_ne {d : Delivery sinks} {target : Option (Fin sinks)} (h : d.target ≠ target)
    (rest : List (Delivery sinks)) : receivedBy target (d :: rest) = receivedBy target rest := by
  simp [receivedBy, h]

/-- An event goes to the tally or to one of the sinks, and nowhere else. -/
theorem receivedBy_perm (deliveries : List (Delivery sinks)) :
    (receivedBy none deliveries ++
      (List.finRange sinks).flatMap fun sink => receivedBy (some sink) deliveries).Perm
    (deliveries.map (·.event)) := by
  induction deliveries with
  | nil => simp [receivedBy]
  | cons d rest ih =>
    rw [List.map_cons]
    refine .trans ?_ (ih.cons d.event)
    cases htarget : d.target with
    | none =>
      have hsinks : ∀ sink, receivedBy (some sink) (d :: rest) = receivedBy (some sink) rest :=
        fun sink => receivedBy_cons_of_ne (by rw [htarget]; nofun) rest
      rw [receivedBy_cons_self htarget, funext hsinks]
      exact .refl _
    | some sink =>
      obtain ⟨before, after, hsplit⟩ := List.append_of_mem (List.mem_finRange sink)
      have hsingle := (List.nodup_middle.mp (hsplit ▸ List.nodup_finRange sinks)).notMem
      have hother : ∀ other ∈ before ++ after,
          receivedBy (some other) (d :: rest) = receivedBy (some other) rest := by
        intro other hmem
        refine receivedBy_cons_of_ne (fun h => hsingle ?_) rest
        rw [htarget, Option.some.injEq] at h
        exact h ▸ hmem
      rw [hsplit, List.flatMap_append, List.flatMap_append, List.flatMap_cons, List.flatMap_cons,
        receivedBy_cons_of_ne (by rw [htarget]; nofun), receivedBy_cons_self htarget,
        List.flatMap_congr fun other h => hother other (List.mem_append_left _ h),
        List.flatMap_congr fun other h => hother other (List.mem_append_right _ h),
        List.cons_append, ← List.append_assoc, ← List.append_assoc]
      exact List.perm_middle

/-! ### The active sink -/

mutual

/-- Work leaves the sink active that was, however it ends. -/
theorem Work.run_active : ∀ (work : Work sinks) (r : Recorder), (work.run r).2.active = r.active
  | .record e, r => by
    unfold Work.run Recorder.record
    split <;> rfl
  | .withSink _ _, _ => rfl
  | .breakOff, _ => rfl
  | .attempt inner, r => runWork_active inner r

theorem runWork_active : ∀ (work : List (Work sinks)) (r : Recorder),
    (runWork work r).2.active = r.active
  | [], _ => rfl
  | first :: rest, r => by
    have hfirst := first.run_active r
    rw [runWork]
    generalize first.run r = outcome at hfirst
    obtain ⟨_ | _, s⟩ := outcome
    · exact (runWork_active rest s).trans hfirst
    · exact hfirst

end

/-! ### Events that are delivered -/

/-- What a recorder has taken after some events were delivered. -/
structure Recorder.Delivers (r : Recorder) (deliveries : List (Delivery sinks)) (after : Recorder) :
    Prop where
  count : after.sinks.length = r.sinks.length
  tally : after.tally = (receivedBy none deliveries).foldl Tally.add r.tally
  taken : ∀ sink : Fin sinks, after.taken sink = r.taken sink ++ receivedBy (some sink) deliveries

namespace Recorder.Delivers

variable {r s t : Recorder} {before after : List (Delivery sinks)}

theorem nothing (r : Recorder) : r.Delivers ([] : List (Delivery sinks)) r where
  count := rfl
  tally := rfl
  taken _ := (List.append_nil _).symm

theorem append (h : r.Delivers before s) (h' : s.Delivers after t) : r.Delivers (before ++ after) t where
  count := h'.count.trans h.count
  tally := by rw [h'.tally, h.tally, receivedBy_append, List.foldl_append]
  taken sink := by rw [h'.taken, h.taken, receivedBy_append, List.append_assoc]

/-- Which sink is active before and after does not matter to what was delivered. -/
theorem activate {active : Option Nat} (h : (r.activate active).Delivers before s)
    (active' : Option Nat) : r.Delivers before (s.activate active') :=
  ⟨h.count, h.tally, h.taken⟩

/-- An event is delivered to the sink that was installed last, if that is the active one. -/
theorem record {installed : List (Fin sinks)} (hsinks : r.sinks.length = sinks)
    (hactive : r.active = installed.head?.map Fin.val) (e : Event) :
    r.Delivers [⟨installed, e⟩] (r.record e) := by
  have htarget : (⟨installed, e⟩ : Delivery sinks).target = installed.head? := rfl
  cases hhead : installed.head? with
  | none =>
    have hrecord : r.record e = { r with tally := r.tally.add e } := by
      rw [Recorder.record, hactive, hhead, Option.map_none]
    rw [hhead] at htarget
    rw [hrecord]
    refine ⟨rfl, ?_, fun sink => ?_⟩
    · rw [receivedBy_cons_self htarget]
      rfl
    · rw [receivedBy_cons_of_ne (by rw [htarget]; nofun)]
      exact (List.append_nil _).symm
  | some active =>
    have hrecord : r.record e = { r with sinks := r.sinks.modify active (· ++ [e]) } := by
      rw [Recorder.record, hactive, hhead, Option.map_some]
    rw [hhead] at htarget
    rw [hrecord]
    refine ⟨List.length_modify .., ?_, fun sink => ?_⟩
    · rw [receivedBy_cons_of_ne (by rw [htarget]; nofun)]
      rfl
    · have hsink : sink < r.sinks.length := hsinks ▸ sink.isLt
      rw [Recorder.taken, Recorder.taken, List.getD_eq_getElem?_getD, List.getD_eq_getElem?_getD,
        List.getElem?_modify, List.getElem?_eq_getElem hsink, Option.map_eq_map, Option.map_some,
        Option.getD_some, Option.getD_some]
      by_cases h : active = sink
      · rw [receivedBy_cons_self (htarget.trans (congrArg some h)), if_pos (congrArg Fin.val h)]
        rfl
      · rw [receivedBy_cons_of_ne (by rw [htarget]; simpa using h), if_neg (Fin.val_ne_of_ne h)]
        exact (List.append_nil _).symm

end Recorder.Delivers

mutual

/-- Work ends as it has to, and delivers its events. -/
theorem Work.run_delivers : ∀ (work : Work sinks) (installed : List (Fin sinks)) {r : Recorder},
    r.sinks.length = sinks → r.active = installed.head?.map Fin.val →
    (work.run r).1 = work.ending ∧ r.Delivers (work.deliveries installed) (work.run r).2
  | .record e, installed, r, hsinks, hactive => ⟨rfl, .record hsinks hactive e⟩
  | .withSink sink inner, installed, r, hsinks, hactive => by
    obtain ⟨hending, hdelivers⟩ := runWork_delivers inner (sink :: installed)
      (r := r.activate (some sink)) hsinks rfl
    exact ⟨hending, hdelivers.activate r.active⟩
  | .breakOff, _, r, _, _ => ⟨rfl, .nothing r⟩
  | .attempt inner, installed, r, hsinks, hactive =>
    ⟨rfl, (runWork_delivers inner installed hsinks hactive).2⟩

theorem runWork_delivers : ∀ (work : List (Work sinks)) (installed : List (Fin sinks)) {r : Recorder},
    r.sinks.length = sinks → r.active = installed.head?.map Fin.val →
    (runWork work r).1 = endingOf work ∧ r.Delivers (deliveriesOf installed work) (runWork work r).2
  | [], _, r, _, _ => ⟨rfl, .nothing r⟩
  | first :: rest, installed, r, hsinks, hactive => by
    obtain ⟨hending, hfirst⟩ := first.run_delivers installed hsinks hactive
    have hstill := first.run_active r
    rw [runWork, endingOf, deliveriesOf, ← hending]
    generalize first.run r = outcome at hfirst hstill
    obtain ⟨_ | _, s⟩ := outcome
    · -- the sink that is active for the rest is the one that was active before
      obtain ⟨hending', hrest⟩ := runWork_delivers rest installed (hfirst.count.trans hsinks)
        (hstill.trans hactive)
      exact ⟨hending', hfirst.append hrest⟩
    · exact ⟨rfl, hfirst.append (.nothing s)⟩

end

end

/-- DELIVERY: whatever work is done and however it ends, each of its events goes to the sink that was
installed last around it, in order, and to the tally if there is none; so each goes to exactly one of
them. And whatever sink is active before some work is active after it. -/
theorem events_reach_innermost_sink (tally : Tally) (sinks : List (List Event))
    (work : List (Work sinks.length)) :
    let outcome := runWork work { tally, sinks }
    let deliveries := deliveriesOf [] work
    outcome.1 = endingOf work ∧
    outcome.2.tally = (receivedBy none deliveries).foldl Tally.add tally ∧
    (∀ sink : Fin sinks.length,
      outcome.2.taken sink = sinks[sink] ++ receivedBy (some sink) deliveries) ∧
    (receivedBy none deliveries ++
      (List.finRange sinks.length).flatMap fun sink => receivedBy (some sink) deliveries).Perm
      (deliveries.map (·.event)) ∧
    ∀ r : Recorder, (runWork work r).2.active = r.active := by
  obtain ⟨hending, hdelivers⟩ := runWork_delivers work [] (r := { tally, sinks }) rfl rfl
  refine ⟨hending, hdelivers.tally, fun sink => ?_, receivedBy_perm _, runWork_active work⟩
  rw [hdelivers.taken, Recorder.taken, List.getD_eq_getElem?_getD, List.getElem?_eq_getElem sink.isLt]
  rfl

/-- Work that breaks off inside two sinks and is caught between them. -/
example (a b c d e f : Event) :
    let inner : List (Work 2) := [.record b, .attempt [.withSink 1 [.record c, .breakOff, .record d]],
      .record e]
    runWork [.record a, .withSink 0 inner, .record f] { sinks := [[], []] } =
      (.finished, { tally := .ofEvents [a, f], sinks := [[b, e], [c]] }) := rfl

end EntityQuery.Telemetry
