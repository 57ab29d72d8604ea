import EntityQuery.Proofs.Placement

/-!
Connection: which keyword ties two conditions. A stream remembers the connector asked for last, and
the next condition uses it up: it is written in front of the condition, unless the condition is the
first. So a connector always stands between two conditions, and the keyword between them can be read
off the calls that were made after the first and before the second. A group, a join and a subquery
have streams of their own, and nothing that is asked for there is remembered outside.

```
calls:   or · compare a · or · join x [..] · order · compare b · brackets [or · compare c] · compare d
text:    … WHERE a OR b AND (c) AND d
```
-/

namespace EntityQuery

open EntityQuery.Field

/-! ### Connectors stand between conditions -/

/-- Every connector stands directly before a condition, and after another one. -/
def Chained (nodes : List Node) : Prop :=
  ∀ before c after, nodes = before ++ .connector c :: after →
    hasCondition before ∧ ∃ n rest, after = n :: rest ∧ n.isCondition

mutual

/-- In every sequence inside a node, connectors stand between conditions. -/
def Node.Chained : Node → Prop
  | .bracket nodes | .join _ _ _ nodes | .existence _ _ _ nodes | .inSubquery _ _ _ _ _ nodes =>
    EntityQuery.Chained nodes ∧ allChained nodes
  | .predicate .. | .connector _ | .inList .. | .orderBy .. => True

/-- In every sequence inside some nodes, connectors stand between conditions. -/
def allChained : List Node → Prop
  | [] => True
  | node :: rest => node.Chained ∧ allChained rest

end

theorem allChained_iff {nodes : List Node} : allChained nodes ↔ ∀ n ∈ nodes, n.Chained := by
  induction nodes with
  | nil => simp [allChained]
  | cons node rest ih => rw [allChained, ih, List.forall_mem_cons]

theorem hasCondition_append (xs ys : List Node) :
    hasCondition (xs ++ ys) = (hasCondition xs || hasCondition ys) := List.any_append

theorem Node.isJoin_eq_false {n : Node} (h : n.isCondition) : n.isJoin = false := by
  cases n with
  | connector | orderBy | join => cases h
  | _ => rfl

theorem chained_nil : Chained [] := by
  intro before c after h
  cases before <;> cases h

/-- Nodes that are no connectors can be added. -/
theorem Chained.append {xs ys : List Node} (h : Chained xs) (hys : ∀ c, .connector c ∉ ys) :
    Chained (xs ++ ys) := by
  intro before c after heq
  rcases List.append_eq_append_iff.mp heq with ⟨inner, rfl, hinner⟩ | ⟨inner, rfl, hinner⟩
  · exact absurd (hinner ▸ List.mem_append_right _ (List.mem_cons_self ..)) (hys c)
  · cases inner with
    | nil =>
      obtain rfl : .connector c :: after = ys := hinner
      exact absurd (List.mem_cons_self ..) (hys c)
    | cons n inner =>
      obtain ⟨rfl, rfl⟩ := List.cons.inj hinner
      obtain ⟨hbefore, n, rest, rfl, hn⟩ := h before c inner rfl
      exact ⟨hbefore, n, rest ++ ys, rfl, hn⟩

/-- A connector can be added together with the condition that it ties. -/
theorem Chained.tie {xs : List Node} (h : Chained xs) (hxs : hasCondition xs) (c : Connector)
    {n : Node} (hn : n.isCondition) : Chained (xs ++ [.connector c, n]) := by
  intro before d after heq
  rcases List.append_eq_append_iff.mp heq with ⟨inner, rfl, hinner⟩ | ⟨inner, rfl, hinner⟩
  · match inner, hinner with
    | [], hinner =>
      obtain ⟨-, rfl⟩ := List.cons.inj hinner
      rw [List.append_nil]
      exact ⟨hxs, n, [], rfl, hn⟩
    | [_], hinner =>
      obtain ⟨-, hinner⟩ := List.cons.inj hinner
      obtain ⟨rfl, -⟩ := List.cons.inj hinner
      cases hn
    | _ :: _ :: _, hinner => simp at hinner
  · cases inner with
    | nil =>
      obtain ⟨-, rfl⟩ := List.cons.inj hinner
      rw [List.append_nil] at hxs
      exact ⟨hxs, n, [], rfl, hn⟩
    | cons m inner =>
      obtain ⟨rfl, rfl⟩ := List.cons.inj hinner
      obtain ⟨hbefore, m, rest, rfl, hm⟩ := h before d inner rfl
      exact ⟨hbefore, m, _, rfl, hm⟩

theorem hasCondition_filter (nodes : List Node) :
    hasCondition (nodes.filter (!·.isJoin)) = hasCondition nodes := by
  rw [hasCondition, List.any_filter, hasCondition]
  congr 1
  funext n
  cases n <;> rfl

/-- Joins can be taken out. -/
theorem Chained.filter {nodes : List Node} (h : Chained nodes) :
    Chained (nodes.filter (!·.isJoin)) := by
  intro before c after heq
  obtain ⟨xs, ys, rfl, rfl, hys⟩ := List.filter_eq_append_iff.mp heq
  obtain ⟨zs, after', rfl, hzs, -, rfl⟩ := List.filter_eq_cons_iff.mp hys
  -- what was taken out before the connector are joins, and the condition after it is none
  obtain ⟨hbefore, n, rest, rfl, hn⟩ := h (xs ++ zs) c after' (by simp)
  rw [← hasCondition_filter, List.filter_append, List.filter_eq_nil_iff.mpr hzs,
    List.append_nil] at hbefore
  refine ⟨hbefore, n, rest.filter (!·.isJoin), List.filter_cons_of_pos ?_, hn⟩
  rw [n.isJoin_eq_false hn]
  rfl

/-- Where no condition stands, no connector does. -/
theorem Chained.no_connector {nodes : List Node} (h : Chained nodes)
    (hnone : hasCondition nodes = false) (c : Connector) : .connector c ∉ nodes := by
  intro hmem
  obtain ⟨before, after, rfl⟩ := List.append_of_mem hmem
  have hbefore := (h before c after rfl).1
  rw [hasCondition_append, hbefore] at hnone
  cases hnone

namespace Stream

variable {s g : Stream} {n : Node}

theorem chained_pushCondition (h : Chained s.nodes) (hn : n.isCondition) :
    Chained (s.pushCondition n).nodes := by
  have hsingle : ∀ c, .connector c ∉ [n] := by
    intro c hc
    rw [← List.mem_singleton.mp hc] at hn
    cases hn
  unfold pushCondition
  cases s.pending with
  | none => simpa using h.append hsingle
  | some c =>
    by_cases hc : hasCondition s.nodes
    · simpa [hc] using h.tie hc c hn
    · simpa [hc] using h.append hsingle

theorem chained_acceptGroup (hs : Chained s.nodes) (hg : Chained g.nodes) :
    Chained (s.acceptGroup g).nodes := by
  have hjoins : Chained (s.nodes ++ g.nodes.filter Node.isJoin) :=
    hs.append fun c hc => by simpa [Node.isJoin] using (List.mem_filter.mp hc).2
  unfold acceptGroup
  dsimp only
  split
  next => exact chained_pushCondition hjoins rfl
  next hcond => exact hjoins.append (hg.filter.no_connector (by simpa using hcond))

end Stream

section

variable {Means : Lookup → Reference → Prop} {s t : Stream} {calls : List Call}

theorem Step.chained {call : Call} (h : Step Means s call t) (hs : Chained s.nodes) :
    Chained t.nodes := by
  cases h with
  | filter | connect | inspect | render => exact hs
  | orderBy => exact hs.append (by simp)
  | compare | nullCheck | isIn | compareOuter => exact Stream.chained_pushCondition hs rfl

theorem Step.inner_chained {call : Call} (h : Step Means s call t)
    (hn : ∀ n ∈ s.nodes, n.Chained) : ∀ n ∈ t.nodes, n.Chained := by
  have hc : ∀ c, (Node.connector c).Chained := fun _ => trivial
  cases h with
  | filter | connect | inspect | render => exact hn
  | orderBy => exact Stream.forall_push hn trivial
  | compare | nullCheck | isIn | compareOuter => exact Stream.forall_pushCondition hc hn trivial

/-- A program keeps connectors between conditions, in the sequence of its stream and in those
inside it. -/
theorem Builds.chained (h : Builds Means s calls t) :
    Chained s.nodes → (∀ n ∈ s.nodes, n.Chained) → Chained t.nodes ∧ ∀ n ∈ t.nodes, n.Chained := by
  have hc : ∀ c, (Node.connector c).Chained := fun _ => trivial
  induction h with
  | nil => exact fun hs hn => ⟨hs, hn⟩
  | step hstep _ ih => exact fun hs hn => ih (hstep.chained hs) (hstep.inner_chained hn)
  | @brackets s g t configure rest _ _ ihg ih =>
    intro hs hn
    obtain ⟨hg, hgn⟩ := ihg chained_nil (List.forall_mem_nil _)
    refine ih (Stream.chained_acceptGroup hs hg) (Stream.forall_acceptGroup hc hn hgn fun _ => ?_)
    exact ⟨hg.filter, allChained_iff.mpr fun n h => hgn n (List.mem_filter.mp h).1⟩
  | join kind hr _ _ ihc ih =>
    intro hs hn
    obtain ⟨hchild, hinner⟩ := ihc chained_nil (List.forall_mem_nil _)
    refine ih (hs.append (by simp)) (Stream.forall_push hn ?_)
    exact ⟨hchild, allChained_iff.mpr hinner⟩
  | existence negated hr _ _ ihc ih | inSubquery negated hr _ _ _ ihc ih =>
    intro hs hn
    obtain ⟨hchild, hinner⟩ := ihc chained_nil (List.forall_mem_nil _)
    refine ih (Stream.chained_pushCondition hs rfl) (Stream.forall_pushCondition hc hn ?_)
    exact ⟨hchild, allChained_iff.mpr hinner⟩

end

/-! ### What calls ask for -/

/-- The connector that a call asks for. -/
def Call.asked? : Call → Option Connector
  | .connect c => some c
  | _ => none

/-- What ties two conditions, given the calls between them: the connector asked for last, or AND. -/
def tieAfter (between : List Call) : Connector :=
  (between.filterMap Call.asked?).getLast?.getD .and

mutual

/-- Whether a call that succeeds adds a condition to its stream. -/
def Call.addsCondition : Call → Bool
  | .compare .. | .nullCheck .. | .isIn .. | .compareOuter .. | .existence .. | .inSubquery .. => true
  | .brackets configure => addCondition configure
  | _ => false

/-- Whether calls that succeed add a condition to their stream. -/
def addCondition : List Call → Bool
  | [] => false
  | call :: rest => call.addsCondition || addCondition rest

end

/-- A join or a condition by what ties it and the conditions inside it. -/
inductive Tied where
  /-- A comparison or a membership. -/
  | leaf (tie : Option Connector)
  | group (tie : Option Connector) (conditions : List Tied)
  | subquery (tie : Option Connector) (joins conditions : List Tied)
  | join (conditions : List Tied)

mutual

/-- The joins that a call asks for, each followed by those asked for inside it. -/
def Call.tiedJoins : Call → List Tied
  | .join _ _ _ configure => .join (tiedConditions none configure) :: tiedJoins configure
  | .brackets configure => tiedJoins configure
  | _ => []

/-- The condition that a call asks for, given what ties it to the one before. -/
def Call.tied (tie : Option Connector) : Call → List Tied
  | .compare .. | .nullCheck .. | .isIn .. | .compareOuter .. => [.leaf tie]
  | .brackets configure =>
    if addCondition configure then [.group tie (tiedConditions none configure)] else []
  | .existence _ _ _ configure | .inSubquery _ _ _ _ configure =>
    [.subquery tie (tiedJoins configure) (tiedConditions none configure)]
  | _ => []

/-- The joins that calls ask for. -/
def tiedJoins : List Call → List Tied
  | [] => []
  | call :: rest => call.tiedJoins ++ tiedJoins rest

/-- The conditions that calls ask for, given the calls made since the condition before, if there is
one. The first condition is tied to nothing. -/
def tiedConditions (between : Option (List Call)) : List Call → List Tied
  | [] => []
  | call :: rest => call.tied (between.map tieAfter) ++
    tiedConditions (if call.addsCondition then some [] else between.map (· ++ [call])) rest

end

/-- The connector that is pending after calls, given the one before. -/
def pendingAfter (pending : Option Connector) : List Call → Option Connector
  | [] => pending
  | call :: rest =>
    pendingAfter (if call.addsCondition then none else call.asked?.or pending) rest

/-! ### What the layout ties -/

mutual

/-- A part by what ties it and the conditions inside it. -/
def Part.tied : Part → Tied
  | .leaf next _ => .leaf next
  | .group next conditions => .group next (tiedParts conditions)
  | .existence next _ _ _ joins conditions | .inSubquery next _ _ _ _ _ joins conditions =>
    .subquery next (tiedParts joins) (tiedParts conditions)
  | .join _ _ _ conditions => .join (tiedParts conditions)

/-- Parts by what ties them. -/
def tiedParts : List Part → List Tied
  | [] => []
  | part :: rest => part.tied :: tiedParts rest

end

@[simp] theorem tiedParts_append (ys : List Part) : ∀ xs : List Part,
    tiedParts (xs ++ ys) = tiedParts xs ++ tiedParts ys
  | [] => rfl
  | x :: xs => by rw [List.cons_append, tiedParts, tiedParts_append ys xs]; rfl

/-- What ties the condition after some nodes to those before. -/
def nextAfter (next : Option Connector) : List Node → Option Connector
  | [] => next
  | .connector c :: rest => nextAfter (next.map fun _ => c) rest
  | node :: rest => nextAfter (if node.isCondition then some .and else next) rest

theorem conditionParts_append (ys : List Node) : ∀ (next : Option Connector) (xs : List Node),
    conditionParts next (xs ++ ys) =
      conditionParts next xs ++ conditionParts (nextAfter next xs) ys
  | _, [] => rfl
  | next, x :: xs => by
    have ih := fun next => conditionParts_append ys next xs
    cases hx : x.isCondition with
    | true =>
      rw [List.cons_append, conditionParts_cons hx, conditionParts_cons hx, ih, List.append_assoc]
      cases x with
      | connector | orderBy | join => cases hx
      | _ => rfl
    | false =>
      cases x with
      | connector | orderBy | join => exact ih _
      | _ => cases hx

theorem nextAfter_append (ys : List Node) : ∀ (next : Option Connector) (xs : List Node),
    nextAfter next (xs ++ ys) = nextAfter (nextAfter next xs) ys
  | _, [] => rfl
  | next, x :: xs => by
    cases x <;> exact nextAfter_append ys _ xs

theorem joinParts_append (ys : List Node) : ∀ xs : List Node,
    joinParts (xs ++ ys) = joinParts xs ++ joinParts ys
  | [] => rfl
  | x :: xs => by
    have ih := joinParts_append ys xs
    cases x with
    | join => rw [List.cons_append, joinParts, joinParts, ih, List.append_assoc]
    | _ => exact ih

/-- Joins and orderings are no conditions and tie nothing. -/
theorem neutral_parts : ∀ {nodes : List Node} (next : Option Connector),
    (∀ n ∈ nodes, n.isCondition = false) → (∀ c, .connector c ∉ nodes) →
    conditionParts next nodes = [] ∧ nextAfter next nodes = next
  | [], _, _, _ => ⟨rfl, rfl⟩
  | n :: rest, next, hn, hc => by
    have ih := neutral_parts next (fun x hx => hn x (List.mem_cons_of_mem _ hx))
      fun c h => hc c (List.mem_cons_of_mem _ h)
    have hfirst := hn n (List.mem_cons_self ..)
    cases n with
    | connector c => exact absurd (List.mem_cons_self ..) (hc c)
    | orderBy | join => exact ih
    | _ => cases hfirst

/-- A group's joins are taken out of its conditions, and its conditions out of its joins. -/
theorem filter_parts : ∀ (next : Option Connector) (nodes : List Node),
    conditionParts next (nodes.filter (!·.isJoin)) = conditionParts next nodes ∧
      joinParts (nodes.filter Node.isJoin) = joinParts nodes
  | _, [] => ⟨rfl, rfl⟩
  | next, n :: rest => by
    have ih := fun next => filter_parts next rest
    cases n with
    | join => exact ⟨(ih next).1, by
        rw [List.filter_cons_of_pos rfl, joinParts, joinParts, (ih next).2]⟩
    | connector c => exact ih _
    | orderBy => exact ih next
    | _ => exact ⟨congrArg (_ ++ ·) (ih _).1, (ih next).2⟩

/-! ### The keywords are those that the calls ask for -/

/-- The calls made on a stream since its last condition, if it has one. -/
structure Since (nodes : List Node) (pending : Option Connector) (between : Option (List Call)) :
    Prop where
  seen : hasCondition nodes = between.isSome
  next : nextAfter none nodes = between.map fun _ => .and
  asked : ∀ calls ∈ between, pending = (calls.filterMap Call.asked?).getLast?

theorem since_nil (pending : Option Connector) : Since [] pending none :=
  ⟨rfl, rfl, by intro _ h; cases h⟩

section

variable {nodes : List Node} {pending : Option Connector} {between : Option (List Call)}

/-- A call that adds no condition is made after those before it. -/
theorem Since.call (h : Since nodes pending between) (call : Call) :
    Since nodes (call.asked?.or pending) (between.map (· ++ [call])) := by
  refine ⟨by rw [h.seen, Option.isSome_map], by rw [h.next, Option.map_map]; rfl, ?_⟩
  intro calls hcalls
  obtain ⟨earlier, hearlier, rfl⟩ := Option.map_eq_some_iff.mp hcalls
  rw [h.asked earlier hearlier, List.filterMap_append, List.getLast?_append]
  cases hasked : call.asked? <;> simp [hasked]

/-- Joins and orderings are added between conditions. -/
theorem Since.append (h : Since nodes pending between) {added : List Node}
    (hn : ∀ n ∈ added, n.isCondition = false) (hc : ∀ c, .connector c ∉ added) :
    Since (nodes ++ added) pending between ∧
      conditionParts none (nodes ++ added) = conditionParts none nodes := by
  have hadded : hasCondition added = false := by simpa [hasCondition] using hn
  obtain ⟨hparts, hnext⟩ := neutral_parts (nextAfter none nodes) hn hc
  refine ⟨⟨?_, ?_, h.asked⟩, ?_⟩
  · rw [hasCondition_append, hadded, Bool.or_false, h.seen]
  · rw [nextAfter_append, hnext, h.next]
  · rw [conditionParts_append, hparts, List.append_nil]

/-- The joins of a group are added between conditions. -/
theorem Since.append_joins (h : Since nodes pending between) (group : List Node) :
    Since (nodes ++ group.filter Node.isJoin) pending between ∧
      conditionParts none (nodes ++ group.filter Node.isJoin) = conditionParts none nodes := by
  refine h.append (fun n hn => ?_) fun c hc => ?_
  · have hjoin := (List.mem_filter.mp hn).2
    cases n with
    | join => rfl
    | _ => cases hjoin
  · simpa [Node.isJoin] using (List.mem_filter.mp hc).2

/-- So is what else is in a group without conditions: no connector can be in it. -/
theorem Since.append_others (h : Since nodes pending between) {group : List Node}
    (hchained : Chained group) (hnone : hasCondition group = false) :
    Since (nodes ++ group.filter (!·.isJoin)) pending between ∧
      conditionParts none (nodes ++ group.filter (!·.isJoin)) = conditionParts none nodes := by
  rw [← hasCondition_filter] at hnone
  refine h.append (fun n hn => ?_) (hchained.filter.no_connector hnone)
  rw [hasCondition, List.any_eq_false] at hnone
  simpa using hnone n hn

theorem nextAfter_condition {n : Node} (hn : n.isCondition) (next : Option Connector) :
    nextAfter next [n] = some .and := by
  cases n with
  | connector | orderBy | join => cases hn
  | _ => rfl

/-- A condition is tied by what was asked for since the one before. -/
theorem Since.pushCondition {s : Stream} (h : Since s.nodes s.pending between) {n : Node}
    (hn : n.isCondition) :
    Since (s.pushCondition n).nodes (s.pushCondition n).pending (some []) ∧
      conditionParts none (s.pushCondition n).nodes =
        conditionParts none s.nodes ++ n.conditionParts (between.map tieAfter) := by
  have hone : ∀ next, conditionParts next [n] = n.conditionParts next := fun next => by
    rw [conditionParts_cons hn, conditionParts, List.append_nil]
  -- the nodes added are the condition, and a connector in front of it if there is one before
  have hadded : ∃ tie, (s.pushCondition n).nodes = s.nodes ++ (tie ++ [n]) ∧
      nextAfter (between.map fun _ => .and) tie = between.map tieAfter ∧
      conditionParts (between.map fun _ => .and) tie = [] := by
    unfold Stream.pushCondition
    cases between with
    | none =>
      refine ⟨[], ?_, rfl, rfl⟩
      have hseen : hasCondition s.nodes = false := h.seen
      cases s.pending <;> simp [hseen]
    | some calls =>
      have hseen : hasCondition s.nodes = true := h.seen
      have hasked := h.asked calls rfl
      simp only [Option.map_some, tieAfter, ← hasked, hseen]
      cases s.pending with
      | none => exact ⟨[], by simp, rfl, rfl⟩
      | some c => exact ⟨[.connector c], by simp, rfl, rfl⟩
  obtain ⟨tie, hnodes, hnext, hparts⟩ := hadded
  constructor
  · refine ⟨?_, ?_, fun calls hcalls => ?_⟩
    · rw [hnodes]
      simp [hasCondition, hn]
    · rw [hnodes, nextAfter_append, nextAfter_append, nextAfter_condition hn]
      rfl
    · cases hcalls
      rfl
  · rw [hnodes, conditionParts_append, conditionParts_append, h.next, hnext, hparts, hone,
      List.nil_append]

end

/-- A call adds to a stream what it asks for, tied as it should be. -/
structure Ties (s : Stream) (call : Call) (t : Stream) : Prop where
  joins : tiedParts (joinParts t.nodes) = tiedParts (joinParts s.nodes) ++ call.tiedJoins
  conditions : ∀ between, Since s.nodes s.pending between →
    tiedParts (conditionParts none t.nodes) =
      tiedParts (conditionParts none s.nodes) ++ call.tied (between.map tieAfter)
  since : ∀ between, Since s.nodes s.pending between → Since t.nodes t.pending
    (if call.addsCondition then some [] else between.map (· ++ [call]))
  pending : t.pending = if call.addsCondition then none else call.asked?.or s.pending

section

variable {s t : Stream} {call : Call} {n : Node}

theorem joinParts_pushCondition (s : Stream) (hn : n.isCondition) :
    joinParts (s.pushCondition n).nodes = joinParts s.nodes := by
  have hone : joinParts [n] = [] := joinParts_cons (n.isJoin_eq_false hn) []
  unfold Stream.pushCondition
  rw [joinParts_append, hone, List.append_nil, joinParts_append]
  cases s.pending with
  | none => exact List.append_nil _
  | some c => cases hasCondition s.nodes <;> exact List.append_nil _

theorem ties_pushCondition (hn : n.isCondition) (hadds : call.addsCondition = true)
    (hjoins : call.tiedJoins = []) (htied : ∀ tie, tiedParts (n.conditionParts tie) = call.tied tie) :
    Ties s call (s.pushCondition n) where
  joins := by rw [joinParts_pushCondition s hn, hjoins, List.append_nil]
  conditions between h := by rw [(h.pushCondition hn).2, tiedParts_append, htied]
  since between h := by rw [hadds]; exact (h.pushCondition hn).1
  pending := by rw [hadds]; rfl

theorem ties_acceptSubquery {c : Stream} (hn : n.isCondition) (hadds : call.addsCondition = true)
    (hjoins : call.tiedJoins = []) (htied : ∀ tie, tiedParts (n.conditionParts tie) = call.tied tie) :
    Ties s call (s.acceptSubquery c n) :=
  let h := ties_pushCondition (s := { s with nextAlias := c.nextAlias }) hn hadds hjoins htied
  ⟨h.joins, h.conditions, h.since, h.pending⟩

/-- A call that adds nothing may ask for a connector. -/
theorem ties_nothing (hadds : call.addsCondition = false) (hjoins : call.tiedJoins = [])
    (htied : ∀ tie, call.tied tie = []) (hnodes : t.nodes = s.nodes)
    (hpending : t.pending = call.asked?.or s.pending) : Ties s call t where
  joins := by rw [hnodes, hjoins, List.append_nil]
  conditions between _ := by rw [hnodes, htied, List.append_nil]
  since between h := by rw [hadds, hnodes, hpending]; exact h.call call
  pending := by rw [hadds]; exact hpending

/-- A join or an ordering leaves the pending connector alone. -/
theorem ties_push (hadds : call.addsCondition = false) (hasked : call.asked? = none)
    (htied : ∀ tie, call.tied tie = []) (hjoins : tiedParts (joinParts [n]) = call.tiedJoins)
    (hn : n.isCondition = false) (hc : ∀ c, n ≠ .connector c) (hnodes : t.nodes = s.nodes ++ [n])
    (hpending : t.pending = s.pending) : Ties s call t := by
  have hn : ∀ x ∈ [n], x.isCondition = false := by simpa using hn
  have hc : ∀ c, .connector c ∉ [n] := by simpa using fun c => (hc c).symm
  refine ⟨?_, fun between h => ?_, fun between h => ?_, ?_⟩
  · rw [hnodes, joinParts_append, tiedParts_append, hjoins]
  · rw [hnodes, (h.append hn hc).2, htied, List.append_nil]
  · rw [hadds, hnodes, hpending]
    have hcall := (h.append hn hc).1.call call
    rw [hasked] at hcall
    exact hcall
  · rw [hadds, hasked, hpending]; rfl

theorem Step.ties {Means : Lookup → Reference → Prop} (h : Step Means s call t) :
    Ties s call t := by
  cases h with
  | filter | connect | inspect | render =>
    exact ties_nothing rfl rfl (fun _ => rfl) rfl rfl
  | orderBy direction =>
    exact ties_push (n := .orderBy _ direction s.orders) rfl rfl (fun _ => rfl) rfl rfl nofun rfl rfl
  | compare | nullCheck | isIn | compareOuter =>
    exact ties_pushCondition rfl rfl rfl fun _ => rfl

theorem Call.tied_isEmpty (call : Call) (tie : Option Connector) :
    (call.tied tie).isEmpty = !call.addsCondition := by
  cases call with
  | brackets configure =>
    rw [Call.tied, Call.addsCondition]
    cases addCondition configure <;> rfl
  | _ => rfl

theorem tiedConditions_isEmpty : ∀ (between : Option (List Call)) (calls : List Call),
    (tiedConditions between calls).isEmpty = !addCondition calls
  | _, [] => rfl
  | between, call :: rest => by
    rw [tiedConditions, addCondition, Bool.not_or, ← call.tied_isEmpty (between.map tieAfter),
      ← tiedConditions_isEmpty _ rest]
    cases call.tied (between.map tieAfter) <;> rfl

theorem tiedParts_isEmpty (parts : List Part) : (tiedParts parts).isEmpty = parts.isEmpty := by
  cases parts <;> rfl

/-- A group is accepted after its joins, as a bracket if it has conditions. -/
theorem Stream.acceptGroup_eq (s g : Stream) : ∃ u : Stream,
    u.nodes = s.nodes ++ g.nodes.filter Node.isJoin ∧ u.pending = s.pending ∧
      (hasCondition g.nodes = true →
        s.acceptGroup g = u.pushCondition (.bracket (g.nodes.filter (!·.isJoin)))) ∧
      (hasCondition g.nodes = false →
        (s.acceptGroup g).nodes = u.nodes ++ g.nodes.filter (!·.isJoin) ∧
        (s.acceptGroup g).pending = u.pending) := by
  refine ⟨{ s with
    nodes := s.nodes ++ g.nodes.filter Node.isJoin
    nextAlias := g.nextAlias
    orders := g.orders }, rfl, rfl, fun h => ?_, fun h => ?_⟩
  · unfold acceptGroup
    dsimp only
    rw [hasCondition_filter, h, if_pos rfl]
  · unfold acceptGroup
    dsimp only
    rw [hasCondition_filter, h]
    exact ⟨rfl, rfl⟩

/-- A group is one condition if it has any, and its joins are joins of the scope. -/
theorem ties_acceptGroup {g : Stream} {configure : List Call} (hchained : Chained g.nodes)
    (hjoins : tiedParts (joinParts g.nodes) = tiedJoins configure)
    (hconditions : tiedParts (conditionParts none g.nodes) = tiedConditions none configure) :
    Ties s (.brackets configure) (s.acceptGroup g) := by
  have hadds : hasCondition g.nodes = addCondition configure := by
    have hempty := congrArg List.isEmpty hconditions
    rw [tiedParts_isEmpty, conditionParts_isEmpty, tiedConditions_isEmpty] at hempty
    exact Bool.not_inj hempty
  obtain ⟨u, hnodes, hpending, hsome, hnone⟩ := s.acceptGroup_eq g
  have hscope : tiedParts (joinParts u.nodes) =
      tiedParts (joinParts s.nodes) ++ tiedJoins configure := by
    rw [hnodes, joinParts_append, (filter_parts none g.nodes).2, tiedParts_append, hjoins]
  have hsince : ∀ between, Since s.nodes s.pending between → Since u.nodes u.pending between ∧
      conditionParts none u.nodes = conditionParts none s.nodes := fun between h => by
    rw [hnodes, hpending]
    exact h.append_joins g.nodes
  cases hadd : addCondition configure with
  | true =>
    rw [hadd] at hadds
    rw [hsome hadds]
    refine ⟨?_, fun between h => ?_, fun between h => ?_, ?_⟩
    · rw [joinParts_pushCondition u rfl, hscope]
      rfl
    · rw [((hsince between h).1.pushCondition rfl).2, (hsince between h).2, tiedParts_append,
        Call.tied, hadd, if_pos rfl, ← hconditions, ← (filter_parts none g.nodes).1]
      rfl
    · rw [Call.addsCondition, hadd]
      exact ((hsince between h).1.pushCondition rfl).1
    · rw [Call.addsCondition, hadd]
      rfl
  | false =>
    rw [hadd] at hadds
    obtain ⟨hrest, hkept⟩ := hnone hadds
    have hnojoin : joinParts (g.nodes.filter (!·.isJoin)) = [] :=
      joinParts_eq_nil fun n hn => by simpa using (List.mem_filter.mp hn).2
    have hothers := fun between h => (hsince between h).1.append_others hchained hadds
    refine ⟨?_, fun between h => ?_, fun between h => ?_, ?_⟩
    · rw [hrest, joinParts_append, hnojoin, List.append_nil, hscope]
      rfl
    · rw [hrest, (hothers between h).2, (hsince between h).2, Call.tied, hadd,
        if_neg Bool.false_ne_true, List.append_nil]
    · rw [Call.addsCondition, hadd, hrest, hkept]
      exact (hothers between h).1.call (.brackets configure)
    · rw [Call.addsCondition, hadd, hkept]
      exact hpending

/-- Calls add to a stream what they ask for, tied as it should be. -/
structure TiesAll (s : Stream) (calls : List Call) (t : Stream) : Prop where
  joins : tiedParts (joinParts t.nodes) = tiedParts (joinParts s.nodes) ++ tiedJoins calls
  conditions : ∀ between, Since s.nodes s.pending between →
    tiedParts (conditionParts none t.nodes) =
      tiedParts (conditionParts none s.nodes) ++ tiedConditions between calls
  pending : t.pending = pendingAfter s.pending calls

theorem Ties.cons {u : Stream} {rest : List Call} (h : Ties s call t) (hrest : TiesAll t rest u) :
    TiesAll s (call :: rest) u where
  joins := by rw [hrest.joins, h.joins, tiedJoins, List.append_assoc]
  conditions between hs := by
    rw [hrest.conditions _ (h.since between hs), h.conditions between hs, tiedConditions,
      List.append_assoc]
  pending := by rw [hrest.pending, h.pending, pendingAfter]

/-- A child, whose stream starts empty, has what its own calls ask for. -/
theorem TiesAll.fresh {configure : List Call} (h : TiesAll s configure t) (hs : s.nodes = []) :
    tiedParts (joinParts t.nodes) = tiedJoins configure ∧
      tiedParts (conditionParts none t.nodes) = tiedConditions none configure := by
  have hsince : Since s.nodes s.pending none := by rw [hs]; exact since_nil _
  have hjoins := h.joins
  have hconditions := h.conditions none hsince
  rw [hs] at hjoins hconditions
  exact ⟨hjoins, hconditions⟩

/-- A program adds what its calls ask for, tied as it should be. -/
theorem Builds.ties {Means : Lookup → Reference → Prop} {calls : List Call}
    (h : Builds Means s calls t) : TiesAll s calls t := by
  induction h with
  | nil s => exact ⟨by simp [tiedJoins], fun _ _ => by simp [tiedConditions], rfl⟩
  | step hstep _ ih => exact hstep.ties.cons ih
  | brackets hg _ ihg ih =>
    obtain ⟨hjoins, hconditions⟩ := ihg.fresh rfl
    obtain ⟨hchained, -⟩ := hg.chained chained_nil (List.forall_mem_nil _)
    exact (ties_acceptGroup hchained hjoins hconditions).cons ih
  | @join s c t accessor r target configure rest kind hr hc _ ihc ih =>
    obtain ⟨hjoins, hconditions⟩ := ihc.fresh rfl
    refine Ties.cons ?_ ih
    refine ties_push (n := .join kind (s.bind r) c.index c.nodes) rfl rfl (fun _ => rfl) ?_ rfl nofun
      rfl rfl
    rw [joinParts, joinParts, List.append_nil, tiedParts, Part.tied, hjoins, hconditions]
    rfl
  | existence negated hr hc _ ihc ih | inSubquery negated hr hc hr' _ ihc ih =>
    obtain ⟨hjoins, hconditions⟩ := ihc.fresh rfl
    refine (ties_acceptSubquery rfl rfl rfl fun tie => ?_).cons ih
    rw [Node.conditionParts, tiedParts, Part.tied, hjoins, hconditions]
    rfl

end

/-- CONNECTION: in every sequence that a program builds, a connector stands directly before a
condition and after another one. Two conditions are tied by the connector that was asked for last
between the calls that added them, or by AND, and the first condition is tied to nothing. What
failed, and what was asked for in a group, a join or a subquery, leaves the pending connector alone,
and so does every call that adds no condition. A rendering that succeeds spells the layout of the
nodes, where in front of each condition AND or OR stands for what ties it, and nothing before the
first one. -/
theorem keywords_follow_calls (entity : Entity) (calls : List Call) (w : Workspace) :
    (Chained (runAll calls (.start entity) w).stream.nodes ∧
      ∀ n ∈ (runAll calls (.start entity) w).stream.nodes, n.Chained) ∧
    tiedParts (joinParts (runAll calls (.start entity) w).stream.nodes) =
      tiedJoins (surviving calls (.start entity) w) ∧
    tiedParts (conditionParts none (runAll calls (.start entity) w).stream.nodes) =
      tiedConditions none (surviving calls (.start entity) w) ∧
    (∀ (calls : List Call) (s : Stream) (w : Workspace),
      (runAll calls s w).stream.pending = pendingAfter s.pending (surviving calls s w)) ∧
    ∀ (q : Query) (changes : List Modifier) (r : Renderer) (rendered : Rendered),
      q = (runAll calls (.start entity) w).stream.build.modifyAll changes →
      r.render q = .ok rendered →
      q.nodes = (runAll calls (.start entity) w).stream.nodes ∧
      rendered.text =
        String.join ((Piece.tokensFrom r.conventions 0 (q.written r.mapping)).map (·.text)) ∧
      rendered.Binds r.conventions q.page (q.written r.mapping) ∧ q.WrittenOnce := by
  have hbuilds := runAll_builds_marked calls (.start entity) w
  obtain ⟨hjoins, hconditions⟩ := hbuilds.ties.fresh rfl
  refine ⟨hbuilds.chained chained_nil (List.forall_mem_nil _), hjoins, hconditions, ?_, ?_⟩
  · exact fun calls s w => (runAll_builds_marked calls s w).ties.pending
  · intro q changes r rendered hq hr
    refine ⟨?_, hbuilds.render_writtenOnce hq hr⟩
    rw [hq]
    exact (Query.modifyAll_frame changes _).1

end EntityQuery
