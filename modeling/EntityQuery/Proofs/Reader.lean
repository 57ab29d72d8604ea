import EntityQuery.Proofs.Identifier
import EntityQuery.Proofs.Skeleton

/-!
Readers: the skeleton of a query from its text. A reader looks at the word that the text begins with,
and that word decides how to go on; so it never goes back. What is nested to any depth is read with a
bound on the depth, and a text is read if it is read under every bound that is large enough.

```
c0.a                   <> :p0          comparison
c0.a                   in (:p0,:p1)    membership
c0.a                   in (SELECT …)   subquery
(  1 = 0  1 = 1  EXISTS (  NOT EXISTS (
```
-/

namespace EntityQuery

/-! ### Where names and numbers end -/

/-- Nothing goes on an identifier or a number at the beginning of a text. -/
def Stops (text : List Char) : Prop := ∀ c ∈ text.head?, isNameChar c = false

theorem stops_nil : Stops [] := nofun

theorem stops_word {s : String} {text : List Char}
    (h : s.toList.head?.any (!isNameChar ·) = true) : Stops (s.toList ++ text) := by
  cases hs : s.toList with
  | nil => rw [hs] at h; cases h
  | cons c cs =>
    rw [hs] at h
    intro d hd
    obtain rfl : c = d := Option.some.inj hd
    simpa using h

/-! ### Words -/

/-- A reader of the front of a text. -/
abbrev Reader (α : Type) := StateT (List Char) Option α

namespace Reader

open Skeleton

variable {α β : Type} {text rest : List Char}

theorem bind_eq {x : Reader α} {f : α → Reader β} {a : α} {mid : List Char}
    (h : x text = some (a, mid)) : (x >>= f) text = f a mid := by
  change (x text).bind _ = _
  rw [h]
  rfl

theorem isPrefixOf?_append (rest : List Char) : ∀ s : List Char,
    s.isPrefixOf? (s ++ rest) = some rest
  | [] => rfl
  | c :: cs => by
    change (if c == c then cs.isPrefixOf? (cs ++ rest) else none) = some rest
    rw [if_pos (beq_self_eq_true c), isPrefixOf?_append rest cs]

/-- Reads a word. -/
def word (s : String) : Reader Unit := fun text => (s.toList.isPrefixOf? text).map ((), ·)

theorem word_append (s : String) (rest : List Char) :
    word s (s.toList ++ rest) = some ((), rest) := by
  rw [word, isPrefixOf?_append]
  rfl

/-- Goes on as the first of some words says that the text begins with, or else without a word. -/
def choose : List (String × Reader α) → Reader α → Reader α
  | [], otherwise => otherwise
  | (s, read) :: others, otherwise => fun text =>
    match s.toList.isPrefixOf? text with
    | some rest => read rest
    | none => choose others otherwise text

section

variable (s : String) (read : Reader α) (others : List (String × Reader α)) (otherwise : Reader α)

theorem choose_append :
    choose ((s, read) :: others) otherwise (s.toList ++ rest) = read rest := by
  change (match s.toList.isPrefixOf? (s.toList ++ rest) with
    | some rest => read rest
    | none => choose others otherwise (s.toList ++ rest)) = read rest
  rw [isPrefixOf?_append]

theorem choose_skip (h : s.toList.isPrefixOf? text = none) :
    choose ((s, read) :: others) otherwise text = choose others otherwise text := by
  change (match s.toList.isPrefixOf? text with
    | some rest => read rest
    | none => choose others otherwise text) = choose others otherwise text
  rw [h]

end

/-! ### Numbers and names -/

/-- Reads as many characters of a kind as there are, but at least one. -/
def run (p : Char → Bool) : Reader (List Char) := fun text =>
  match text.takeWhile p with
  | [] => none
  | c :: cs => some (c :: cs, text.dropWhile p)

theorem run_append {p : Char → Bool} {letters : List Char} (hne : letters ≠ [])
    (hp : ∀ c ∈ letters, p c = true) (hrest : ∀ c ∈ rest.head?, p c = false) :
    run p (letters ++ rest) = some (letters, rest) := by
  have hstop : rest.takeWhile p = [] ∧ rest.dropWhile p = rest := by
    cases rest with
    | nil => exact ⟨rfl, rfl⟩
    | cons c cs => simp [hrest c rfl]
  unfold run
  rw [List.takeWhile_append_of_pos hp, List.dropWhile_append_of_pos hp, hstop.1, hstop.2,
    List.append_nil]
  cases letters with
  | nil => exact absurd rfl hne
  | cons c cs => rfl

/-- Reads a decimal number. -/
def number : Reader Nat := do return Nat.ofDigitChars 10 (← run Char.isDigit) 0

theorem number_append (n : Nat) (hrest : Stops rest) :
    number (Nat.toDigits 10 n ++ rest) = some (n, rest) := by
  have hrun : run Char.isDigit (Nat.toDigits 10 n ++ rest) = some (Nat.toDigits 10 n, rest) := by
    refine run_append Nat.toDigits_ne_nil (fun c hc => ?_) fun c hc => ?_
    · exact Nat.isDigit_of_mem_toDigits (by omega) (by omega) hc
    · have hstop := hrest c hc
      rw [isNameChar, Char.isAlphanum] at hstop
      simp only [Bool.or_eq_false_iff] at hstop
      exact hstop.1.2
  rw [number, bind_eq hrun, Nat.ofDigitChars_ten_toDigits]
  rfl

/-- Reads an alias. -/
def aliasOf : Reader Alias := do
  word "c"
  number

theorem aliasOf_append (a : Alias) (hrest : Stops rest) :
    aliasOf ("c".toList ++ (Nat.toDigits 10 a ++ rest)) = some (a, rest) :=
  (bind_eq (word_append ..)).trans (number_append a hrest)

/-- Reads a name. -/
def name : Reader String := do return String.ofList (← run isNameChar)

theorem name_append {s : String} (hs : Text.isAsciiIdentifier s.toList) (hrest : Stops rest) :
    name (s.toList ++ rest) = some (s, rest) := by
  have hrun : run isNameChar (s.toList ++ rest) = some (s.toList, rest) := by
    refine run_append (fun hnil => ?_) (isNameChar_of_isAsciiIdentifier hs) hrest
    rw [hnil] at hs
    cases hs
  rw [name, bind_eq hrun, String.ofList_toList]
  rfl

/-- Reads a column after the first character of its alias. -/
def columnAfter : Reader Column := do
  let owner ← number
  word "."
  let name ← name
  return ⟨owner, name⟩

/-- Reads a column. -/
def column : Reader Column := do
  word "c"
  columnAfter

/-! ### Conditions without a subquery -/

/-- Reads the right-hand side of a comparison. -/
def right : Reader Right :=
  choose [(" :p", do let _ ← number; return .value), (" c", do return .field (← columnAfter))]
    (pure .none)

/-- Reads what follows the comparison of a column. -/
def comparison (column : Column) (op : CompareOp) : Reader Condition := do
  return .comparison column op (← right)

/-- Reads the places of the members of a list, and counts them. -/
def members : Nat → Reader Nat
  | 0 => failure
  | depth + 1 => do
    word ":p"
    let _ ← number
    choose [(",", do return (← members depth) + 1)] (pure 1)

/-- Reads the members of a list up to its end. -/
def membership (depth : Nat) (column : Column) (negated : Bool) : Reader Condition := do
  let count ← members depth
  word ")"
  return .membership column negated count

/-! ### Scopes

What a scope has inside it is read by readers for its joins and conditions. -/

/-- Reads conditions after a word, if it is there. -/
def introduced (s : String) (conditions : Reader Conditions) : Reader Conditions :=
  choose [(s, conditions)] (pure .none)

/-- Reads a group after its opening parenthesis. -/
def group (conditions : Reader Conditions) : Reader Condition := do
  let inner ← conditions
  word ")"
  return .group inner

/-- Reads a subquery from what it selects. -/
def subselect (select : Reader α) (source : Reader β) (joins : Alias → Reader Joins)
    (conditions : Reader Conditions) (make : α → β → Alias → Joins → Conditions → Condition) :
    Reader Condition := do
  let selected ← select
  word " FROM "
  let origin ← source
  word " "
  let index ← aliasOf
  let joined ← joins index
  let filter ← introduced " WHERE " conditions
  word ")"
  return make selected origin index joined filter

/-- Reads an existence condition after its keywords. -/
def existence (negated : Bool) (joins : Alias → Reader Joins) (conditions : Reader Conditions) :
    Reader Condition :=
  subselect aliasOf column joins conditions fun _ source => .existence negated source

/-- Reads a membership in a subquery after its keywords. -/
def inSubquery (member : Column) (negated : Bool) (joins : Alias → Reader Joins)
    (conditions : Reader Conditions) : Reader Condition :=
  subselect column name joins conditions fun select table index =>
    .inSubquery member negated table index select

/-- Reads what is said about a column. Of two words that begin alike, the longer one stands first. -/
def about (column : Column) (depth : Nat) (joins : Alias → Reader Joins)
    (conditions : Reader Conditions) : Reader Condition :=
  choose [
    (" in (SELECT ", inSubquery column false joins conditions),
    (" not in (SELECT ", inSubquery column true joins conditions),
    (" in (", membership depth column false),
    (" not in (", membership depth column true),
    (" is null", comparison column .isNull),
    (" is not null", comparison column .notNull),
    (" like", comparison column .like),
    (" not like", comparison column .notLike),
    (" <>", comparison column .notEq),
    (" <=", comparison column .le),
    (" <", comparison column .lt),
    (" >=", comparison column .ge),
    (" >", comparison column .gt),
    (" =", comparison column .eq)] failure

/-- Reads a condition and those after it. -/
def first (condition : Reader Condition) (more : Reader More) : Reader Conditions := do
  let first ← condition
  let more ← more
  return .first first more

/-- Reads a tied condition and those after it. -/
def next (condition : Reader Condition) (more : Reader More) (tie : Connector) : Reader More := do
  let next ← condition
  let more ← more
  return .next tie next more

/-- Reads the beginning of a join up to the number of the instance that it starts from. -/
def joinStart : Reader (Option (JoinKind × Alias)) :=
  choose [
    (" JOIN c", do return some (.inner, ← number)),
    (" LEFT JOIN c", do return some (.left, ← number)),
    (" JOIN FETCH c", do return some (.fetch, ← number)),
    (" LEFT JOIN FETCH c", do return some (.leftFetch, ← number))] (pure none)

/-- Reads a join from the column that it follows, and the joins after it. -/
def joinRest (kind : JoinKind) (scope : Alias) (joins : Alias → Reader Joins)
    (conditions : Reader Conditions) : Reader Joins := do
  word "."
  let column ← name
  word " "
  let index ← aliasOf
  let on ← introduced " ON " conditions
  let inner ← joins index
  let rest ← joins scope
  return .join kind ⟨scope, column⟩ index on inner rest

mutual

/-- Reads a condition. -/
def condition : Nat → Reader Condition
  | 0 => failure
  | depth + 1 =>
    choose [
      ("c", do
        let column ← columnAfter
        about column depth (joins depth) (conditions depth)),
      ("(", group (conditions depth)),
      ("1 = 1", pure (.constant true)),
      ("1 = 0", pure (.constant false)),
      ("EXISTS (SELECT ", existence false (joins depth) (conditions depth)),
      ("NOT EXISTS (SELECT ", existence true (joins depth) (conditions depth))] failure

/-- Reads the conditions of a scope that has some. -/
def conditions : Nat → Reader Conditions
  | 0 => failure
  | depth + 1 => first (condition depth) (more depth)

/-- Reads the conditions after one. -/
def more : Nat → Reader More
  | 0 => failure
  | depth + 1 =>
    choose [
      (" AND ", next (condition depth) (more depth) .and),
      (" OR ", next (condition depth) (more depth) .or)] (pure .done)

/-- Reads the joins that start from a scope. -/
def joins : Nat → Alias → Reader Joins
  | 0, _ => failure
  | depth + 1, scope => fun text =>
    match joinStart text with
    | some (some (kind, owner), rest) =>
      if owner = scope then joinRest kind scope (joins depth) (conditions depth) rest
      else some (.none, text)
    | _ => some (.none, text)

end

/-! ### Statements -/

/-- Reads orderings. -/
def orders : Nat → Reader (List (Column × Direction))
  | 0 => failure
  | depth + 1 => do
    let column ← column
    let direction ← choose [(" asc", pure .asc), (" desc", pure .desc)] failure
    choose [(", ", do return (column, direction) :: (← orders depth))] (pure [(column, direction)])

/-- Reads what is selected, an alias aside. -/
def selection : Reader (Projection × Bool) :=
  choose [
    ("count(DISTINCT c", do let _ ← number; word ")"; return (.count, true)),
    ("count(c", do let _ ← number; word ")"; return (.count, false)),
    ("DISTINCT c", do let _ ← number; return (.entity, true)),
    ("c", do let _ ← number; return (.entity, false))] failure

/-- Reads a statement. -/
def statement (depth : Nat) : Reader Skeleton := do
  word "SELECT "
  let (projection, distinct) ← selection
  word " FROM "
  let table ← name
  word " "
  let root ← aliasOf
  let joins ← joins depth root
  let conditions ← introduced " WHERE " (conditions depth)
  let orders ← choose [(" ORDER BY ", orders depth)] (pure [])
  return { projection, distinct, table, root, joins, conditions, orders }

end Reader

/-! ### Reading -/

/-- Under every large enough bound, a reader reads a value from the front of a text and leaves the
rest. -/
def Reads {α : Type} (read : Nat → Reader α) (text : List Char) (a : α) (rest : List Char) : Prop :=
  ∃ n, ∀ depth, n ≤ depth → read depth text = some (a, rest)

section

variable {α β : Type} {x y : Nat → Reader α} {f : Nat → α → Reader β} {a : α} {b : β}
  {text mid rest : List Char}

theorem Reads.of_eq {read : Reader α} (h : read text = some (a, rest)) :
    Reads (fun _ => read) text a rest := ⟨0, fun _ _ => h⟩

/-- A reader goes on as another one does. -/
theorem Reads.as (h : Reads y mid a rest) (heq : ∀ depth, x depth text = y depth mid) :
    Reads x text a rest := by
  obtain ⟨n, hn⟩ := h
  exact ⟨n, fun depth hdepth => (heq depth).trans (hn depth hdepth)⟩

/-- A reader goes on as another one does under the next smaller bound. -/
theorem Reads.deeper (h : Reads y mid a rest) (heq : ∀ depth, x (depth + 1) text = y depth mid) :
    Reads x text a rest := by
  obtain ⟨n, hn⟩ := h
  refine ⟨n + 1, fun depth hdepth => ?_⟩
  obtain ⟨depth, rfl⟩ := Nat.exists_eq_add_of_le' (Nat.le_of_add_left_le hdepth)
  exact (heq depth).trans (hn depth (Nat.le_of_succ_le_succ hdepth))

/-- Two values are read one after the other. -/
theorem Reads.bind (h : Reads x text a mid) (hf : Reads (fun depth => f depth a) mid b rest) :
    Reads (fun depth => x depth >>= f depth) text b rest := by
  obtain ⟨n, hn⟩ := h
  obtain ⟨k, hk⟩ := hf
  exact ⟨max n k, fun depth hdepth =>
    (Reader.bind_eq (hn depth (by omega))).trans (hk depth (by omega))⟩

/-- A text is read in one way only. -/
theorem Reads.unique (h : Reads x text a mid) {a' : α} (h' : Reads x text a' rest) :
    a = a' ∧ mid = rest := by
  obtain ⟨n, hn⟩ := h
  obtain ⟨k, hk⟩ := h'
  have heq := (hn (max n k) (by omega)).symm.trans (hk (max n k) (by omega))
  exact Prod.ext_iff.mp (Option.some.inj heq)

theorem reads_pure (a : α) (text : List Char) : Reads (fun _ => pure a) text a text :=
  .of_eq rfl

end

end EntityQuery
