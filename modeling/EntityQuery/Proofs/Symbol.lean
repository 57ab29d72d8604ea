import EntityQuery.Proofs.Binding
import EntityQuery.Proofs.Wording

/-!
Symbols: what a query text says under all conventions alike. A statement is composed of words, of
tables and columns of the mapping, of aliases and of places for values, and a column always stands
behind its alias and a separator. Conventions come in last: each of them spells the same symbols one
by one, so no part of a text can miss a convention that another part follows.

```
symbols:     SELECT  alias 0  FROM  person  alias 0  WHERE  alias 0 · name  =  place 0
defaults:    SELECT  c0       FROM  person  c0       WHERE  c0.name        =  :p0
others:      SELECT  t0       FROM  person  t0       WHERE  t0->name       =  @arg0
```
-/

namespace EntityQuery

/-! ### Symbols -/

/-- An element of a query text under any conventions. -/
inductive Symbol where
  /-- A keyword with its blanks, or punctuation. -/
  | word (s : String)
  | table (s : String)
  | column (s : String)
  /-- An entity instance. -/
  | aliasOf (a : Alias)
  /-- What stands between an alias and a column. -/
  | separator
  /-- The place of the value with a number. -/
  | placeholder (i : Nat)

/-- The spelling of a symbol. -/
def Symbol.spell (c : Conventions) : Symbol → String
  | .word s | .table s | .column s => s
  | .aliasOf a => c.aliasStem ++ toString a
  | .separator => c.separator.toString
  | .placeholder i => c.parameterMark ++ (c.parameterStem ++ toString i)

/-- The number of a place. -/
def Symbol.number? : Symbol → Option Nat
  | .placeholder i => some i
  | _ => none

/-- Symbols as they stand in a text under a mapping: words are of the vocabulary, tables and columns
are names that the mapping gives, and a separator stands between an alias and a column, and only
there. -/
inductive Regular (m : Mapping) : List Symbol → Prop
  | nil : Regular m []
  | word {s : String} {rest : List Symbol} : s ∈ vocabulary → Regular m rest →
      Regular m (.word s :: rest)
  | table {entity : EntityModel} {s : String} {rest : List Symbol} : m.table? entity = some s →
      Regular m rest → Regular m (.table s :: rest)
  | field {f : ScopedField} {s : String} {rest : List Symbol} : m.column? f.descriptor = some s →
      Regular m rest → Regular m (.aliasOf f.owner :: .separator :: .column s :: rest)
  | aliasOf (a : Alias) {rest : List Symbol} : Regular m rest → Regular m (.aliasOf a :: rest)
  | placeholder (i : Nat) {rest : List Symbol} : Regular m rest → Regular m (.placeholder i :: rest)

/-- Composed pieces are symbols spelled one by one, and their places are numbered on. -/
theorem Composed.symbols {m : Mapping} {xs : List Piece} (h : Composed vocabulary m xs) : ∀ i,
    ∃ symbols, Regular m symbols ∧
      symbols.filterMap Symbol.number? = List.range' i (Piece.bindings xs).length ∧
      ∀ c, Piece.spellFrom c i xs = String.join (symbols.map (Symbol.spell c)) := by
  induction h with
  | nil => exact fun i => ⟨[], .nil, rfl, fun c => rfl⟩
  | @word s rest hs _ ih =>
    intro i
    obtain ⟨symbols, hregular, hnumbers, hspell⟩ := ih i
    refine ⟨.word s :: symbols, .word hs hregular, hnumbers, fun c => ?_⟩
    rw [Piece.spellFrom, hspell, List.map_cons, String.join_cons]
    rfl
  | @table entity s rest hs _ ih =>
    intro i
    obtain ⟨symbols, hregular, hnumbers, hspell⟩ := ih i
    refine ⟨.table s :: symbols, .table hs hregular, hnumbers, fun c => ?_⟩
    rw [Piece.spellFrom, hspell, List.map_cons, String.join_cons]
    rfl
  | @field f s rest hs _ ih =>
    intro i
    obtain ⟨symbols, hregular, hnumbers, hspell⟩ := ih i
    refine ⟨.aliasOf f.owner :: .separator :: .column s :: symbols, .field hs hregular, hnumbers,
      fun c => ?_⟩
    simp only [Piece.spellFrom, hspell, List.map_cons, String.join_cons]
    rfl
  | @aliasOf a rest _ ih =>
    intro i
    obtain ⟨symbols, hregular, hnumbers, hspell⟩ := ih i
    refine ⟨.aliasOf a :: symbols, .aliasOf a hregular, hnumbers, fun c => ?_⟩
    rw [Piece.spellFrom, hspell, List.map_cons, String.join_cons]
    rfl
  | @slot b rest _ ih =>
    intro i
    obtain ⟨symbols, hregular, hnumbers, hspell⟩ := ih (i + 1)
    refine ⟨.placeholder i :: symbols, .placeholder i hregular, ?_, fun c => ?_⟩
    · exact congrArg (i :: ·) hnumbers
    · rw [Piece.spellFrom, hspell, List.map_cons, String.join_cons]
      rfl

/-- A statement is composed of the vocabulary of query texts. -/
theorem Query.statement_words {m : Mapping} {q : Query} {pieces : List Piece}
    (h : q.statement m = .ok pieces) : Composed vocabulary m pieces := by
  obtain ⟨front, clause, rfl, hfront, -, hclause⟩ := statement_composed h
  exact (hfront.mono (List.subset_append_left _ _)).append
    (hclause.mono (List.subset_append_right _ _))

/-! ### Conventions -/

/-- A text that is compared by pattern stands between wildcards. -/
theorem Binding.spell_pattern {b : Binding} {s : String} (hpattern : b.pattern = true)
    (hvalue : b.value = .text s) (c : Conventions) :
    b.spell c = .text (c.wildcard ++ s ++ c.wildcard) := by
  rw [spell, hpattern, hvalue]
  rfl

/-- Anything else is bound as it is. -/
theorem Binding.spell_plain {b : Binding} (h : b.pattern = true → ∀ s, b.value ≠ .text s)
    (c : Conventions) : b.spell c = b.value := by
  obtain ⟨value, temporal, pattern⟩ := b
  cases pattern with
  | false => rfl
  | true =>
    cases value with
    | text s => exact absurd rfl (h rfl s)
    | _ => rfl

/-- What a parameter under one of two conventions has in common with the one under the other. -/
theorem Piece.parameters_correspond (c c' : Conventions) (bs : List Binding) {i : Nat}
    {p p' : Parameter} (hp : (parametersFrom c 0 bs)[i]? = some p)
    (hp' : (parametersFrom c' 0 bs)[i]? = some p') : ∃ b, bs[i]? = some b ∧
      (∀ s, b.pattern = true → b.value = .text s →
        p.value = .text (c.wildcard ++ s ++ c.wildcard) ∧
        p'.value = .text (c'.wildcard ++ s ++ c'.wildcard)) ∧
      ((b.pattern = true → ∀ s, b.value ≠ .text s) → p.value = b.value ∧ p'.value = b.value) := by
  rw [parametersFrom_getElem?] at hp hp'
  obtain ⟨b, hb, rfl⟩ := Option.map_eq_some_iff.mp hp
  obtain ⟨b', hb', rfl⟩ := Option.map_eq_some_iff.mp hp'
  obtain rfl : b = b' := Option.some.inj (hb.symm.trans hb')
  exact ⟨b, hb, fun s hpattern hvalue => ⟨b.spell_pattern hpattern hvalue c,
    b.spell_pattern hpattern hvalue c'⟩, fun h => ⟨b.spell_plain h c, b.spell_plain h c'⟩⟩

/-- SYMBOLS: a query and a mapping either fail under all conventions with one error, or have one
sequence of symbols whose spellings, one after the other, are the text under any conventions. Every
column in it stands behind its alias and a separator, and the places are numbered from zero on.
Under any two conventions there are as many parameters, with the same temporal kinds. A text that is
compared by pattern stands between the wildcards of each, and any other value is bound as it is. -/
theorem texts_spell_one_sequence (m : Mapping) (q : Query) :
    (∃ e, ∀ c, Renderer.render ⟨c, m⟩ q = .error e) ∨
    ∃ symbols : List Symbol, Regular m symbols ∧
      symbols.filterMap Symbol.number? = List.range q.bound.length ∧
      (∀ c, ∃ rendered, Renderer.render ⟨c, m⟩ q = .ok rendered ∧
        rendered.text = String.join (symbols.map (Symbol.spell c))) ∧
      ∀ c c' rendered rendered', Renderer.render ⟨c, m⟩ q = .ok rendered →
        Renderer.render ⟨c', m⟩ q = .ok rendered' →
        rendered.parameters.length = rendered'.parameters.length ∧
        rendered.parameters.map (·.temporal) = rendered'.parameters.map (·.temporal) ∧
        ∀ (i : Nat) (p p' : Parameter), rendered.parameters[i]? = some p →
          rendered'.parameters[i]? = some p' → ∃ b, q.bound[i]? = some b ∧
            (∀ s, b.pattern = true → b.value = .text s →
              p.value = .text (c.wildcard ++ s ++ c.wildcard) ∧
              p'.value = .text (c'.wildcard ++ s ++ c'.wildcard)) ∧
            ((b.pattern = true → ∀ s, b.value ≠ .text s) →
              p.value = b.value ∧ p'.value = b.value) := by
  cases hstatement : q.statement m with
  | error e =>
    refine .inl ⟨e, fun c => ?_⟩
    rw [Renderer.render_eq, hstatement]
    rfl
  | ok pieces =>
    have hrender : ∀ c, Renderer.render ⟨c, m⟩ q = .ok (Piece.render c q.page pieces) := by
      intro c
      rw [Renderer.render_eq, hstatement]
      rfl
    have hbound := Query.statement_bindings hstatement
    obtain ⟨symbols, hregular, hnumbers, hspell⟩ := (Query.statement_words hstatement).symbols 0
    rw [hbound, ← List.range_eq_range'] at hnumbers
    refine .inr ⟨symbols, hregular, hnumbers, fun c => ⟨_, hrender c, hspell c⟩, ?_⟩
    intro c c' rendered rendered' hr hr'
    rw [hrender, Except.ok.injEq] at hr hr'
    subst hr hr'
    simp only [Piece.render, hbound]
    refine ⟨?_, ?_, fun i p p' => Piece.parameters_correspond c c' q.bound⟩
    · rw [Piece.parametersFrom_length, Piece.parametersFrom_length]
    · have hkinds : ∀ c, (Piece.parametersFrom c 0 q.bound).map (·.temporal) =
          q.bound.map (·.temporal) := by
        intro c
        have hboth := congrArg (List.map Prod.snd) (Piece.parametersFrom_eq_map c q.bound 0)
        rw [List.map_map, List.map_map] at hboth
        exact hboth
      rw [hkinds, hkinds]

end EntityQuery
