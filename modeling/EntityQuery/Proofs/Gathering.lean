import EntityQuery.Declaration.Derivation
import EntityQuery.Error
import Mathlib.Data.List.Basic

/-!
Gathering: what the attributes of a declaration set. Only the items of entity attributes count, one
after the other; how they are spread over attributes does not. Of the texts given for one path the last
is what is set, and a field is skipped if any item says so.

```
#[entity(column = "a")] #[serde(..)] #[entity(skip, column = "b")]
column = "a", skip, column = "b"      →      column b, no temporal kind, skipped
```
-/

namespace EntityQuery.Declaration

/-! ### Items -/

/-- The items of an attribute that concerns entities. One without a list counts as an item that is
malformed. -/
def Attribute.elements : Attribute → List Item
  | .entity items => items
  | .bare => [.malformed]
  | .foreign => []

/-- The items of attributes, in order. -/
def itemsOf (attributes : List Attribute) : List Item := attributes.flatMap Attribute.elements

/-- The text that an item gives for a path. -/
def Item.text? (path : String) : Item → Option String
  | .entry p (.text s) => if p = path then some s else none
  | _ => none

/-- The last text that items give for a path. -/
def lastText? (path : String) (items : List Item) : Option String :=
  (items.filterMap (·.text? path)).getLast?

/-- The item that says that a field is skipped. -/
def Item.skip : Item := .entry "skip" .absent

theorem lastText?_concat (path : String) (items : List Item) (item : Item) :
    lastText? path (items ++ [item]) = (item.text? path).or (lastText? path items) := by
  have hlast : [item].filterMap (·.text? path) = (item.text? path).toList := by
    cases h : item.text? path <;> simp [h]
  rw [lastText?, List.filterMap_append, hlast, List.getLast?_append, ← lastText?]
  cases item.text? path <;> rfl

theorem itemsOf_entity (items : List Item) : itemsOf [.entity items] = items :=
  List.append_nil items

/-- Gathering goes through the items one by one. -/
theorem gather_eq_foldlM {α : Type} {set : α → Item → Except DeclarationError α}
    (hset : ∀ settings, set settings .malformed = .error .malformed) :
    ∀ (attributes : List Attribute) (settings : α),
      gather set settings attributes = (itemsOf attributes).foldlM set settings
  | [], _ => rfl
  | first :: rest, settings => by
    have hfirst : (do let items ← first.items; items.foldlM set settings) =
        first.elements.foldlM set settings := by
      cases first with
      | entity items => rfl
      | foreign => rfl
      | bare =>
        change _ = (set settings .malformed >>= _)
        rw [hset]
        rfl
    rw [itemsOf, List.flatMap_cons, List.foldlM_append, ← hfirst, gather, bind_assoc]
    exact bind_congr fun _ => bind_congr fun settings' => gather_eq_foldlM hset rest settings'

/-- What one item after the other keeps true of the settings holds in the end. -/
theorem foldlM_tells {α : Type} {set : α → Item → Except DeclarationError α}
    {Tells : α → List Item → Prop}
    (hstep : ∀ settings items item settings', Tells settings items →
      set settings item = .ok settings' → Tells settings' (items ++ [item])) :
    ∀ (items before : List Item) {settings settings' : α}, Tells settings before →
      items.foldlM set settings = .ok settings' → Tells settings' (before ++ items)
  | [], before, _, _, hbefore, h => by
    cases h
    rwa [List.append_nil]
  | item :: items, before, settings, _, hbefore, h => by
    obtain ⟨next, hnext, h⟩ := bind_ok h
    have ih := foldlM_tells hstep items (before ++ [item]) (hstep _ _ _ _ hbefore hnext) h
    rwa [List.append_assoc] at ih

section

variable {α : Type} {set : α → Item → Except DeclarationError α} {start : α}

/-- Gathering attributes tells what their items say, if each step does. -/
theorem gather_tells (hset : ∀ settings, set settings .malformed = .error .malformed)
    {Tells : α → List Item → Prop} (hstart : Tells start [])
    (hstep : ∀ settings items item settings', Tells settings items →
      set settings item = .ok settings' → Tells settings' (items ++ [item]))
    {attributes : List Attribute} {settings : α} (h : gather set start attributes = .ok settings) :
    Tells settings (itemsOf attributes) := by
  rw [gather_eq_foldlM hset] at h
  exact foldlM_tells hstep (itemsOf attributes) [] hstart h

/-- Attributes of the same items gather to the same. -/
theorem gather_congr (hset : ∀ settings, set settings .malformed = .error .malformed)
    {attributes others : List Attribute} (h : itemsOf attributes = itemsOf others) :
    gather set start attributes = gather set start others := by
  rw [gather_eq_foldlM hset, gather_eq_foldlM hset, h]

end

/-- A text that is asked for is there, and used. -/
theorem ItemValue.text?_map_ok {α : Type} {value : ItemValue} {f : String → α} {a : α}
    (h : value.text?.map f = .ok a) : ∃ s, value = .text s ∧ a = f s := by
  cases value with
  | text s =>
    cases h
    exact ⟨s, rfl, rfl⟩
  | absent => cases h
  | other => cases h

/-! ### The settings of a field -/

/-- What is set for a field by the items that have been gathered. -/
structure FieldSettings.Tells (settings : FieldSettings) (items : List Item) : Prop where
  column : settings.column = lastText? "column" items
  temporal : settings.temporal = lastText? "temporal" items
  skip : settings.skip ↔ .skip ∈ items

/-- An item of a field that is accepted gives a column or a temporal kind, or says that it is skipped. -/
theorem FieldSettings.set_ok {settings settings' : FieldSettings} {item : Item}
    (h : settings.set item = .ok settings') :
    (∃ s, item = .entry "column" (.text s) ∧ settings' = { settings with column := some s }) ∨
    (∃ s, item = .entry "temporal" (.text s) ∧ settings' = { settings with temporal := some s }) ∨
    (item = .skip ∧ settings' = { settings with skip := true }) := by
  cases item with
  | malformed => cases h
  | entry path value =>
    unfold FieldSettings.set at h
    dsimp only at h
    split at h
    next hpath =>
      obtain ⟨s, rfl, rfl⟩ := ItemValue.text?_map_ok h
      exact .inl ⟨s, by rw [hpath], rfl⟩
    next =>
      split at h
      next hpath =>
        obtain ⟨s, rfl, rfl⟩ := ItemValue.text?_map_ok h
        exact .inr (.inl ⟨s, by rw [hpath], rfl⟩)
      next =>
        split at h
        next hpath =>
          split at h
          next hvalue =>
            cases h
            exact .inr (.inr ⟨by rw [hpath, hvalue, Item.skip], rfl⟩)
          next => cases h
        next => cases h

theorem FieldSettings.Tells.add {settings settings' : FieldSettings} {items : List Item} {item : Item}
    (h : settings.Tells items) (hset : settings.set item = .ok settings') :
    settings'.Tells (items ++ [item]) := by
  rcases FieldSettings.set_ok hset with ⟨s, rfl, rfl⟩ | ⟨s, rfl, rfl⟩ | ⟨rfl, rfl⟩
  · refine ⟨?_, ?_, ?_⟩
    · simp [lastText?_concat, Item.text?]
    · simp [lastText?_concat, Item.text?, h.temporal]
    · simp [Item.skip, h.skip]
  · refine ⟨?_, ?_, ?_⟩
    · simp [lastText?_concat, Item.text?, h.column]
    · simp [lastText?_concat, Item.text?]
    · simp [Item.skip, h.skip]
  · refine ⟨?_, ?_, ?_⟩
    · simp [lastText?_concat, Item.text?, Item.skip, h.column]
    · simp [lastText?_concat, Item.text?, Item.skip, h.temporal]
    · simp

/-- Gathering the attributes of a field tells what their items say. -/
theorem FieldSettings.tells_gather {attributes : List Attribute} {settings : FieldSettings}
    (h : gather FieldSettings.set {} attributes = .ok settings) : settings.Tells (itemsOf attributes) := by
  have hnone : ({} : FieldSettings).Tells [] := ⟨rfl, rfl, by simp⟩
  exact gather_tells (fun _ => rfl) hnone (fun _ _ _ _ => FieldSettings.Tells.add) h

/-! ### The settings of an item -/

/-- What is set for a declared item by the items that have been gathered. -/
structure EntitySettings.Tells (settings : EntitySettings) (items : List Item) : Prop where
  name : settings.name = lastText? "name" items
  table : settings.table = lastText? "table" items

/-- An item that is accepted gives a name or a table. -/
theorem EntitySettings.set_ok {settings settings' : EntitySettings} {item : Item}
    (h : settings.set item = .ok settings') :
    (∃ s, item = .entry "name" (.text s) ∧ settings' = { settings with name := some s }) ∨
    (∃ s, item = .entry "table" (.text s) ∧ settings' = { settings with table := some s }) := by
  cases item with
  | malformed => cases h
  | entry path value =>
    unfold EntitySettings.set at h
    dsimp only at h
    split at h
    next hpath =>
      obtain ⟨s, rfl, rfl⟩ := ItemValue.text?_map_ok h
      exact .inl ⟨s, by rw [hpath], rfl⟩
    next =>
      split at h
      next hpath =>
        obtain ⟨s, rfl, rfl⟩ := ItemValue.text?_map_ok h
        exact .inr ⟨s, by rw [hpath], rfl⟩
      next => cases h

theorem EntitySettings.Tells.add {settings settings' : EntitySettings} {items : List Item} {item : Item}
    (h : settings.Tells items) (hset : settings.set item = .ok settings') :
    settings'.Tells (items ++ [item]) := by
  rcases EntitySettings.set_ok hset with ⟨s, rfl, rfl⟩ | ⟨s, rfl, rfl⟩
  · constructor
    · simp [lastText?_concat, Item.text?]
    · simp [lastText?_concat, Item.text?, h.table]
  · constructor
    · simp [lastText?_concat, Item.text?, h.name]
    · simp [lastText?_concat, Item.text?]

theorem EntitySettings.tells_gather {attributes : List Attribute} {settings : EntitySettings}
    (h : gather EntitySettings.set {} attributes = .ok settings) :
    settings.Tells (itemsOf attributes) := by
  have hnone : ({} : EntitySettings).Tells [] := ⟨rfl, rfl⟩
  exact gather_tells (fun _ => rfl) hnone (fun _ _ _ _ => EntitySettings.Tells.add) h

end EntityQuery.Declaration
