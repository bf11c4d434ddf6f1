import Conversion.TypeKey

/-!
# Maps keyed by types

A `KeyMap` is a list of keyed items without a repeated key, in the order in which the keys first
arrived. Inserting under a known key replaces the item in place. Everything a map answers is stated
through `find?`.
-/

namespace Conversion

/-- A finite map from types, in order of arrival. -/
structure KeyMap (α : Type) where
  toList : List (TypeKey × α)
  nodup : (toList.map Prod.fst).Nodup

namespace KeyMap

variable {α : Type}

/-- The map without items. -/
def empty : KeyMap α :=
  ⟨[], List.nodup_nil⟩

instance : EmptyCollection (KeyMap α) :=
  ⟨empty⟩

instance : Inhabited (KeyMap α) :=
  ⟨empty⟩

/-- The keys in order of arrival. -/
def keys (map : KeyMap α) : List TypeKey :=
  map.toList.map Prod.fst

/-- Number of items. -/
def size (map : KeyMap α) : Nat :=
  map.toList.length

/-- The item under a key of a list of keyed items. -/
def lookup (key : TypeKey) : List (TypeKey × α) → Option α
  | [] => none
  | (own, item) :: rest => if own = key then some item else lookup key rest

/-- The item under a key. -/
def find? (map : KeyMap α) (key : TypeKey) : Option α :=
  lookup key map.toList

/-- Whether a key has an item. -/
def contains (map : KeyMap α) (key : TypeKey) : Bool :=
  (map.find? key).isSome

/-- Puts an item under a key of a list, in place when the key is there and at the end when not. -/
def put (key : TypeKey) (item : α) : List (TypeKey × α) → List (TypeKey × α)
  | [] => [(key, item)]
  | (own, old) :: rest =>
      if own = key then (own, item) :: rest else (own, old) :: put key item rest

theorem mem_keys_put {key other : TypeKey} {item : α} {items : List (TypeKey × α)} :
    other ∈ (put key item items).map Prod.fst ↔ other = key ∨ other ∈ items.map Prod.fst := by
  induction items with
  | nil => simp [put]
  | cons head rest ih =>
      rcases head with ⟨own, old⟩
      by_cases same : own = key
      · simp [put, same]
      · simp only [put, same, if_false, List.map_cons, List.mem_cons, ih]
        exact or_left_comm

theorem nodup_put {key : TypeKey} {item : α} {items : List (TypeKey × α)}
    (nodup : (items.map Prod.fst).Nodup) : ((put key item items).map Prod.fst).Nodup := by
  induction items with
  | nil => simp [put]
  | cons head rest ih =>
      rcases head with ⟨own, old⟩
      by_cases same : own = key
      · rw [put, if_pos same]
        exact nodup
      · rw [List.map_cons, List.nodup_cons] at nodup
        rw [put, if_neg same, List.map_cons, List.nodup_cons, mem_keys_put]
        exact ⟨fun member => member.elim same nodup.1, ih nodup.2⟩

/-- The map with an item under a key, replacing the one that was there. -/
def insert (map : KeyMap α) (key : TypeKey) (item : α) : KeyMap α :=
  ⟨put key item map.toList, nodup_put map.nodup⟩

theorem lookup_put {key other : TypeKey} {item : α} {items : List (TypeKey × α)} :
    lookup other (put key item items) = if key = other then some item else lookup other items := by
  induction items with
  | nil => simp [put, lookup]
  | cons head rest ih =>
      rcases head with ⟨own, old⟩
      by_cases same : own = key
      · subst same
        by_cases hit : own = other <;> simp [put, lookup, hit]
      · by_cases hit : own = other
        · subst hit
          simp [put, lookup, same, Ne.symm same]
        · simp [put, lookup, same, hit, ih]

@[simp]
theorem find?_empty (key : TypeKey) : (∅ : KeyMap α).find? key = none :=
  rfl

theorem find?_insert (map : KeyMap α) (key other : TypeKey) (item : α) :
    (map.insert key item).find? other = if key = other then some item else map.find? other :=
  lookup_put

@[simp]
theorem find?_insert_self (map : KeyMap α) (key : TypeKey) (item : α) :
    (map.insert key item).find? key = some item := by
  simp [find?_insert]

end KeyMap

end Conversion
