import Mathlib.Data.List.Nodup
import Conversion.KeyMap

/-!
# The items of a map

A map has one item for each of its keys and no more, so the items of its list are what look-ups
answer. Two maps that have the same keys are of one size, whatever their items and the order in
which the keys arrived.
-/

namespace Conversion

namespace KeyMap

variable {α : Type} {key : TypeKey} {item : α}

theorem lookup_eq_some_iff {items : List (TypeKey × α)}
    (nodup : (items.map Prod.fst).Nodup) :
    lookup key items = some item ↔ (key, item) ∈ items := by
  induction items with
  | nil => simp [lookup]
  | cons head rest ih =>
      rcases head with ⟨own, held⟩
      rw [List.map_cons, List.nodup_cons] at nodup
      rw [lookup, List.mem_cons, Prod.mk.injEq]
      split
      · next same =>
          subst same
          have notLater : (own, item) ∉ rest := by
            intro later
            exact nodup.1 (List.mem_map.mpr ⟨(own, item), later, rfl⟩)
          constructor
          · intro hit
            exact Or.inl ⟨rfl, (Option.some.inj hit).symm⟩
          · rintro (⟨_, rfl⟩ | later)
            · rfl
            · exact absurd later notLater
      · next differ =>
          rw [ih nodup.2]
          constructor
          · exact Or.inr
          · rintro (⟨same, _⟩ | later)
            · exact absurd same.symm differ
            · exact later

theorem mem_toList_iff {map : KeyMap α} : (key, item) ∈ map.toList ↔ map.find? key = some item :=
  (lookup_eq_some_iff map.nodup).symm

theorem mem_keys_iff {map : KeyMap α} : key ∈ map.keys ↔ (map.find? key).isSome = true := by
  rw [Option.isSome_iff_exists, keys, List.mem_map]
  constructor
  · rintro ⟨⟨own, item⟩, held, rfl⟩
    exact ⟨item, mem_toList_iff.mp held⟩
  · rintro ⟨item, found⟩
    exact ⟨(key, item), mem_toList_iff.mpr found, rfl⟩

theorem nodup_keys (map : KeyMap α) : map.keys.Nodup :=
  map.nodup

/-- Maps with the same keys are of one size. -/
theorem size_congr {left right : KeyMap α} (same : ∀ key, left.find? key = right.find? key) :
    left.size = right.size := by
  have permuted : left.keys.Perm right.keys := by
    apply (List.perm_ext_iff_of_nodup left.nodup_keys right.nodup_keys).mpr
    intro key
    rw [mem_keys_iff, mem_keys_iff, same]
  have sameLength := permuted.length_eq
  rwa [keys, keys, List.length_map, List.length_map] at sameLength

end KeyMap

end Conversion
