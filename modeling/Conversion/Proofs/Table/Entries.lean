import Conversion.Table
import Conversion.Proofs.KeyMap

/-!
# The entries of a table

The list of entries has one entry for each pair with a converter and no more, so the size of a
table is the number of its pairs. Two tables that serve the same pairs are of one size, whatever
their converters and the order in which the entries arrived.
-/

namespace Conversion

namespace Table

variable {table : Table}

theorem mem_toList_iff {pair : TypePair} {converter : Converter} :
    (pair, converter) ∈ table.toList ↔
      table.find? pair.source pair.target = some converter := by
  simp only [toList, rowEntries, List.mem_flatMap, List.mem_map, find?, Option.bind_eq_some_iff]
  constructor
  · rintro ⟨⟨source, row⟩, rowMem, ⟨target, held⟩, entryMem, same⟩
    cases same
    exact ⟨row, KeyMap.mem_toList_iff.mp rowMem, KeyMap.mem_toList_iff.mp entryMem⟩
  · rintro ⟨row, rowFound, entryFound⟩
    exact ⟨(pair.source, row), KeyMap.mem_toList_iff.mpr rowFound, (pair.target, converter),
      KeyMap.mem_toList_iff.mpr entryFound, rfl⟩

/-- The pairs with a converter, in the order of the entries. -/
def pairs (table : Table) : List TypePair :=
  table.toList.map Prod.fst

theorem mem_pairs_iff {pair : TypePair} :
    pair ∈ table.pairs ↔ table.contains pair.source pair.target = true := by
  rw [contains, Option.isSome_iff_exists, pairs, List.mem_map]
  constructor
  · rintro ⟨⟨own, converter⟩, entry, rfl⟩
    exact ⟨converter, mem_toList_iff.mp entry⟩
  · rintro ⟨converter, found⟩
    exact ⟨(pair, converter), mem_toList_iff.mpr found, rfl⟩

theorem map_fst_rowEntries (source : TypeKey) (row : KeyMap Converter) :
    (rowEntries source row).map Prod.fst = row.keys.map fun target => ⟨source, target⟩ := by
  simp only [rowEntries, KeyMap.keys, List.map_map]
  rfl

theorem nodup_pairs (table : Table) : table.pairs.Nodup := by
  rw [pairs, toList, List.map_flatMap]
  have rowsApart := List.pairwise_map.mp table.rows.nodup
  apply List.nodup_flatMap.mpr
  constructor
  · intro row _
    rw [map_fst_rowEntries]
    refine row.2.nodup.map ?_
    intro left right same
    exact (TypePair.mk.inj same).2
  · refine rowsApart.imp ?_
    intro first second differ pair inFirst inSecond
    simp only [map_fst_rowEntries, List.mem_map] at inFirst inSecond
    rcases inFirst with ⟨_, _, rfl⟩
    rcases inSecond with ⟨_, _, same⟩
    exact differ (TypePair.mk.inj same).1.symm

theorem length_pairs (table : Table) : table.pairs.length = table.size := by
  rw [pairs, List.length_map, toList, List.length_flatMap, List.sum_eq_foldr, List.foldr_map]
  simp only [rowEntries, List.length_map]
  rfl

/-- Tables that serve the same pairs have the same number of entries. -/
theorem size_eq_of_contains_eq {left right : Table}
    (same : ∀ source target, left.contains source target = right.contains source target) :
    left.size = right.size := by
  have permuted : left.pairs.Perm right.pairs := by
    apply (List.perm_ext_iff_of_nodup left.nodup_pairs right.nodup_pairs).mpr
    intro pair
    rw [mem_pairs_iff, mem_pairs_iff, same]
  rw [← length_pairs, ← length_pairs]
  exact permuted.length_eq

end Table

end Conversion
