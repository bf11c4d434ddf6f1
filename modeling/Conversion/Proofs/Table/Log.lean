import Mathlib.Tactic.ByContra
import Conversion.Proofs.Table.Filing

/-!
# The table as an account of its filings

A table that was filled from the empty one is determined by the log of its filings, the earliest
first. A pair that was asked for has the converter it was asked for with, and was asked for only
once. Any other pair has what the earliest filing that covers it offers, and is marked as derived.
Later filings that cover the pair as well leave no trace.

`Table.Records` is this account. It holds of the empty table and an empty log, and filing extends
the log at its end.
-/

namespace Conversion

/-- The converter that a log gives a pair: the one it was asked for with, or else the one of the
earliest filing that covers it. -/
def converterIn (log : List Filing) (source target : TypeKey) : Option Converter :=
  ((log.find? (·.IsFor source target)).or (log.find? (·.Covers source target))).map
    Filing.converter

theorem converterIn_eq_none_iff {log : List Filing} {source target : TypeKey} :
    converterIn log source target = none ↔
      (∀ filing ∈ log, ¬filing.IsFor source target) ∧
        ∀ filing ∈ log, ¬filing.Covers source target := by
  simp [converterIn, Option.or_eq_none_iff]

/-- What a filing adds to a log for the pairs that it is not for. -/
theorem converterIn_append_of_not_isFor {log : List Filing} {filing : Filing}
    {source target : TypeKey} (notFor : ¬filing.IsFor source target) :
    converterIn (log ++ [filing]) source target =
      (converterIn log source target).or (filing.offer? source target) := by
  have own : (log ++ [filing]).find? (·.IsFor source target) =
      log.find? (·.IsFor source target) := by
    simp [List.find?_append, notFor]
  have covering : (log ++ [filing]).find? (·.Covers source target) =
      (log.find? (·.Covers source target)).or
        (if filing.Covers source target then some filing else none) := by
    simp [List.find?_append, List.find?_singleton]
  have offered : (if filing.Covers source target then some filing else none).map
      Filing.converter = filing.offer? source target := by
    unfold Filing.offer?
    split <;> rfl
  simp only [converterIn, own, covering, Option.map_or, offered, Option.or_assoc]

theorem converterIn_append_of_isFor {log : List Filing} {filing : Filing}
    {source target : TypeKey} (isFor : filing.IsFor source target)
    (fresh : ∀ earlier ∈ log, ¬earlier.IsFor source target) :
    converterIn (log ++ [filing]) source target = some filing.converter := by
  have none_earlier : log.find? (·.IsFor source target) = none := by
    simpa using fresh
  simp [converterIn, List.find?_append, none_earlier, isFor]

/-- A filing at the end of a log leaves a pair derived, makes it so, or takes it for its own. -/
theorem derivation_append_iff {log : List Filing} {filing : Filing} {source target : TypeKey} :
    ((∀ other ∈ log ++ [filing], ¬other.IsFor source target) ∧
        ∃ other ∈ log ++ [filing], other.Covers source target) ↔
      ¬filing.IsFor source target ∧
        (((∀ other ∈ log, ¬other.IsFor source target) ∧ ∃ other ∈ log, other.Covers source target) ∨
          filing.Covers source target ∧
            (∀ other ∈ log, ¬other.IsFor source target) ∧
            ∀ other ∈ log, ¬other.Covers source target) := by
  simp only [List.mem_append, List.mem_singleton, or_imp, forall_and, forall_eq, or_and_right,
    exists_or, exists_eq_left]
  constructor
  · rintro ⟨⟨noneFor, notFor⟩, covering⟩
    refine ⟨notFor, ?_⟩
    by_cases coveredBefore : ∃ earlier ∈ log, earlier.Covers source target
    · exact Or.inl ⟨noneFor, coveredBefore⟩
    · rcases covering with before | now
      · exact absurd before coveredBefore
      · refine Or.inr ⟨now, noneFor, ?_⟩
        intro earlier logged covers
        exact coveredBefore ⟨earlier, logged, covers⟩
  · rintro ⟨notFor, ⟨noneFor, coveredBefore⟩ | ⟨now, noneFor, _⟩⟩
    · exact ⟨⟨noneFor, notFor⟩, Or.inl coveredBefore⟩
    · exact ⟨⟨noneFor, notFor⟩, Or.inr now⟩

namespace Table

/-- Whether a table is what a log of filings leaves of the empty one. -/
structure Records (table : Table) (log : List Filing) : Prop where
  find?_eq : ∀ source target, table.find? source target = converterIn log source target
  isDerived_iff : ∀ source target, table.isDerived source target = true ↔
    (∀ filing ∈ log, ¬filing.IsFor source target) ∧ ∃ filing ∈ log, filing.Covers source target
  distinct : log.Pairwise fun earlier later => ¬later.IsFor earlier.source earlier.target

namespace Records

variable {table : Table} {log : List Filing} {source target : TypeKey}

theorem empty : Records ∅ [] where
  find?_eq := by
    intro source target
    rfl
  isDerived_iff := by
    intro source target
    simp [isDerived, EmptyCollection.emptyCollection, Table.empty]
  distinct := List.Pairwise.nil

theorem contains_iff (records : table.Records log) :
    table.contains source target = true ↔
      ∃ filing ∈ log, filing.IsFor source target ∨ filing.Covers source target := by
  rw [← Bool.not_eq_false, contains_eq_false_iff, records.find?_eq, converterIn_eq_none_iff]
  constructor
  · intro present
    by_contra absent
    apply present
    constructor
    · intro filing filed isFor
      exact absent ⟨filing, filed, Or.inl isFor⟩
    · intro filing filed covers
      exact absent ⟨filing, filed, Or.inr covers⟩
  · rintro ⟨filing, filed, isFor | covers⟩ ⟨noneFor, noneCover⟩
    · exact noneFor filing filed isFor
    · exact noneCover filing filed covers

theorem contains_of_isDerived (records : table.Records log)
    (derived : table.isDerived source target = true) : table.contains source target = true := by
  rcases (records.isDerived_iff source target).mp derived with ⟨_, filing, filed, covers⟩
  exact records.contains_iff.mpr ⟨filing, filed, Or.inr covers⟩

/-- The pairs with an entry of their own are those that were asked for. -/
theorem isExplicit_iff (records : table.Records log) :
    table.IsExplicit source target ↔ ∃ filing ∈ log, filing.IsFor source target := by
  rw [IsExplicit, records.contains_iff, ← Bool.not_eq_true, records.isDerived_iff]
  constructor
  · rintro ⟨⟨filing, filed, isFor | covers⟩, notDerived⟩
    · exact ⟨filing, filed, isFor⟩
    · by_contra noneFor
      apply notDerived
      refine ⟨?_, filing, filed, covers⟩
      intro other otherFiled isFor
      exact noneFor ⟨other, otherFiled, isFor⟩
  · rintro ⟨filing, filed, isFor⟩
    refine ⟨⟨filing, filed, Or.inl isFor⟩, ?_⟩
    rintro ⟨noneFor, _⟩
    exact noneFor filing filed isFor

theorem isDerived_iff_not_isExplicit (records : table.Records log) :
    table.isDerived source target = true ↔
      table.contains source target = true ∧ ¬table.IsExplicit source target := by
  constructor
  · intro derived
    refine ⟨records.contains_of_isDerived derived, ?_⟩
    rintro ⟨_, notDerived⟩
    rw [derived] at notDerived
    cases notDerived
  · rintro ⟨present, notExplicit⟩
    rw [← Bool.not_eq_false]
    intro notDerived
    exact notExplicit ⟨present, notDerived⟩

/-- A pair was asked for, or has a derived entry, or has none. -/
theorem isFor_or_isDerived_or_missing (records : table.Records log) (source target : TypeKey) :
    (∃ filing ∈ log, filing.IsFor source target) ∨
      table.isDerived source target = true ∨ table.contains source target = false := by
  cases derived : table.isDerived source target with
  | true => exact Or.inr (Or.inl rfl)
  | false =>
      cases present : table.contains source target with
      | true => exact Or.inl (records.isExplicit_iff.mp ⟨present, derived⟩)
      | false => exact Or.inr (Or.inr rfl)

theorem append (records : table.Records log) {filing : Filing} {after : Table}
    {events : List Event}
    (filed : table.file filing.source filing.target filing.converter filing.chain =
      some (after, events)) : after.Records (log ++ [filing]) := by
  have fresh : ∀ earlier ∈ log, ¬earlier.IsFor filing.source filing.target := by
    intro earlier earlierFiled isFor
    have explicit := records.isExplicit_iff.mpr ⟨earlier, earlierFiled, isFor⟩
    rw [(file_eq_none_iff _ _ filing.converter filing.chain).mpr explicit] at filed
    cases filed
  have effect := filed_of_file (fun _ _ => records.contains_of_isDerived) filed
  refine ⟨?_, ?_, ?_⟩
  · intro source target
    rw [effect.find?_eq]
    split
    · next isFor =>
        have freshHere := fresh
        rw [isFor.1, isFor.2] at freshHere
        rw [converterIn_append_of_isFor isFor freshHere]
    · next notFor => rw [converterIn_append_of_not_isFor notFor, records.find?_eq]
  · intro source target
    rw [effect.isDerived_iff, records.isDerived_iff, records.find?_eq, converterIn_eq_none_iff,
      derivation_append_iff]
  · rw [List.pairwise_append]
    refine ⟨records.distinct, List.pairwise_singleton _ _, ?_⟩
    intro earlier earlierFiled later laterIs isFor
    rw [List.mem_singleton.mp laterIs] at isFor
    exact fresh earlier earlierFiled ⟨isFor.1.symm, isFor.2.symm⟩

end Records

end Table

end Conversion
