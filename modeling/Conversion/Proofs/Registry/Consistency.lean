import Conversion.Proofs.Registry.Tracing

/-!
# Consistent registries

Three collections make up what a registry holds: the rows of the table, the marks on derived pairs
and the rules. `Registry.Consistent` says how they belong together, and the main statement,
`consistent_of_reachable`, that they do so in every registry that a program can arrive at.

What is said of entries and marks is read off the log of filings, in which the source differs from
the target and no converter is a rule. Rows and rules are not in that log: that no row is empty
holds because a step of the table never takes an entry away, and each rule is where its sort belongs
because it was added there.
-/

namespace Conversion

theorem KeyMap.toList_insert_ne_nil {α : Type} (map : KeyMap α) (key : TypeKey) (item : α) :
    (map.insert key item).toList ≠ [] := by
  intro isEmpty
  have found := map.find?_insert_self key item
  rw [KeyMap.find?, isEmpty] at found
  cases found

namespace Table

/-- Whether every row has an entry. -/
def HasNoEmptyRow (table : Table) : Prop :=
  ∀ source row, table.rows.find? source = some row → row.toList ≠ []

namespace HasNoEmptyRow

variable {table : Table}

theorem empty : HasNoEmptyRow ∅ := by
  intro source row found
  cases found

theorem unmark (filled : table.HasNoEmptyRow) (source target : TypeKey) :
    (table.unmark source target).HasNoEmptyRow :=
  filled

theorem put (filled : table.HasNoEmptyRow) (source target : TypeKey) (converter : Converter) :
    (table.put source target converter).HasNoEmptyRow := by
  intro key row found
  rw [Table.put, KeyMap.find?_insert] at found
  split at found
  · cases found
    exact KeyMap.toList_insert_ne_nil _ _ _
  · exact filled key row found

theorem step (filled : table.HasNoEmptyRow) {report : Report} {after : Table}
    (step : Step table report after) : after.HasNoEmptyRow := by
  cases step with
  | idle idle => exact filled
  | first vacant => exact filled.put _ _ _
  | replacement derived => exact (filled.unmark _ _).put _ _ _
  | derivation vacant above apart => exact filled.put _ _ _

theorem steps (filled : table.HasNoEmptyRow) {reports : List Report} {after : Table}
    (steps : Steps table reports after) : after.HasNoEmptyRow := by
  induction steps with
  | nil table => exact filled
  | cons one _ ih => exact ih (filled.step one)

end HasNoEmptyRow

namespace Records

variable {table : Table} {log : List Filing} {source target ancestor : TypeKey}

/-- Behind a derived entry stands one that was asked for, with the same converter. -/
theorem exists_of_isDerived (records : table.Records log)
    (derived : table.isDerived source ancestor = true) :
    ∃ target converter, target ≠ ancestor ∧ table.IsExplicit source target ∧
      table.find? source target = some converter ∧
      table.find? source ancestor = some converter := by
  rcases (records.isDerived_iff source ancestor).mp derived with ⟨noneFor, _⟩
  have present := records.contains_of_isDerived derived
  rw [contains, records.find?_of_not_isFor noneFor] at present
  cases covering : log.find? (·.Covers source ancestor) with
  | none =>
      rw [covering] at present
      cases present
  | some filing =>
      have filed := List.mem_of_find?_eq_some covering
      have found := List.find?_some covering
      have covers : filing.Covers source ancestor := of_decide_eq_true found
      have isFor : filing.IsFor source filing.target := ⟨covers.1, rfl⟩
      refine ⟨filing.target, filing.converter, Ne.symm covers.2.2.1, ?_, ?_, ?_⟩
      · exact records.isExplicit_iff.mpr ⟨filing, filed, isFor⟩
      · exact records.find?_of_isFor filed isFor
      · rw [records.find?_of_not_isFor noneFor, covering, Option.map_some]

/-- No source has an entry for itself, if none was asked for. -/
theorem contains_self (records : table.Records log)
    (apart : ∀ filing ∈ log, filing.source ≠ filing.target) (key : TypeKey) :
    table.contains key key = false := by
  rw [← Bool.not_eq_true, records.contains_iff]
  rintro ⟨filing, filed, isFor | covers⟩
  · exact apart filing filed (isFor.1.trans isFor.2.symm)
  · exact covers.2.2.2 covers.1.symm

end Records

end Table

namespace RuleBook

/-- Whether every rule is among those of its sort. -/
def IsSorted (book : RuleBook) : Prop :=
  ∀ kind, ∀ rule ∈ book.bucket kind, rule.kind = kind

theorem isSorted_empty : IsSorted ∅ := by
  intro kind rule ruleMem
  cases kind <;> cases ruleMem

theorem IsSorted.add {book : RuleBook} (sorted : book.IsSorted) (rule : Rule) :
    (book.add rule).IsSorted := by
  intro kind other otherMem
  rw [bucket_add] at otherMem
  split at otherMem
  · next ofKind =>
      rcases List.mem_append.mp otherMem with earlier | now
      · exact sorted kind other earlier
      · rw [List.mem_singleton.mp now]
        exact ofKind
  · exact sorted kind other otherMem

end RuleBook

namespace Registry

variable {registry : Registry}

theorem isSorted_perform (operation : Operation) (sorted : registry.rules.IsSorted) :
    (operation.perform registry).registry.rules.IsSorted := by
  cases adds : operation.addsRule with
  | false =>
      rw [Operation.rules_perform adds]
      exact sorted
  | true =>
      cases operation with
      | registerRule rule => exact sorted.add rule
      | _ => cases adds

theorem isSorted_after (history : List Operation) (sorted : registry.rules.IsSorted) :
    (registry.after history).rules.IsSorted := by
  induction history generalizing registry with
  | nil => exact sorted
  | cons operation rest ih => exact ih (isSorted_perform operation sorted)

/-- What was filed passed the checks, so it was no rule and not for a pair of equal types. -/
theorem proper_of_mem_filings {history : List Operation} {filing : Filing}
    (filed : filing ∈ registry.filings history) :
    filing.source ≠ filing.target ∧ filing.converter.asRule? = none := by
  rcases exists_of_mem_filings filed with ⟨_, _, _, _, _, _, admitted⟩
  exact (refusal?_eq_none_iff.mp admitted).2.2

/-- How the rows, the marks and the rules of a registry belong together. -/
structure Consistent (registry : Registry) : Prop where
  marks_present : ∀ source target, registry.table.isDerived source target = true →
    registry.table.contains source target = true
  no_empty_row : registry.table.HasNoEmptyRow
  no_self_entry : ∀ key, registry.table.contains key key = false
  no_rule_entry : ∀ source target converter,
    registry.table.find? source target = some converter → converter.asRule? = none
  rules_sorted : registry.rules.IsSorted
  /-- A derived entry shares its converter with one of the row that is not derived. -/
  marks_backed : ∀ source ancestor, registry.table.isDerived source ancestor = true →
    ∃ target converter, target ≠ ancestor ∧ registry.table.IsExplicit source target ∧
      registry.table.find? source target = some converter ∧
      registry.table.find? source ancestor = some converter

/-- Every registry that a program can arrive at is consistent. -/
theorem consistent_of_reachable (reachable : Reachable registry) : registry.Consistent := by
  rcases reachable.exists_history with ⟨origin, history, rfl⟩
  have records := records_after_clear origin history
  refine ⟨?_, ?_, ?_, ?_, ?_, ?_⟩
  · intro source target derived
    exact records.contains_of_isDerived derived
  · exact Table.HasNoEmptyRow.empty.steps (steps_reports origin.clear history)
  · exact records.contains_self fun filing filed => (proper_of_mem_filings filed).1
  · intro source target converter found
    rcases records.exists_of_find?_eq_some found with ⟨filing, filed, rfl, _⟩
    exact (proper_of_mem_filings filed).2
  · exact isSorted_after history RuleBook.isSorted_empty
  · intro source ancestor derived
    exact records.exists_of_isDerived derived

theorem consistent_after_interruption :
    Reachable resumed ∧ resumed.Consistent ∧ resumed.table.isDerived .str .text = true ∧
      resumed.table.IsExplicit .bool .text ∧ resumed.ruleCount = 1 := by
  have interruptedReachable : Reachable interrupted :=
    ((Reachable.built _ 0).after [.declare (Declaration.of .char).hidden]).reinitialized
  have reachable : Reachable resumed := (interruptedReachable.after _).ran wordRegistrar
  exact ⟨reachable, consistent_of_reachable reachable, by decide +kernel, by decide +kernel,
    by decide +kernel⟩

end Registry

end Conversion
