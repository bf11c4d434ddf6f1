import Conversion.Proofs.Hierarchy.Reachability
import Conversion.Proofs.Registry.History

/-!
# Lookup and subtyping

Registrations leave no holes: when a source is served for a target, so is every type below the
source for every type above the target. The one exception is a type above both, to which a value
can go without any conversion.

What carries this is that every row of the table is closed upwards (`contains_of_mem_walk`): an
entry for a type comes with entries for all ancestors of that type, but for the source of the row.
It holds when the declarations stay as they are from the first filing on, since then all chains
are walks over the same edges and these compose.
-/

namespace Conversion.Registry

/-- Without declarations on the way, all filings passed the checks and hold their chains under the
declarations at the start. -/
theorem admitted_of_mem_filings {registry : Registry} {history : List Operation}
    (settled : ∀ operation ∈ history, operation.declares = false) {filing : Filing}
    (filed : filing ∈ registry.filings history) :
    refusal? registry.types filing.source filing.target filing.converter = none ∧
      filing.chain = registry.types.declarations.walk filing.target := by
  rcases exists_of_mem_filings filed with
    ⟨earlier, operation, later, rfl, _, chain, admitted⟩
  have earlierSettled : ∀ operation ∈ earlier, operation.declares = false := by
    intro other otherMem
    exact settled other (List.mem_append_left _ otherMem)
  have same : (registry.after earlier).types.declarations = registry.types.declarations :=
    declarations_after earlier earlierSettled
  rw [same] at chain
  rw [refusal?_congr same] at admitted
  exact ⟨admitted, chain⟩

/-- What is known of a table that was filled while the declarations stayed as they are: its filings
passed the checks and hold their chains under these declarations. -/
structure FiledUnder (registry : Registry) (log : List Filing) : Prop where
  records : registry.table.Records log
  admitted : ∀ filing ∈ log,
    refusal? registry.types filing.source filing.target filing.converter = none
  whole : ∀ filing ∈ log, filing.chain = registry.types.declarations.walk filing.target

theorem filedUnder_after (origin : Registry) (before since : List Operation)
    (unfiled : origin.clear.filings before = [])
    (settled : ∀ operation ∈ since, operation.declares = false) :
    FiledUnder (origin.clear.after (before ++ since))
      ((origin.clear.after before).filings since) := by
  have records := records_after_clear origin (before ++ since)
  rw [filings_append, unfiled, List.nil_append] at records
  have same : (origin.clear.after (before ++ since)).types.declarations =
      (origin.clear.after before).types.declarations := by
    rw [after_append]
    exact declarations_after since settled
  refine ⟨records, ?_, ?_⟩
  · intro filing filed
    rw [refusal?_congr same]
    exact (admitted_of_mem_filings settled filed).1
  · intro filing filed
    rw [same]
    exact (admitted_of_mem_filings settled filed).2

/-- Rows are closed upwards: an entry for a type comes with one for each ancestor of the type,
except for the source of the row. -/
theorem contains_of_mem_walk {log : List Filing} {table : Table} {declarations : Declarations}
    (records : table.Records log)
    (whole : ∀ filing ∈ log, filing.chain = declarations.walk filing.target)
    {source target above : TypeKey} (upper : above ∈ declarations.walk target)
    (apart : above ≠ source) (present : table.contains source target = true) :
    table.contains source above = true := by
  rcases records.contains_iff.mp present with ⟨filing, filed, serves⟩
  have sameSource := Filing.source_eq_of_serves serves
  have targetAbove : target ∈ declarations.walk filing.target := by
    rcases serves with isFor | covers
    · rw [isFor.2]
      exact declarations.mem_walk_self target
    · rw [← whole filing filed]
      exact covers.2.1
  have aboveAll := Declarations.mem_walk_trans targetAbove upper
  apply records.contains_iff.mpr
  refine ⟨filing, filed, ?_⟩
  by_cases same : filing.target = above
  · exact Or.inl ⟨sameSource, same⟩
  · right
    refine ⟨sameSource, ?_, Ne.symm same, ?_⟩
    · rw [whole filing filed]
      exact aboveAll
    · rw [sameSource]
      exact apart

/-- Lookup by ancestors is closed under subtyping on both sides, for a table that was filled since
it was last emptied and since types were last declared. A type below a source that is served is
served for everything above the target, unless it needs no conversion. -/
theorem byAncestor_closed_under_subtyping (origin : Registry) (before since : List Operation)
    (unfiled : origin.clear.filings before = [])
    (settled : ∀ operation ∈ since, operation.declares = false)
    {below source target above : TypeKey} :
    let registry := origin.clear.after (before ++ since)
    source ∈ (registry.types.ancestors below).1 → above ∈ (registry.types.ancestors target).1 →
      (byAncestor source target registry).result.isSome = true →
        (byAncestor below above registry).result.isSome = true ∨
          above ∈ (registry.types.ancestors below).1 := by
  intro registry lower upper found
  rw [Hierarchy.ancestors_fst] at lower upper ⊢
  have filedUnder := filedUnder_after origin before since unfiled settled
  rcases byAncestor_isSome_iff.mp found with ⟨key, keyAbove, present⟩
  have keyBelow := Declarations.mem_walk_trans lower keyAbove
  by_cases same : above = key
  · right
    rw [same]
    exact keyBelow
  · left
    exact byAncestor_isSome_iff.mpr
      ⟨key, keyBelow, contains_of_mem_walk filedUnder.records filedUnder.whole upper same present⟩

/-- Borrowed text extends owned text, and two types extend each other. -/
def cyclicDeclarations : List Operation :=
  [.declareAll [(Declaration.of .str).extending .string, (Declaration.of .bool).extending .number,
    (Declaration.of .number).extending .bool]]

def textToBool : Operation :=
  .register .string .bool ⟨.given 0, .closure .string .bool fun _ => .ok true⟩

theorem byAncestor_closed_in_cycle :
    let registry := (clear (ofTypes ∅ {})).after (cyclicDeclarations ++ [textToBool])
    (clear (ofTypes ∅ {})).filings cyclicDeclarations = [] ∧
      (∀ operation ∈ [textToBool], operation.declares = false) ∧
      .string ∈ (registry.types.ancestors .str).1 ∧
      .number ∈ (registry.types.ancestors .bool).1 ∧
      (byAncestor .string .bool registry).result.isSome = true ∧
      ((byAncestor .str .number registry).result.isSome = true ∨
        .number ∈ (registry.types.ancestors .str).1) := by
  intro registry
  have unfiled : (clear (ofTypes ∅ {})).filings cyclicDeclarations = [] := rfl
  have settled : ∀ operation ∈ [textToBool], operation.declares = false := by
    simp [textToBool, Operation.declares]
  have lower : .string ∈ (registry.types.ancestors .str).1 := by decide +kernel
  have upper : .number ∈ (registry.types.ancestors .bool).1 := by decide +kernel
  have found : (byAncestor .string .bool registry).result.isSome = true := by decide +kernel
  exact ⟨unfiled, settled, lower, upper, found,
    byAncestor_closed_under_subtyping _ _ _ unfiled settled lower upper found⟩

end Conversion.Registry
