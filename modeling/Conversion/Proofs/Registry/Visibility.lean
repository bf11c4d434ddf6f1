import Conversion.Proofs.Registry.Locality
import Conversion.Proofs.Registry.Subtyping

/-!
# Private types and the table

A private type is meant never to be registered. But the checks look at the two types that a
registration is asked for only, while it also files for the ancestors of its target. So a private
type is never the source of an entry and never the target of an explicit one, and yet it is served
as soon as a type below it is. Nobody can put another converter there then: a derived entry gives
way to an explicit one only where the checks let that one through. The main statement is
`private_only_as_derived_target`.

Declarations have to be complete before the first filing, as for subtyping: then the declarations
that a filing was checked under are those that say in the end what is private (`FiledUnder`).
-/

namespace Conversion.Registry

variable {registry : Registry} {log : List Filing} {source target : TypeKey}

namespace FiledUnder

theorem isPublic_of_mem (filedUnder : FiledUnder registry log) {filing : Filing}
    (filed : filing ∈ log) :
    registry.types.isPublic filing.source = true ∧
      registry.types.isPublic filing.target = true := by
  rcases refusal?_eq_none_iff.mp (filedUnder.admitted filing filed) with
    ⟨sourcePublic, targetPublic, _⟩
  exact ⟨sourcePublic, targetPublic⟩

theorem isPublic_source (filedUnder : FiledUnder registry log)
    (present : registry.table.contains source target = true) :
    registry.types.isPublic source = true := by
  rcases filedUnder.records.contains_iff.mp present with ⟨filing, filed, serves⟩
  rw [← Filing.source_eq_of_serves serves]
  exact (filedUnder.isPublic_of_mem filed).1

theorem isPublic_of_isExplicit (filedUnder : FiledUnder registry log)
    (explicit : registry.table.IsExplicit source target) :
    registry.types.isPublic target = true := by
  rcases filedUnder.records.isExplicit_iff.mp explicit with ⟨filing, filed, _, rfl⟩
  exact (filedUnder.isPublic_of_mem filed).2

/-- A private type is served for a source exactly where it is an ancestor of a type that the source
has a converter of its own for. -/
theorem contains_iff_of_private (filedUnder : FiledUnder registry log)
    (hidden : registry.types.isPublic target = false) :
    registry.table.contains source target = true ↔
      ∃ requested, registry.table.IsExplicit source requested ∧
        target ∈ (registry.types.ancestors requested).1 := by
  constructor
  · intro present
    rcases filedUnder.records.contains_iff.mp present with ⟨filing, filed, isFor | covers⟩
    · have shown := (filedUnder.isPublic_of_mem filed).2
      rw [isFor.2, hidden] at shown
      cases shown
    · refine ⟨filing.target, ?_, ?_⟩
      · exact filedUnder.records.isExplicit_iff.mpr ⟨filing, filed, covers.1, rfl⟩
      · rw [Hierarchy.ancestors_fst, ← filedUnder.whole filing filed]
        exact covers.2.1
  · rintro ⟨requested, explicit, above⟩
    have sourcePublic := filedUnder.isPublic_source explicit.1
    have apart : target ≠ source := by
      rintro rfl
      rw [hidden] at sourcePublic
      cases sourcePublic
    rw [Hierarchy.ancestors_fst] at above
    exact contains_of_mem_walk filedUnder.records filedUnder.whole above apart explicit.1

theorem ne_of_isDerived (filedUnder : FiledUnder registry log)
    (derived : registry.table.isDerived source target = true) : source ≠ target := by
  rcases (filedUnder.records.isDerived_iff source target).mp derived with
    ⟨_, filing, _, ofSource, _, _, apart⟩
  rw [ofSource] at apart
  exact apart.symm

/-- A derived entry gives way to a converter for its own pair if the target is public. -/
theorem register_of_isDerived (filedUnder : FiledUnder registry log)
    (derived : registry.table.isDerived source target = true)
    (shown : registry.types.isPublic target = true) {converter : Converter}
    (plain : converter.asRule? = none) :
    let outcome := register source target converter registry
    outcome.result = .ok () ∧
      (exact source target outcome.registry).result = some converter ∧
      outcome.registry.table.IsExplicit source target := by
  intro outcome
  rcases filedUnder.records.isDerived_iff_not_isExplicit.mp derived with ⟨present, notExplicit⟩
  have admitted : refusal? registry.types source target converter = none :=
    refusal?_eq_none_iff.mpr ⟨filedUnder.isPublic_source present, shown,
      filedUnder.ne_of_isDerived derived, plain⟩
  have succeeded : outcome.result = .ok () := register_eq_ok_iff.mpr ⟨admitted, notExplicit⟩
  rcases exists_filed_of_ok (fun _ _ => filedUnder.records.contains_of_isDerived) succeeded with
    ⟨table, filed, remembers⟩
  refine ⟨succeeded, ?_, ?_⟩
  · rw [exact_result, remembers.table]
    exact filed.find?_own
  · rw [remembers.table]
    exact filed.isExplicit_own

end FiledUnder

theorem register_of_private_target (converter : Converter)
    (sourcePublic : registry.types.isPublic source = true)
    (hidden : registry.types.isPublic target = false) :
    register source target converter registry =
      ⟨.error (.nonPublicTarget target), registry, []⟩ := by
  apply register_of_refused
  simp [refusal?, sourcePublic, hidden]

/-- Private types in the table, when the types are declared before the first filing. No entry has a
private source and no explicit one a private target, but a derived entry has one exactly where that
type is an ancestor of an explicit target. A converter registered for a derived pair takes its place
if the target is public, and is otherwise refused without a change. -/
theorem private_only_as_derived_target (origin : Registry) (before since : List Operation)
    (unfiled : origin.clear.filings before = [])
    (settled : ∀ operation ∈ since, operation.declares = false) (source target : TypeKey) :
    let registry := origin.clear.after (before ++ since)
    (registry.table.contains source target = true → registry.types.isPublic source = true) ∧
      (registry.table.IsExplicit source target → registry.types.isPublic target = true) ∧
      (registry.types.isPublic target = false →
        (registry.table.isDerived source target = true ↔
          ∃ requested, registry.table.IsExplicit source requested ∧
            target ∈ (registry.types.ancestors requested).1)) ∧
      (registry.table.isDerived source target = true →
        ∀ converter : Converter, converter.asRule? = none →
          let outcome := register source target converter registry
          if registry.types.isPublic target = true then
            outcome.result = .ok () ∧
              (exact source target outcome.registry).result = some converter ∧
              outcome.registry.table.IsExplicit source target
          else outcome = ⟨.error (.nonPublicTarget target), registry, []⟩) := by
  intro registry
  have filedUnder := filedUnder_after origin before since unfiled settled
  refine ⟨filedUnder.isPublic_source, filedUnder.isPublic_of_isExplicit, ?_, ?_⟩
  · intro hidden
    rw [← filedUnder.contains_iff_of_private hidden,
      filedUnder.records.isDerived_iff_not_isExplicit]
    refine and_iff_left ?_
    intro explicit
    have shown := filedUnder.isPublic_of_isExplicit explicit
    rw [hidden] at shown
    cases shown
  · intro derived converter plain outcome
    cases visibility : registry.types.isPublic target with
    | true => exact filedUnder.register_of_isDerived derived visibility plain
    | false =>
        have present := filedUnder.records.contains_of_isDerived derived
        exact register_of_private_target converter (filedUnder.isPublic_source present) visibility

/-- Owned text has a private interface and a public one. -/
def hiddenInterface : List Operation :=
  [.declareAll [((Declaration.of .string).implementing .text).implementing .number,
    (Declaration.of .text).hidden]]

def boolToText : Converter :=
  ⟨.given 0, .total .bool .string fun flag : Bool => toString flag⟩

def replacement : Converter :=
  ⟨.given 1, .total .bool .string fun _ => ""⟩

theorem settled_boolToText : ∀ operation ∈ [Operation.register .bool .string boolToText],
    operation.declares = false := by
  simp [Operation.declares]

theorem private_only_as_derived_target_of_interface :
    let registry :=
      (clear (ofTypes ∅ {})).after (hiddenInterface ++ [.register .bool .string boolToText])
    (clear (ofTypes ∅ {})).filings hiddenInterface = [] ∧
      registry.types.isPublic .text = false ∧
      registry.table.isDerived .bool .text = true ∧
      register .bool .text replacement registry =
        ⟨.error (.nonPublicTarget .text), registry, []⟩ ∧
      (exact .bool .number (register .bool .number replacement registry).registry).result =
        some replacement := by
  intro registry
  have unfiled : (clear (ofTypes ∅ {})).filings hiddenInterface = [] := rfl
  have hidden : registry.types.isPublic .text = false := by decide +kernel
  have derived : registry.table.isDerived .bool .text = true := by decide +kernel
  have shown : registry.types.isPublic .number = true := by decide +kernel
  have otherDerived : registry.table.isDerived .bool .number = true := by decide +kernel
  rcases private_only_as_derived_target _ _ _ unfiled settled_boolToText .bool .text
    with ⟨_, _, _, refused⟩
  rcases private_only_as_derived_target _ _ _ unfiled settled_boolToText .bool .number
    with ⟨_, _, _, replaced⟩
  have atText := refused derived replacement rfl
  have atNumber := replaced otherDerived replacement rfl
  rw [if_neg (by rw [hidden]; exact Bool.false_ne_true)] at atText
  rw [if_pos shown] at atNumber
  exact ⟨unfiled, hidden, derived, atText, atNumber.2.1⟩

/-- Private types do enter the table: the private interface of a registered target gets an entry,
and registering that very pair is refused. -/
theorem private_interface_is_served :
    let registry :=
      (clear (ofTypes ∅ {})).after (hiddenInterface ++ [.register .bool .string boolToText])
    (clear (ofTypes ∅ {})).filings hiddenInterface = [] ∧
      (∀ operation ∈ [Operation.register .bool .string boolToText],
        operation.declares = false) ∧
      registry.table.contains .bool .text = true ∧
      registry.table.isDerived .bool .text = true ∧
      registry.types.isPublic .text = false ∧
      (register .bool .text replacement registry).result = .error (.nonPublicTarget .text) := by
  intro registry
  have hidden : registry.types.isPublic .text = false := by decide +kernel
  refine ⟨rfl, settled_boolToText, by decide +kernel, by decide +kernel, hidden, ?_⟩
  rw [register_of_private_target replacement (by decide +kernel) hidden]

end Conversion.Registry
