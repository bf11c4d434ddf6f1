import Conversion.Proofs.Hierarchy.Reachability
import Conversion.Proofs.Registry.Reachable

/-!
# What a registration can change

A registration matters to lookups from types below its source to types above its target, and to no
others. Where it does matter, a lookup keeps its answer or gets the new converter; it never falls
back on a third one. The main statement is `register_changes_locally`.

`LocalChange` is this alternative for one answer. It holds of each entry of the table, and a lookup
puts its answer together from entries and rules by taking the first that there is, which keeps the
alternative (`LocalChange.or`, `LocalChange.findSome?`). So nothing need be said about where along a
chain the entry stands that decides.
-/

namespace Conversion

/-- How an answer changes when a converter is offered to some questions: not at all, or to that
converter and only where it is offered. -/
inductive LocalChange (inScope : Prop) (offered : Converter) (before : Option Converter) :
    Option Converter → Prop where
  | kept : LocalChange inScope offered before before
  | moved (within : inScope) : LocalChange inScope offered before (some offered)

namespace LocalChange

variable {inScope : Prop} {offered : Converter} {before after : Option Converter}

theorem mono {wider : Prop} (change : LocalChange inScope offered before after)
    (widens : inScope → wider) : LocalChange wider offered before after := by
  cases change with
  | kept => exact .kept
  | moved within => exact .moved (widens within)

theorem eq_of_not (change : LocalChange inScope offered before after) (outside : ¬inScope) :
    after = before := by
  cases change with
  | kept => rfl
  | moved within => exact absurd within outside

theorem eq_some_of_ne (change : LocalChange inScope offered before after)
    (differ : after ≠ before) : after = some offered := by
  cases change with
  | kept => exact absurd rfl differ
  | moved within => rfl

theorem offer [Decidable inScope] :
    LocalChange inScope offered before
      (before.or (if inScope then some offered else none)) := by
  cases before with
  | some converter => exact .kept
  | none =>
      rw [Option.none_or]
      split
      · next within => exact .moved within
      · exact .kept

/-- An answer that is asked for only in default of another changes locally if both do. -/
theorem or {otherBefore otherAfter : Option Converter}
    (change : LocalChange inScope offered before after)
    (otherChange : LocalChange inScope offered otherBefore otherAfter) :
    LocalChange inScope offered (before.or otherBefore) (after.or otherAfter) := by
  cases change with
  | kept =>
      cases before with
      | some converter => exact .kept
      | none => exact otherChange
  | moved within => exact .moved within

theorem findSome? {answersBefore answersAfter : TypeKey → Option Converter} {keys : List TypeKey}
    (change : ∀ key ∈ keys, LocalChange inScope offered (answersBefore key) (answersAfter key)) :
    LocalChange inScope offered (keys.findSome? answersBefore) (keys.findSome? answersAfter) := by
  induction keys with
  | nil => exact .kept
  | cons key rest ih =>
      rw [← List.singleton_append, List.findSome?_append, List.findSome?_append,
        List.findSome?_singleton, List.findSome?_singleton]
      refine (change key List.mem_cons_self).or (ih ?_)
      intro other otherMem
      exact change other (List.mem_cons_of_mem key otherMem)

end LocalChange

/-- Filing changes the entries of its source for types above its target. -/
theorem Table.Filed.localChange {before after : Table} {filing : Filing}
    (filed : Table.Filed before filing after) (own : filing.target ∈ filing.chain)
    (apart : filing.source ≠ filing.target) (left right : TypeKey) :
    LocalChange (filing.source = left ∧ right ∈ filing.chain ∧ right ≠ filing.source)
      filing.converter (before.find? left right) (after.find? left right) := by
  rw [filed.find?_eq]
  split
  · next isFor =>
      apply LocalChange.moved
      rw [← isFor.2]
      exact ⟨isFor.1, own, Ne.symm apart⟩
  · exact LocalChange.offer.mono fun covers => ⟨covers.1, covers.2.1, covers.2.2.2⟩

namespace Registry

/-- Whether a registration for a pair can matter to a lookup: one from a type below the source to a
type above the target. -/
def Concerns (registry : Registry) (source target left right : TypeKey) : Prop :=
  source ∈ (registry.types.ancestors left).1 ∧ right ∈ (registry.types.ancestors target).1 ∧
    right ≠ source

variable {registry : Registry} {source target : TypeKey} {converter : Converter}

/-- What a registration that succeeds does to a registry in which all marks are on entries. -/
theorem exists_filed_of_ok
    (marked : ∀ left right, registry.table.isDerived left right = true →
      registry.table.contains left right = true)
    (succeeded : (register source target converter registry).result = .ok ()) :
    ∃ table, registry.table.Filed
        ⟨source, target, converter, registry.types.declarations.walk target⟩ table ∧
      Remembers { registry with table } (register source target converter registry).registry := by
  cases registered registry source target converter with
  | refused error refusal result same events =>
      rw [result] at succeeded
      cases succeeded
  | duplicate admitted explicit result remembers events =>
      rw [result] at succeeded
      cases succeeded
  | filed admitted table filingEvents filed result remembers events =>
      exact ⟨table, Table.filed_of_file marked filed, remembers⟩

theorem Reachable.filed_of_ok (reachable : Reachable registry)
    (succeeded : (register source target converter registry).result = .ok ()) :
    registry.table.Filed ⟨source, target, converter, registry.types.declarations.walk target⟩
      (register source target converter registry).registry.table := by
  rcases reachable.exists_records with ⟨log, records⟩
  rcases exists_filed_of_ok (fun _ _ => records.contains_of_isDerived) succeeded with
    ⟨table, filed, remembers⟩
  rw [remembers.table]
  exact filed

section Filed

variable {table : Table} {after : Registry}
  (filed : registry.table.Filed
    ⟨source, target, converter, registry.types.declarations.walk target⟩ table)
  (apart : source ≠ target) (remembers : Remembers { registry with table } after)

include filed apart remembers

theorem exact_localChange (left right : TypeKey) :
    LocalChange (source = left ∧ right ∈ registry.types.declarations.walk target ∧ right ≠ source)
      converter (exact left right registry).result (exact left right after).result := by
  rw [exact_result, exact_result, remembers.table]
  exact filed.localChange (Declarations.mem_walk_self _ target) apart left right

theorem byAncestor_localChange (left right : TypeKey) :
    LocalChange (registry.Concerns source target left right) converter
      (byAncestor left right registry).result (byAncestor left right after).result := by
  rw [byAncestor_result, byAncestor_result, remembers.declarations, Concerns,
    Hierarchy.ancestors_fst, Hierarchy.ancestors_fst]
  apply LocalChange.findSome?
  intro key keyMem
  refine (exact_localChange filed apart remembers key right).mono ?_
  rintro ⟨rfl, above, differ⟩
  exact ⟨keyMem, above, differ⟩

theorem find_localChange (left right : TypeKey) :
    LocalChange (registry.Concerns source target left right) converter
      (find left right registry).result (find left right after).result := by
  rw [find_result, find_result]
  refine LocalChange.or (LocalChange.or ?_ ?_) ?_
  · refine (exact_localChange filed apart remembers left right).mono ?_
    rintro ⟨rfl, above, differ⟩
    rw [Concerns, Hierarchy.ancestors_fst, Hierarchy.ancestors_fst]
    exact ⟨Declarations.mem_walk_self _ source, above, differ⟩
  · exact byAncestor_localChange filed apart remembers left right
  · have asked := byAncestor_onlyAsks left right registry
    have askedAfter := byAncestor_onlyAsks left right after
    rw [byRule_congr (askedAfter.declarations.trans
      (remembers.declarations.trans asked.declarations.symm))
      (askedAfter.rules.trans (remembers.rules.trans asked.rules.symm))]
    exact .kept

end Filed

/-- A registration that succeeds is local. A lookup by ancestors or by all levels answers as before,
unless it is from a type below the source to a type above the target other than the source; and
where its answer is a new one, it is the converter that was registered. The rules, the declarations
and the entries and marks of other sources stay as they were. -/
theorem register_changes_locally (reachable : Reachable registry)
    (succeeded : (register source target converter registry).result = .ok ()) :
    let after := (register source target converter registry).registry
    (∀ left right, ¬registry.Concerns source target left right →
        (byAncestor left right after).result = (byAncestor left right registry).result ∧
          (find left right after).result = (find left right registry).result) ∧
      (∀ left right,
        (byAncestor left right after).result ≠ (byAncestor left right registry).result →
          (byAncestor left right after).result = some converter) ∧
      (∀ left right, (find left right after).result ≠ (find left right registry).result →
        (find left right after).result = some converter) ∧
      after.rules = registry.rules ∧
      after.types.declarations = registry.types.declarations ∧
      ∀ left right, left ≠ source →
        (exact left right after).result = (exact left right registry).result ∧
          after.table.isDerived left right = registry.table.isDerived left right := by
  intro after
  rcases reachable.exists_records with ⟨log, records⟩
  rcases exists_filed_of_ok (fun _ _ => records.contains_of_isDerived) succeeded with
    ⟨table, filed, remembers⟩
  have apart : source ≠ target :=
    (refusal?_eq_none_iff.mp (register_eq_ok_iff.mp succeeded).1).2.2.1
  refine ⟨?_, ?_, ?_, remembers.rules, remembers.declarations, ?_⟩
  · intro left right outside
    exact ⟨(byAncestor_localChange filed apart remembers left right).eq_of_not outside,
      (find_localChange filed apart remembers left right).eq_of_not outside⟩
  · intro left right differ
    exact (byAncestor_localChange filed apart remembers left right).eq_some_of_ne differ
  · intro left right differ
    exact (find_localChange filed apart remembers left right).eq_some_of_ne differ
  · intro left right otherSource
    constructor
    · apply (exact_localChange filed apart remembers left right).eq_of_not
      rintro ⟨same, _⟩
      exact otherSource same.symm
    · rw [Bool.eq_iff_iff, remembers.table, filed.isDerived_iff]
      constructor
      · rintro ⟨_, derived | ⟨covers, _⟩⟩
        · exact derived
        · exact absurd covers.1.symm otherSource
      · intro derived
        refine ⟨?_, Or.inl derived⟩
        rintro ⟨same, _⟩
        exact otherSource same.symm

def wordToBool : Converter :=
  ⟨.given 2, .total .string .bool fun _ => true⟩

/-- A rule makes a truth value of anything, and an ancestor of truth values has an entry by then. -/
def beforeWordToBool : List Operation :=
  [ .declareAll
      [(Declaration.of .str).extending .string, (Declaration.of .bool).implementing .number,
        (Declaration.of .char).implementing .number],
    .registerRule ⟨.given 0, .fixedTarget .bool (fun _ => true) fun _ => .ok true⟩,
    .register .string .char ⟨.given 1, .total .string .char fun _ => 'c'⟩ ]

theorem register_changes_locally_over_rule :
    let registry := (ofTypes ∅ {}).after beforeWordToBool
    let outcome := register .string .bool wordToBool registry
    Reachable registry ∧ outcome.result = .ok () ∧
      (find .str .bool registry).result.map Converter.identity = some (.given 0) ∧
      (find .str .bool outcome.registry).result = some wordToBool ∧
      (byAncestor .str .number outcome.registry).result.map Converter.identity =
        some (.given 1) ∧
      (find .char .bool outcome.registry).result = (find .char .bool registry).result := by
  intro registry outcome
  have reachable : Reachable registry := (Reachable.created _ _ _ _).after beforeWordToBool
  have succeeded : outcome.result = .ok () :=
    register_eq_ok_iff.mpr ⟨by decide +kernel, by decide +kernel⟩
  have byRuleBefore : (find .str .bool registry).result.map Converter.identity =
      some (.given 0) := by decide +kernel
  have otherAfter : (find .str .bool outcome.registry).result.map Converter.identity ≠
      some (.given 0) := by decide +kernel
  have outside : ¬registry.Concerns .string .bool .char .bool := by
    intro concerns
    exact absurd concerns.1 (by decide +kernel)
  rcases register_changes_locally reachable succeeded with ⟨kept, _, moved, _⟩
  refine ⟨reachable, succeeded, byRuleBefore, ?_, by decide +kernel, (kept _ _ outside).2⟩
  apply moved
  intro same
  rw [same] at otherAfter
  exact otherAfter byRuleBefore

end Registry

end Conversion
