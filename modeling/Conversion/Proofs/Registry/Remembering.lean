import Conversion.Proofs.Hierarchy.LastDeclaration
import Conversion.Proofs.Registry.Composition

/-!
# Actions that only look things up

A lookup may leave a longer memory of ancestor chains behind and nothing else. `Registry.Remembers`
is this relation between the registries before and after, and every level of lookup, the conversion
of a value included, stays within it. The results do not depend on what is remembered either: they
are functions of the declarations, the table and the rules.
-/

namespace Conversion

namespace Registry

/-- Whether one registry differs from another in remembered chains at most. -/
structure Remembers (before after : Registry) : Prop where
  declarations : after.types.declarations = before.types.declarations
  table : after.table = before.table
  rules : after.rules = before.rules
  registrars : after.registrars = before.registrars
  options : after.options = before.options
  serial : after.serial = before.serial

namespace Remembers

theorem refl (registry : Registry) : Remembers registry registry :=
  ⟨rfl, rfl, rfl, rfl, rfl, rfl⟩

theorem trans {first second third : Registry} (earlier : Remembers first second)
    (later : Remembers second third) : Remembers first third where
  declarations := later.declarations.trans earlier.declarations
  table := later.table.trans earlier.table
  rules := later.rules.trans earlier.rules
  registrars := later.registrars.trans earlier.registrars
  options := later.options.trans earlier.options
  serial := later.serial.trans earlier.serial

theorem symm {before after : Registry} (remembers : Remembers before after) :
    Remembers after before where
  declarations := remembers.declarations.symm
  table := remembers.table.symm
  rules := remembers.rules.symm
  registrars := remembers.registrars.symm
  options := remembers.options.symm
  serial := remembers.serial.symm

theorem ofTypes {registry : Registry} {types : Hierarchy}
    (kept : types.declarations = registry.types.declarations) :
    Remembers registry { registry with types } :=
  ⟨kept, rfl, rfl, rfl, rfl, rfl⟩

theorem withTable {before after : Registry} (remembers : Remembers before after)
    (table : Table) : Remembers { before with table } { after with table } :=
  ⟨remembers.declarations, rfl, remembers.rules, remembers.registrars, remembers.options,
    remembers.serial⟩

end Remembers

end Registry

namespace Action

variable {α β : Type}

/-- Whether an action only looks things up. -/
def OnlyAsks (action : Action α) : Prop :=
  ∀ registry, Registry.Remembers registry (action registry).registry

namespace OnlyAsks

theorem done (result : α) : OnlyAsks (done result) :=
  Registry.Remembers.refl

theorem report (events : List Event) : OnlyAsks (report events) :=
  Registry.Remembers.refl

theorem query {ask : Hierarchy → α × Hierarchy}
    (kept : ∀ types, (ask types).2.declarations = types.declarations) : OnlyAsks (query ask) :=
  fun registry => Registry.Remembers.ofTypes (kept registry.types)

theorem map {action : Action α} (asks : OnlyAsks action) (change : α → β) :
    OnlyAsks (action.map change) :=
  asks

theorem bind {first : Action α} {next : α → Action β} (asks : OnlyAsks first)
    (nextAsks : ∀ result, OnlyAsks (next result)) : OnlyAsks (first >>= next) := by
  intro registry
  have earlier := asks registry
  have later := nextAsks (first registry).result (first registry).registry
  exact earlier.trans later

theorem composes : Compositional fun _ action => OnlyAsks action :=
  ⟨done, bind⟩

end OnlyAsks

end Action

namespace Registry

open Conversion.Action

theorem ancestors_onlyAsks (key : TypeKey) : OnlyAsks (query (·.ancestors key)) :=
  OnlyAsks.query fun types => types.declarations_ancestors key

theorem isAssignable_onlyAsks (source target : TypeKey) :
    OnlyAsks (query (·.isAssignable source target)) :=
  OnlyAsks.query fun types => types.declarations_isAssignable source target

theorem areConvertible_onlyAsks (left right : TypeKey) :
    OnlyAsks (query (·.areConvertible left right)) :=
  OnlyAsks.query fun types => types.declarations_areConvertible left right

theorem exact_onlyAsks (source target : TypeKey) : OnlyAsks (exact source target) :=
  Remembers.refl

theorem reportAmbiguity_onlyAsks (source target : TypeKey) (chain : List TypeKey) :
    OnlyAsks (reportAmbiguity source target chain) := by
  intro registry
  unfold reportAmbiguity
  split <;> exact Remembers.refl registry

theorem byAncestor_onlyAsks (source target : TypeKey) : OnlyAsks (byAncestor source target) := by
  refine OnlyAsks.bind (ancestors_onlyAsks source) ?_
  intro chain
  exact OnlyAsks.bind (reportAmbiguity_onlyAsks source target chain) fun _ => Remembers.refl

theorem byRule_onlyAsks (source target : TypeKey) : OnlyAsks (byRule source target) := by
  intro registry
  exact Remembers.ofTypes
    (RuleBook.declarations_firstServing source target registry.rules.toList registry.types)

theorem find_onlyAsks (source target : TypeKey) : OnlyAsks (find source target) :=
  OnlyAsks.composes.find (exact_onlyAsks source target) (byAncestor_onlyAsks source target)
    (byRule_onlyAsks source target) (OnlyAsks.report _) (OnlyAsks.report _)

theorem convertAs_onlyAsks (value : Value) (source target : TypeKey) :
    OnlyAsks (convertAs value source target) :=
  OnlyAsks.map (find_onlyAsks source target) _

/-! ### Results -/

theorem exact_result (source target : TypeKey) (registry : Registry) :
    (exact source target registry).result = registry.table.find? source target :=
  rfl

theorem byAncestor_result (source target : TypeKey) (registry : Registry) :
    (byAncestor source target registry).result =
      (registry.types.declarations.walk source).findSome? (registry.table.find? · target) := by
  have chain := registry.types.ancestors_fst source
  have kept := (ancestors_onlyAsks source).bind
    (fun chain => reportAmbiguity_onlyAsks source target chain) registry
  change ((registry.types.ancestors source).1.findSome? fun key => Table.find? _ key target) = _
  rw [chain]
  exact congrArg (fun table : Table =>
    (registry.types.declarations.walk source).findSome? (table.find? · target)) kept.table

theorem byAncestor_isSome_iff {source target : TypeKey} {registry : Registry} :
    (byAncestor source target registry).result.isSome = true ↔
      ∃ key ∈ registry.types.declarations.walk source,
        registry.table.contains key target = true := by
  rw [byAncestor_result, List.findSome?_isSome_iff]
  rfl

/-- A search by ancestors takes the converter of the first ancestor that has an entry. -/
theorem byAncestor_eq_bind_find? (source target : TypeKey) (registry : Registry) :
    (byAncestor source target registry).result =
      ((registry.types.declarations.walk source).find? (registry.table.contains · target)).bind
        (registry.table.find? · target) := by
  rw [byAncestor_result]
  induction registry.types.declarations.walk source with
  | nil => rfl
  | cons key rest ih =>
      rw [List.findSome?_cons, List.find?_cons, Table.contains]
      cases found : registry.table.find? key target with
      | some converter => simp [found]
      | none => simpa using ih

/-- Which pairs a rule serves depends on the declarations that are looked up, neither on their order
nor on remembered chains. -/
theorem canConvert_congr {types others : Hierarchy}
    (same : ∀ key, types.declarations.find? key = others.declarations.find? key) (rule : Rule)
    (source target : TypeKey) :
    (rule.canConvert source target types).1 = (rule.canConvert source target others).1 := by
  rcases rule with ⟨identity, body⟩
  cases body with
  | fixedSource own accepts run => rfl
  | fixedTarget own accepts run => rfl
  | assignableSource base own run =>
      simp only [Rule.canConvert, RuleBody.canConvert]
      split
      · rw [Hierarchy.isAssignable_fst, Hierarchy.isAssignable_fst, Declarations.walk_congr same]
      · rfl
  | custom kind accepts run =>
      have sameView : types.declarations.find? = others.declarations.find? := funext same
      simp only [Rule.canConvert, RuleBody.canConvert, sameView]

theorem firstServing_fst (source target : TypeKey) (rules : List Rule) (types : Hierarchy) :
    (RuleBook.firstServing source target rules types).1 =
      rules.find? fun rule => (rule.canConvert source target types).1 := by
  suffices ∀ asked : Hierarchy, asked.declarations = types.declarations →
      (RuleBook.firstServing source target rules asked).1 =
        rules.find? fun rule => (rule.canConvert source target types).1 from this types rfl
  intro asked same
  induction rules generalizing asked with
  | nil => rfl
  | cons rule rest ih =>
      have kept := rule.body.declarations_canConvert source target asked
      have alike : ∀ key, asked.declarations.find? key = types.declarations.find? key := by
        simp [same]
      rw [List.find?_cons, ← canConvert_congr alike]
      unfold RuleBook.firstServing
      rcases answer : rule.canConvert source target asked with ⟨serves, remembering⟩
      cases serves with
      | true => rfl
      | false =>
          have keptHere : remembering.declarations = asked.declarations := by
            rw [← kept, ← Rule.canConvert, answer]
          exact ih remembering (keptHere.trans same)

/-- A search by rules takes the first rule that serves the pair. -/
theorem byRule_result (source target : TypeKey) (registry : Registry) :
    (byRule source target registry).result =
      (registry.rules.toList.find? fun rule =>
        (rule.canConvert source target registry.types).1).map Rule.toConverter :=
  congrArg (Option.map Rule.toConverter) (firstServing_fst source target _ registry.types)

theorem byRule_congr {left right : Registry}
    (declarations : left.types.declarations = right.types.declarations)
    (rules : left.rules = right.rules) (source target : TypeKey) :
    (byRule source target left).result = (byRule source target right).result := by
  have alike : ∀ key, left.types.declarations.find? key = right.types.declarations.find? key := by
    simp [declarations]
  simp only [byRule_result, rules, canConvert_congr alike]

/-- The three levels in their order. Rules are asked in the registry that the search by ancestors
leaves, which may remember one more chain. -/
theorem find_result (source target : TypeKey) (registry : Registry) :
    (find source target registry).result =
      ((registry.table.find? source target).or (byAncestor source target registry).result).or
        (byRule source target (byAncestor source target registry).registry).result := by
  change Outcome.result (Action.andThen (exact source target) _ registry) = _
  simp only [Action.andThen, exact_result]
  cases registry.table.find? source target with
  | some converter => rfl
  | none =>
      change Outcome.result (Action.andThen (byAncestor source target) _ registry) = _
      simp only [Action.andThen, Option.none_or]
      cases (byAncestor source target registry).result with
      | some converter => rfl
      | none =>
          change Outcome.result (Action.andThen (byRule source target) _ _) = _
          simp only [Action.andThen, Option.none_or]
          cases (byRule source target _).result <;> rfl

end Registry

end Conversion
