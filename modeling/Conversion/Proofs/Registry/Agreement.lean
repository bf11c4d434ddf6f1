import Conversion.Registry.Iteration
import Conversion.Proofs.Hierarchy.LastDeclaration
import Conversion.Proofs.Registry.Reporting

/-!
# Registries that answer alike

Two registries are alike when they differ in what no caller is to notice: in the chains that their
hierarchies remember and, if diagnostic events are left out of account, in their options. Actions
respect this. Done with registries that are alike they have the same result, report the same events
apart from those left out, and leave registries that are alike again.

`diagnostics` says whether diagnostic events count. With them the statements are about memory alone,
without them about the options as well.
-/

namespace Conversion

/-- The events that count. -/
def shown (diagnostics : Bool) (events : List Event) : List Event :=
  events.filter fun event => diagnostics || !event.isDiagnostic

theorem shown_append (diagnostics : Bool) (earlier later : List Event) :
    shown diagnostics (earlier ++ later) = shown diagnostics earlier ++ shown diagnostics later :=
  List.filter_append earlier later

namespace Hierarchy

/-- Whether two hierarchies hold the same declarations. -/
def Alike (left right : Hierarchy) : Prop :=
  ∀ key, left.declarations.find? key = right.declarations.find? key

namespace Alike

variable {left right : Hierarchy}

theorem of_kept {nextLeft nextRight : Hierarchy} (alike : left.Alike right)
    (leftKept : nextLeft.declarations = left.declarations)
    (rightKept : nextRight.declarations = right.declarations) : nextLeft.Alike nextRight := by
  intro key
  rw [leftKept, rightKept]
  exact alike key

theorem declare (alike : left.Alike right) (declaration : Declaration) :
    (left.declare declaration).Alike (right.declare declaration) := by
  intro key
  have leftFound := left.declarations.find?_declareAll [declaration] key
  have rightFound := right.declarations.find?_declareAll [declaration] key
  exact leftFound.trans ((congrArg _ (alike key)).trans rightFound.symm)

theorem declareAll (alike : left.Alike right) (declarations : List Declaration) :
    (left.declareAll declarations).Alike (right.declareAll declarations) := by
  intro key
  have leftFound := left.declarations.find?_declareAll declarations key
  have rightFound := right.declarations.find?_declareAll declarations key
  exact leftFound.trans ((congrArg _ (alike key)).trans rightFound.symm)

theorem isPublic (alike : left.Alike right) (key : TypeKey) :
    left.isPublic key = right.isPublic key := by
  simp only [Hierarchy.isPublic, Declarations.isPublic, alike key]

theorem ancestors (alike : left.Alike right) (key : TypeKey) :
    (left.ancestors key).1 = (right.ancestors key).1 := by
  rw [ancestors_fst, ancestors_fst, Declarations.walk_congr alike]

theorem isAssignable (alike : left.Alike right) (source target : TypeKey) :
    (left.isAssignable source target).1 = (right.isAssignable source target).1 := by
  rw [isAssignable_eq_contains, isAssignable_eq_contains, Declarations.walk_congr alike]

theorem areConvertible (alike : left.Alike right) (first second : TypeKey) :
    (left.areConvertible first second).1 = (right.areConvertible first second).1 := by
  rw [areConvertible_eq_contains, areConvertible_eq_contains, Declarations.walk_congr alike,
    Declarations.walk_congr alike]

theorem firstServing (alike : left.Alike right) (source target : TypeKey) (rules : List Rule) :
    (RuleBook.firstServing source target rules left).1 =
      (RuleBook.firstServing source target rules right).1 := by
  rw [Registry.firstServing_fst, Registry.firstServing_fst]
  congr 1
  funext rule
  exact Registry.canConvert_congr alike rule source target

end Alike

end Hierarchy

namespace Registry

/-- Whether two registries differ in remembered chains and uncounted options at most. -/
structure Alike (diagnostics : Bool) (left right : Registry) : Prop where
  types : left.types.Alike right.types
  table : left.table = right.table
  rules : left.rules = right.rules
  registrars : left.registrars = right.registrars
  serial : left.serial = right.serial
  options : diagnostics = true → left.options = right.options

theorem Remembers.alike {diagnostics : Bool} {before after : Registry}
    (remembers : Remembers before after) : before.Alike diagnostics after where
  types := by
    intro key
    rw [remembers.declarations]
  table := remembers.table.symm
  rules := remembers.rules.symm
  registrars := remembers.registrars.symm
  serial := remembers.serial.symm
  options := fun _ => remembers.options.symm

theorem Alike.withTypes {diagnostics : Bool} {left right : Registry}
    (alike : left.Alike diagnostics right) {leftTypes rightTypes : Hierarchy}
    (types : leftTypes.Alike rightTypes) :
    { left with types := leftTypes }.Alike diagnostics { right with types := rightTypes } :=
  ⟨types, alike.table, alike.rules, alike.registrars, alike.serial, alike.options⟩

theorem Alike.withTable {diagnostics : Bool} {left right : Registry}
    (alike : left.Alike diagnostics right) (table : Table) :
    { left with table }.Alike diagnostics { right with table } :=
  ⟨alike.types, rfl, alike.rules, alike.registrars, alike.serial, alike.options⟩

theorem Alike.clear {diagnostics : Bool} {left right : Registry}
    (alike : left.Alike diagnostics right) : left.clear.Alike diagnostics right.clear :=
  ⟨alike.types, rfl, rfl, alike.registrars, alike.serial, alike.options⟩

end Registry

/-- Whether two outcomes differ in what no caller is to notice at most. -/
structure Outcome.Alike {α : Type} (diagnostics : Bool) (left right : Outcome α) : Prop where
  result : left.result = right.result
  registry : left.registry.Alike diagnostics right.registry
  events : shown diagnostics left.events = shown diagnostics right.events

namespace Action

variable {α β : Type} {diagnostics : Bool}

/-- Whether an action has outcomes that are alike on registries that are alike. -/
def Respects (diagnostics : Bool) (action : Action α) : Prop :=
  ∀ ⦃left right : Registry⦄, left.Alike diagnostics right →
    (action left).Alike diagnostics (action right)

namespace Respects

theorem done (result : α) : Respects diagnostics (done result) :=
  fun _ _ alike => ⟨rfl, alike, rfl⟩

theorem report (events : List Event) : Respects diagnostics (report events) :=
  fun _ _ alike => ⟨rfl, alike, rfl⟩

theorem map {action : Action α} (respects : Respects diagnostics action) (change : α → β) :
    Respects diagnostics (action.map change) := by
  intro left right alike
  have outcome := respects alike
  exact ⟨congrArg change outcome.result, outcome.registry, outcome.events⟩

theorem andThen {first : Action α} {next : α → Action β} (respects : Respects diagnostics first)
    (nextRespects : ∀ result, Respects diagnostics (next result)) :
    Respects diagnostics (first.andThen next) := by
  intro left right alike
  have earlier := respects alike
  have later := nextRespects (first left).result earlier.registry
  simp only [Action.andThen, ← earlier.result]
  refine ⟨later.result, later.registry, ?_⟩
  rw [shown_append, shown_append, earlier.events, later.events]

theorem bind {first : Action α} {next : α → Action β} (respects : Respects diagnostics first)
    (nextRespects : ∀ result, Respects diagnostics (next result)) :
    Respects diagnostics (first >>= next) :=
  respects.andThen nextRespects

theorem composes : Compositional fun _ action => Respects diagnostics action :=
  ⟨done, andThen⟩

theorem query {ask : Hierarchy → α × Hierarchy}
    (answer : ∀ {left right : Hierarchy}, left.Alike right → (ask left).1 = (ask right).1)
    (kept : ∀ types, (ask types).2.declarations = types.declarations) :
    Respects diagnostics (query ask) := by
  intro left right alike
  exact ⟨answer alike.types, alike.withTypes (alike.types.of_kept (kept _) (kept _)), rfl⟩

/-- An action that reports diagnostic events only, and only when the options ask for it, asks the
hierarchy at most. -/
theorem of_diagnostic {action : Action Unit} (asks : OnlyAsks action)
    (diagnostic : IsDiagnostic action)
    (same : ∀ {left right : Registry}, left.Alike true right →
      (action left).events = (action right).events) :
    Respects diagnostics action := by
  intro left right alike
  have leftAsks := asks left
  have rightAsks := asks right
  refine ⟨rfl, ⟨?_, ?_, ?_, ?_, ?_, ?_⟩, ?_⟩
  · exact alike.types.of_kept leftAsks.declarations rightAsks.declarations
  · rw [leftAsks.table, rightAsks.table, alike.table]
  · rw [leftAsks.rules, rightAsks.rules, alike.rules]
  · rw [leftAsks.registrars, rightAsks.registrars, alike.registrars]
  · rw [leftAsks.serial, rightAsks.serial, alike.serial]
  · intro counted
    rw [leftAsks.options, rightAsks.options, alike.options counted]
  · cases diagnostics with
    | true => exact congrArg (shown true) (same alike)
    | false =>
        have unseen : ∀ registry, shown false (action registry).events = [] := by
          intro registry
          apply List.filter_eq_nil_iff.mpr
          intro event reported
          simp [diagnostic registry event reported]
        rw [unseen, unseen]

end Respects

end Action

namespace Registry

open Conversion.Action

variable {diagnostics : Bool}

/-! ### Lookups -/

theorem ancestors_respects (key : TypeKey) : Respects diagnostics (query (·.ancestors key)) :=
  Respects.query (fun alike => alike.ancestors key) fun types => types.declarations_ancestors key

theorem isAssignable_respects (source target : TypeKey) :
    Respects diagnostics (query (·.isAssignable source target)) :=
  Respects.query (fun alike => alike.isAssignable source target) fun types =>
    types.declarations_isAssignable source target

theorem areConvertible_respects (left right : TypeKey) :
    Respects diagnostics (query (·.areConvertible left right)) :=
  Respects.query (fun alike => alike.areConvertible left right) fun types =>
    types.declarations_areConvertible left right

theorem exact_respects (source target : TypeKey) : Respects diagnostics (exact source target) := by
  intro left right alike
  refine ⟨?_, alike, rfl⟩
  rw [exact_result, exact_result, alike.table]

theorem reportAmbiguity_respects (source target : TypeKey) (chain : List TypeKey) :
    Respects diagnostics (reportAmbiguity source target chain) := by
  refine Respects.of_diagnostic (reportAmbiguity_onlyAsks source target chain)
    (reportAmbiguity_isDiagnostic source target chain) ?_
  intro left right alike
  unfold reportAmbiguity
  rw [alike.options rfl, alike.table]
  split <;> rfl

theorem byAncestor_respects (source target : TypeKey) :
    Respects diagnostics (byAncestor source target) := by
  refine Respects.bind (ancestors_respects source) ?_
  intro chain
  refine Respects.bind (reportAmbiguity_respects source target chain) ?_
  intro _ left right alike
  refine ⟨?_, alike, rfl⟩
  exact congrArg (fun table : Table => chain.findSome? (table.find? · target)) alike.table

theorem byRule_respects (source target : TypeKey) :
    Respects diagnostics (byRule source target) := by
  intro left right alike
  refine ⟨?_, alike.withTypes (alike.types.of_kept ?_ ?_), rfl⟩
  · simp only [byRule, RuleBook.find, alike.rules]
    rw [alike.types.firstServing source target]
  · exact RuleBook.declarations_firstServing source target _ _
  · exact RuleBook.declarations_firstServing source target _ _

theorem find_respects (source target : TypeKey) : Respects diagnostics (find source target) :=
  Respects.composes.find (exact_respects source target) (byAncestor_respects source target)
    (byRule_respects source target) (Respects.report _) (Respects.report _)

theorem convertAs_respects (value : Value) (source target : TypeKey) :
    Respects diagnostics (convertAs value source target) :=
  (find_respects source target).map _

theorem convert_respects (source target : TypeKey) (content : source.Carrier) :
    Respects diagnostics (convert source target content) :=
  (convertAs_respects ⟨source, content⟩ source target).map _

/-! ### Registrations and declarations -/

theorem declare_respects (declaration : Declaration) :
    Respects diagnostics (declare declaration) :=
  fun _ _ alike => ⟨rfl, alike.withTypes (alike.types.declare declaration), rfl⟩

theorem declareAll_respects (declarations : List Declaration) :
    Respects diagnostics (declareAll declarations) :=
  fun _ _ alike => ⟨rfl, alike.withTypes (alike.types.declareAll declarations), rfl⟩

theorem reportRedundancy_respects (source target : TypeKey) :
    Respects diagnostics (reportRedundancy source target) := by
  refine Respects.of_diagnostic (reportRedundancy_onlyAsks source target)
    (reportRedundancy_isDiagnostic source target) ?_
  intro left right alike
  have sameVerdict := alike.types.areConvertible source target
  unfold reportRedundancy
  rw [alike.options rfl]
  split
  · dsimp only
    rw [sameVerdict]
  · rfl

theorem fileInTable_respects (source target : TypeKey) (converter : Converter)
    (chain : List TypeKey) : Respects diagnostics (fileInTable source target converter chain) := by
  intro left right alike
  unfold fileInTable
  rw [alike.table]
  cases right.table.file source target converter chain with
  | none => exact ⟨rfl, alike, rfl⟩
  | some filed => exact ⟨rfl, alike.withTable filed.1, rfl⟩

theorem register_respects (source target : TypeKey) (converter : Converter) :
    Respects diagnostics (register source target converter) := by
  intro left right alike
  have sameRefusal : refusal? left.types source target converter =
      refusal? right.types source target converter := by
    unfold refusal?
    rw [alike.types.isPublic source, alike.types.isPublic target]
  cases refusal : refusal? right.types source target converter with
  | some error =>
      rw [register_of_refused (sameRefusal.trans refusal), register_of_refused refusal]
      exact ⟨rfl, alike, rfl⟩
  | none =>
      have prepared : Respects diagnostics (prepare source target) :=
        Respects.bind (reportRedundancy_respects source target) fun _ => ancestors_respects target
      rw [register_of_admitted (sameRefusal.trans refusal), register_of_admitted refusal]
      exact prepared.andThen (fileInTable_respects source target converter) alike

theorem registerRule_respects (rule : Rule) : Respects diagnostics (registerRule rule) := by
  intro left right alike
  have sameRules : left.rules.add rule = right.rules.add rule := by rw [alike.rules]
  exact ⟨rfl, ⟨alike.types, alike.table, sameRules, alike.registrars, alike.serial, alike.options⟩,
    rfl⟩

theorem nextIdentity_respects : Respects diagnostics nextIdentity := by
  intro left right alike
  refine ⟨congrArg Identity.made alike.serial, ?_, rfl⟩
  exact ⟨alike.types, alike.table, alike.rules, alike.registrars,
    congrArg (· + 1) alike.serial, alike.options⟩

/-! ### Registrars -/

theorem ask_respects (question : Question) : Respects diagnostics question.ask := by
  cases question with
  | ancestors key => exact (ancestors_respects key).map fun _ => ()
  | isAssignable source target => exact (isAssignable_respects source target).map fun _ => ()
  | areConvertible left right => exact (areConvertible_respects left right).map fun _ => ()
  | exact source target => exact (exact_respects source target).map fun _ => ()
  | byAncestor source target => exact (byAncestor_respects source target).map fun _ => ()
  | byRule source target => exact (byRule_respects source target).map fun _ => ()
  | find source target => exact (find_respects source target).map fun _ => ()
  | convert value source target => exact (convertAs_respects value source target).map fun _ => ()

theorem edits_respect : OfEdits fun _ action => Respects diagnostics action where
  declare := declare_respects
  declareAll := declareAll_respects
  register := register_respects
  registerRule := registerRule_respects
  nextIdentity := nextIdentity_respects
  ask := ask_respects

theorem registerForAll_respects (sources : List TypeKey) (target : TypeKey)
    (converter : Converter) : Respects diagnostics (registerForAll sources target converter) :=
  Respects.composes.registerForAll edits_respect sources target converter

theorem run_respects (registrar : Registrar) : Respects diagnostics registrar.run :=
  Respects.composes.run edits_respect registrar

theorem clear_respects : Respects diagnostics (modify clear) :=
  fun _ _ alike => ⟨rfl, alike.clear, rfl⟩

theorem reportInitialized_respects : Respects diagnostics reportInitialized := by
  intro left right alike
  refine ⟨rfl, alike, ?_⟩
  simp only [reportInitialized, converterCount, ruleCount, alike.table, alike.rules]

theorem reinitialize_respects : Respects diagnostics reinitialize := by
  intro left right alike
  have running : Respects diagnostics (runAll right.registrars) :=
    Respects.composes.runAll edits_respect right.registrars
  unfold reinitialize
  rw [alike.registrars]
  exact Respects.composes.followedBy running reportInitialized_respects alike.clear

/-! ### Iteration -/

theorem visitAll_respects {σ : Type} {visitor : Visitor σ}
    (respects : ∀ state pair converter, Respects diagnostics (visitor state pair converter))
    (entries : List (TypePair × Converter)) (state : σ) :
    Respects diagnostics (visitAll visitor state entries) := by
  induction entries generalizing state with
  | nil => exact Respects.done state
  | cons entry rest ih =>
      refine (respects state entry.1 entry.2).andThen ?_
      rintro ⟨next, flow⟩
      cases flow with
      | proceed => exact ih next
      | stop => exact Respects.done next

theorem forEachConverter_respects {σ : Type} {visitor : Visitor σ}
    (respects : ∀ state pair converter, Respects diagnostics (visitor state pair converter))
    (state : σ) : Respects diagnostics (forEachConverter visitor state) := by
  intro left right alike
  unfold forEachConverter
  rw [alike.table]
  exact visitAll_respects respects right.table.toList state alike

end Registry

end Conversion
