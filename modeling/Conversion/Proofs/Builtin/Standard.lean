import Conversion.Builder
import Conversion.Builtin.Registrars
import Conversion.Proofs.Registry.Stopping

/-!
# What the built-in registrars leave

A registry with the two built-in registrars, over a hierarchy in which none of the built-in types
was declared, holds the same entries and rules whatever else is declared
(`isStandard_of_areBuiltin`): the types of the user can stand below the built-in ones, and nothing
above a built-in type depends on them.
`IsStandard` keeps of such a registry what its answers depend on.
-/

namespace Conversion

/-- Whether a type is one of those that the library knows by itself. -/
def TypeKey.IsBuiltin : TypeKey → Bool
  | .custom _ => false
  | .abstract _ => false
  | _ => true

namespace Declarations

variable {declarations : Declarations} {key above : TypeKey}

theorem walk_of_single (single : declarations.edges key = [above])
    (top : declarations.edges above = []) (apart : above ≠ key) :
    declarations.walk key = [key, above] := by
  simp [walk, walkFrom, single, top, apart]

end Declarations

namespace Builtin

/-! ### Types -/

/-- Whether the built-in types stand where the registrars put them. -/
def HasTypes (declarations : Declarations) : Prop :=
  ∀ key, key.IsBuiltin = true →
    declarations.find? key = Declaration.lastFor key Builtin.declarations

/-- A built-in type followed by its ancestors. -/
def chain : TypeKey → List TypeKey
  | .int type => [.int type, .number]
  | .float format => [.float format, .number]
  | .string => [.string, .text]
  | .str => [.str, .text]
  | key => [key]

theorem hasTypes_declareAll {types : Declarations}
    (undeclared : ∀ key, key.IsBuiltin = true → types.contains key = false) :
    HasTypes (types.declareAll declarations) := by
  intro key isBuiltin
  have absent : types.find? key = none := by simpa [KeyMap.contains] using undeclared key isBuiltin
  rw [Declarations.find?_declareAll, absent, Option.or_none]

theorem lastFor_number {key : TypeKey} (number : isNumber key = true) :
    Declaration.lastFor key declarations = some ((Declaration.of key).implementing .number) := by
  rw [isNumber_eq] at number
  cases key with
  | int type =>
      rcases type with ⟨signed, width⟩
      cases signed <;> cases width <;> decide
  | float format => cases format <;> decide
  | _ => cases number

namespace HasTypes

variable {declarations : Declarations} (has : HasTypes declarations)

include has

theorem edges_eq {key : TypeKey} (isBuiltin : key.IsBuiltin = true) :
    declarations.edges key =
      (Declaration.lastFor key Builtin.declarations).elim [] Declaration.edges := by
  rw [Declarations.edges_eq_elim, has key isBuiltin]

theorem edges_of_number {key : TypeKey} (isBuiltin : key.IsBuiltin = true)
    (number : isNumber key = true) : declarations.edges key = [.number] := by
  rw [has.edges_eq isBuiltin, lastFor_number number]
  rfl

/-- Above a built-in type stands at most the interface that it implements. -/
theorem walk_eq (key : TypeKey) (isBuiltin : key.IsBuiltin = true) :
    declarations.walk key = chain key := by
  have noneAbove : ∀ top ∈ [TypeKey.number, .text], declarations.edges top = [] := by
    simp only [List.forall_mem_cons]
    exact ⟨has.edges_eq rfl, has.edges_eq rfl, by simp⟩
  cases key with
  | int type =>
      have edges := has.edges_of_number isBuiltin (isNumber_eq (.int type))
      exact Declarations.walk_of_single edges (noneAbove .number (by simp)) (by simp)
  | float format =>
      have edges := has.edges_of_number isBuiltin (isNumber_eq (.float format))
      exact Declarations.walk_of_single edges (noneAbove .number (by simp)) (by simp)
  | string =>
      exact Declarations.walk_of_single (has.edges_eq rfl) (noneAbove .text (by simp)) (by simp)
  | str =>
      exact Declarations.walk_of_single (has.edges_eq rfl) (noneAbove .text (by simp)) (by simp)
  | custom name => cases isBuiltin
  | abstract name => cases isBuiltin
  | _ => exact Declarations.walk_of_leaf (has.edges_eq rfl)

theorem isPublic {key : TypeKey} (isBuiltin : key.IsBuiltin = true) :
    declarations.isPublic key = true := by
  have allPublic : ∀ declaration ∈ Builtin.declarations, declaration.isPublic = true := by decide
  rw [Declarations.isPublic, has key isBuiltin]
  cases found : Declaration.lastFor key Builtin.declarations with
  | none => rfl
  | some declaration =>
      apply allPublic
      exact List.mem_reverse.mp (List.mem_of_find?_eq_some found)

end HasTypes

/-! ### Entries and rules -/

def entryFor? : TypeKey → TypeKey → Option Behavior
  | .number, .string => some numberToString
  | .number, .text => some numberToString
  | .bool, .string => some boolToString
  | .bool, .text => some boolToString
  | .char, .string => some charToString
  | .char, .text => some charToString
  | .str, .string => some strToString
  | .str, .text => some strToString
  | .string, .bool => some stringToBool
  | .string, .char => some stringToChar
  | _, _ => none

/-- The rules in the order in which they are tried. -/
def ruleBodies : List RuleBody :=
  [stringToNumber, strToNumber, numberToBool, anyTextToBool]

/-- Whether a registry holds what the built-in registrars file, and nothing else. -/
structure IsStandard (registry : Registry) : Prop where
  types : HasTypes registry.types.declarations
  entries : ∀ source target,
    (registry.table.find? source target).map Converter.behavior = entryFor? source target
  rules : registry.rules.toList.map Rule.body = ruleBodies

theorem IsStandard.of_remembers {before after : Registry} (standard : IsStandard before)
    (remembers : Registry.Remembers before after) : IsStandard after where
  types := by
    rw [remembers.declarations]
    exact standard.types
  entries := by
    rw [remembers.table]
    exact standard.entries
  rules := by
    rw [remembers.rules]
    exact standard.rules

/-- What is filed, when the first object has this serial number. -/
def filings (serial : Nat) : List Filing :=
  [ ⟨.number, .string, ⟨.made serial, numberToString⟩, [.string, .text]⟩,
    ⟨.bool, .string, ⟨.made (serial + 1), boolToString⟩, [.string, .text]⟩,
    ⟨.string, .bool, ⟨.made (serial + 2), stringToBool⟩, [.bool]⟩,
    ⟨.char, .string, ⟨.made (serial + 3), charToString⟩, [.string, .text]⟩,
    ⟨.string, .char, ⟨.made (serial + 4), stringToChar⟩, [.char]⟩,
    ⟨.str, .string, ⟨.made (serial + 5), strToString⟩, [.string, .text]⟩ ]

/-- The rules that are added, when the first object has this serial number. -/
def rulesFrom (serial : Nat) : List Rule :=
  [ ⟨.made serial, stringToNumber⟩, ⟨.made (serial + 1), strToNumber⟩,
    ⟨.made (serial + 2), numberToBool⟩, ⟨.made (serial + 3), anyTextToBool⟩ ]

def declaringStep : ScriptStep :=
  ⟨[primitives.name], .call (.declareAll declarations)⟩

/-- The steps behind the declarations: each converter is made and then filed. -/
def registeringSteps (serial : Nat) : List ScriptStep :=
  (filings serial).flatMap fun filing =>
    [ ⟨[primitives.name], .call .takeIdentity⟩,
      ⟨[primitives.name], .register filing.source filing.target filing.converter⟩ ]

/-- The steps that add rules: each rule is made and then added. -/
def addingSteps (added : List Rule) : List ScriptStep :=
  added.flatMap fun rule =>
    [ ⟨[rules.name], .call .takeIdentity⟩, ⟨[rules.name], .call (.registerRule rule)⟩ ]

theorem unroll_primitives_rules (serial : Nat) :
    Registrar.unroll serial [primitives, rules] =
      declaringStep :: (registeringSteps serial ++ addingSteps (rulesFrom (serial + 6))) := by
  simp [Registrar.unroll, Registrar.asInstruction, unrollAll, Instruction.unroll, primitives, rules,
    Supply.making, Supply.converterAt, Supply.ruleAt, madeIn, Deed.made, declaringStep,
    registeringSteps, addingSteps, filings, rulesFrom]

theorem unroll_rules_primitives (serial : Nat) :
    Registrar.unroll serial [rules, primitives] =
      addingSteps (rulesFrom serial) ++ declaringStep :: registeringSteps (serial + 4) := by
  simp [Registrar.unroll, Registrar.asInstruction, unrollAll, Instruction.unroll, primitives, rules,
    Supply.making, Supply.converterAt, Supply.ruleAt, madeIn, Deed.made, declaringStep,
    registeringSteps, addingSteps, filings, rulesFrom]

theorem filings_registeringSteps {declarations : Declarations} (has : HasTypes declarations)
    (serial : Nat) :
    (registeringSteps serial).filterMap (·.deed.filing? declarations) = filings serial := by
  simp [registeringSteps, filings, Deed.filing?, has.walk_eq .string rfl, has.walk_eq .bool rfl,
    has.walk_eq .char rfl, chain]

theorem filings_distinct (serial : Nat) :
    (filings serial).Pairwise fun earlier later => ¬later.IsFor earlier.source earlier.target := by
  simp [filings, Filing.IsFor]

theorem isAdmitted_of_mem_registeringSteps {types : Hierarchy} (has : HasTypes types.declarations)
    {serial : Nat} : ∀ step ∈ registeringSteps serial, step.deed.IsAdmitted types := by
  have pass : ∀ filing ∈ filings serial,
      Registry.refusal? types filing.source filing.target filing.converter = none := by
    intro filing filed
    rw [Registry.refusal?_eq_none_iff]
    have checked : filing.source.IsBuiltin = true ∧ filing.target.IsBuiltin = true ∧
        filing.source ≠ filing.target ∧ filing.converter.asRule? = none := by
      simp only [filings, List.mem_cons, List.not_mem_nil, or_false] at filed
      rcases filed with rfl | rfl | rfl | rfl | rfl | rfl <;>
        exact ⟨rfl, rfl, by simp, rfl⟩
    exact ⟨has.isPublic checked.1, has.isPublic checked.2.1, checked.2.2⟩
  intro step stepMem
  rcases List.mem_flatMap.mp stepMem with ⟨filing, filed, isStep⟩
  simp only [List.mem_cons, List.not_mem_nil, or_false] at isStep
  rcases isStep with rfl | rfl
  · exact ⟨rfl, rfl⟩
  · exact pass filing filed

theorem entries_of_records {table : Table} {serial : Nat} (records : table.Records (filings serial))
    (source target : TypeKey) :
    (table.find? source target).map Converter.behavior = entryFor? source target := by
  rw [records.find?_eq]
  cases source <;> cases target <;> rfl

/-- The converters can be filed wherever the built-in types are declared and nothing is filed. -/
theorem afterSteps_registering {start : Registry} (has : HasTypes start.types.declarations)
    (unfilled : start.table = ∅) (serial : Nat) :
    let final := start.afterSteps (registeringSteps serial)
    start.AllSucceed (registeringSteps serial) ∧ HasTypes final.types.declarations ∧
      (∀ source target,
        (final.table.find? source target).map Converter.behavior = entryFor? source target) ∧
      final.rules = start.rules := by
  intro final
  have distinct : (([] : List Filing) ++ (registeringSteps serial).filterMap
      (·.deed.filing? start.types.declarations)).Pairwise
        fun earlier later => ¬later.IsFor earlier.source earlier.target := by
    rw [List.nil_append, filings_registeringSteps has]
    exact filings_distinct serial
  have unrecorded : start.table.Records [] := by
    rw [unfilled]
    exact Table.Records.empty
  rcases Registry.records_of_admitted rfl (isAdmitted_of_mem_registeringSteps has) unrecorded
    distinct with ⟨succeed, kept, records⟩
  rw [List.nil_append, filings_registeringSteps has] at records
  refine ⟨succeed, ?_, entries_of_records records, ?_⟩
  · rw [kept]
    exact has
  · apply Registry.rules_afterSteps

/-- Rules can be added at any time. -/
theorem afterSteps_adding (start : Registry) (added : List Rule) :
    let final := start.afterSteps (addingSteps added)
    start.AllSucceed (addingSteps added) ∧ final.types = start.types ∧
      final.table = start.table ∧ final.rules = added.foldl RuleBook.add start.rules := by
  induction added generalizing start with
  | nil => exact ⟨trivial, rfl, rfl, rfl⟩
  | cons rule rest ih =>
      rcases ih (Registry.registerRule rule (Registry.nextIdentity start).registry).registry with
        ⟨succeed, final⟩
      exact ⟨⟨rfl, rfl, succeed⟩, final⟩

theorem attempt_declareAll (start : Registry) (added : List Declaration) :
    (Deed.call (.declareAll added)).attempt start =
      ⟨.ok (), { start with types := start.types.declareAll added }, []⟩ :=
  rfl

theorem afterSteps_declaring {start : Registry}
    (undeclared : ∀ key, key.IsBuiltin = true → start.types.isDeclared key = false) :
    let outcome := declaringStep.deed.attempt start
    outcome.result = .ok () ∧ HasTypes outcome.registry.types.declarations ∧
      outcome.registry.table = start.table ∧ outcome.registry.rules = start.rules := by
  rw [declaringStep, attempt_declareAll]
  exact ⟨rfl, hasTypes_declareAll undeclared, rfl, rfl⟩

/-- Whether these are the two built-in registrars. -/
def AreBuiltin (registrars : List Registrar) : Prop :=
  registrars = [primitives, rules] ∨ registrars = [rules, primitives]

theorem isStandard_afterSteps {registry : Registry} (areBuiltin : AreBuiltin registry.registrars)
    (undeclared : ∀ key, key.IsBuiltin = true → registry.types.isDeclared key = false) :
    registry.clear.AllSucceed registry.steps ∧
      IsStandard (registry.clear.afterSteps registry.steps) := by
  rcases areBuiltin with registrars | registrars
  · rw [Registry.steps, registrars, unroll_primitives_rules, Registry.allSucceed_cons,
      Registry.afterSteps_cons, Registry.allSucceed_append, Registry.afterSteps_append]
    have undeclaredYet : ∀ key, key.IsBuiltin = true →
        registry.clear.types.isDeclared key = false := undeclared
    rcases afterSteps_declaring undeclaredYet with ⟨declared, has, unfilled, unruled⟩
    rcases afterSteps_registering has unfilled registry.serial with
      ⟨filed, types, entries, stillUnruled⟩
    rcases afterSteps_adding _ (rulesFrom (registry.serial + 6)) with
      ⟨added, sameTypes, sameTable, ruled⟩
    refine ⟨⟨declared, filed, added⟩, ?_, ?_, ?_⟩
    · rw [sameTypes]
      exact types
    · rw [sameTable]
      exact entries
    · rw [ruled, stillUnruled, unruled]
      rfl
  · rw [Registry.steps, registrars, unroll_rules_primitives, Registry.allSucceed_append,
      Registry.afterSteps_append, Registry.allSucceed_cons, Registry.afterSteps_cons]
    rcases afterSteps_adding registry.clear (rulesFrom registry.serial) with
      ⟨added, sameTypes, sameTable, ruled⟩
    have undeclaredYet : ∀ key, key.IsBuiltin = true →
        (registry.clear.afterSteps (addingSteps (rulesFrom registry.serial))).types.isDeclared
          key = false := by
      rw [sameTypes]
      exact undeclared
    rcases afterSteps_declaring undeclaredYet with ⟨declared, has, stillUnfilled, kept⟩
    rcases afterSteps_registering has (stillUnfilled.trans sameTable) (registry.serial + 4) with
      ⟨filed, types, entries, alsoKept⟩
    refine ⟨⟨added, declared, filed⟩, types, entries, ?_⟩
    rw [alsoKept, kept, ruled]
    rfl

/-- The built-in registrars succeed over any hierarchy without the built-in types, and what they
leave depends neither on it nor on which of them is the first. -/
theorem isStandard_of_areBuiltin {registry : Registry} (areBuiltin : AreBuiltin registry.registrars)
    (undeclared : ∀ key, key.IsBuiltin = true → registry.types.isDeclared key = false) :
    (registry |> Registry.reinitialize).result = .ok () ∧
      IsStandard (registry |> Registry.reinitialize).registry := by
  rcases isStandard_afterSteps areBuiltin undeclared with ⟨succeed, standard⟩
  rw [Registry.reinitialize_of_allSucceed succeed]
  exact ⟨rfl, standard⟩

/-- A registry built with the two built-in registrars is standard and stays so under lookups. -/
theorem isStandard_of_build {builder : Builder} (serial : Nat)
    (areBuiltin : AreBuiltin builder.registrars)
    (undeclared : ∀ key, key.IsBuiltin = true →
      (builder.assemble serial).types.isDeclared key = false) :
    (builder.build serial).result = .ok () ∧
      ∀ registry, Registry.Remembers (builder.build serial).registry registry →
        IsStandard registry := by
  obtain ⟨succeeded, standard⟩ := isStandard_of_areBuiltin areBuiltin undeclared
  refine ⟨succeeded, ?_⟩
  intro registry remembers
  exact standard.of_remembers remembers

end Builtin

end Conversion
