import Mathlib.Data.List.Forall2
import Conversion.Builder
import Conversion.Proofs.Hierarchy.LastDeclaration
import Conversion.Proofs.Registry.Agreement
import Conversion.Proofs.Registry.Stopping

/-!
# Running the registrars again

The second run of the registrars takes the steps of the first, with other objects in the place of
those that are made anew (`Registrar.unroll_replays`). It starts from an empty table, but from the
declarations that the first run left. Declaring the same types once more changes no declaration in
force, and when all declarations come before all registrations, each registration meets the same
ancestors in both runs.

`Replaying` is what holds between the two runs step by step: once the declarations that are still to
come are made, the hierarchies are alike, the tables record logs of the same filings, and the rules
are those of the same steps. In the end the two registries hold the same (`Reproduces`).
-/

namespace Conversion

open Conversion.Registry

/-! ### The steps of two runs -/

namespace Deed

/-- Whether two runs do the same in a step, but for the identity of what they make. -/
inductive Replays : Deed → Deed → Prop where
  | declare (declaration : Declaration) :
      Replays (call (.declare declaration)) (call (.declare declaration))
  | declareAll (declarations : List Declaration) :
      Replays (call (.declareAll declarations)) (call (.declareAll declarations))
  | register (source target : TypeKey) {first second : Converter}
      (alike : first.behavior = second.behavior) :
      Replays (register source target first) (register source target second)
  | registerRule {first second : Rule} (alike : first.body = second.body) :
      Replays (call (.registerRule first)) (call (.registerRule second))
  | takeIdentity : Replays (call .takeIdentity) (call .takeIdentity)
  | ask (question : Question) :
      Replays (call (.ofQuestion question)) (call (.ofQuestion question))
  | fail (error : RegistryError) : Replays (fail error) (fail error)

end Deed

namespace ScriptStep

/-- Whether one step is another taken again: in the same registrars it does the same. -/
def Replays (first second : ScriptStep) : Prop :=
  first.path = second.path ∧ first.deed.Replays second.deed

/-- Whether nothing is declared after a converter was filed. -/
def DeclareFirst (steps : List ScriptStep) : Prop :=
  steps.Pairwise fun earlier later => earlier.deed.registers = true → later.deed.declared = []

instance (steps : List ScriptStep) : Decidable (DeclareFirst steps) :=
  inferInstanceAs (Decidable (List.Pairwise _ _))

end ScriptStep

open ScriptStep

section Unrolling

variable {Object Content : Type} (path : List String)

theorem Supply.making_replays (supply : Supply Object Content) :
    List.Forall₂ Replays (supply.making path) (supply.making path) := by
  cases supply with
  | existing object => exact .nil
  | anew content => exact .cons ⟨rfl, .takeIdentity⟩ .nil

theorem register_replays (source target : TypeKey) (supply : Supply Converter Behavior)
    (first second : Nat) :
    Replays ⟨path, .register source target (supply.converterAt first)⟩
      ⟨path, .register source target (supply.converterAt second)⟩ := by
  refine ⟨rfl, .register source target ?_⟩
  cases supply <;> rfl

mutual

theorem Instruction.unroll_replays (instruction : Instruction) (path : List String)
    (first second : Nat) :
    List.Forall₂ Replays (instruction.unroll path first) (instruction.unroll path second) := by
  cases instruction with
  | declare declaration => exact .cons ⟨rfl, .declare declaration⟩ .nil
  | declareAll declarations => exact .cons ⟨rfl, .declareAll declarations⟩ .nil
  | register source target supply =>
      refine List.rel_append (supply.making_replays path) (.cons ?_ .nil)
      exact register_replays path source target supply first second
  | registerForAll sources target supply =>
      refine List.rel_append (supply.making_replays path) ?_
      simp only [List.forall₂_map_left_iff, List.forall₂_map_right_iff, List.forall₂_same]
      intro source _
      exact register_replays path source target supply first second
  | registerRule supply =>
      refine List.rel_append (supply.making_replays path) (.cons ⟨rfl, .registerRule ?_⟩ .nil)
      cases supply <;> rfl
  | ask question => exact .cons ⟨rfl, .ask question⟩ .nil
  | run name script => exact unrollAll_replays script (path ++ [name]) first second
  | later instruction => exact (instruction ()).unroll_replays path first second
  | fail error => exact .cons ⟨rfl, .fail error⟩ .nil

theorem unrollAll_replays (script : List Instruction) (path : List String) (first second : Nat) :
    List.Forall₂ Replays (unrollAll path first script) (unrollAll path second script) := by
  cases script with
  | nil => exact .nil
  | cons instruction rest =>
      have replay := instruction.unroll_replays path first second
      exact List.rel_append replay (unrollAll_replays rest path _ _)

end

theorem Registrar.unroll_replays (registrars : List Registrar) (first second : Nat) :
    List.Forall₂ Replays (unroll first registrars) (unroll second registrars) :=
  unrollAll_replays (registrars.map asInstruction) [] first second

end Unrolling

/-! ### What two runs file -/

-- the pairs are steps that are the same step in two runs
variable {pairs : List (ScriptStep × ScriptStep)}

/-- Whether two converters for a source come from the same step. -/
def ConverterReplays (pairs : List (ScriptStep × ScriptStep)) (source : TypeKey)
    (first second : Converter) : Prop :=
  first.behavior = second.behavior ∧ ∃ path target,
    (⟨path, .register source target first⟩, ⟨path, .register source target second⟩) ∈ pairs

def RuleReplays (pairs : List (ScriptStep × ScriptStep)) (first second : Rule) : Prop :=
  first.body = second.body ∧ ∃ path,
    (⟨path, .call (.registerRule first)⟩, ⟨path, .call (.registerRule second)⟩) ∈ pairs

/-- Whether two filings are the same but for the converter, which is from the same step. -/
structure FilingReplays (pairs : List (ScriptStep × ScriptStep)) (first second : Filing) :
    Prop where
  source : first.source = second.source
  target : first.target = second.target
  chain : first.chain = second.chain
  converter : ConverterReplays pairs first.source first.converter second.converter

section Logs

variable {first second : Filing} {firstLog secondLog : List Filing}

theorem FilingReplays.isFor_iff (replays : FilingReplays pairs first second)
    (source target : TypeKey) : first.IsFor source target ↔ second.IsFor source target := by
  simp only [Filing.IsFor, replays.source, replays.target]

theorem FilingReplays.covers_iff (replays : FilingReplays pairs first second)
    (source target : TypeKey) : first.Covers source target ↔ second.Covers source target := by
  simp only [Filing.Covers, replays.source, replays.target, replays.chain]

theorem map_or_replays {source : TypeKey} {one other firstRest secondRest : Option Filing}
    (own : Option.Rel (fun one other => ConverterReplays pairs source one.converter other.converter)
      one other)
    (rest : Option.Rel
      (fun one other => ConverterReplays pairs source one.converter other.converter)
      firstRest secondRest) :
    Option.Rel (ConverterReplays pairs source) ((one.or firstRest).map Filing.converter)
      ((other.or secondRest).map Filing.converter) := by
  cases own with
  | some replays => exact .some replays
  | none =>
      cases rest with
      | some replays => exact .some replays
      | none => exact .none

variable (replay : List.Forall₂ (FilingReplays pairs) firstLog secondLog)

include replay

theorem find?_replays {wanted : Filing → Bool} {source : TypeKey}
    (agree : ∀ one other, FilingReplays pairs one other → wanted one = wanted other)
    (own : ∀ filing, wanted filing = true → filing.source = source) :
    Option.Rel (fun one other => ConverterReplays pairs source one.converter other.converter)
      (firstLog.find? wanted) (secondLog.find? wanted) := by
  induction replay with
  | nil => exact .none
  | @cons one other _ _ replays _ ih =>
      rw [List.find?_cons, List.find?_cons, ← agree one other replays]
      cases isWanted : wanted one with
      | false => exact ih
      | true =>
          rw [← own one isWanted]
          exact .some replays.converter

theorem converterIn_replays (source target : TypeKey) :
    Option.Rel (ConverterReplays pairs source) (converterIn firstLog source target)
      (converterIn secondLog source target) := by
  apply map_or_replays
  · apply find?_replays replay
    · intro one other replays
      simp only [replays.isFor_iff]
    · intro filing isFor
      exact (of_decide_eq_true isFor).1
  · apply find?_replays replay
    · intro one other replays
      simp only [replays.covers_iff]
    · intro filing covers
      exact (of_decide_eq_true covers).1

theorem exists_replays {property : Filing → Prop}
    (agree : ∀ one other, FilingReplays pairs one other → (property one ↔ property other)) :
    (∃ filing ∈ firstLog, property filing) ↔ ∃ filing ∈ secondLog, property filing := by
  induction replay with
  | nil => simp
  | @cons one other _ _ replays _ ih =>
      simp only [List.exists_mem_cons_iff, agree one other replays, ih]

end Logs

/-- Whether two registries hold the same, each entry with the converter of the same step and the
rules in the same order. -/
structure Reproduces (pairs : List (ScriptStep × ScriptStep)) (first second : Registry) :
    Prop where
  types : first.types.Alike second.types
  converters : ∀ source target, Option.Rel (ConverterReplays pairs source)
    (first.table.find? source target) (second.table.find? source target)
  marks : ∀ source target,
    first.table.isDerived source target = second.table.isDerived source target
  rules : List.Forall₂ (RuleReplays pairs) first.rules.toList second.rules.toList

/-- How two runs of the registrars stand to each other, when something is still to be declared. -/
structure Replaying (pairs : List (ScriptStep × ScriptStep)) (remaining : List Declaration)
    (first second : Registry) : Prop where
  types : (first.types.declareAll remaining).Alike (second.types.declareAll remaining)
  logs : ∃ firstLog secondLog, first.table.Records firstLog ∧ second.table.Records secondLog ∧
    List.Forall₂ (FilingReplays pairs) firstLog secondLog
  rules : ∀ kind, List.Forall₂ (RuleReplays pairs) (first.rules.bucket kind)
    (second.rules.bucket kind)

theorem Replaying.reproduces {first second : Registry}
    (replaying : Replaying pairs [] first second) : Reproduces pairs first second := by
  rcases replaying.logs with ⟨firstLog, secondLog, firstRecords, secondRecords, replay⟩
  refine ⟨replaying.types, ?_, ?_, ?_⟩
  · intro source target
    rw [firstRecords.find?_eq, secondRecords.find?_eq]
    exact converterIn_replays replay source target
  · intro source target
    have asked := exists_replays replay fun _ _ replays => replays.isFor_iff source target
    have covering := exists_replays replay fun _ _ replays => replays.covers_iff source target
    rw [Bool.eq_iff_iff, firstRecords.isDerived_iff, secondRecords.isDerived_iff, covering]
    apply and_congr_left'
    simpa using not_congr asked
  · have rules := replaying.rules
    exact List.rel_append (List.rel_append (rules .fixedSource) (rules .fixedTarget))
      (rules .assignableSource)

namespace Replaying

variable {remaining : List Declaration} {first second nextFirst nextSecond : Registry}

theorem of_remembers (replaying : Replaying pairs remaining first second)
    (firstRemembers : Remembers first nextFirst) (secondRemembers : Remembers second nextSecond) :
    Replaying pairs remaining nextFirst nextSecond := by
  refine ⟨?_, ?_, ?_⟩
  · apply replaying.types.of_kept
    · simp only [Hierarchy.declareAll, Hierarchy.ofDeclarations, firstRemembers.declarations]
    · simp only [Hierarchy.declareAll, Hierarchy.ofDeclarations, secondRemembers.declarations]
  · rw [firstRemembers.table, secondRemembers.table]
    exact replaying.logs
  · rw [firstRemembers.rules, secondRemembers.rules]
    exact replaying.rules

theorem asRule?_eq_none_iff {converter : Converter} :
    converter.asRule? = none ↔ ∀ body, converter.behavior ≠ .rule body := by
  rcases converter with ⟨identity, behavior⟩
  cases behavior <;> simp [Converter.asRule?]

/-- With all declarations made, a registration that succeeds in one run does so in the other. -/
theorem register {source target : TypeKey} {one other : Converter}
    (replaying : Replaying pairs [] first second)
    (replays : ConverterReplays pairs source one other)
    (succeeded : (Registry.register source target one first).result = .ok ()) :
    (Registry.register source target other second).result = .ok () ∧
      Replaying pairs [] (Registry.register source target one first).registry
        (Registry.register source target other second).registry := by
  have alike : first.types.Alike second.types := replaying.types
  rcases replaying.logs with ⟨firstLog, secondLog, firstRecords, secondRecords, replay⟩
  have succeededToo : (Registry.register source target other second).result = .ok () := by
    rw [register_eq_ok_iff, refusal?_eq_none_iff, asRule?_eq_none_iff] at succeeded ⊢
    rw [firstRecords.isExplicit_iff,
      exists_replays replay fun _ _ replays => replays.isFor_iff source target] at succeeded
    rw [secondRecords.isExplicit_iff, ← alike.isPublic, ← alike.isPublic, ← replays.1]
    exact succeeded
  rcases register_frame source target one first with ⟨table, remembers⟩
  rcases register_frame source target other second with ⟨tableToo, remembersToo⟩
  refine ⟨succeededToo, ?_, ?_, ?_⟩
  · exact alike.of_kept remembers.declarations remembersToo.declarations
  · refine ⟨_, _, records_register firstRecords, records_register secondRecords, ?_⟩
    rw [filed_of_ok succeeded, filed_of_ok succeededToo]
    refine List.rel_append replay (.cons ⟨rfl, rfl, ?_, replays⟩ .nil)
    exact Declarations.walk_congr alike target
  · rw [remembers.rules, remembersToo.rules]
    exact replaying.rules

theorem registerRule {one other : Rule} (replaying : Replaying pairs remaining first second)
    (replays : RuleReplays pairs one other) :
    Replaying pairs remaining (Registry.registerRule one first).registry
      (Registry.registerRule other second).registry := by
  refine ⟨replaying.types, replaying.logs, ?_⟩
  intro kind
  have sameKind : one.kind = other.kind := congrArg RuleBody.kind replays.1
  simp only [Registry.registerRule, RuleBook.bucket_add, sameKind]
  split
  · exact List.rel_append (replaying.rules kind) (.cons replays .nil)
  · exact replaying.rules kind

theorem ask (replaying : Replaying pairs remaining first second) (question : Question) :
    Replaying pairs remaining ((Operation.ofQuestion question).perform first).registry
      ((Operation.ofQuestion question).perform second).registry := by
  have asks : Action.OnlyAsks (Operation.ofQuestion question).perform :=
    Operation.perform_onlyAsks (by cases question <;> rfl)
  exact replaying.of_remembers (asks first) (asks second)

theorem step {path : List String} {one other : Deed}
    (replaying : Replaying pairs (one.declared ++ remaining) first second)
    (replays : one.Replays other) (paired : (⟨path, one⟩, ⟨path, other⟩) ∈ pairs)
    (settled : one.registers = true → remaining = [])
    (succeeded : (one.attempt first).result = .ok ()) :
    (other.attempt second).result = .ok () ∧
      Replaying pairs remaining (one.attempt first).registry (other.attempt second).registry := by
  cases replays with
  | declare declaration => exact ⟨rfl, replaying.types, replaying.logs, replaying.rules⟩
  | declareAll declarations =>
      refine ⟨rfl, ?_, replaying.logs, replaying.rules⟩
      intro key
      have alike := replaying.types key
      simp only [Hierarchy.declareAll, Hierarchy.ofDeclarations] at alike
      rw [Deed.declared, Declarations.declareAll_append, Declarations.declareAll_append] at alike
      exact alike
  | register source target alike =>
      cases settled rfl
      exact replaying.register ⟨alike, path, target, paired⟩ succeeded
  | registerRule alike => exact ⟨rfl, replaying.registerRule ⟨alike, path, paired⟩⟩
  | takeIdentity => exact ⟨rfl, replaying.types, replaying.logs, replaying.rules⟩
  | ask question =>
      refine ⟨rfl, ask ?_ question⟩
      cases question <;> exact replaying
  | fail error => cases succeeded

/-- Steps that succeed in one run do so in the other, and leave all declarations made. -/
theorem run {steps others : List ScriptStep}
    (replay : List.Forall₂ (fun one other => one.Replays other ∧ (one, other) ∈ pairs) steps others)
    (ordered : DeclareFirst steps)
    (replaying : Replaying pairs (steps.flatMap (·.deed.declared)) first second)
    (succeed : first.AllSucceed steps) :
    second.AllSucceed others ∧
      Replaying pairs [] (first.afterSteps steps) (second.afterSteps others) := by
  -- by induction on the steps, with what they are still to declare getting less
  induction replay generalizing first second with
  | nil => exact ⟨trivial, replaying⟩
  | @cons one other rest otherRest matched _ ih =>
      rcases one with ⟨path, deed⟩
      rcases other with ⟨otherPath, otherDeed⟩
      rcases matched with ⟨⟨samePath, replays⟩, paired⟩
      cases samePath
      rcases List.pairwise_cons.mp ordered with ⟨settledBehind, restOrdered⟩
      have settled : deed.registers = true → rest.flatMap (·.deed.declared) = [] := by
        intro registers
        rw [List.flatMap_eq_nil_iff]
        intro later laterMem
        exact settledBehind later laterMem registers
      rw [List.flatMap_cons] at replaying
      rcases replaying.step replays paired settled succeed.1 with ⟨succeededToo, next⟩
      rcases ih restOrdered next succeed.2 with ⟨restSucceed, final⟩
      exact ⟨⟨succeededToo, restSucceed⟩, final⟩

end Replaying

/-! ### Running again -/

namespace Registry

variable {registry other : Registry}

/-- Types that are declared once more stay as they are. -/
theorem declareAll_alike {types others : Hierarchy} {declared : List Declaration}
    (alike : (types.declareAll declared).Alike others) :
    (types.declareAll declared).Alike (others.declareAll declared) := by
  intro key
  have before : (types.declareAll declared).declarations.find? key =
      (Declaration.lastFor key declared).or (types.declarations.find? key) :=
    types.declarations.find?_declareAll declared key
  have after : (others.declareAll declared).declarations.find? key =
      (Declaration.lastFor key declared).or (others.declarations.find? key) :=
    others.declarations.find?_declareAll declared key
  rw [after, ← alike key, before, ← Option.or_assoc, Option.or_self]

/-- Registrars that ran without a failure can be run again from where they left the declarations,
and then everything is as it was. -/
theorem reinitialize_reproduces (ordered : DeclareFirst registry.steps)
    (succeeded : (registry |> reinitialize).result = .ok ())
    (sameRegistrars : other.registrars = registry.registrars)
    (alike : (registry |> reinitialize).registry.types.Alike other.types) :
    (other |> reinitialize).result = .ok () ∧
      Reproduces (registry.steps.zip other.steps) (registry |> reinitialize).registry
        (other |> reinitialize).registry := by
  have succeed := reinitialize_eq_ok_iff.mp succeeded
  rw [reinitialize_of_allSucceed succeed] at alike ⊢
  have replay : List.Forall₂ Replays registry.steps other.steps := by
    unfold steps
    rw [sameRegistrars]
    exact Registrar.unroll_replays registry.registrars registry.serial other.serial
  have matched : List.Forall₂
      (fun one twin => one.Replays twin ∧ (one, twin) ∈ registry.steps.zip other.steps)
      registry.steps other.steps := by
    rw [List.forall₂_iff_zip] at replay ⊢
    exact ⟨replay.1, fun paired => ⟨replay.2 paired, paired⟩⟩
  have start : Replaying (registry.steps.zip other.steps)
      (registry.steps.flatMap (·.deed.declared)) registry.clear other.clear := by
    refine ⟨?_, ⟨[], [], .empty, .empty, .nil⟩, ?_⟩
    · -- the second run starts from all that the first declared, so declaring again adds nothing
      apply declareAll_alike
      apply alike.of_kept
      · exact (registry.clear.declarations_afterSteps registry.steps).symm
      · rfl
    · intro kind
      cases kind <;> exact .nil
  rcases start.run matched ordered succeed with ⟨succeedToo, final⟩
  rw [reinitialize_of_allSucceed succeedToo]
  exact ⟨rfl, final.reproduces⟩

theorem registrars_of_succeeded (succeeded : (registry |> reinitialize).result = .ok ()) :
    (registry |> reinitialize).registry.registrars = registry.registrars := by
  rw [reinitialize_of_allSucceed (reinitialize_eq_ok_iff.mp succeeded)]
  exact registrars_afterSteps registry.clear registry.steps

/-- A registry whose registrars have been run again some number of times. -/
def again (registry : Registry) : Nat → Registry
  | 0 => registry
  | times + 1 => (registry.again times |> reinitialize).registry

/-- What running the registrars once more needs, it leaves for the next time. -/
theorem kept_again (ordered : DeclareFirst registry.steps)
    (succeeded : (registry |> reinitialize).result = .ok ())
    (sameRegistrars : other.registrars = registry.registrars)
    (alike : (registry |> reinitialize).registry.types.Alike other.types) (times : Nat) :
    (other.again times).registrars = registry.registrars ∧
      (registry |> reinitialize).registry.types.Alike (other.again times).types := by
  induction times with
  | zero => exact ⟨sameRegistrars, alike⟩
  | succ times ih =>
      rcases reinitialize_reproduces ordered succeeded ih.1 ih.2 with ⟨isOk, reproduces⟩
      exact ⟨(registrars_of_succeeded isOk).trans ih.1, reproduces.types⟩

/-- What a built registry holds comes back when its registrars are run again, as often as they are
and whatever was registered since: the same pairs and marks, each pair with the converter of the
same step, and the rules of the same steps in the same order. Only declarations since would
matter. -/
theorem reinitialize_reproduces_build (builder : Builder) (serial : Nat) (calls : List Operation)
    (ordered : DeclareFirst (builder.assemble serial).steps)
    (built : (builder.build serial).result = .ok ())
    (settled : ∀ call ∈ calls, call.declares = false) (times : Nat) :
    let first := (builder.build serial).registry
    let before := (first.after calls).again times
    (before |> reinitialize).result = .ok () ∧
      Reproduces ((builder.assemble serial).steps.zip before.steps) first
        (before |> reinitialize).registry := by
  intro first before
  have registrars : (first.after calls).registrars = (builder.assemble serial).registrars :=
    (first.registrars_after calls).trans (registrars_of_succeeded built)
  have alike : first.types.Alike (first.after calls).types := by
    intro key
    rw [declarations_after calls settled]
  rcases kept_again ordered built registrars alike times with ⟨registrarsBefore, alikeBefore⟩
  exact reinitialize_reproduces ordered built registrarsBefore alikeBefore

/-- A registrar that declares first and makes what it files. -/
def labels : Registrar where
  name := "labels"
  script :=
    [ .declare ((Declaration.of .string).implementing .text),
      .register .char .string (.anew (.dynamic fun value _ => .ok value)),
      .registerRule (.anew (.fixedTarget .bool (fun _ => true) fun _ => .ok true)) ]

theorem reinitialize_reproduces_labels :
    let first := (({ registrars := [labels] } : Builder).build 0).registry
    let calls : List Operation :=
      [.register .bool .text ⟨.given 0, .dynamic fun value _ => .ok value⟩, .find .bool .string]
    let outcome := (first.after calls).again 1 |> reinitialize
    outcome.result = .ok () ∧ (first.after calls).table.contains .bool .text = true ∧
      outcome.registry.table.find? .bool .text = none ∧
      outcome.registry.table.isDerived .char .text = true ∧
      outcome.registry.rules.toList.length = 1 := by
  intro first calls outcome
  have ordered : DeclareFirst (({ registrars := [labels] } : Builder).assemble 0).steps := by
    decide +kernel
  have settled : ∀ call ∈ calls, call.declares = false := by
    simp [calls, Operation.declares]
  have built : (({ registrars := [labels] } : Builder).build 0).result = .ok () :=
    Attempt.eq_ok_of_isOk (by decide +kernel)
  rcases reinitialize_reproduces_build { registrars := [labels] } 0 calls ordered built
    settled 1 with ⟨isOk, reproduces⟩
  refine ⟨isOk, by decide +kernel, ?_, ?_, ?_⟩
  · have entry := reproduces.converters .bool .text
    have vacant : first.table.find? .bool .text = none :=
      Option.isNone_iff_eq_none.mp (by decide +kernel)
    rw [vacant] at entry
    change Option.Rel _ none (outcome.registry.table.find? .bool .text) at entry
    generalize outcome.registry.table.find? .bool .text = found at entry ⊢
    cases entry
    rfl
  · rw [← reproduces.marks]
    decide +kernel
  · rw [← reproduces.rules.length_eq]
    decide +kernel

end Registry

end Conversion
