import Conversion.Registry.Converting
import Conversion.Registry.Running

/-!
# Properties that composition keeps

Larger actions are put together from small ones. A property of actions is `Compositional` when it
holds of an action that does nothing and, with two actions, of one done after the other. A lookup
then has it as soon as its three levels have it (`find`), and so has everything that registrars do
as soon as the edits that a script can make have it (`run`, `runAll`). Lookups and scripts are
taken apart here once for all such properties.
-/

namespace Conversion

namespace Action

theorem map_eq_andThen {α β : Type} (action : Action α) (change : α → β) :
    action.map change = action.andThen fun result => done (change result) := by
  funext registry
  simp [map, andThen, done]

/-- Whether composing actions keeps a property of them. -/
structure Compositional (Holds : (α : Type) → Action α → Prop) : Prop where
  done : ∀ {α : Type} (result : α), Holds α (done result)
  andThen : ∀ {α β : Type} {first : Action α} {next : α → Action β},
    Holds α first → (∀ result, Holds β (next result)) → Holds β (first.andThen next)

/-- Whether a property holds of all that a script can do in one go. -/
structure OfEdits (Holds : (α : Type) → Action α → Prop) : Prop where
  declare : ∀ declaration, Holds Unit (Registry.declare declaration)
  declareAll : ∀ declarations, Holds Unit (Registry.declareAll declarations)
  register : ∀ source target converter,
    Holds (Except RegistryError Unit) (Registry.register source target converter)
  registerRule : ∀ rule, Holds Unit (Registry.registerRule rule)
  nextIdentity : Holds Identity Registry.nextIdentity
  ask : ∀ question : Question, Holds Unit question.ask

namespace Compositional

variable {Holds : (α : Type) → Action α → Prop} (composes : Compositional Holds)

include composes

theorem map {α β : Type} {action : Action α} (holds : Holds α action) (change : α → β) :
    Holds β (action.map change) := by
  rw [map_eq_andThen]
  exact composes.andThen holds fun result => composes.done (change result)

theorem bind {α β : Type} {first : Action α} {next : α → Action β} (holds : Holds α first)
    (nextHolds : ∀ result, Holds β (next result)) : Holds β (first >>= next) :=
  composes.andThen holds nextHolds

/-! ### Lookups -/

/-- A lookup goes through three levels, and reports when it had to leave the first. -/
theorem find {source target : TypeKey}
    (exact : Holds (Option Converter) (Registry.exact source target))
    (byAncestor : Holds (Option Converter) (Registry.byAncestor source target))
    (byRule : Holds (Option Converter) (Registry.byRule source target))
    (reportAncestor : Holds Unit (report [.resolvedByAncestor source target]))
    (reportRule : Holds Unit (report [.resolvedByRule source target])) :
    Holds (Option Converter) (Registry.find source target) := by
  refine composes.bind exact ?_
  rintro (_ | found)
  · refine composes.bind byAncestor ?_
    rintro (_ | found)
    · refine composes.bind byRule ?_
      rintro (_ | found)
      · exact composes.done none
      · exact composes.bind reportRule fun _ => composes.done (some found)
    · exact composes.bind reportAncestor fun _ => composes.done (some found)
  · exact composes.done (some found)

/-! ### Scripts -/

theorem followedBy {first second : Attempt} (holds : Holds _ first) (secondHolds : Holds _ second) :
    Holds _ (first.followedBy second) := by
  refine composes.andThen holds ?_
  rintro (error | _)
  · exact composes.done _
  · exact secondHolds

theorem inOrder {attempts : List Attempt} (holds : ∀ attempt ∈ attempts, Holds _ attempt) :
    Holds _ (Attempt.inOrder attempts) := by
  induction attempts with
  | nil => exact composes.done _
  | cons attempt rest ih =>
      refine composes.followedBy (holds attempt List.mem_cons_self) (ih ?_)
      intro later laterMem
      exact holds later (List.mem_cons_of_mem attempt laterMem)

theorem inOrder_map {ι : Type} {attempt : ι → Attempt} {items : List ι}
    (holds : ∀ item, Holds _ (attempt item)) :
    Holds _ (Attempt.inOrder (items.map attempt)) := by
  apply composes.inOrder
  intro one oneMem
  rcases List.mem_map.mp oneMem with ⟨item, _, rfl⟩
  exact holds item

theorem tagged {attempt : Attempt} (holds : Holds _ attempt) (name : String) :
    Holds _ (attempt.tagged name) :=
  composes.map holds _

theorem registerForAll (edits : OfEdits Holds) (sources : List TypeKey) (target : TypeKey)
    (converter : Converter) : Holds _ (Registry.registerForAll sources target converter) :=
  composes.inOrder_map fun source => edits.register source target converter

theorem suppliedConverter (edits : OfEdits Holds) (supply : Supply Converter Behavior) :
    Holds _ supply.converter := by
  cases supply with
  | existing converter => exact composes.done converter
  | anew behavior =>
      rw [Supply.converter]
      exact composes.map edits.nextIdentity _

theorem suppliedRule (edits : OfEdits Holds) (supply : Supply Rule RuleBody) :
    Holds _ supply.rule := by
  cases supply with
  | existing rule => exact composes.done rule
  | anew body =>
      rw [Supply.rule]
      exact composes.map edits.nextIdentity _

mutual

theorem ofInstruction (edits : OfEdits Holds) (instruction : Instruction) :
    Holds _ instruction.perform := by
  cases instruction with
  | declare declaration => exact composes.map (edits.declare declaration) _
  | declareAll declarations => exact composes.map (edits.declareAll declarations) _
  | register source target supply =>
      exact composes.andThen (composes.suppliedConverter edits supply) fun converter =>
        edits.register source target converter
  | registerForAll sources target supply =>
      exact composes.andThen (composes.suppliedConverter edits supply) fun converter =>
        composes.registerForAll edits sources target converter
  | registerRule supply =>
      exact composes.andThen (composes.suppliedRule edits supply) fun rule =>
        composes.map (edits.registerRule rule) _
  | ask question => exact composes.map (edits.ask question) _
  | run name script => exact composes.tagged (ofScript edits script) name
  | later instruction => exact ofInstruction edits (instruction ())
  | fail error => exact composes.done _

theorem ofScript (edits : OfEdits Holds) (script : List Instruction) :
    Holds _ (performAll script) := by
  cases script with
  | nil => exact composes.done _
  | cons instruction rest =>
      exact composes.followedBy (ofInstruction edits instruction) (ofScript edits rest)

end

theorem run (edits : OfEdits Holds) (registrar : Registrar) : Holds _ registrar.run :=
  composes.tagged (composes.ofScript edits registrar.script) registrar.name

theorem runAll (edits : OfEdits Holds) (registrars : List Registrar) :
    Holds _ (Registry.runAll registrars) :=
  composes.inOrder_map (composes.run edits)

end Compositional

end Action

end Conversion
