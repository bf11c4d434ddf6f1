import Conversion.Registry.Converting
import Conversion.Registry.Registration

/-!
# Running registrars

A script runs up to its first failing instruction, and what ran before stays done. The error of a
registrar is wrapped with its name, once for each registrar on the way to the failing instruction.
`Registry.reinitialize` empties the table and the rules and runs the registrars again.
-/

namespace Conversion

namespace Supply

/-- The converter that an instruction files. -/
def converter : Supply Converter Behavior → Action Converter
  | existing converter => Action.done converter
  | anew behavior => Registry.nextIdentity.map fun identity => ⟨identity, behavior⟩

/-- The rule that an instruction files. -/
def rule : Supply Rule RuleBody → Action Rule
  | existing rule => Action.done rule
  | anew body => Registry.nextIdentity.map fun identity => ⟨identity, body⟩

end Supply

namespace Question

/-- Looks up what is asked for. -/
def ask : Question → Action Unit
  | ancestors key => (Action.query (·.ancestors key)).map fun _ => ()
  | isAssignable source target => (Action.query (·.isAssignable source target)).map fun _ => ()
  | areConvertible left right => (Action.query (·.areConvertible left right)).map fun _ => ()
  | exact source target => (Registry.exact source target).map fun _ => ()
  | byAncestor source target => (Registry.byAncestor source target).map fun _ => ()
  | byRule source target => (Registry.byRule source target).map fun _ => ()
  | find source target => (Registry.find source target).map fun _ => ()
  | convert value source target => (Registry.convertAs value source target).map fun _ => ()

end Question

namespace Attempt

/-- Wraps an error with the name of the registrar that stopped at it. -/
def tagged (name : String) (attempt : Attempt) : Attempt :=
  attempt.map fun
    | .ok () => .ok ()
    | .error error => .error (.registrar name error)

end Attempt

mutual

/-- Carries one instruction out. -/
def Instruction.perform : Instruction → Attempt
  | .declare declaration => (Registry.declare declaration).map .ok
  | .declareAll declarations => (Registry.declareAll declarations).map .ok
  | .register source target converter =>
      converter.converter.andThen (Registry.register source target)
  | .registerForAll sources target converter =>
      converter.converter.andThen (Registry.registerForAll sources target)
  | .registerRule rule => rule.rule.andThen fun rule => (Registry.registerRule rule).map .ok
  | .ask question => question.ask.map .ok
  | .run name script => (performAll script).tagged name
  | .later instruction => fun registry => (instruction ()).perform registry
  | .fail error => Action.done (.error error)

/-- Carries instructions out up to the first that fails. -/
def performAll : List Instruction → Attempt
  | [] => Action.done (.ok ())
  | instruction :: rest => instruction.perform.followedBy (performAll rest)

end

/-- An instruction that is worked out when its turn comes does what it is worked out to be. -/
@[simp]
theorem Instruction.perform_later (instruction : Unit → Instruction) :
    (later instruction).perform = (instruction ()).perform :=
  rfl

/-- Runs a registrar. -/
def Registrar.run (registrar : Registrar) : Attempt :=
  (performAll registrar.script).tagged registrar.name

namespace Registry

/-- Drops all converters and rules. -/
def clear (registry : Registry) : Registry :=
  { registry with table := ∅, rules := ∅ }

/-- Runs registrars in order up to the first that fails. -/
def runAll (registrars : List Registrar) : Attempt :=
  Attempt.inOrder (registrars.map Registrar.run)

/-- Reports the size of a registry whose registrars have all run. -/
def reportInitialized : Attempt := fun registry =>
  ⟨.ok (), registry, [.initialized registry.converterCount registry.ruleCount]⟩

/-- Drops all converters and rules and runs the registrars of the registry again. -/
def reinitialize : Attempt := fun registry =>
  (runAll registry.registrars).followedBy reportInitialized registry.clear

end Registry

end Conversion
