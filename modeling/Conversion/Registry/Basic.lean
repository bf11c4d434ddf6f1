import Conversion.Options.Basic
import Conversion.Registrar
import Conversion.RuleBook
import Conversion.Table

/-!
# Registries and the actions on them

A registry is a value: a type hierarchy, the converter table, the rules, the registrars that fill it
and the options. An `Action` takes one and leaves an `Outcome`: a result, the registry afterwards
and the events reported on the way, in order. Registries that share a hierarchy are registries whose
owner hands the hierarchy of one action on to the next; `serial` is handed on in the same way, so
that no two objects made by registrars have one identity.
-/

namespace Conversion

/-- Converters and rules for a hierarchy of types. -/
structure Registry where
  types : Hierarchy
  table : Table := ∅
  rules : RuleBook := ∅
  registrars : List Registrar := []
  options : Options
  /-- The serial number of the next object that a registrar makes. -/
  serial : Nat := 0

/-- What an action leaves. -/
structure Outcome (α : Type) where
  result : α
  registry : Registry
  events : List Event

/-- Something done with a registry. -/
def Action (α : Type) : Type :=
  Registry → Outcome α

/-- An action that a registry can refuse. -/
abbrev Attempt : Type :=
  Action (Except RegistryError Unit)

namespace Action

variable {α β : Type}

/-- Does nothing and has a result. -/
def done (result : α) : Action α := fun registry =>
  ⟨result, registry, []⟩

/-- Does one action and then another that depends on its result. -/
def andThen (first : Action α) (next : α → Action β) : Action β := fun registry =>
  let before := first registry
  let after := next before.result before.registry
  ⟨after.result, after.registry, before.events ++ after.events⟩

/-- Changes the result. -/
def map (change : α → β) (action : Action α) : Action β := fun registry =>
  let outcome := action registry
  ⟨change outcome.result, outcome.registry, outcome.events⟩

/-- Reports events. -/
def report (events : List Event) : Action Unit := fun registry =>
  ⟨(), registry, events⟩

/-- Changes the registry. -/
def modify (change : Registry → Registry) : Action Unit := fun registry =>
  ⟨(), change registry, []⟩

/-- Asks the hierarchy, which may remember the answer. -/
def query (ask : Hierarchy → α × Hierarchy) : Action α := fun registry =>
  let (answer, types) := ask registry.types
  ⟨answer, { registry with types }, []⟩

instance : Monad Action where
  pure := done
  bind := andThen

theorem andThen_assoc {γ : Type} (first : Action α) (second : α → Action β)
    (third : β → Action γ) :
    (first.andThen second).andThen third =
      first.andThen fun result => (second result).andThen third := by
  funext registry
  simp [andThen, List.append_assoc]

@[simp]
theorem done_andThen (result : α) (next : α → Action β) :
    (done result).andThen next = next result :=
  rfl

@[simp]
theorem andThen_done (action : Action α) : action.andThen done = action := by
  funext registry
  simp [andThen, done]

instance : LawfulMonad Action :=
  LawfulMonad.mk' Action andThen_done done_andThen andThen_assoc

end Action

namespace Attempt

/-- Does the second only after the first succeeded. -/
def followedBy (first second : Attempt) : Attempt :=
  first.andThen fun
    | .ok () => second
    | .error error => Action.done (.error error)

/-- Does attempts from first to last up to the first that fails. -/
def inOrder : List Attempt → Attempt
  | [] => Action.done (.ok ())
  | attempt :: rest => followedBy attempt (inOrder rest)

end Attempt

namespace Registry

/-- A registry without converters, rules and registrars. -/
def ofTypes (types : Hierarchy) (options : Options) : Registry :=
  { types, options }

/-- Number of entries of the table. -/
def converterCount (registry : Registry) : Nat :=
  registry.table.size

/-- Number of rules. -/
def ruleCount (registry : Registry) : Nat :=
  registry.rules.size

/-- A summary of a registry. -/
def debug (registry : Registry) : String :=
  "TypeConverterRegistry \x7b converters: " ++ toString registry.converterCount ++ ", rules: " ++
    toString registry.ruleCount ++ ", registrars: [" ++
    ", ".intercalate (registry.registrars.map Registrar.debug) ++ "], options: " ++
    registry.options.debug ++ " \x7d"

/-- Declares a type in the hierarchy of a registry. -/
def declare (declaration : Declaration) : Action Unit :=
  Action.modify fun registry =>
    { registry with types := registry.types.declare declaration }

/-- Declares types in the hierarchy of a registry. -/
def declareAll (declarations : List Declaration) : Action Unit :=
  Action.modify fun registry =>
    { registry with types := registry.types.declareAll declarations }

/-- Takes the next serial number. -/
def nextIdentity : Action Identity := fun registry =>
  ⟨.made registry.serial, { registry with serial := registry.serial + 1 }, []⟩

end Registry

end Conversion
