import Conversion.Event

/-!
# Registrars

A registrar fills a registry: it has a name, an ordinal and a script, a list of instructions that is
run until the first that fails. A script is data, so that the same registrar can be run on any
registry and any number of times. It files converters and rules that exist already or makes them
anew in every run.

Registrars are discovered in the order of their ordinals and, within an ordinal, of their names.
-/

namespace Conversion

/-- Something that can be looked up in a registry or in its hierarchy. -/
inductive Question where
  | ancestors (key : TypeKey)
  | isAssignable (source target : TypeKey)
  | areConvertible (left right : TypeKey)
  | exact (source target : TypeKey)
  | byAncestor (source target : TypeKey)
  | byRule (source target : TypeKey)
  | find (source target : TypeKey)
  | convert (value : Value) (source target : TypeKey)

/-- What an instruction files: an object that exists already, or the content of one that is made
anew whenever the instruction runs. -/
inductive Supply (Object Content : Type) where
  | existing (object : Object)
  | anew (content : Content)

/-- One step of a script. -/
inductive Instruction where
  | declare (declaration : Declaration)
  | declareAll (declarations : List Declaration)
  | register (source target : TypeKey) (converter : Supply Converter Behavior)
  | registerForAll (sources : List TypeKey) (target : TypeKey)
      (converter : Supply Converter Behavior)
  | registerRule (rule : Supply Rule RuleBody)
  /-- Looks something up and drops the answer. -/
  | ask (question : Question)
  /-- Runs another registrar of this name and script. -/
  | run (name : String) (script : List Instruction)
  /-- Carries out an instruction that is worked out only when its turn comes, so that scripts which
  run each other many times over stay small. -/
  | later (instruction : Unit → Instruction)
  /-- Fails on purpose. -/
  | fail (error : RegistryError)

/-- A provider of converters and rules. -/
structure Registrar where
  name : String
  /-- Lower ordinals are discovered first. -/
  ordinal : UInt16 := 100
  script : List Instruction
  deriving Inhabited

namespace Registrar

/-- Running a registrar as a step of another one's script. -/
def asInstruction (registrar : Registrar) : Instruction :=
  .run registrar.name registrar.script

/-- The name and the ordinal, with the rest left out. -/
def debug (registrar : Registrar) : String :=
  "Registrar \x7b name: " ++ Text.quote registrar.name ++ ", ordinal: " ++
    toString registrar.ordinal.toNat ++ ", .. \x7d"

/-- Whether one registrar is discovered no later than another. -/
def precedes (left right : Registrar) : Bool :=
  left.ordinal < right.ordinal || left.ordinal = right.ordinal && left.name ≤ right.name

/-- Submitted registrars in the order of their discovery. -/
def discovered (submitted : List Registrar) : List Registrar :=
  submitted.mergeSort precedes

end Registrar

end Conversion
