import Conversion.Registry.Running

/-!
# Building registries

A builder collects a hierarchy, declarations, options and registrars and then builds a registry from
them: the declarations go into the hierarchy first, and then the registrars run in the order in
which they were added. The last hierarchy and the last options count; of several registrars with one
name the first does, and each of the others is reported when it is added.
-/

namespace Conversion

/-- What a registry is to be built from. -/
structure Builder where
  types : Option Hierarchy := none
  declarations : List Declaration := []
  registrars : List Registrar := []
  options : Option Options := none
  /-- The build whose default options are used when none are given. -/
  profile : BuildProfile := .debug

namespace Builder

/-- Uses an existing hierarchy instead of a fresh one. -/
def withTypes (builder : Builder) (types : Hierarchy) : Builder :=
  { builder with types := some types }

/-- Adds a declaration. -/
def declare (builder : Builder) (declaration : Declaration) : Builder :=
  { builder with declarations := builder.declarations ++ [declaration] }

/-- Uses options instead of the default ones. -/
def withOptions (builder : Builder) (options : Options) : Builder :=
  { builder with options := some options }

/-- Adds a registrar, unless there is one of its name. -/
def withRegistrar (builder : Builder) (registrar : Registrar) : Builder × List Event :=
  if builder.registrars.any (·.name = registrar.name) then
    (builder, [.registrarSkipped registrar.name])
  else ({ builder with registrars := builder.registrars ++ [registrar] }, [])

/-- Adds registrars from first to last. -/
def withRegistrars (builder : Builder) : List Registrar → Builder × List Event
  | [] => (builder, [])
  | registrar :: rest =>
      let (next, events) := builder.withRegistrar registrar
      let (final, later) := next.withRegistrars rest
      (final, events ++ later)

/-- Adds the submitted registrars in the order of their discovery. -/
def withDiscovered (builder : Builder) (submitted : List Registrar) : Builder × List Event :=
  builder.withRegistrars (Registrar.discovered submitted)

/-- The registry before its registrars have run. The next object that a registrar makes gets the
given serial number. -/
def assemble (builder : Builder) (serial : Nat) : Registry where
  types := (builder.types.getD ∅).declareAll builder.declarations
  registrars := builder.registrars
  options := builder.options.getD (.forBuild builder.profile)
  serial := serial

/-- Builds the registry. When a registrar fails the outcome still holds what was done up to there;
its hierarchy may be in use elsewhere. -/
def build (builder : Builder) (serial : Nat) : Outcome (Except RegistryError Unit) :=
  Registry.reinitialize (builder.assemble serial)

end Builder

end Conversion
