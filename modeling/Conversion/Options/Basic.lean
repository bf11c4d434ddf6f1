/-!
# Diagnostic options

Two switches for what a registry reports. They never change what it does. What they are when nobody
sets them depends on how the library was built.
-/

namespace Conversion

/-- How the library was built. -/
inductive BuildProfile where
  | debug
  | release
  deriving DecidableEq

/-- What a registry looks for in order to report it. -/
structure Options where
  /-- Look for further ancestors that could serve a lookup. -/
  debugMode : Bool
  /-- Look for converters between types that are assignable already. -/
  warnRedundant : Bool
  deriving DecidableEq

namespace Options

/-- The default options of a build. -/
def forBuild (profile : BuildProfile) : Options where
  debugMode := profile = .debug
  warnRedundant := true

/-- Options of which nothing is said are those of a debug build. -/
instance : EmptyCollection Options :=
  ⟨forBuild .debug⟩

/-- A truth value as a word. -/
def word (value : Bool) : String :=
  if value then "true" else "false"

/-- The options with their names. -/
def debug (options : Options) : String :=
  "RegistryOptions \x7b debug_mode: " ++ word options.debugMode ++
    ", warn_redundant_registration: " ++ word options.warnRedundant ++ " \x7d"

end Options

end Conversion
