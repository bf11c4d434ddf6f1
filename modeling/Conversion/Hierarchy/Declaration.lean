import Conversion.KeyMap

/-!
# Declarations

There is no class graph to inspect, so the edges between types are declared: each declaration gives
one type its parent and its interfaces, and says whether the type is public. A type that nobody
declared is a public one without edges.
-/

namespace Conversion

/-- The declared position of one type. -/
structure Declaration where
  key : TypeKey
  isPublic : Bool := true
  parent : Option TypeKey := none
  interfaces : List TypeKey := []
  deriving DecidableEq

namespace Declaration

/-- A public type without edges. -/
def of (key : TypeKey) : Declaration :=
  { key }

/-- Sets the one parent edge; a later parent replaces an earlier one. -/
def extending (declaration : Declaration) (parent : TypeKey) : Declaration :=
  { declaration with parent := some parent }

/-- Appends an interface edge. -/
def implementing (declaration : Declaration) (interface : TypeKey) : Declaration :=
  { declaration with interfaces := declaration.interfaces ++ [interface] }

/-- Makes the type private. -/
def hidden (declaration : Declaration) : Declaration :=
  { declaration with isPublic := false }

/-- The edges out of the type: the parent first, then the interfaces as declared. -/
def edges (declaration : Declaration) : List TypeKey :=
  declaration.parent.toList ++ declaration.interfaces

end Declaration

/-- The declarations in force, at most one for each type. -/
abbrev Declarations : Type :=
  KeyMap Declaration

namespace Declarations

/-- Puts a declaration in force; it replaces the one for the same type. -/
def declare (declarations : Declarations) (declaration : Declaration) : Declarations :=
  declarations.insert declaration.key declaration

/-- Puts declarations in force from first to last. -/
def declareAll (declarations : Declarations) (added : List Declaration) : Declarations :=
  added.foldl declare declarations

/-- The edges out of a type; an undeclared type has none. -/
def edges (declarations : Declarations) (key : TypeKey) : List TypeKey :=
  match declarations.find? key with
  | some declaration => declaration.edges
  | none => []

/-- Whether a type is public. -/
def isPublic (declarations : Declarations) (key : TypeKey) : Bool :=
  match declarations.find? key with
  | some declaration => declaration.isPublic
  | none => true

end Declarations

end Conversion
