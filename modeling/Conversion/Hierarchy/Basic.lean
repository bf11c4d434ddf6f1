import Conversion.Hierarchy.Walk

/-!
# Type hierarchies

A `Hierarchy` is a set of declarations together with the chains of ancestors that were asked for
since the last declaration. A query hands back the hierarchy that remembers its chain. The proof
field `coherent` says that what is remembered is what the walk would list, so remembering never
shows: `ancestors_fst` gives the walk for every hierarchy, and no query changes a declaration.
-/

namespace Conversion

/-- Declared types with the chains remembered for them. -/
structure Hierarchy where
  declarations : Declarations
  chains : KeyMap (List TypeKey)
  coherent : ∀ key chain, chains.find? key = some chain → chain = declarations.walk key

namespace Hierarchy

/-- Declarations for which no chain is remembered. -/
def ofDeclarations (declarations : Declarations) : Hierarchy where
  declarations := declarations
  chains := ∅
  coherent := by
    intro key chain found
    simp at found

/-- The hierarchy without declarations. -/
def empty : Hierarchy :=
  ofDeclarations ∅

instance : EmptyCollection Hierarchy :=
  ⟨empty⟩

instance : Inhabited Hierarchy :=
  ⟨empty⟩

/-- Declares or redeclares a type and forgets all chains, since an edge can lengthen the chain of
any type below it. -/
def declare (hierarchy : Hierarchy) (declaration : Declaration) : Hierarchy :=
  ofDeclarations (hierarchy.declarations.declare declaration)

/-- Declares types from first to last and then forgets all chains. -/
def declareAll (hierarchy : Hierarchy) (added : List Declaration) : Hierarchy :=
  ofDeclarations (hierarchy.declarations.declareAll added)

/-- Whether a type was declared. -/
def isDeclared (hierarchy : Hierarchy) (key : TypeKey) : Bool :=
  hierarchy.declarations.contains key

/-- Number of declared types. -/
def size (hierarchy : Hierarchy) : Nat :=
  hierarchy.declarations.size

/-- Whether no type was declared. -/
def isEmpty (hierarchy : Hierarchy) : Bool :=
  hierarchy.declarations.toList.isEmpty

/-- Whether a type is public. -/
def isPublic (hierarchy : Hierarchy) (key : TypeKey) : Bool :=
  hierarchy.declarations.isPublic key

/-- Remembers a chain, which has to be the one that the walk lists. -/
def remember (hierarchy : Hierarchy) (key : TypeKey) (chain : List TypeKey)
    (walked : chain = hierarchy.declarations.walk key) : Hierarchy where
  declarations := hierarchy.declarations
  chains := hierarchy.chains.insert key chain
  coherent := by
    intro other held found
    rw [KeyMap.find?_insert] at found
    by_cases same : key = other
    · subst same
      simp only [if_true, Option.some.injEq] at found
      exact found ▸ walked
    · simp only [same, if_false] at found
      exact hierarchy.coherent other held found

/-- A type followed by its ancestors, closest first: the remembered chain, or else a walk that is
remembered from then on. -/
def ancestors (hierarchy : Hierarchy) (key : TypeKey) : List TypeKey × Hierarchy :=
  match hierarchy.chains.find? key with
  | some chain => (chain, hierarchy)
  | none =>
      let chain := hierarchy.declarations.walk key
      (chain, hierarchy.remember key chain rfl)

/-- Whether a value of one type may stand where another is expected. -/
def isAssignable (hierarchy : Hierarchy) (source target : TypeKey) : Bool × Hierarchy :=
  if source = target then (true, hierarchy)
  else
    let (chain, remembering) := hierarchy.ancestors source
    (chain.contains target, remembering)

/-- Whether either of two types is assignable to the other. -/
def areConvertible (hierarchy : Hierarchy) (left right : TypeKey) : Bool × Hierarchy :=
  match hierarchy.isAssignable left right with
  | (true, remembering) => (true, remembering)
  | (false, remembering) => remembering.isAssignable right left

@[simp]
theorem ancestors_fst (hierarchy : Hierarchy) (key : TypeKey) :
    (hierarchy.ancestors key).1 = hierarchy.declarations.walk key := by
  unfold ancestors
  split
  · next chain found => exact hierarchy.coherent key chain found
  · rfl

@[simp]
theorem declarations_ancestors (hierarchy : Hierarchy) (key : TypeKey) :
    (hierarchy.ancestors key).2.declarations = hierarchy.declarations := by
  unfold ancestors
  split <;> rfl

theorem isAssignable_fst (hierarchy : Hierarchy) (source target : TypeKey) :
    (hierarchy.isAssignable source target).1 =
      (source == target || (hierarchy.declarations.walk source).contains target) := by
  unfold isAssignable
  by_cases same : source = target
  · simp [same]
  · have differ : (source == target) = false := by simp [same]
    simp [same, differ]

@[simp]
theorem declarations_isAssignable (hierarchy : Hierarchy) (source target : TypeKey) :
    (hierarchy.isAssignable source target).2.declarations = hierarchy.declarations := by
  unfold isAssignable
  split <;> simp

@[simp]
theorem declarations_areConvertible (hierarchy : Hierarchy) (left right : TypeKey) :
    (hierarchy.areConvertible left right).2.declarations = hierarchy.declarations := by
  unfold areConvertible
  split
  · next remembering answer =>
      have kept := hierarchy.declarations_isAssignable left right
      rwa [answer] at kept
  · next remembering answer =>
      have kept := hierarchy.declarations_isAssignable left right
      rw [answer] at kept
      simpa using kept

end Hierarchy

end Conversion
