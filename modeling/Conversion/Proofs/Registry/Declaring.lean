import Mathlib.Logic.Function.Basic
import Conversion.Proofs.Hierarchy.LastDeclaration
import Conversion.Proofs.Registry.Remembering

/-!
# What a declaration can change

A declaration matters to types that have the declared one among their ancestors, and to no others:
the walk from any other type never looks at it. Nor does one matter that leaves the edges of its
type as they were, public or not. The main statement is `declare_changes_locally`. It is about all
registries that share the hierarchy, since each of them answers by the same chains from then on.
-/

namespace Conversion

namespace Declarations

variable {declarations : Declarations} {declaration : Declaration} {start : TypeKey}

theorem edges_declare (declarations : Declarations) (declaration : Declaration) (key : TypeKey) :
    (declarations.declare declaration).edges key =
      if declaration.key = key then declaration.edges else declarations.edges key := by
  simp only [edges_eq_elim, declare, KeyMap.find?_insert]
  split <;> rfl

theorem walk_declare_of_notMem (notAbove : declaration.key ∉ declarations.walk start) :
    (declarations.declare declaration).walk start = declarations.walk start := by
  symm
  apply walk_congr_edges
  intro key keyMem
  have apart : declaration.key ≠ key := by
    rintro rfl
    exact notAbove keyMem
  simp [edges_declare, apart]

theorem walk_declare_of_edges (kept : declaration.edges = declarations.edges declaration.key) :
    (declarations.declare declaration).walk start = declarations.walk start := by
  symm
  apply walk_congr_edges
  intro key _
  by_cases own : declaration.key = key
  · subst own
    simp [edges_declare, kept]
  · simp [edges_declare, own]

end Declarations

/-- Registries that share one hierarchy. Whatever hierarchy a registry was handed when it last did
something, it works with the shared one. -/
structure SharedRegistries where
  types : Hierarchy
  held : Nat → Registry

namespace SharedRegistries

/-- A registry as it is at this moment. -/
def member (shared : SharedRegistries) (place : Nat) : Registry :=
  { shared.held place with types := shared.types }

/-- What is left when one of the registries has done something. -/
def after {α : Type} (shared : SharedRegistries) (actor : Nat) (action : Action α) :
    SharedRegistries :=
  let outcome := action (shared.member actor)
  { types := outcome.registry.types
    held := Function.update shared.held actor outcome.registry }

theorem member_after_declare (shared : SharedRegistries) (actor place : Nat)
    (declaration : Declaration) :
    (shared.after actor (Registry.declare declaration)).member place =
      { shared.member place with types := shared.types.declare declaration } := by
  by_cases own : place = actor
  · subst own
    simp [after, member, Registry.declare, Action.modify]
  · simp [after, member, Registry.declare, Action.modify, own]

end SharedRegistries

namespace Registry

/-- A search by ancestors answers by the chain of its source and by the table. -/
theorem byAncestor_congr {left right : Registry} {source : TypeKey}
    (chain : left.types.declarations.walk source = right.types.declarations.walk source)
    (table : left.table = right.table) (target : TypeKey) :
    (byAncestor source target left).result = (byAncestor source target right).result := by
  simp only [byAncestor_result, chain, table]

/-- A declaration is local, whichever of the registries that share a hierarchy makes it. The types
that the declared one is no ancestor of keep their ancestors and what they are assignable to, and
searches from them are answered as before in every registry. All types keep their ancestors if the
declaration has the parent and the interfaces of the one that it replaces. And of every registry,
nothing but the hierarchy is touched. -/
theorem declare_changes_locally (shared : SharedRegistries) (declarer : Nat)
    (declaration : Declaration) :
    let types := shared.types
    let later := shared.after declarer (declare declaration)
    later.types = types.declare declaration ∧
      (∀ key, declaration.key ∉ (types.ancestors key).1 →
        (later.types.ancestors key).1 = (types.ancestors key).1 ∧
          ∀ target,
            (later.types.isAssignable key target).1 = (types.isAssignable key target).1 ∧
              ∀ place, (byAncestor key target (later.member place)).result =
                (byAncestor key target (shared.member place)).result) ∧
      (∀ replaced, types.declarations.find? declaration.key = some replaced →
        declaration.parent = replaced.parent → declaration.interfaces = replaced.interfaces →
          ∀ key, (later.types.ancestors key).1 = (types.ancestors key).1) ∧
      ∀ place, later.member place = { shared.member place with types := later.types } := by
  intro types later
  have members : ∀ place, later.member place =
      { shared.member place with types := types.declare declaration } :=
    fun place => shared.member_after_declare declarer place declaration
  refine ⟨rfl, ?_, ?_, members⟩
  · intro key notAbove
    rw [Hierarchy.ancestors_fst] at notAbove
    have chain : later.types.declarations.walk key = types.declarations.walk key :=
      Declarations.walk_declare_of_notMem notAbove
    refine ⟨by simpa using chain, ?_⟩
    intro target
    refine ⟨by simp only [Hierarchy.isAssignable_fst, chain], ?_⟩
    intro place
    rw [members place]
    apply byAncestor_congr
    · exact chain
    · rfl
  · intro replaced found sameParent sameInterfaces key
    have kept : declaration.edges = types.declarations.edges declaration.key := by
      simp [Declarations.edges_eq_elim, found, Declaration.edges, sameParent, sameInterfaces]
    have chain : later.types.declarations.walk key = types.declarations.walk key :=
      Declarations.walk_declare_of_edges kept
    simpa using chain

def anyToTrue : Converter :=
  ⟨.given 0, .dynamic fun _ _ => .ok ⟨.bool, true⟩⟩

/-- Two registries, one of them with an entry. Characters and the text interface stand in a cycle,
apart from owned text, which is a number. -/
def besideCycle : SharedRegistries where
  types := (∅ : Hierarchy).declareAll
    [ (Declaration.of .char).extending .text, (Declaration.of .text).extending .char,
      (Declaration.of .str).extending .string, (Declaration.of .string).implementing .number ]
  held := Function.update (fun _ => ofTypes ∅ {}) 0
    (register .text .bool anyToTrue (ofTypes ∅ {})).registry

theorem declare_changes_locally_beside_cycle :
    let later := besideCycle.after 1 (declare ((Declaration.of .number).extending .char))
    let hidden :=
      besideCycle.after 0 (declare ((Declaration.of .string).implementing .number).hidden)
    (later.types.ancestors .char).1 = [.char, .text] ∧
      (later.types.ancestors .str).1 = [.str, .string, .number, .char, .text] ∧
      (byAncestor .char .bool (later.member 0)).result.map Converter.identity =
        some (.given 0) ∧
      hidden.types.isPublic .string = false ∧
      (∀ key, (hidden.types.ancestors key).1 = (besideCycle.types.ancestors key).1) ∧
      (hidden.member 0).table = (besideCycle.member 0).table := by
  intro later hidden
  have notAbove : TypeKey.number ∉ (besideCycle.types.ancestors .char).1 := by decide +kernel
  rcases declare_changes_locally besideCycle 1 ((Declaration.of .number).extending .char) with
    ⟨_, apart, _, _⟩
  rcases declare_changes_locally besideCycle 0
      ((Declaration.of .string).implementing .number).hidden with ⟨_, _, sameEdges, untouched⟩
  rcases apart .char notAbove with ⟨sameChain, sameAnswers⟩
  refine ⟨?_, by decide +kernel, ?_, by decide +kernel, ?_, ?_⟩
  · rw [sameChain]
    decide +kernel
  · rw [(sameAnswers .bool).2 0]
    decide +kernel
  · exact sameEdges _ rfl rfl rfl
  · rw [untouched 0]

end Registry

end Conversion
