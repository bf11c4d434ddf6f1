import Conversion.Proofs.Hierarchy.Reachability

/-!
# Assignability

A value of one type may stand where another is expected exactly if declared edges lead from the one
to the other. So assignability is a preorder, and the ancestors of types are ordered by inclusion as
the types are by assignability; types on a cycle have the same ancestors, though not in the same
order. The main statement is `isAssignable_iff_path`.
-/

namespace Conversion

namespace Declarations

/-- Whether a type is declared with another as its parent or as one of its interfaces. -/
def LeadsTo (declarations : Declarations) (key next : TypeKey) : Prop :=
  ∃ declaration, declarations.find? key = some declaration ∧
    (declaration.parent = some next ∨ next ∈ declaration.interfaces)

variable {declarations : Declarations} {key next : TypeKey}

theorem edge_iff_leadsTo : declarations.Edge key next ↔ declarations.LeadsTo key next := by
  rw [Edge, edges_eq_elim, LeadsTo]
  cases declarations.find? key with
  | none => simp
  | some declaration => simp [Declaration.edges]

theorem mem_walk_iff_path {start : TypeKey} :
    key ∈ declarations.walk start ↔ Relation.ReflTransGen declarations.LeadsTo start key := by
  have sameEdges : declarations.Edge = declarations.LeadsTo := by
    funext source target
    exact propext edge_iff_leadsTo
  rw [mem_walk_iff, Reaches, sameEdges]

/-- Ancestors of an ancestor are ancestors. -/
theorem walk_subset_of_mem {low high : TypeKey} (above : high ∈ declarations.walk low) :
    declarations.walk high ⊆ declarations.walk low :=
  fun _ higher => mem_walk_trans above higher

end Declarations

namespace Hierarchy

theorem isAssignable_iff_mem {hierarchy : Hierarchy} {source target : TypeKey} :
    (hierarchy.isAssignable source target).1 = true ↔
      target ∈ hierarchy.declarations.walk source := by
  rw [isAssignable_eq_contains, List.contains_iff_mem]

/-- One type is assignable to another exactly if a path of declared edges leads from the one to the
other. So every type is assignable to itself, and one without a declaration to nothing else;
assignability carries over from type to type; a type has all ancestors of its ancestors, and types
on a cycle have the same ones. Two types are convertible if either is assignable to the other. -/
theorem isAssignable_iff_path (hierarchy : Hierarchy) :
    let Assignable := fun source target => (hierarchy.isAssignable source target).1 = true
    let Path := Relation.ReflTransGen hierarchy.declarations.LeadsTo
    let chain := fun key => (hierarchy.ancestors key).1
    (∀ source target, Assignable source target ↔ Path source target) ∧
      (∀ key, Assignable key key) ∧
      (∀ key, hierarchy.isDeclared key = false → ∀ target, Assignable key target → target = key) ∧
      (∀ low middle high, Assignable low middle → Assignable middle high → Assignable low high) ∧
      (∀ low high, high ∈ chain low → chain high ⊆ chain low) ∧
      (∀ left right, Path left right → Path right left →
        ∀ key, key ∈ chain left ↔ key ∈ chain right) ∧
      ∀ left right, (hierarchy.areConvertible left right).1 = true ↔
        Assignable left right ∨ Assignable right left := by
  intro Assignable Path chain
  have assignable_iff : ∀ source target,
      Assignable source target ↔ target ∈ hierarchy.declarations.walk source :=
    fun _ _ => isAssignable_iff_mem
  have isWalk : chain = hierarchy.declarations.walk := funext hierarchy.ancestors_fst
  simp only [assignable_iff, isWalk]
  refine ⟨?_, ?_, ?_, ?_, ?_, ?_, ?_⟩
  · exact fun _ _ => Declarations.mem_walk_iff_path
  · exact Declarations.mem_walk_self _
  · intro key undeclared target above
    rw [Declarations.walk_of_leaf (Declarations.edges_of_undeclared undeclared)] at above
    exact List.mem_singleton.mp above
  · exact fun _ _ _ lower upper => Declarations.mem_walk_trans lower upper
  · exact fun _ _ above => Declarations.walk_subset_of_mem above
  · intro left right forth back key
    have rightAbove := Declarations.mem_walk_iff_path.mpr forth
    have leftAbove := Declarations.mem_walk_iff_path.mpr back
    constructor
    · intro above
      exact Declarations.mem_walk_trans leftAbove above
    · intro above
      exact Declarations.mem_walk_trans rightAbove above
  · intro left right
    rw [areConvertible_iff, isAssignable_iff_mem, isAssignable_iff_mem]

/-- Three types in a cycle, with an interface of one of them outside. -/
def cycle : Hierarchy :=
  (∅ : Hierarchy).declareAll
    [ { key := .str, parent := some .string },
      { key := .string, interfaces := [.number, .text] },
      { key := .text, parent := some .str } ]

theorem isAssignable_iff_path_in_cycle :
    Relation.ReflTransGen cycle.declarations.LeadsTo .str .text ∧
      Relation.ReflTransGen cycle.declarations.LeadsTo .text .str ∧
      (cycle.isAssignable .text .number).1 = true ∧
      (cycle.ancestors .str).1 = [.str, .string, .number, .text] ∧
      (cycle.ancestors .text).1 = [.text, .str, .string, .number] ∧
      (∀ key, key ∈ (cycle.ancestors .str).1 ↔ key ∈ (cycle.ancestors .text).1) ∧
      cycle.isDeclared .number = false ∧ (cycle.isAssignable .number .text).1 = false := by
  rcases cycle.isAssignable_iff_path with ⟨byPath, _, leaf, carries, _, sameOnCycle, _⟩
  have forth : Relation.ReflTransGen cycle.declarations.LeadsTo .str .text :=
    (byPath _ _).mp (by decide +kernel)
  have back : Relation.ReflTransGen cycle.declarations.LeadsTo .text .str :=
    .single ⟨{ key := .text, parent := some .str }, by decide +kernel, Or.inl rfl⟩
  have undeclared : cycle.isDeclared .number = false := by decide +kernel
  refine ⟨forth, back, ?_, by decide +kernel, by decide +kernel, sameOnCycle _ _ forth back,
    undeclared, ?_⟩
  · exact carries _ _ _ ((byPath _ _).mpr back) (by decide +kernel)
  · rw [← Bool.not_eq_true]
    intro assignable
    cases leaf _ undeclared _ assignable

end Hierarchy

end Conversion
