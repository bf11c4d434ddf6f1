import Mathlib.Logic.Relation
import Conversion.Hierarchy.Basic

/-!
# Ancestors are the reachable types

The walk of a hierarchy is a search with one queue, in which a type may wait several times. This
file shows that it lists exactly the types that declared edges reach, each of them once, for any
declarations and so for cycles as well.

`WalkState` is what the search keeps true: what is listed or waiting is reachable, and the edges
out of a listed type lead to types that are listed or waiting. Once the queue is empty the second
half says that the listed types are closed under edges, which gives completeness.
-/

namespace Conversion.Declarations

/-- One declared edge, from a type to its parent or to one of its interfaces. -/
def Edge (declarations : Declarations) (key next : TypeKey) : Prop :=
  next ∈ declarations.edges key

/-- A path of zero or more declared edges. -/
def Reaches (declarations : Declarations) : TypeKey → TypeKey → Prop :=
  Relation.ReflTransGen declarations.Edge

/-- What the search from a type keeps true of its list and its queue. -/
structure WalkState (declarations : Declarations) (start : TypeKey)
    (listed queue : List TypeKey) : Prop where
  nodup : listed.Nodup
  started : start ∈ listed ∨ start ∈ queue
  sound : ∀ key, key ∈ listed ∨ key ∈ queue → declarations.Reaches start key
  closed : ∀ key ∈ listed, ∀ next ∈ declarations.edges key, next ∈ listed ∨ next ∈ queue

namespace WalkState

variable {declarations : Declarations} {start key : TypeKey} {listed rest : List TypeKey}

theorem initial (declarations : Declarations) (start : TypeKey) :
    WalkState declarations start [] [start] where
  nodup := List.nodup_nil
  started := Or.inr (List.mem_singleton_self start)
  sound := by
    intro key present
    have same : key = start := by simpa using present
    rw [same]
    exact Relation.ReflTransGen.refl
  closed := by simp

theorem drop (state : WalkState declarations start listed (key :: rest))
    (seen : key ∈ listed) : WalkState declarations start listed rest := by
  have settle {other : TypeKey} (present : other ∈ listed ∨ other ∈ key :: rest) :
      other ∈ listed ∨ other ∈ rest := by
    rcases present with inList | inQueue
    · exact Or.inl inList
    · rcases List.mem_cons.mp inQueue with rfl | inRest
      · exact Or.inl seen
      · exact Or.inr inRest
  refine ⟨state.nodup, settle state.started, ?_, ?_⟩
  · intro other present
    exact state.sound other (present.imp_right (List.mem_cons_of_mem key))
  · intro other otherListed next edge
    exact settle (state.closed other otherListed next edge)

theorem expand (state : WalkState declarations start listed (key :: rest))
    (unseen : key ∉ listed) :
    WalkState declarations start (listed ++ [key]) (rest ++ declarations.edges key) := by
  have settle {other : TypeKey} (present : other ∈ listed ∨ other ∈ key :: rest) :
      other ∈ listed ++ [key] ∨ other ∈ rest ++ declarations.edges key := by
    rcases present with inList | inQueue
    · exact Or.inl (List.mem_append_left [key] inList)
    · rcases List.mem_cons.mp inQueue with rfl | inRest
      · exact Or.inl (List.mem_append_right listed List.mem_cons_self)
      · exact Or.inr (List.mem_append_left _ inRest)
  have keyReached := state.sound key (Or.inr List.mem_cons_self)
  refine ⟨?_, settle state.started, ?_, ?_⟩
  · simpa [List.nodup_append] using
      ⟨state.nodup, fun other otherListed same => unseen (same ▸ otherListed)⟩
  · intro other present
    simp only [List.mem_append, List.mem_singleton] at present
    rcases present with (inList | rfl) | (inRest | edge)
    · exact state.sound other (Or.inl inList)
    · exact keyReached
    · exact state.sound other (Or.inr (List.mem_cons_of_mem key inRest))
    · exact Relation.ReflTransGen.tail keyReached edge
  · intro other otherListed next edge
    rcases List.mem_append.mp otherListed with inList | isKey
    · exact settle (state.closed other inList next edge)
    · rw [List.mem_singleton.mp isKey] at edge
      exact Or.inr (List.mem_append_right rest edge)

/-- A search that has come to its end has listed what is reachable, and nothing twice. -/
theorem walkFrom {listed queue : List TypeKey}
    (state : WalkState declarations start listed queue) :
    WalkState declarations start (declarations.walkFrom listed queue) [] := by
  fun_induction Declarations.walkFrom declarations listed queue with
  | case1 listed => exact state
  | case2 listed key rest seen ih => exact ih (state.drop seen)
  | case3 listed key rest unseen ih => exact ih (state.expand unseen)

theorem mem_of_reaches (state : WalkState declarations start listed [])
    (reached : declarations.Reaches start key) : key ∈ listed := by
  induction reached with
  | refl => simpa using state.started
  | tail _ edge ih => simpa using state.closed _ ih _ edge

end WalkState

variable (declarations : Declarations)

/-- A walk keeps what it has listed and lists the rest behind it. -/
theorem isPrefix_walkFrom (listed queue : List TypeKey) :
    listed <+: declarations.walkFrom listed queue := by
  fun_induction declarations.walkFrom listed queue with
  | case1 listed => exact List.prefix_refl listed
  | case2 listed key rest seen ih => exact ih
  | case3 listed key rest unseen ih => exact (List.prefix_append listed [key]).trans ih

theorem walkState_walk (start : TypeKey) :
    WalkState declarations start (declarations.walk start) [] :=
  (WalkState.initial declarations start).walkFrom

/-- The ancestors of a type are the types that declared edges reach from it. -/
theorem mem_walk_iff {start key : TypeKey} :
    key ∈ declarations.walk start ↔ declarations.Reaches start key := by
  have state := declarations.walkState_walk start
  exact ⟨fun listed => state.sound key (Or.inl listed), state.mem_of_reaches⟩

theorem nodup_walk (start : TypeKey) : (declarations.walk start).Nodup :=
  (declarations.walkState_walk start).nodup

theorem mem_walk_self (start : TypeKey) : start ∈ declarations.walk start :=
  declarations.mem_walk_iff.mpr Relation.ReflTransGen.refl

variable {declarations}

theorem mem_walk_trans {low middle high : TypeKey} (lower : middle ∈ declarations.walk low)
    (upper : high ∈ declarations.walk middle) : high ∈ declarations.walk low := by
  rw [mem_walk_iff] at lower upper ⊢
  exact Relation.ReflTransGen.trans lower upper

theorem edges_of_undeclared {key : TypeKey} (undeclared : declarations.contains key = false) :
    declarations.edges key = [] := by
  have missing : declarations.find? key = none := by simpa [KeyMap.contains] using undeclared
  rw [edges_eq_elim, missing, Option.elim_none]

theorem walk_of_leaf {key : TypeKey} (leaf : declarations.edges key = []) :
    declarations.walk key = [key] := by
  simp [walk, walkFrom, leaf]

end Conversion.Declarations

namespace Conversion.Hierarchy

theorem isAssignable_eq_contains (hierarchy : Hierarchy) (source target : TypeKey) :
    (hierarchy.isAssignable source target).1 =
      (hierarchy.declarations.walk source).contains target := by
  rw [isAssignable_fst, Bool.or_eq_right_iff_imp]
  intro same
  rw [beq_iff_eq.mp same]
  exact List.contains_iff_mem.mpr (Declarations.mem_walk_self _ target)

theorem areConvertible_eq_contains (hierarchy : Hierarchy) (left right : TypeKey) :
    (hierarchy.areConvertible left right).1 =
      ((hierarchy.declarations.walk left).contains right ||
        (hierarchy.declarations.walk right).contains left) := by
  rw [← hierarchy.isAssignable_eq_contains left right,
    ← hierarchy.declarations_isAssignable left right]
  unfold areConvertible
  rcases hierarchy.isAssignable left right with ⟨holds, remembering⟩
  cases holds with
  | true => rfl
  | false => exact remembering.isAssignable_eq_contains right left

/-- Two types are convertible if either is assignable to the other. -/
theorem areConvertible_iff {hierarchy : Hierarchy} {left right : TypeKey} :
    (hierarchy.areConvertible left right).1 = true ↔
      (hierarchy.isAssignable left right).1 = true ∨
        (hierarchy.isAssignable right left).1 = true := by
  rw [areConvertible_eq_contains, isAssignable_eq_contains, isAssignable_eq_contains,
    Bool.or_eq_true]

end Conversion.Hierarchy
