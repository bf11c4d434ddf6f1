import Mathlib.Data.List.Perm.Subperm
import Conversion.Proofs.KeyMap
import Conversion.Proofs.Hierarchy.Levels

/-!
# The order of ancestors

The chain of a type consists of its levels, one after another, and the levels are defined by their
edges alone: each lists what is new among the edges of the one before. So the order of a chain can
be read off the declarations without the queue of the walk, which is the main statement,
`ancestors_eq_levels`.

How many levels there are is bounded by the declarations. A level that is not empty takes a declared
type in each level before it (`lt_length_declared`), and no type is in two levels.
-/

namespace Conversion

namespace Declarations

variable {declarations : Declarations} {start key next near far : TypeKey} {edges : Nat}

theorem within_eq_flatMap (declarations : Declarations) (start : TypeKey) (edges : Nat) :
    declarations.within start edges =
      (List.range (edges + 1)).flatMap (declarations.level start) := by
  induction edges with
  | zero => simp [within, level]
  | succ edges ih =>
      rw [within_succ, ih, List.range_succ (n := edges + 1), List.flatMap_append,
        List.flatMap_singleton]

theorem nodup_within (declarations : Declarations) (start : TypeKey) (edges : Nat) :
    (declarations.within start edges).Nodup :=
  (declarations.nodup_walk start).sublist (declarations.isPrefix_walk start edges).sublist

theorem contains_of_edge (edge : declarations.Edge key next) :
    declarations.contains key = true := by
  by_contra undeclared
  rw [Edge, edges_of_undeclared (eq_false_of_ne_true undeclared)] at edge
  cases edge

theorem exists_declared_of_level_ne_nil
    (occupied : declarations.level start (edges + 1) ≠ []) :
    ∃ key ∈ declarations.level start edges, declarations.contains key = true := by
  obtain ⟨next, nextMem⟩ := List.exists_mem_of_ne_nil _ occupied
  rw [level, mem_fresh_iff, List.mem_flatMap] at nextMem
  obtain ⟨⟨key, keyMem, edge⟩, _⟩ := nextMem
  exact ⟨key, keyMem, contains_of_edge edge⟩

/-- Each level before one that is not empty has a declared type. -/
theorem lt_length_declared (occupied : declarations.level start (edges + 1) ≠ []) :
    edges < ((declarations.within start edges).filter declarations.contains).length := by
  induction edges with
  | zero =>
      obtain ⟨key, keyMem, declared⟩ := exists_declared_of_level_ne_nil occupied
      exact List.length_pos_of_mem (List.mem_filter.mpr ⟨keyMem, declared⟩)
  | succ edges ih =>
      obtain ⟨key, keyMem, declared⟩ := exists_declared_of_level_ne_nil occupied
      have earlier := ih (List.ne_nil_of_mem keyMem)
      have here := List.length_pos_of_mem (List.mem_filter.mpr ⟨keyMem, declared⟩)
      rw [within_succ, List.filter_append, List.length_append]
      omega

/-- There are no more levels above the first than declared types. -/
theorem level_eq_nil (beyond : declarations.size < edges) :
    declarations.level start edges = [] := by
  cases edges with
  | zero => cases beyond
  | succ edges =>
      by_contra occupied
      have distinct := (declarations.nodup_within start edges).filter declarations.contains
      have declaredOnly : (declarations.within start edges).filter declarations.contains ⊆
          declarations.keys := by
        intro key filtered
        exact KeyMap.mem_keys_iff.mpr (List.mem_filter.mp filtered).2
      have atMost := (distinct.subperm declaredOnly).length_le
      have atLeast := lt_length_declared occupied
      rw [KeyMap.keys, List.length_map, ← KeyMap.size] at atMost
      omega

/-- A walk is its levels one after another. -/
theorem walk_eq_flatMap (declarations : Declarations) (start : TypeKey) :
    declarations.walk start =
      (List.range (declarations.size + 1)).flatMap (declarations.level start) := by
  have last : declarations.level start (declarations.size + 1) = [] :=
    level_eq_nil (Nat.lt_succ_self _)
  rw [declarations.walk_eq_walkFrom start (declarations.size + 1), last, List.flatMap_nil, walkFrom,
    within_succ, last, List.append_nil, within_eq_flatMap]

/-- A closer type comes first. -/
theorem idxOf_lt_of_closer (closer : declarations.Closer start near far) :
    (declarations.walk start).idxOf near < (declarations.walk start).idxOf far := by
  obtain ⟨edges, nearMem, farNotMem⟩ := exists_within_of_closer closer
  have isPrefix := declarations.isPrefix_walk start edges
  rw [isPrefix.mem_iff_idxOf_lt_length] at nearMem farNotMem
  exact Nat.lt_of_lt_of_le nearMem (Nat.le_of_not_lt farNotMem)

end Declarations

/-- A chain lists the levels of a type one after another. The first is the type itself, and each of
the others what is new among the edges of the one before, where it first occurs; after as many
levels as there are declared types nothing is new. So no type is listed twice, and one that fewer
edges lead to is listed first. -/
theorem Hierarchy.ancestors_eq_levels (hierarchy : Hierarchy) (key : TypeKey) :
    let level := hierarchy.declarations.level key
    let upTo := fun depth => (List.range (depth + 1)).flatMap level
    let chain := (hierarchy.ancestors key).1
    level 0 = [key] ∧
      (∀ depth, level (depth + 1) =
        Declarations.fresh (upTo depth) ((level depth).flatMap hierarchy.declarations.edges)) ∧
      (∀ depth, hierarchy.size < depth → level depth = []) ∧
      chain = upTo hierarchy.size ∧ chain.Nodup ∧
      ∀ near far, hierarchy.declarations.Closer key near far →
        chain.idxOf near < chain.idxOf far := by
  intro level upTo chain
  have isWalk : chain = hierarchy.declarations.walk key := hierarchy.ancestors_fst key
  rw [isWalk]
  refine ⟨?_, ?_, ?_, hierarchy.declarations.walk_eq_flatMap key,
    hierarchy.declarations.nodup_walk key, ?_⟩
  · simp [level, Declarations.level]
  · intro depth
    simp only [level, upTo, Declarations.level, Declarations.within_eq_flatMap]
  · intro depth beyond
    exact Declarations.level_eq_nil beyond
  · intro near far closer
    exact Declarations.idxOf_lt_of_closer closer

/-- Edges back to the start and to the own type, one edge twice, and two ways to the same types. -/
def tangle : Hierarchy :=
  (∅ : Hierarchy).declareAll
    [ { key := .str, parent := some .string, interfaces := [.text, .text, .char] },
      { key := .string, interfaces := [.number] },
      { key := .text, parent := some .number, interfaces := [.bool] },
      { key := .char, parent := some .str, interfaces := [.char] },
      { key := .number, parent := some .bool } ]

theorem ancestors_eq_levels_of_tangle :
    tangle.declarations.Closer .str .char .number ∧
      (tangle.ancestors .str).1 = [.str, .string, .text, .char, .number, .bool] ∧
      (tangle.ancestors .str).1.idxOf .char < (tangle.ancestors .str).1.idxOf .number ∧
      tangle.declarations.level .str 2 = [.number, .bool] ∧
      tangle.declarations.level .str 6 = [] := by
  have oneEdge : TypeKey.char ∈ tangle.declarations.edges .str := by decide +kernel
  have noEdge : TypeKey.number ∉ tangle.declarations.edges .str := by decide +kernel
  have closer : tangle.declarations.Closer .str .char .number := by
    refine ⟨1, .step .start oneEdge, ?_⟩
    intro others path
    cases path with
    | step before edge =>
        cases before with
        | start => exact absurd edge noEdge
        | step _ _ => omega
  rcases tangle.ancestors_eq_levels .str with ⟨_, _, beyond, _, _, closest⟩
  exact ⟨closer, by decide +kernel, closest _ _ closer, by decide +kernel,
    beyond 6 (by decide +kernel)⟩

end Conversion
