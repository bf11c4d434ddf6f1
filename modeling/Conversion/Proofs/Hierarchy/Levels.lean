import Conversion.Proofs.Hierarchy.Reachability

/-!
# The walk goes level by level

A type is the closer to the start of a walk the fewer edges lead to it. The walk has one queue, in
which the types of one level still wait while their edges already join its end. This file takes the
queue apart again: once the types of a level that wait at its front are listed, exactly the edges of
this level are left (`walkFrom_drain`), so a walk starts with any number of whole levels
(`walk_eq_walkFrom`). What is within a level is what so many edges reach (`mem_within_iff`).

The main statement for lookups is `find?_walk_eq_false_of_closer`: before the first type of a walk
that passes a test, no closer one does.
-/

namespace Conversion.Declarations

/-- A path of a given number of declared edges. -/
inductive ReachesIn (declarations : Declarations) (start : TypeKey) : Nat → TypeKey → Prop where
  | start : ReachesIn declarations start 0 start
  | step {edges : Nat} {key next : TypeKey} (path : ReachesIn declarations start edges key)
      (edge : declarations.Edge key next) : ReachesIn declarations start (edges + 1) next

/-- Whether fewer edges lead to one type than ever lead to another. -/
def Closer (declarations : Declarations) (start near far : TypeKey) : Prop :=
  ∃ edges, declarations.ReachesIn start edges near ∧
    ∀ others, declarations.ReachesIn start others far → edges < others

/-- The types of a list that were not listed before, each where it first occurs. -/
def fresh (listed : List TypeKey) : List TypeKey → List TypeKey
  | [] => []
  | key :: rest =>
      if key ∈ listed then fresh listed rest else key :: fresh (listed ++ [key]) rest

mutual

/-- The types that so many edges lead to and no fewer, in the order of the edges. -/
def level (declarations : Declarations) (start : TypeKey) : Nat → List TypeKey
  | 0 => [start]
  | edges + 1 =>
      fresh (declarations.within start edges)
        ((declarations.level start edges).flatMap declarations.edges)

/-- The types of all levels up to one. -/
def within (declarations : Declarations) (start : TypeKey) : Nat → List TypeKey
  | 0 => [start]
  | edges + 1 =>
      declarations.within start edges ++
        fresh (declarations.within start edges)
          ((declarations.level start edges).flatMap declarations.edges)

end

theorem mem_fresh_iff {key : TypeKey} {listed waiting : List TypeKey} :
    key ∈ fresh listed waiting ↔ key ∈ waiting ∧ key ∉ listed := by
  induction waiting generalizing listed with
  | nil => simp [fresh]
  | cons head rest ih =>
      by_cases seen : head ∈ listed
      · simp only [fresh, if_pos seen, ih, List.mem_cons]
        grind
      · simp only [fresh, if_neg seen, List.mem_cons, ih, List.mem_append]
        grind

section

variable (declarations : Declarations) (start : TypeKey)

/-- Listing what waits at the front of the queue leaves the rest of it and the edges of the types
that were new. -/
theorem walkFrom_drain (listed front rest : List TypeKey) :
    declarations.walkFrom listed (front ++ rest) =
      declarations.walkFrom (listed ++ fresh listed front)
        (rest ++ (fresh listed front).flatMap declarations.edges) := by
  induction front generalizing listed rest with
  | nil => simp [fresh]
  | cons key others ih =>
      by_cases seen : key ∈ listed
      · rw [List.cons_append, walkFrom, if_pos seen, ih]
        simp [fresh, seen]
      · rw [List.cons_append, walkFrom, if_neg seen, List.append_assoc, ih]
        simp [fresh, seen]

theorem within_succ (edges : Nat) :
    declarations.within start (edges + 1) =
      declarations.within start edges ++ declarations.level start (edges + 1) := by
  simp [within, level]

/-- A walk starts with all levels up to any one. -/
theorem walk_eq_walkFrom (edges : Nat) :
    declarations.walk start =
      declarations.walkFrom (declarations.within start edges)
        ((declarations.level start edges).flatMap declarations.edges) := by
  induction edges with
  | zero => simp [walk, walkFrom, within, level]
  | succ edges ih =>
      have drained := declarations.walkFrom_drain (declarations.within start edges)
        ((declarations.level start edges).flatMap declarations.edges) []
      rw [List.append_nil, List.nil_append] at drained
      rw [ih, drained, within, level]

theorem isPrefix_walk (edges : Nat) :
    declarations.within start edges <+: declarations.walk start := by
  rw [declarations.walk_eq_walkFrom start edges]
  apply isPrefix_walkFrom

theorem exists_walk_eq_cons : ∃ rest, declarations.walk start = start :: rest := by
  obtain ⟨rest, walkEq⟩ := declarations.isPrefix_walk start 0
  exact ⟨rest, by simpa [within] using walkEq.symm⟩

end

variable {declarations : Declarations} {start key next near far : TypeKey} {edges : Nat}

theorem reachesIn_of_mem_level (member : key ∈ declarations.level start edges) :
    declarations.ReachesIn start edges key := by
  induction edges generalizing key with
  | zero =>
      obtain rfl : key = start := by simpa [level] using member
      exact .start
  | succ edges ih =>
      rw [level, mem_fresh_iff, List.mem_flatMap] at member
      obtain ⟨⟨before, beforeMem, edge⟩, _⟩ := member
      exact (ih beforeMem).step edge

theorem mem_within_mono {others : Nat} (le : edges ≤ others)
    (member : key ∈ declarations.within start edges) :
    key ∈ declarations.within start others := by
  induction le with
  | refl => exact member
  | step _ ih =>
      rw [within_succ]
      exact List.mem_append_left _ ih

theorem mem_within_of_edge (member : key ∈ declarations.within start edges)
    (edge : declarations.Edge key next) : next ∈ declarations.within start (edges + 1) := by
  have ofLevel {own : Nat} (inLevel : key ∈ declarations.level start own) :
      next ∈ declarations.within start (own + 1) := by
    by_cases earlier : next ∈ declarations.within start own
    · exact mem_within_mono (Nat.le_succ own) earlier
    · rw [within_succ, level]
      apply List.mem_append_right
      rw [mem_fresh_iff]
      exact ⟨List.mem_flatMap.mpr ⟨key, inLevel, edge⟩, earlier⟩
  induction edges with
  | zero =>
      apply ofLevel
      simpa [level, within] using member
  | succ edges ih =>
      rw [within_succ] at member
      rcases List.mem_append.mp member with earlier | inLevel
      · exact mem_within_mono (Nat.le_succ _) (ih earlier)
      · exact ofLevel inLevel

/-- The levels up to one hold what so many edges reach. -/
theorem mem_within_iff :
    key ∈ declarations.within start edges ↔
      ∃ fewer ≤ edges, declarations.ReachesIn start fewer key := by
  constructor
  · intro member
    induction edges with
    | zero =>
        obtain rfl : key = start := by simpa [within] using member
        exact ⟨0, Nat.le_refl 0, .start⟩
    | succ edges ih =>
        rw [within_succ] at member
        rcases List.mem_append.mp member with earlier | inLevel
        · obtain ⟨fewer, le, path⟩ := ih earlier
          exact ⟨fewer, Nat.le_succ_of_le le, path⟩
        · exact ⟨edges + 1, Nat.le_refl _, reachesIn_of_mem_level inLevel⟩
  · rintro ⟨fewer, le, path⟩
    apply mem_within_mono le
    clear le
    induction path with
    | start => simp [within]
    | step _ edge ih => exact mem_within_of_edge ih edge

/-- Some level tells a closer type from a farther one. -/
theorem exists_within_of_closer (closer : declarations.Closer start near far) :
    ∃ edges, near ∈ declarations.within start edges ∧ far ∉ declarations.within start edges := by
  obtain ⟨edges, path, farther⟩ := closer
  refine ⟨edges, mem_within_iff.mpr ⟨edges, Nat.le_refl edges, path⟩, ?_⟩
  intro farMem
  obtain ⟨fewer, le, farPath⟩ := mem_within_iff.mp farMem
  have := farther fewer farPath
  omega

/-- Before the first type of a walk that passes a test, none that is closer does. -/
theorem find?_walk_eq_false_of_closer {test : TypeKey → Bool}
    (first : (declarations.walk start).find? test = some far)
    (closer : declarations.Closer start near far) : test near = false := by
  obtain ⟨edges, nearMem, farNotMem⟩ := exists_within_of_closer closer
  obtain ⟨rest, walkEq⟩ := declarations.isPrefix_walk start edges
  rw [← walkEq, List.find?_append] at first
  cases found : (declarations.within start edges).find? test with
  | none => simpa using List.find?_eq_none.mp found near nearMem
  | some key =>
      obtain rfl : key = far := by simpa [found] using first
      exact absurd (List.mem_of_find?_eq_some found) farNotMem

end Conversion.Declarations
