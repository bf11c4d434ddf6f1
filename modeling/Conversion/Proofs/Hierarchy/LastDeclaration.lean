import Conversion.Proofs.Hierarchy.Reachability

/-!
# What the declarations in force depend on

Of all declarations of a type only the last is in force, whatever the order of the others and
however they came in batches (`find?_declareAll`). The walk asks for the edges of the types that it
lists and for nothing else (`walk_congr_edges`). So two sets that hold the same declaration for
every type have the same ancestors, although the types may have arrived in another order
(`walk_congr`).
-/

namespace Conversion

/-- The last of some declarations that is for a type. -/
def Declaration.lastFor (key : TypeKey) (declared : List Declaration) : Option Declaration :=
  declared.reverse.find? (·.key = key)

theorem Declaration.lastFor_append (key : TypeKey) (earlier later : List Declaration) :
    lastFor key (earlier ++ later) = (lastFor key later).or (lastFor key earlier) := by
  simp [lastFor, List.find?_append]

theorem Declaration.lastFor_singleton (key : TypeKey) (declaration : Declaration) :
    lastFor key [declaration] = if declaration.key = key then some declaration else none := by
  simp [lastFor, List.find?_singleton]

namespace Declarations

theorem declareAll_append (declarations : Declarations) (earlier later : List Declaration) :
    declarations.declareAll (earlier ++ later) =
      (declarations.declareAll earlier).declareAll later :=
  List.foldl_append

/-- The declaration of a type is the last one that was made, if any was. -/
theorem find?_declareAll (declarations : Declarations) (declared : List Declaration)
    (key : TypeKey) :
    (declarations.declareAll declared).find? key =
      (Declaration.lastFor key declared).or (declarations.find? key) := by
  induction declared generalizing declarations with
  | nil => rfl
  | cons declaration rest ih =>
      have first : (declarations.declare declaration).find? key =
          (Declaration.lastFor key [declaration]).or (declarations.find? key) := by
        rw [declare, KeyMap.find?_insert, Declaration.lastFor_singleton]
        split <;> rfl
      rw [← List.singleton_append, Declaration.lastFor_append, Option.or_assoc, ← first]
      exact ih (declarations.declare declaration)

variable {left right : Declarations}

theorem edges_congr (same : ∀ key, left.find? key = right.find? key) (key : TypeKey) :
    left.edges key = right.edges key := by
  rw [edges_eq_elim, edges_eq_elim, same]

theorem walkFrom_congr {listed queue : List TypeKey}
    (same : ∀ key ∈ left.walkFrom listed queue, left.edges key = right.edges key) :
    left.walkFrom listed queue = right.walkFrom listed queue := by
  fun_induction Declarations.walkFrom left listed queue with
  | case1 listed => rw [walkFrom]
  | case2 listed key rest seen ih =>
      rw [ih same]
      conv => rhs; rw [walkFrom, if_pos seen]
  | case3 listed key rest unseen ih =>
      -- the type is listed now, so it is among those that the walk ends with
      have keyMem : key ∈ left.walkFrom (listed ++ [key]) (rest ++ left.edges key) :=
        (left.isPrefix_walkFrom _ _).subset (List.mem_append_right listed List.mem_cons_self)
      rw [ih same, same key keyMem]
      conv => rhs; rw [walkFrom, if_neg unseen]

/-- A walk looks at the edges of the types that it lists and at nothing else. -/
theorem walk_congr_edges {start : TypeKey}
    (same : ∀ key ∈ left.walk start, left.edges key = right.edges key) :
    left.walk start = right.walk start :=
  walkFrom_congr same

/-- The ancestors of a type depend on the declaration of each type and on nothing else. -/
theorem walk_congr (same : ∀ key, left.find? key = right.find? key) (key : TypeKey) :
    left.walk key = right.walk key :=
  walk_congr_edges fun other _ => edges_congr same other

end Declarations

end Conversion
