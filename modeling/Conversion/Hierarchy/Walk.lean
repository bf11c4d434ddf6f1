import Conversion.Hierarchy.Declaration

/-!
# The walk to the ancestors

`Declarations.walk` lists a type and its ancestors, closest first. It keeps a queue of types still
to look at: a type that was listed before is dropped, any other is listed and its edges join the
end of the queue, so the walk is breadth first and lists a type at its first position only.

The queue may grow and may hold one type many times. What goes down by one in every step is the
length of the queue together with the number of edges of all declared types not listed yet, and
that is the measure under which the walk is defined.
-/

namespace Conversion.Declarations

/-- Number of edges, in a list of declarations, of the types that are not listed yet. -/
def edgesBeyond (listed : List TypeKey) : List (TypeKey × Declaration) → Nat
  | [] => 0
  | (key, declaration) :: rest =>
      (if key ∈ listed then 0 else declaration.edges.length) + edgesBeyond listed rest

theorem edgesBeyond_append_of_notMem {key : TypeKey} {listed : List TypeKey}
    {items : List (TypeKey × Declaration)} (absent : key ∉ items.map Prod.fst) :
    edgesBeyond (listed ++ [key]) items = edgesBeyond listed items := by
  induction items with
  | nil => rfl
  | cons head rest ih =>
      rw [List.map_cons, List.mem_cons, not_or] at absent
      simp [edgesBeyond, ih absent.2, Ne.symm absent.1]

/-- Listing a type takes its edges out of the count. -/
theorem edgesBeyond_append {key : TypeKey} {listed : List TypeKey}
    {items : List (TypeKey × Declaration)}
    (nodup : (items.map Prod.fst).Nodup) (unlisted : key ∉ listed) :
    edgesBeyond (listed ++ [key]) items +
        ((KeyMap.lookup key items).elim [] Declaration.edges).length =
      edgesBeyond listed items := by
  induction items with
  | nil => rfl
  | cons head rest ih =>
      rcases head with ⟨own, declaration⟩
      rw [List.map_cons, List.nodup_cons] at nodup
      by_cases same : own = key
      · subst same
        simp [edgesBeyond, KeyMap.lookup, edgesBeyond_append_of_notMem nodup.1, unlisted,
          Nat.add_comm]
      · have rest_eq := ih nodup.2
        simp only [edgesBeyond, KeyMap.lookup, same, if_false, List.mem_append, List.mem_singleton,
          or_false]
        omega

theorem edges_eq_elim (declarations : Declarations) (key : TypeKey) :
    declarations.edges key = (declarations.find? key).elim [] Declaration.edges := by
  unfold edges
  cases declarations.find? key <;> rfl

/-- The measure of the walk: the queue, and the edges that could still join it. -/
def workLeft (declarations : Declarations) (listed queue : List TypeKey) : Nat :=
  edgesBeyond listed declarations.toList + queue.length

theorem workLeft_drop (declarations : Declarations) (listed rest : List TypeKey) (key : TypeKey) :
    declarations.workLeft listed rest + 1 = declarations.workLeft listed (key :: rest) :=
  rfl

theorem workLeft_expand (declarations : Declarations) {listed : List TypeKey}
    (rest : List TypeKey) {key : TypeKey} (unlisted : key ∉ listed) :
    declarations.workLeft (listed ++ [key]) (rest ++ declarations.edges key) + 1 =
      declarations.workLeft listed (key :: rest) := by
  have taken := edgesBeyond_append declarations.nodup unlisted
  simp only [workLeft, List.length_append, List.length_cons, edges_eq_elim, KeyMap.find?]
  omega

/-- Continues a walk from the types listed so far and the queue of types still to look at. -/
def walkFrom (declarations : Declarations) (listed : List TypeKey) : List TypeKey → List TypeKey
  | [] => listed
  | key :: rest =>
      if key ∈ listed then declarations.walkFrom listed rest
      else declarations.walkFrom (listed ++ [key]) (rest ++ declarations.edges key)
termination_by queue => declarations.workLeft listed queue
decreasing_by
  · rw [← workLeft_drop declarations listed rest key]
    exact Nat.lt_succ_self _
  · rename_i unlisted
    rw [← workLeft_expand declarations rest unlisted]
    exact Nat.lt_succ_self _

/-- A type followed by its ancestors, closest first. -/
def walk (declarations : Declarations) (key : TypeKey) : List TypeKey :=
  declarations.walkFrom [] [key]

end Conversion.Declarations
