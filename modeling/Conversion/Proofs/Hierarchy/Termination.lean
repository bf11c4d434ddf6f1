import Conversion.Proofs.Hierarchy.CanonicalOrder

/-!
# The walk comes to its end

The loop of a walk puts types into its queue while it takes others out, and a type may wait in it
many times. This file follows the loop turn by turn (`Runs`) and does not take for granted that it
stops. A turn takes one type out of the queue, and only the expansion of a type puts others in, so
a run has as many turns as types have left the queue (`Runs.length_add_queue`). A type is expanded
once, which bounds what can ever join the queue by the declared edges: this is the measure
`workLeft`, and a run uses it up by exactly one in a turn (`Runs.length_add_workLeft`).

`walkWithin` is the same loop with a bound on its turns. It has a chain as soon as the bound reaches
the length of the complete run (`Runs.walkWithin_eq`).
-/

namespace Conversion.Declarations

/-- The parent and interface edges of all declarations. -/
def allEdges (declarations : Declarations) : List TypeKey :=
  declarations.toList.flatMap fun item => item.2.edges

/-- Where the loop of a walk stands: the types that it has listed and the queue. -/
structure Search where
  listed : List TypeKey
  queue : List TypeKey

/-- What one turn of the loop does with the first type of the queue. -/
inductive Turn where
  | drop (key : TypeKey)
  | expand (key : TypeKey)

/-- The types that are expanded in some turns, in their order. -/
def expanded : List Turn → List TypeKey
  | [] => []
  | .drop _ :: later => expanded later
  | .expand key :: later => key :: expanded later

/-- The loop of a walk, which may be left after any turn. With an empty queue there is no turn. -/
inductive Runs (declarations : Declarations) : Search → List Turn → Search → Prop where
  | stay (search : Search) : Runs declarations search [] search
  | drop {listed rest : List TypeKey} {key : TypeKey} {turns : List Turn} {final : Search}
      (seen : key ∈ listed) (later : Runs declarations ⟨listed, rest⟩ turns final) :
      Runs declarations ⟨listed, key :: rest⟩ (.drop key :: turns) final
  | expand {listed rest : List TypeKey} {key : TypeKey} {turns : List Turn} {final : Search}
      (unseen : key ∉ listed)
      (later : Runs declarations ⟨listed ++ [key], rest ++ declarations.edges key⟩ turns final) :
      Runs declarations ⟨listed, key :: rest⟩ (.expand key :: turns) final

/-- A walk that gives up when it has taken a number of turns and types are still waiting. -/
def walkWithin (declarations : Declarations) :
    Nat → List TypeKey → List TypeKey → Option (List TypeKey)
  | _, listed, [] => some listed
  | 0, _, _ :: _ => none
  | bound + 1, listed, key :: rest =>
      if key ∈ listed then declarations.walkWithin bound listed rest
      else declarations.walkWithin bound (listed ++ [key]) (rest ++ declarations.edges key)

variable {declarations : Declarations} {search final : Search} {turns others : List Turn}

theorem edgesBeyond_nil (items : List (TypeKey × Declaration)) :
    edgesBeyond [] items = (items.flatMap fun item => item.2.edges).length := by
  induction items with
  | nil => rfl
  | cons head rest ih => simp [edgesBeyond, ih]

theorem workLeft_start (declarations : Declarations) (start : TypeKey) :
    declarations.workLeft [] [start] = 1 + declarations.allEdges.length := by
  simp [workLeft, edgesBeyond_nil, allEdges, Nat.add_comm]

namespace Runs

/-- A run lists what it expands. -/
theorem listed_eq (runs : declarations.Runs search turns final) :
    final.listed = search.listed ++ expanded turns := by
  induction runs with
  | stay search => simp [expanded]
  | drop seen later ih => simpa [expanded] using ih
  | expand unseen later ih => simpa [expanded] using ih

/-- Each turn takes one type out of the queue, and the edges of an expanded type join it. -/
theorem length_add_queue (runs : declarations.Runs search turns final) :
    turns.length + final.queue.length =
      search.queue.length + ((expanded turns).flatMap declarations.edges).length := by
  induction runs with
  | stay search => simp [expanded]
  | drop seen later ih =>
      simp only [expanded, List.length_cons] at ih ⊢
      omega
  | expand unseen later ih =>
      simp only [expanded, List.length_cons, List.length_append, List.flatMap_cons] at ih ⊢
      omega

theorem length_add_workLeft (runs : declarations.Runs search turns final) :
    turns.length + declarations.workLeft final.listed final.queue =
      declarations.workLeft search.listed search.queue := by
  induction runs with
  | stay search => simp
  | @drop listed rest key turns final seen later ih =>
      have step := declarations.workLeft_drop listed rest key
      simp only [List.length_cons] at ih ⊢
      omega
  | @expand listed rest key turns final unseen later ih =>
      have step := declarations.workLeft_expand rest unseen
      simp only [List.length_cons] at ih ⊢
      omega

/-- The loop has no choice, so one that has come to its end has gone through every other run. -/
theorem isPrefix {listed : List TypeKey} (complete : declarations.Runs search turns ⟨listed, []⟩)
    (runs : declarations.Runs search others final) : others <+: turns := by
  induction runs generalizing turns with
  | stay search => exact List.nil_prefix
  | drop seen later ih =>
      cases complete with
      | drop _ rest => exact List.cons_prefix_cons.mpr ⟨rfl, ih rest⟩
      | expand unseen _ => exact absurd seen unseen
  | expand unseen later ih =>
      cases complete with
      | drop seen _ => exact absurd seen unseen
      | expand _ rest => exact List.cons_prefix_cons.mpr ⟨rfl, ih rest⟩

/-- A bounded walk has the chain if the bound leaves enough turns for it, and otherwise none. -/
theorem walkWithin_eq (runs : declarations.Runs search turns final) (ended : final.queue = [])
    (bound : Nat) :
    declarations.walkWithin bound search.listed search.queue =
      if turns.length ≤ bound then some final.listed else none := by
  induction runs generalizing bound with
  | stay search => simp [walkWithin, ended]
  | drop seen later ih =>
      cases bound with
      | zero => simp [walkWithin]
      | succ bound => simp [walkWithin, seen, ih ended]
  | expand unseen later ih =>
      cases bound with
      | zero => simp [walkWithin]
      | succ bound => simp [walkWithin, unseen, ih ended]

end Runs

/-- From wherever the loop stands it runs to its end. -/
theorem exists_runs_walkFrom (declarations : Declarations) (listed queue : List TypeKey) :
    ∃ turns, declarations.Runs ⟨listed, queue⟩ turns ⟨declarations.walkFrom listed queue, []⟩ := by
  fun_induction declarations.walkFrom listed queue with
  | case1 listed => exact ⟨[], .stay _⟩
  | case2 listed key rest seen ih =>
      rcases ih with ⟨turns, runs⟩
      exact ⟨.drop key :: turns, .drop seen runs⟩
  | case3 listed key rest unseen ih =>
      rcases ih with ⟨turns, runs⟩
      exact ⟨.expand key :: turns, .expand unseen runs⟩

/-- The loop of a walk ends whatever is declared: it has one complete run, and any other run is the
beginning of this one. In it the types of the chain are expanded once each and no other is, so there
are no more turns than one and all declared edges together; a walk that is allowed so many turns
has the whole chain. -/
theorem walk_ends (declarations : Declarations) (start : TypeKey) :
    let chain := declarations.walk start
    let entry : Search := ⟨[], [start]⟩
    ∃ turns,
      declarations.Runs entry turns ⟨chain, []⟩ ∧
        (∀ others final, declarations.Runs entry others final → others <+: turns) ∧
        expanded turns = chain ∧ chain.Nodup ∧
        turns.length = 1 + (chain.flatMap declarations.edges).length ∧
        turns.length ≤ 1 + declarations.allEdges.length ∧
        ∀ bound, 1 + declarations.allEdges.length ≤ bound →
          declarations.walkWithin bound [] [start] = some chain := by
  intro chain entry
  obtain ⟨turns, runs⟩ : ∃ turns, declarations.Runs entry turns ⟨chain, []⟩ :=
    declarations.exists_runs_walkFrom [] [start]
  have isChain : expanded turns = chain := runs.listed_eq.symm
  have account := runs.length_add_queue
  have bounded : turns.length ≤ 1 + declarations.allEdges.length := by
    rw [← declarations.workLeft_start start]
    exact Nat.le.intro runs.length_add_workLeft
  refine ⟨turns, runs, ?_, isChain, declarations.nodup_walk start, ?_, bounded, ?_⟩
  · intro others final other
    exact runs.isPrefix other
  · rwa [isChain] at account
  · intro bound enough
    have reached : turns.length ≤ bound := by omega
    exact (runs.walkWithin_eq rfl bound).trans (if_pos reached)

theorem walk_ends_in_tangle :
    let declarations := tangle.declarations
    let chain : List TypeKey := [.str, .string, .text, .char, .number, .bool]
    1 + declarations.allEdges.length = 11 ∧
      declarations.walkWithin 11 [] [.str] = some chain ∧
      declarations.walkWithin 400 [] [.str] = some chain ∧
      ∃ turns, declarations.Runs ⟨[], [.str]⟩ turns ⟨chain, []⟩ ∧ turns.length = 11 ∧
        [.expand .str] <+: turns := by
  intro declarations chain
  have count : 1 + declarations.allEdges.length = 11 := by decide +kernel
  have isChain : declarations.walk .str = chain := by decide +kernel
  have edges : (chain.flatMap declarations.edges).length = 10 := by decide +kernel
  have first : declarations.Runs ⟨[], [.str]⟩ [.expand .str] ⟨[.str], declarations.edges .str⟩ :=
    .expand (by simp) (.stay _)
  rcases walk_ends declarations .str with ⟨turns, runs, others, _, _, length, _, within⟩
  rw [isChain] at runs length within
  refine ⟨count, within 11 (by omega), within 400 (by omega), turns, runs, by omega, ?_⟩
  exact others _ _ first

end Conversion.Declarations
