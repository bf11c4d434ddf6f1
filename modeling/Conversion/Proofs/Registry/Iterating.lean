import Conversion.Registry.Iteration
import Conversion.Registry.Running
import Conversion.Proofs.Table.Entries

/-!
# Iterations visit a snapshot

A visitor may do anything to the registry that it is called from. This file shows that it is still
called for the entries that the table had in the beginning, for each of them once until it says
stop, and that nothing but its calls is done to the registry.

Which visits are made can be seen by a visitor that writes down its visits (`Visitor.recording`). It
is a visitor as any other, so the main statement, `iteration_is_snapshot`, is about what an
iteration leaves and needs no second notion of a visit. Writing visits down does not show otherwise
(`visitAll_recording`). The entries may come in any order.
-/

namespace Conversion

/-- One call of a visitor: the entry and what the visitor said. -/
structure Visit where
  pair : TypePair
  converter : Converter
  flow : Flow

def Visit.entry (visit : Visit) : TypePair × Converter :=
  (visit.pair, visit.converter)

variable {σ : Type}

/-- A visitor that does the same and writes its visits down. -/
def Visitor.recording (visitor : Visitor σ) : Visitor (σ × List Visit) :=
  fun state pair converter =>
    (visitor state.1 pair converter).map fun answer =>
      ((answer.1, state.2 ++ [⟨pair, converter, answer.2⟩]), answer.2)

namespace Registry

/-- Calls a visitor for entries from first to last, whatever it says. -/
def callAll (visitor : Visitor σ) (state : σ) (entries : List (TypePair × Converter)) : Action σ :=
  entries.foldlM (fun state entry => (visitor state entry.1 entry.2).map Prod.fst) state

theorem callAll_cons (visitor : Visitor σ) (state : σ) (entry : TypePair × Converter)
    (rest : List (TypePair × Converter)) :
    callAll visitor state (entry :: rest) =
      (visitor state entry.1 entry.2).andThen fun answer => callAll visitor answer.1 rest :=
  rfl

/-- The visits that an iteration makes. -/
def visits (visitor : Visitor σ) (state : σ) :
    List (TypePair × Converter) → Registry → List Visit
  | [], _ => []
  | (pair, converter) :: rest, registry =>
      let outcome := visitor state pair converter registry
      ⟨pair, converter, outcome.result.2⟩ ::
        match outcome.result.2 with
        | .stop => []
        | .proceed => visits visitor outcome.result.1 rest outcome.registry

section

variable (visitor : Visitor σ) (state : σ) (entries : List (TypePair × Converter))
  (registry : Registry)

theorem visitAll_recording (earlier : List Visit) :
    visitAll visitor.recording (state, earlier) entries registry =
      let outcome := visitAll visitor state entries registry
      ⟨(outcome.result, earlier ++ visits visitor state entries registry), outcome.registry,
        outcome.events⟩ := by
  induction entries generalizing state registry earlier with
  | nil => simp [visitAll, visits, Action.done]
  | cons entry rest ih =>
      rcases answer : visitor state entry.1 entry.2 registry with ⟨⟨next, flow⟩, left, events⟩
      cases flow with
      | stop =>
          simp [visitAll, visits, Visitor.recording, Action.andThen, Action.map, Action.done,
            answer]
      | proceed =>
          simp [visitAll, visits, Visitor.recording, Action.andThen, Action.map, answer, ih]

/-- An iteration does what its visits do, one after another. -/
theorem visitAll_eq_callAll :
    visitAll visitor state entries registry =
      callAll visitor state ((visits visitor state entries registry).map Visit.entry) registry := by
  induction entries generalizing state registry with
  | nil => rfl
  | cons entry rest ih =>
      rcases answer : visitor state entry.1 entry.2 registry with ⟨⟨next, flow⟩, left, events⟩
      cases flow with
      | stop =>
          simp [visitAll, visits, callAll_cons, Visit.entry, Action.andThen, answer]
          exact ⟨rfl, rfl, rfl⟩
      | proceed => simp [visitAll, visits, callAll_cons, Visit.entry, Action.andThen, answer, ih]

theorem visits_isPrefix :
    (visits visitor state entries registry).map Visit.entry <+: entries := by
  induction entries generalizing state registry with
  | nil => exact List.nil_prefix
  | cons entry rest ih =>
      simp only [visits, List.map_cons]
      split
      · simp [Visit.entry]
      · simpa [Visit.entry] using ih _ _

end

variable {visitor : Visitor σ} {state : σ} {entries : List (TypePair × Converter)}
  {registry : Registry}

theorem visits_of_proceed
    (proceeds : ∀ visit ∈ visits visitor state entries registry, visit.flow = .proceed) :
    (visits visitor state entries registry).map Visit.entry = entries := by
  induction entries generalizing state registry with
  | nil => rfl
  | cons entry rest ih =>
      simp only [visits, List.forall_mem_cons, List.map_cons] at proceeds ⊢
      rcases proceeds with ⟨first, later⟩
      simp only [first] at later ⊢
      simpa [Visit.entry] using ih later

/-- An iteration whose visitor says stop on its visit of some number makes so many visits, or all
that there are. -/
theorem length_visits_of_stop {number : Nat} (positive : 1 ≤ number)
    (stops : ∀ index visit, (visits visitor state entries registry)[index]? = some visit →
      (visit.flow = .stop ↔ index + 1 = number)) :
    (visits visitor state entries registry).length = min number entries.length := by
  induction entries generalizing state registry number with
  | nil => simp [visits]
  | cons entry rest ih =>
      have first := stops 0 _ rfl
      have later := fun index visit found => stops (index + 1) visit found
      simp only [visits, List.length_cons] at first later ⊢
      cases flow : (visitor state entry.1 entry.2 registry).result.2 with
      | stop =>
          simp only [flow, true_iff] at first
          simp
          omega
      | proceed =>
          simp only [flow, reduceCtorEq, false_iff] at first
          simp only [flow, List.getElem?_cons_succ] at later
          -- the rest is iterated with one visit less to go
          have oneLess : 1 ≤ number - 1 := by omega
          have counted := ih oneLess (by
            intro index visit found
            rw [later index visit found]
            omega)
          simp only [counted]
          omega

/-- An iteration visits a snapshot of the table, whatever its visitor does to the registry and in
whatever order the entries come. Every visit is to an entry that the table had in the beginning, and
none to a pair that was visited before. A visitor that never says stop is called for each entry, as
many times as there were entries; one that says so on a visit of some number and on no other is
called that many times, or for all entries if they are fewer. What is left is the effect of the
calls in the order of the visits, and of nothing else. -/
theorem iteration_is_snapshot (visitor : Visitor σ) (state : σ) (registry : Registry)
    {order : List (TypePair × Converter)} (arranged : order.Perm registry.table.toList) :
    let recorded := visitAll visitor.recording (state, []) order registry
    let made := recorded.result.2
    let outcome := visitAll visitor state order registry
    forEachConverter visitor state registry =
        visitAll visitor state registry.table.toList registry ∧
      outcome = ⟨recorded.result.1, recorded.registry, recorded.events⟩ ∧
      outcome = callAll visitor state (made.map Visit.entry) registry ∧
      (∀ visit ∈ made,
        registry.table.find? visit.pair.source visit.pair.target = some visit.converter) ∧
      (made.map Visit.pair).Nodup ∧
      ((∀ visit ∈ made, visit.flow = .proceed) →
        made.length = registry.converterCount ∧
          ∀ source target converter, registry.table.find? source target = some converter →
            ∃ visit ∈ made, visit.entry = (⟨source, target⟩, converter)) ∧
      ∀ number, 1 ≤ number →
        (∀ index visit, made[index]? = some visit → (visit.flow = .stop ↔ index + 1 = number)) →
          made.length = min number registry.converterCount := by
  intro recorded made outcome
  have written := visitAll_recording visitor state order registry []
  have isMade : made = visits visitor state order registry := by
    simp only [made, recorded, written, List.nil_append]
  have counted : order.length = registry.converterCount := by
    simp only [arranged.length_eq, converterCount, ← Table.length_pairs, Table.pairs,
      List.length_map]
  have visited : made.map Visit.entry <+: order := by
    rw [isMade]
    exact visits_isPrefix visitor state order registry
  refine ⟨rfl, ?_, ?_, ?_, ?_, ?_, ?_⟩
  · simp only [recorded, written, outcome]
  · rw [isMade]
    exact visitAll_eq_callAll visitor state order registry
  · intro visit visitMem
    have inOrder : visit.entry ∈ order := visited.subset (List.mem_map_of_mem visitMem)
    exact Table.mem_toList_iff.mp (arranged.mem_iff.mp inOrder)
  · have nodup : (order.map Prod.fst).Nodup :=
      (arranged.map Prod.fst).nodup_iff.mpr registry.table.nodup_pairs
    have pairs : (made.map Visit.entry).map Prod.fst = made.map Visit.pair := by
      simp [Visit.entry]
    rw [← pairs]
    exact nodup.sublist (visited.sublist.map Prod.fst)
  · intro proceeds
    have complete : made.map Visit.entry = order := by
      rw [isMade] at proceeds ⊢
      exact visits_of_proceed proceeds
    constructor
    · rw [← counted, ← complete, List.length_map]
    · intro source target converter found
      have inOrder : (⟨source, target⟩, converter) ∈ order :=
        arranged.mem_iff.mpr (Table.mem_toList_iff.mpr found)
      rw [← complete] at inOrder
      exact List.mem_map.mp inOrder
  · intro number positive stops
    rw [isMade] at stops ⊢
    rw [← counted]
    exact length_visits_of_stop positive stops

def anyToFalse : Converter :=
  ⟨.given 0, .dynamic fun _ _ => .ok ⟨.bool, false⟩⟩

/-- A registry with three entries, one of them derived. -/
def threeEntries : Registry :=
  let types := (∅ : Hierarchy).declare ((Declaration.of .string).implementing .text)
  let first := register .bool .string anyToFalse (ofTypes types {})
  (register .char .bool anyToFalse first.registry).registry

/-- Drops everything, declares a type, registers the pair the other way round, and stops at the
second visit. -/
def overturning : Visitor Nat := fun count pair converter =>
  reinitialize.andThen fun _ =>
    (declare (Declaration.of pair.target)).andThen fun _ =>
      (register pair.target pair.source converter).map fun _ =>
        (count + 1, if count = 1 then .stop else .proceed)

theorem iteration_is_snapshot_of_overturned :
    let order := threeEntries.table.toList.reverse
    let recorded := visitAll overturning.recording (0, []) order threeEntries
    recorded.result.2.length = 2 ∧ (recorded.result.2.map Visit.pair).Nodup ∧
      threeEntries.converterCount = 3 ∧
      visitAll overturning 0 order threeEntries =
        callAll overturning 0 (recorded.result.2.map Visit.entry) threeEntries ∧
      recorded.registry.table.pairs = [⟨.text, .bool⟩] := by
  intro order recorded
  have arranged : order.Perm threeEntries.table.toList := List.reverse_perm _
  rcases iteration_is_snapshot overturning 0 threeEntries arranged with
    ⟨_, _, effect, _, nodup, _, stops⟩
  have flows : recorded.result.2.map Visit.flow = [.proceed, .stop] := by decide +kernel
  have counted : threeEntries.converterCount = 3 := by decide +kernel
  refine ⟨?_, nodup, counted, effect, by decide +kernel⟩
  rw [stops 2 (by omega), counted]
  · rfl
  · intro index visit found
    have said : [Flow.proceed, .stop][index]? = some visit.flow := by
      rw [← flows, List.getElem?_map, found]
      rfl
    rcases index with _ | _ | index
    · simp at said
      simp [← said]
    · simp at said
      simp [← said]
    · simp at said

end Registry

end Conversion
