import Mathlib.Data.Finset.Card
import Conversion.Proofs.Hierarchy.Levels
import Conversion.Proofs.Registry.Reporting

/-!
# Ambiguous lookups

A lookup by ancestors is answered by the first type of a chain that has an entry. In debug mode
another search goes through the same chain and collects the types that have one, to warn when there
are several. The two searches stop at different places: the first at any hit, the second at a hit of
the source and nowhere else.

The main statement, `byAncestor_warns_of_ambiguity`, is that they fit together on every chain. An
entry of the source is found first by both and leaves nothing to warn of. Without one the second
search collects exactly the ancestors that have an entry (`mem_collected_iff`), and the first of
these decides the lookup (`byAncestor_result_of_collected`).
-/

namespace Conversion.Registry

theorem candidates_of_missing {table : Table} {source target : TypeKey}
    (missing : table.contains source target = false) (keys : List TypeKey) :
    candidates table source target keys = keys.filter (table.contains · target) := by
  induction keys with
  | nil => rfl
  | cons key rest ih =>
      by_cases same : key = source
      · subst same
        simp [candidates, missing, ih]
      · simp [candidates, same, ih, List.filter_cons]

/-- What the search for a warning collects along the chain of a source. -/
def collected (registry : Registry) (source target : TypeKey) : List TypeKey :=
  candidates registry.table source target (registry.types.ancestors source).1

/-- Whether a type is an ancestor of a source, other than itself, with an entry for a target. -/
def Serves (registry : Registry) (source target key : TypeKey) : Prop :=
  key ∈ (registry.types.ancestors source).1 ∧ key ≠ source ∧
    registry.table.contains key target = true

theorem byAncestor_events (source target : TypeKey) (registry : Registry) :
    (byAncestor source target registry).events =
      if registry.options.debugMode = true ∧ 1 < (registry.collected source target).length then
        [.ambiguous source target (registry.collected source target)]
      else [] := by
  change (reportAmbiguity source target (registry.types.ancestors source).1 _).events ++ [] = _
  cases debug : registry.options.debugMode <;>
    simp [reportAmbiguity, Action.query, collected, debug]

variable {registry : Registry} {source target : TypeKey}

theorem collected_of_present (present : registry.table.contains source target = true) :
    registry.collected source target = [source] := by
  obtain ⟨rest, walkEq⟩ := registry.types.declarations.exists_walk_eq_cons source
  simp [collected, walkEq, candidates, present]

section Missing

variable (missing : registry.table.contains source target = false)

include missing

theorem collected_of_missing :
    registry.collected source target =
      (registry.types.declarations.walk source).filter (registry.table.contains · target) := by
  rw [collected, candidates_of_missing missing, Hierarchy.ancestors_fst]

theorem mem_collected_iff (key : TypeKey) :
    key ∈ registry.collected source target ↔ registry.Serves source target key := by
  rw [collected_of_missing missing, List.mem_filter, Serves, Hierarchy.ancestors_fst]
  constructor
  · rintro ⟨keyMem, present⟩
    refine ⟨keyMem, ?_, present⟩
    rintro rfl
    simp [missing] at present
  · rintro ⟨keyMem, _, present⟩
    exact ⟨keyMem, present⟩

theorem nodup_collected : (registry.collected source target).Nodup := by
  rw [collected_of_missing missing]
  exact (registry.types.declarations.nodup_walk source).filter _

theorem one_lt_length_collected_iff :
    1 < (registry.collected source target).length ↔
      ∃ first second, first ≠ second ∧ registry.Serves source target first ∧
        registry.Serves source target second := by
  rw [← List.toFinset_card_of_nodup (nodup_collected missing), Finset.one_lt_card]
  simp only [List.mem_toFinset, mem_collected_iff missing]
  constructor
  · rintro ⟨first, firstServes, second, secondServes, apart⟩
    exact ⟨first, second, apart, firstServes, secondServes⟩
  · rintro ⟨first, second, apart, firstServes, secondServes⟩
    exact ⟨first, firstServes, second, secondServes, apart⟩

/-- The first type collected is the one that a lookup takes. -/
theorem byAncestor_result_of_collected {first : TypeKey} {others : List TypeKey}
    (found : registry.collected source target = first :: others) :
    (byAncestor source target registry).result = (exact first target registry).result := by
  have firstHit : (registry.types.declarations.walk source).find?
      (registry.table.contains · target) = some first := by
    rw [← List.head?_filter, ← collected_of_missing missing, found, List.head?_cons]
  rw [byAncestor_eq_bind_find?, firstHit, Option.bind_some, exact_result]

end Missing

/-- A lookup by ancestors warns exactly when debugging is on, the pair itself has no entry and two
ancestors of the source have one. The warning lists the pairs of all ancestors that have one, in the
order of the chain, and the lookup is answered by the first of these. -/
theorem byAncestor_warns_of_ambiguity (source target : TypeKey) (registry : Registry) :
    let outcome := byAncestor source target registry
    ((∃ event ∈ outcome.events,
        event.message = "fuzzy type converter lookup is ambiguous") ↔
      registry.options.debugMode = true ∧ (exact source target registry).result = none ∧
        ∃ first second, first ≠ second ∧ registry.Serves source target first ∧
          registry.Serves source target second) ∧
      ∀ event ∈ outcome.events, outcome.events = [event] ∧ event.severity = .warning ∧
        ∃ first others, event = .ambiguous source target (first :: others) ∧
          (∀ key, key ∈ first :: others ↔ registry.Serves source target key) ∧
          (first :: others).Nodup ∧
          (first :: others).Sublist (registry.types.ancestors source).1 ∧
          ("matches", Text.quoteList
            ((first :: others).map fun key => (TypePair.mk key target).display)) ∈
              event.fields ∧
          ∃ converter, outcome.result = some converter ∧
            (exact first target registry).result = some converter := by
  intro outcome
  have events : outcome.events = _ := byAncestor_events source target registry
  cases pair : registry.table.contains source target with
  | true =>
      obtain ⟨converter, entry⟩ := Option.isSome_iff_exists.mp pair
      simp [events, collected_of_present pair, exact_result, entry]
  | false =>
      have noEntry : (exact source target registry).result = none :=
        Table.contains_eq_false_iff.mp pair
      have twoIff := one_lt_length_collected_iff pair
      by_cases warns : registry.options.debugMode = true ∧
          1 < (registry.collected source target).length
      · rw [if_pos warns] at events
        have two := twoIff.mp warns.2
        obtain ⟨first, others, found⟩ := List.exists_cons_of_length_pos (Nat.zero_lt_of_lt warns.2)
        have members := mem_collected_iff pair
        have distinct := nodup_collected pair
        have inOrder : (registry.collected source target).Sublist
            (registry.types.ancestors source).1 := by
          rw [collected_of_missing pair, Hierarchy.ancestors_fst]
          exact List.filter_sublist
        rw [found] at events members distinct inOrder
        obtain ⟨_, _, present⟩ := (members first).mp List.mem_cons_self
        obtain ⟨converter, entry⟩ := Option.isSome_iff_exists.mp present
        have answer := byAncestor_result_of_collected pair found
        rw [exact_result, entry] at answer
        constructor
        · simp [events, warns.1, noEntry, two, Event.message]
        · intro event reported
          obtain rfl : event = .ambiguous source target (first :: others) := by
            simpa [events] using reported
          refine ⟨events, rfl, first, others, rfl, members, distinct, inOrder, ?_, ?_⟩
          · simp [Event.fields]
          · exact ⟨converter, answer, entry⟩
      · rw [if_neg warns] at events
        rw [twoIff] at warns
        simpa [events, noEntry] using warns

/-- The chain of borrowed text leads over two types with an entry and back to its start. -/
example :
    let registry := (ofTypes ∅ {}).after
      [ .declareAll
          [(Declaration.of .str).extending .string, (Declaration.of .string).implementing .text,
            (Declaration.of .text).extending .str],
        .register .text .bool ⟨.given 0, .dynamic fun _ _ => .error (.sourceMismatch .text)⟩,
        .register .string .bool ⟨.given 1, .total .string .bool fun _ => true⟩ ]
    (byAncestor .str .bool registry).events = [.ambiguous .str .bool [.string, .text]] ∧
      (byAncestor .str .bool registry).result.map Converter.identity = some (.given 1) := by
  decide +kernel

end Conversion.Registry
