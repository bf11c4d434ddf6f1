import Conversion.Proofs.Registry.Ambiguity

/-!
# How a pair is resolved

A lookup by all levels first asks for the very pair, then goes along the chain of the source and in
the end tries the rules. The chain starts with the source, so what the first level finds the second
would find as well (`byAncestor_result_of_exact`), and the answer is that of the second level or in
default of it that of the third (`find_result_eq_or`). What is reported tells the levels apart
(`traces_find`).

The main statement is `find_resolves_by_level`. It says which converter is found, that no closer
ancestor has an entry, and what is reported on the way.
-/

namespace Conversion.Registry

variable {source target : TypeKey} {registry : Registry}

/-- What is filed for the very pair is found by ancestors as well. -/
theorem byAncestor_result_of_exact {converter : Converter}
    (found : (exact source target registry).result = some converter) :
    (byAncestor source target registry).result = some converter := by
  obtain ⟨rest, walkEq⟩ := registry.types.declarations.exists_walk_eq_cons source
  rw [exact_result] at found
  rw [byAncestor_result, walkEq, List.findSome?_cons, found]

theorem find_result_eq_or (source target : TypeKey) (registry : Registry) :
    (find source target registry).result =
      (byAncestor source target registry).result.or (byRule source target registry).result := by
  have asks := byAncestor_onlyAsks source target registry
  rw [find_result, byRule_congr asks.declarations asks.rules]
  cases found : registry.table.find? source target with
  | none => rw [Option.none_or]
  | some converter => rw [byAncestor_result_of_exact found, Option.some_or]

theorem byAncestor_isSome_iff_exists_serves
    (missing : registry.table.contains source target = false) :
    (byAncestor source target registry).result.isSome = true ↔
      ∃ ancestor, registry.Serves source target ancestor := by
  simp only [byAncestor_isSome_iff, ← mem_collected_iff missing, collected_of_missing missing,
    List.mem_filter]

theorem byRule_isSome_iff :
    (byRule source target registry).result.isSome = true ↔
      ∃ rule ∈ registry.rules.toList,
        (rule.canConvert source target registry.types).1 = true := by
  simp [byRule_result]

/-! ### Events -/

theorem find_events (source target : TypeKey) (registry : Registry) :
    (find source target registry).events =
      if registry.table.contains source target then []
      else
        (byAncestor source target registry).events ++
          if (byAncestor source target registry).result.isSome then
            [.resolvedByAncestor source target]
          else if (byRule source target registry).result.isSome then
            [.resolvedByRule source target]
          else [] := by
  have asks := byAncestor_onlyAsks source target registry
  rw [← byRule_congr asks.declarations asks.rules]
  change (Action.andThen (exact source target) _ registry).events = _
  cases found : registry.table.find? source target with
  | some converter =>
      rw [if_pos (by simp [Table.contains, found])]
      simp only [Action.andThen, exact_result, found]
      rfl
  | none =>
      rw [if_neg (by simp [Table.contains, found])]
      simp only [Action.andThen, exact_result, found]
      change [] ++ (Action.andThen (byAncestor source target) _ registry).events = _
      rw [List.nil_append]
      simp only [Action.andThen]
      cases (byAncestor source target registry).result with
      | some converter => rfl
      | none =>
          change _ ++ (Action.andThen (byRule source target) _ _).events = _
          simp only [Action.andThen]
          cases (byRule source target (byAncestor source target registry).registry).result <;> rfl

/-- What a lookup reports apart from warnings. -/
theorem traces_find (source target : TypeKey) (registry : Registry) :
    (find source target registry).events.filter (·.severity = .trace) =
      if registry.table.contains source target then []
      else if (byAncestor source target registry).result.isSome then
        [.resolvedByAncestor source target]
      else if (byRule source target registry).result.isSome then [.resolvedByRule source target]
      else [] := by
  have untraced :
      (byAncestor source target registry).events.filter (·.severity = .trace) = [] := by
    rw [byAncestor_events]
    split <;> rfl
  rw [find_events]
  split
  · rfl
  · rw [List.filter_append, untraced, List.nil_append]
    split
    · rfl
    · split <;> rfl

theorem traces_eq_ancestor_iff :
    (find source target registry).events.filter (·.severity = .trace) =
        [.resolvedByAncestor source target] ↔
      registry.table.contains source target = false ∧
        ∃ ancestor, registry.Serves source target ancestor := by
  rw [traces_find]
  cases pair : registry.table.contains source target with
  | true => simp
  | false =>
      rw [← byAncestor_isSome_iff_exists_serves pair]
      cases (byAncestor source target registry).result.isSome with
      | true => simp
      | false => cases (byRule source target registry).result.isSome <;> simp

theorem traces_eq_rule_iff :
    (find source target registry).events.filter (·.severity = .trace) =
        [.resolvedByRule source target] ↔
      (∀ ancestor ∈ registry.types.declarations.walk source,
        registry.table.contains ancestor target = false) ∧
        ∃ rule ∈ registry.rules.toList,
          (rule.canConvert source target registry.types).1 = true := by
  have chainMisses : (∀ ancestor ∈ registry.types.declarations.walk source,
      registry.table.contains ancestor target = false) ↔
        ¬(byAncestor source target registry).result.isSome = true := by
    rw [byAncestor_isSome_iff]
    simp
  rw [traces_find, chainMisses, ← byRule_isSome_iff]
  cases pair : registry.table.contains source target with
  | true =>
      have found : (byAncestor source target registry).result.isSome = true :=
        byAncestor_isSome_iff.mpr ⟨source, Declarations.mem_walk_self _ source, pair⟩
      simp [found]
  | false =>
      cases (byAncestor source target registry).result.isSome with
      | true => simp
      | false => cases (byRule source target registry).result.isSome <;> simp

/-- A pair is resolved by the entry of the closest ancestor of its source that has one, or else by
the first rule that accepts the pair. To ask for the very pair first changes no answer. A lookup
reports that it went by ancestors when the pair itself has no entry and a proper ancestor has one,
that it went by rules when no ancestor has one and a rule accepts, and nothing when the pair has an
entry. -/
theorem find_resolves_by_level (source target : TypeKey) (registry : Registry) :
    let outcome := find source target registry
    let chain := (registry.types.ancestors source).1
    let enters := fun key : TypeKey => registry.table.contains key target
    let accepts := fun rule : Rule => (rule.canConvert source target registry.types).1
    let traces := outcome.events.filter (·.severity = .trace)
    (∀ ancestor, chain.find? enters = some ancestor →
        (∃ converter, outcome.result = some converter ∧
          (exact ancestor target registry).result = some converter) ∧
        ∀ closer, registry.types.declarations.Closer source closer ancestor →
          enters closer = false) ∧
      (chain.find? enters = none →
        outcome.result = (registry.rules.toList.find? accepts).map Rule.toConverter) ∧
      (∀ converter, (exact source target registry).result = some converter →
        (byAncestor source target registry).result = some converter) ∧
      outcome.result =
        (byAncestor source target registry).result.or (byRule source target registry).result ∧
      (traces = [.resolvedByAncestor source target] ↔
        enters source = false ∧ ∃ ancestor, registry.Serves source target ancestor) ∧
      (traces = [.resolvedByRule source target] ↔
        (∀ ancestor ∈ chain, enters ancestor = false) ∧
          ∃ rule ∈ registry.rules.toList, accepts rule = true) ∧
      (traces = [] ∨ traces = [.resolvedByAncestor source target] ∨
        traces = [.resolvedByRule source target]) ∧
      (enters source = true → outcome.events = []) := by
  intro outcome chain enters accepts traces
  have chainEq : chain = registry.types.declarations.walk source := registry.types.ancestors_fst _
  have resultEq := find_result_eq_or source target registry
  have closestHit := byAncestor_eq_bind_find? source target registry
  rw [← chainEq] at closestHit
  refine ⟨?_, ?_, fun converter => byAncestor_result_of_exact, resultEq, traces_eq_ancestor_iff,
    ?_, ?_, ?_⟩
  · intro ancestor closest
    have present : enters ancestor = true := List.find?_some closest
    obtain ⟨converter, entry⟩ := Option.isSome_iff_exists.mp present
    constructor
    · refine ⟨converter, ?_, entry⟩
      rw [resultEq, closestHit, closest, Option.bind_some, entry, Option.some_or]
    · intro closer isCloser
      rw [chainEq] at closest
      exact Declarations.find?_walk_eq_false_of_closer closest isCloser
  · intro none
    rw [resultEq, closestHit, none, Option.bind_none, Option.none_or, byRule_result]
  · rw [chainEq]
    exact traces_eq_rule_iff
  · have tracesEq : traces = _ := traces_find source target registry
    rw [tracesEq]
    grind
  · intro present
    have eventsEq : outcome.events = _ := find_events source target registry
    rw [eventsEq, if_pos present]

/-- Letters are made of owned text, which borrowed text extends, and truth values of anything. -/
def ownedTextAndRule : List Operation :=
  [ .declare ((Declaration.of .str).extending .string),
    .register .string .char ⟨.given 0, .total .string .char fun _ => 'c'⟩,
    .registerRule ⟨.given 1, .fixedTarget .bool (fun _ => true) fun _ => .ok true⟩ ]

theorem find_resolves_at_each_level :
    let registry := (ofTypes ∅ {}).after ownedTextAndRule
    let traces := fun source target =>
      (find source target registry).events.filter (·.severity = .trace)
    let found := fun source target =>
      (find source target registry).result.map Converter.identity
    found .string .char = some (.given 0) ∧ (find .string .char registry).events = [] ∧
      found .str .char = some (.given 0) ∧ traces .str .char = [.resolvedByAncestor .str .char] ∧
      found .str .bool = some (.given 1) ∧ traces .str .bool = [.resolvedByRule .str .bool] := by
  intro registry traces found
  rcases find_resolves_by_level .string .char registry with ⟨own, _, _, _, _, _, _, silent⟩
  rcases find_resolves_by_level .str .char registry with ⟨above, _, _, _, byAncestor, _, _, _⟩
  rcases find_resolves_by_level .str .bool registry with ⟨_, unfiled, _, _, _, byRule, _, _⟩
  have filed : (exact .string .char registry).result.map Converter.identity = some (.given 0) := by
    decide +kernel
  obtain ⟨⟨ofString, ownFound, ownEntry⟩, _⟩ := own .string (by decide +kernel)
  obtain ⟨⟨ofStr, aboveFound, aboveEntry⟩, _⟩ := above .string (by decide +kernel)
  refine ⟨?_, silent (by decide +kernel), ?_, ?_, ?_, ?_⟩
  · simp only [found]
    rw [ownFound, ← ownEntry, filed]
  · simp only [found]
    rw [aboveFound, ← aboveEntry, filed]
  · have serves : registry.Serves .str .char .string :=
      ⟨by decide +kernel, by decide, by decide +kernel⟩
    exact byAncestor.mpr ⟨by decide +kernel, .string, serves⟩
  · simp only [found]
    rw [unfiled (by decide +kernel)]
    decide +kernel
  · exact byRule.mpr ⟨by decide +kernel, by decide +kernel⟩

end Conversion.Registry
