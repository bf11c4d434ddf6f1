import Conversion.Proofs.Registry.Locality

/-!
# Registering for several sources

A registration reads the row of its source and writes to no other (`register_of_sameRow`,
`register_leaves_row`). So when a converter is registered for one source after another, it can be
told beforehand at which of them the call stops: what stands against a source is there from the
start, unless the source is named twice (`blockedAt_succ_iff`). The main statement is
`registerForAll_stops_at_first_obstacle`.
-/

namespace Conversion

namespace Table

/-- Whether two tables have the same entries and marks for a source. -/
def SameRow (left right : Table) (source : TypeKey) : Prop :=
  ∀ target, left.find? source target = right.find? source target ∧
    left.isDerived source target = right.isDerived source target

namespace SameRow

variable {left middle right leftAfter rightAfter : Table} {source : TypeKey}

theorem refl (table : Table) (source : TypeKey) : SameRow table table source :=
  fun _ => ⟨rfl, rfl⟩

theorem trans (first : SameRow left middle source) (second : SameRow middle right source) :
    SameRow left right source :=
  fun target => ⟨(first target).1.trans (second target).1, (first target).2.trans (second target).2⟩

theorem isExplicit_iff (same : SameRow left right source) (target : TypeKey) :
    left.IsExplicit source target ↔ right.IsExplicit source target := by
  rw [IsExplicit, IsExplicit, contains, contains, (same target).1, (same target).2]

/-- What filing makes of a row depends on that row only. -/
theorem filed {filing : Filing} (same : SameRow left right filing.source)
    (leftFiled : Filed left filing leftAfter) (rightFiled : Filed right filing rightAfter) :
    SameRow leftAfter rightAfter filing.source := by
  intro target
  constructor
  · rw [leftFiled.find?_eq, rightFiled.find?_eq, (same target).1]
  · rw [Bool.eq_iff_iff, leftFiled.isDerived_iff, rightFiled.isDerived_iff, (same target).1,
      (same target).2]

end SameRow

namespace Filed

variable {before after : Table} {filing : Filing} (filed : Filed before filing after)

include filed

/-- After filing, the source has converters for the whole chain, except for itself. -/
theorem contains_of_mem {target : TypeKey} (above : target ∈ filing.chain)
    (apart : target ≠ filing.source) : after.contains filing.source target = true := by
  by_cases own : target = filing.target
  · rw [own]
    exact filed.isExplicit_own.1
  · have notFor : ¬filing.IsFor filing.source target := fun isFor => own isFor.2.symm
    have covers : filing.Covers filing.source target := ⟨rfl, above, own, apart⟩
    rw [contains, filed.find?_eq, if_neg notFor, Filing.offer?, if_pos covers, Option.isSome_or,
      Option.isSome_some, Bool.or_true]

/-- Filing leaves the rows of other sources alone. -/
theorem sameRow {source : TypeKey} (other : source ≠ filing.source) :
    SameRow before after source := by
  intro target
  have notFor : ¬filing.IsFor source target := fun isFor => other isFor.1.symm
  have notCovers : ¬filing.Covers source target := fun covers => other covers.1.symm
  constructor
  · rw [filed.find?_eq, if_neg notFor, Filing.offer?, if_neg notCovers, Option.or_none]
  · rw [Bool.eq_iff_iff, filed.isDerived_iff]
    simp [notFor, notCovers]

end Filed

end Table

open Table

namespace Registry

variable {registry : Registry} {source other target : TypeKey} {rest : List TypeKey}
  {converter : Converter}

/-! ### One registration -/

theorem Reachable.register (reachable : Reachable registry) (source target : TypeKey)
    (converter : Converter) :
    Reachable (Registry.register source target converter registry).registry :=
  .performed (.register source target converter) reachable

/-- A registration leaves the rows of other sources alone. -/
theorem register_leaves_row (reachable : Reachable registry) (apart : other ≠ source) :
    SameRow registry.table (register source target converter registry).registry.table other := by
  cases result : (register source target converter registry).result with
  | ok => exact (reachable.filed_of_ok result).sameRow apart
  | error error =>
      rw [(remembers_of_refused result).table]
      exact SameRow.refl _ other

/-- A registration looks at the row of its source only. -/
theorem register_of_sameRow (target : TypeKey) (converter : Converter) {left right : Registry}
    (leftReachable : Reachable left) (rightReachable : Reachable right)
    (declarations : left.types.declarations = right.types.declarations)
    (same : SameRow left.table right.table source) :
    (register source target converter left).result =
        (register source target converter right).result ∧
      SameRow (register source target converter left).registry.table
        (register source target converter right).registry.table source := by
  have sameResult : (register source target converter left).result =
      (register source target converter right).result := by
    rw [register_result, register_result, refusal?_congr declarations]
    simp only [same.isExplicit_iff]
  refine ⟨sameResult, ?_⟩
  cases result : (register source target converter left).result with
  | ok =>
      have leftFiled := leftReachable.filed_of_ok result
      have rightFiled := rightReachable.filed_of_ok (sameResult.symm.trans result)
      rw [declarations] at leftFiled
      exact SameRow.filed same leftFiled rightFiled
  | error error =>
      rw [(remembers_of_refused result).table,
        (remembers_of_refused (sameResult.symm.trans result)).table]
      exact same

theorem isExplicit_register_iff (reachable : Reachable registry)
    (succeeded : (register source target converter registry).result = .ok ()) :
    (register source target converter registry).registry.table.IsExplicit other target ↔
      registry.table.IsExplicit other target ∨ other = source := by
  by_cases same : other = source
  · subst same
    simp only [or_true, iff_true]
    exact (reachable.filed_of_ok succeeded).isExplicit_own
  · simp only [same, or_false]
    exact ((register_leaves_row reachable same).isExplicit_iff target).symm

/-! ### What stands against a source -/

/-- Whether something stands against registering for the source at an index: the target is private
or the converter is a rule, or the source is private, is the target itself, has a converter of its
own for it already, or stands before the index as well. -/
def BlockedAt (registry : Registry) (sources : List TypeKey) (target : TypeKey)
    (converter : Converter) (index : Nat) : Prop :=
  ∃ source, sources[index]? = some source ∧
    (registry.types.isPublic target = false ∨ converter.asRule?.isSome = true ∨
      registry.types.isPublic source = false ∨ source = target ∨
      registry.table.IsExplicit source target ∨ source ∈ sources.take index)

instance (registry : Registry) (sources : List TypeKey) (target : TypeKey) (converter : Converter)
    (index : Nat) : Decidable (registry.BlockedAt sources target converter index) :=
  inferInstanceAs (Decidable (∃ source ∈ sources[index]?, _))

theorem BlockedAt.lt_length {sources : List TypeKey} {index : Nat}
    (blocked : registry.BlockedAt sources target converter index) : index < sources.length := by
  rcases blocked with ⟨source, found, _⟩
  exact (List.getElem?_eq_some_iff.mp found).1

theorem blockedAt_zero_iff :
    registry.BlockedAt (source :: rest) target converter 0 ↔
      (register source target converter registry).result ≠ .ok () := by
  simp only [BlockedAt, List.getElem?_cons_zero, Option.some.injEq, exists_eq_left',
    List.take_zero, List.not_mem_nil, or_false]
  rw [Ne, register_eq_ok_iff, refusal?_eq_none_iff, Option.isSome_iff_ne_none,
    ← Bool.not_eq_true, ← Bool.not_eq_true]
  grind

/-- Once the first source is registered, what stands against the others is what stood against them
before, since being named twice has become having a converter. -/
theorem blockedAt_succ_iff (reachable : Reachable registry)
    (succeeded : (register source target converter registry).result = .ok ()) (index : Nat) :
    (register source target converter registry).registry.BlockedAt rest target converter index ↔
      registry.BlockedAt (source :: rest) target converter (index + 1) := by
  obtain ⟨table, remembers⟩ := register_frame source target converter registry
  simp only [BlockedAt, List.getElem?_cons_succ, List.take_succ_cons, List.mem_cons,
    isExplicit_register_iff reachable succeeded, isPublic_congr remembers.declarations, or_assoc]

/-! ### One registration after another -/

theorem registerForAll_result_of_ok
    (succeeded : (register source target converter registry).result = .ok ()) :
    (registerForAll (source :: rest) target converter registry).result =
      (registerForAll rest target converter
        (register source target converter registry).registry).result := by
  simp only [registerForAll_cons, Attempt.followedBy, Action.andThen, succeeded]

theorem registerForAll_result_of_error {error : RegistryError}
    (failed : (register source target converter registry).result = .error error) :
    (registerForAll (source :: rest) target converter registry).result = .error error := by
  simp only [registerForAll_cons, Attempt.followedBy, Action.andThen, failed, Action.done]

/-- The sources before the first that something stands against are registered, and the call ends
with what registering for that one comes to. -/
theorem exists_stop (reachable : Reachable registry) (sources : List TypeKey) (target : TypeKey)
    (converter : Converter) :
    ∃ stop ≤ sources.length,
      (∀ index < stop, ¬registry.BlockedAt sources target converter index) ∧
      (registerForAll (sources.take stop) target converter registry).result = .ok () ∧
      (stop = sources.length ∧
          (registerForAll sources target converter registry).result = .ok () ∨
        registry.BlockedAt sources target converter stop ∧
          ∃ source error,
            let reached := (registerForAll (sources.take stop) target converter registry).registry
            sources[stop]? = some source ∧
              (register source target converter reached).result = .error error ∧
              (registerForAll sources target converter registry).result = .error error ∧
              (registerForAll sources target converter registry).registry =
                (register source target converter reached).registry) := by
  induction sources generalizing registry with
  | nil => exact ⟨0, Nat.zero_le 0, by simp, rfl, Or.inl ⟨rfl, rfl⟩⟩
  | cons source rest ih =>
      cases result : (register source target converter registry).result with
      | error error =>
          have blocked : registry.BlockedAt (source :: rest) target converter 0 := by
            rw [blockedAt_zero_iff, result]
            exact nofun
          exact ⟨0, Nat.zero_le _, by simp, rfl, Or.inr ⟨blocked, source, error, rfl, result,
            registerForAll_result_of_error result, followedBy_of_error result⟩⟩
      | ok =>
          -- Seen from the registry after the first source, the others are one place further ahead.
          rcases ih (reachable.register source target converter) with
            ⟨stop, within, unblocked, reachedOk, ended⟩
          refine ⟨stop + 1, Nat.succ_le_succ within, ?_, ?_, ?_⟩
          · intro index before
            cases index with
            | zero => exact fun blocked => blockedAt_zero_iff.mp blocked result
            | succ index =>
                rw [← blockedAt_succ_iff reachable result]
                exact unblocked index (Nat.lt_of_succ_lt_succ before)
          · rw [List.take_succ_cons, registerForAll_result_of_ok result]
            exact reachedOk
          · rw [List.take_succ_cons, List.getElem?_cons_succ, List.length_cons,
              registerForAll_result_of_ok result, registerForAll_cons, registerForAll_cons,
              followedBy_of_ok result, followedBy_of_ok result,
              ← blockedAt_succ_iff reachable result]
            rcases ended with ⟨atEnd, isOk⟩ | failed
            · exact Or.inl ⟨congrArg _ atEnd, isOk⟩
            · exact Or.inr failed

/-- When all sources are registered, each of their rows is what registering for that source alone
would have made of it. -/
theorem rows_of_registerForAll_ok (reachable : Reachable registry) {sources : List TypeKey}
    (succeeded : (registerForAll sources target converter registry).result = .ok ()) :
    let after := (registerForAll sources target converter registry).registry
    (∀ source ∈ sources,
        (register source target converter registry).result = .ok () ∧
          SameRow (register source target converter registry).registry.table after.table source) ∧
      ∀ source ∉ sources, SameRow registry.table after.table source := by
  induction sources generalizing registry with
  | nil => exact ⟨by simp, fun source _ => SameRow.refl _ source⟩
  | cons first rest ih =>
      cases result : (register first target converter registry).result with
      | error error =>
          rw [registerForAll_result_of_error result] at succeeded
          cases succeeded
      | ok =>
          rw [registerForAll_result_of_ok result] at succeeded
          have reachableNext := reachable.register first target converter
          rcases ih reachableNext succeeded with ⟨registered, untouched⟩
          -- Were the first source named again, it would be refused there.
          have notAgain : first ∉ rest := by
            intro again
            have explicit := (reachable.filed_of_ok result).isExplicit_own
            exact (register_eq_ok_iff.mp (registered first again).1).2 explicit
          rw [registerForAll_cons, followedBy_of_ok result]
          constructor
          · intro source sourceMem
            rcases List.mem_cons.mp sourceMem with rfl | later
            · exact ⟨result, untouched source notAgain⟩
            · have apart : source ≠ first := by
                rintro rfl
                exact notAgain later
              obtain ⟨table, remembers⟩ := register_frame first target converter registry
              have alone := register_of_sameRow target converter reachable reachableNext
                remembers.declarations.symm (register_leaves_row reachable apart)
              exact ⟨alone.1.trans (registered source later).1,
                alone.2.trans (registered source later).2⟩
          · intro source notMem
            rw [List.mem_cons, not_or] at notMem
            exact (register_leaves_row reachable notMem.1).trans (untouched source notMem.2)

/-- A failure says what stands against the source in the declarations and, when nothing does, that
it has a converter. -/
theorem error_of_register {reached : Registry} {error : RegistryError}
    (declarations : registry.types.declarations = reached.types.declarations)
    (failed : (register source target converter reached).result = .error error) :
    error = (refusal? registry.types source target converter).getD (.duplicate source target) := by
  rw [refusal?_congr declarations]
  cases registered reached source target converter with
  | refused reason refusal result same events =>
      rw [failed] at result
      cases result
      rw [refusal, Option.getD_some]
  | duplicate admitted explicit result remembers events =>
      rw [failed] at result
      cases result
      rw [admitted, Option.getD_none]
  | filed admitted table filingEvents filed result remembers events =>
      rw [failed] at result
      cases result

/-- When the target is private or the converter is a rule, already the first source is refused. -/
theorem blockedAt_of_unfit {sources : List TypeKey}
    (unfit : registry.types.isPublic target = false ∨ converter.asRule?.isSome = true)
    {index : Nat} (within : index < sources.length) :
    registry.BlockedAt sources target converter index := by
  refine ⟨sources[index], List.getElem?_eq_getElem within, ?_⟩
  rcases unfit with isPrivate | isRule
  · exact Or.inl isPrivate
  · exact Or.inr (Or.inl isRule)

/-- The call fails when something stands against one of the sources. -/
theorem registerForAll_fails_iff (reachable : Reachable registry) (sources : List TypeKey)
    (target : TypeKey) (converter : Converter) :
    (∃ error, (registerForAll sources target converter registry).result = .error error) ↔
      ∃ index, registry.BlockedAt sources target converter index := by
  obtain ⟨stop, _, unblocked, _, ended⟩ := exists_stop reachable sources target converter
  constructor
  · rintro ⟨error, failed⟩
    rcases ended with ⟨_, isOk⟩ | ⟨blocked, _⟩
    · rw [failed] at isOk
      cases isOk
    · exact ⟨stop, blocked⟩
  · rintro ⟨index, blocked⟩
    rcases ended with ⟨atEnd, _⟩ | ⟨_, source, error, _, _, failed, _⟩
    · have inside : index < stop := atEnd ▸ blocked.lt_length
      exact absurd blocked (unblocked index inside)
    · exact ⟨error, failed⟩

/-- The row of a source that was registered has the converter for the target and something for each
of the ancestors of the target. -/
theorem registered_row (reachable : Reachable registry) {table : Table}
    (succeeded : (register source target converter registry).result = .ok ())
    (same : SameRow (register source target converter registry).registry.table table source) :
    table.IsExplicit source target ∧ table.find? source target = some converter ∧
      ∀ ancestor ∈ (registry.types.ancestors target).1, ancestor ≠ source →
        table.contains source ancestor = true := by
  have filed := reachable.filed_of_ok succeeded
  refine ⟨(same.isExplicit_iff target).mp filed.isExplicit_own, ?_, ?_⟩
  · rw [← (same target).1]
    exact filed.find?_own
  · intro ancestor above apart
    rw [Hierarchy.ancestors_fst] at above
    rw [contains, ← (same ancestor).1]
    exact filed.contains_of_mem above apart

/-- A registration for several sources stops at the first that something stands against, and what
does can be told from the registry before the call. It fails there as registering for that source
alone does. The sources before have been registered, and the rows of all others are as they were. -/
theorem registerForAll_stops_at_first_obstacle (reachable : Reachable registry)
    (sources : List TypeKey) (target : TypeKey) (converter : Converter) :
    let outcome := registerForAll sources target converter registry
    let Blocked := registry.BlockedAt sources target converter
    ((∃ error, outcome.result = .error error) ↔ ∃ index, Blocked index) ∧
      outcome.registry.rules = registry.rules ∧
      outcome.registry.types.declarations = registry.types.declarations ∧
      ∃ stop ≤ sources.length,
        (∀ index < stop, ¬Blocked index) ∧
        (registry.types.isPublic target = false ∨ converter.asRule?.isSome = true → stop = 0) ∧
        (stop = sources.length ∧ outcome.result = .ok () ∨
          Blocked stop ∧ ∃ source error,
            let reached := (registerForAll (sources.take stop) target converter registry).registry
            sources[stop]? = some source ∧ outcome.result = .error error ∧
              (register source target converter reached).result = .error error ∧
              error = (refusal? registry.types source target converter).getD
                (.duplicate source target)) ∧
        (∀ source ∈ sources.take stop,
          let alone := register source target converter registry
          alone.result = .ok () ∧
            SameRow alone.registry.table outcome.registry.table source ∧
            outcome.registry.table.IsExplicit source target ∧
            outcome.registry.table.find? source target = some converter ∧
            ∀ ancestor ∈ (registry.types.ancestors target).1, ancestor ≠ source →
              outcome.registry.table.contains source ancestor = true) ∧
        ∀ source ∉ sources.take stop, SameRow registry.table outcome.registry.table source := by
  intro outcome Blocked
  obtain ⟨_, frame⟩ := registerForAll_frame target converter sources registry
  obtain ⟨stop, within, unblocked, reachedOk, ended⟩ :=
    exists_stop reachable sources target converter
  obtain ⟨registered, untouched⟩ := rows_of_registerForAll_ok reachable reachedOk
  obtain ⟨_, reachedFrame⟩ := registerForAll_frame target converter (sources.take stop) registry
  -- The attempt that fails leaves the table that the sources before it made.
  have sameTable : outcome.registry.table =
      (registerForAll (sources.take stop) target converter registry).registry.table := by
    rcases ended with ⟨atEnd, _⟩ | ⟨_, source, error, _, failed, _, same⟩
    · rw [atEnd, List.take_length]
    · rw [same, (remembers_of_refused failed).table]
  refine ⟨registerForAll_fails_iff reachable sources target converter, frame.rules,
    frame.declarations, stop, within, unblocked, ?_, ?_, ?_, ?_⟩
  · intro unfit
    rcases Nat.eq_zero_or_pos stop with atStart | positive
    · exact atStart
    · exact absurd (blockedAt_of_unfit unfit (Nat.lt_of_lt_of_le positive within))
        (unblocked 0 positive)
  · rcases ended with finished | ⟨blocked, source, error, found, failed, result, _⟩
    · exact Or.inl finished
    · exact Or.inr ⟨blocked, source, error, found, result, failed,
        error_of_register reachedFrame.declarations.symm failed⟩
  · intro source sourceMem
    obtain ⟨succeeded, same⟩ := registered source sourceMem
    rw [sameTable]
    exact ⟨succeeded, same, registered_row reachable succeeded same⟩
  · rw [sameTable]
    exact untouched

def readText : Converter :=
  ⟨.given 1, .dynamic fun value _ => .ok value⟩

/-- Truth values have a converter to text, which is a kind of owned text. -/
def beforeReadText : List Operation :=
  [ .declare ((Declaration.of .text).extending .string),
    .register .bool .text ⟨.given 0, .dynamic fun value _ => .ok value⟩ ]

/-- A source that is named twice stops the call at the second time, before it comes to one that has
a converter already. -/
theorem registerForAll_stops_at_repeated_source :
    let registry := (ofTypes ∅ {}).after beforeReadText
    let sources : List TypeKey := [.str, .char, .str, .bool]
    let outcome := registerForAll sources .text readText registry
    Reachable registry ∧ outcome.result = .error (.duplicate .str .text) ∧
      registry.BlockedAt sources .text readText 2 ∧
      registry.BlockedAt sources .text readText 3 ∧
      outcome.registry.table.find? .char .text = some readText ∧
      outcome.registry.table.contains .char .string = true ∧
      SameRow registry.table outcome.registry.table .bool := by
  intro registry sources outcome
  have reachable : Reachable registry := (Reachable.created _ _ _ _).after beforeReadText
  have blocked : registry.BlockedAt sources .text readText 2 := by decide +kernel
  have notBlocked : ∀ index < 2, ¬registry.BlockedAt sources .text readText index := by
    decide +kernel
  have above : TypeKey.string ∈ (registry.types.ancestors .text).1 := by decide +kernel
  rcases registerForAll_stops_at_first_obstacle reachable sources .text readText with
    ⟨_, _, _, stop, _, unblocked, _, ended, registered, untouched⟩
  rcases ended with ⟨atEnd, _⟩ | ⟨blockedAtStop, source, error, found, failed, _, because⟩
  · have inside : 2 < stop := by rw [atEnd]; decide
    exact absurd blocked (unblocked 2 inside)
  · have atTwo : stop = 2 := by
      refine Nat.le_antisymm (Nat.le_of_not_lt fun inside => unblocked 2 inside blocked) ?_
      exact Nat.le_of_not_lt fun before => notBlocked stop before blockedAtStop
    subst atTwo
    cases found
    have isDuplicate : error = .duplicate .str .text := by
      rw [because]
      decide +kernel
    rw [isDuplicate] at failed
    rcases registered .char (by decide) with ⟨_, _, _, own, ancestors⟩
    exact ⟨reachable, failed, blocked, by decide +kernel, own,
      ancestors .string above (by decide), untouched .bool (by decide)⟩

end Registry

end Conversion
