import Mathlib.Data.List.Basic
import Conversion.Proofs.Registry.Locality

/-!
# What a registration announces

Filing goes along a chain and reads the same row that it writes to. All the same, what it reports
of an ancestor is settled before it starts: by the entry that the source had for that ancestor
(`announcement?`). A chain lists no type twice, so no entry that filing makes on the way is met
again (`events_fileAncestors`), and the entry for the requested target is not looked at.

The main statement, `register_announces_filing`, puts together all that a registration reports, in
order, and what becomes of the entries that it reports about.
-/

namespace Conversion

namespace Table

/-- What filing reports of an ancestor of the requested target. -/
def announcement? (table : Table) (source requested : TypeKey) (converter : Converter)
    (ancestor : TypeKey) : Option Event :=
  match table.find? source ancestor with
  | none => some (.registered source ancestor)
  | some existing =>
      if existing.identity = converter.identity then none
      else some (.kept source ancestor requested)

variable {table other : Table} {source requested target ancestor : TypeKey}
  {converter : Converter} {chain : List TypeKey}

theorem announcement?_congr (same : other.find? source ancestor = table.find? source ancestor) :
    other.announcement? source requested converter ancestor =
      table.announcement? source requested converter ancestor := by
  rw [announcement?, announcement?, same]

theorem events_fileAncestor :
    (table.fileAncestor source requested converter ancestor).2 =
      (table.announcement? source requested converter ancestor).toList := by
  unfold fileAncestor announcement?
  cases table.find? source ancestor with
  | none => rfl
  | some existing =>
      dsimp only
      split <;> rfl

/-- The ancestors of a chain for which a converter is filed. -/
def filedFor (source requested : TypeKey) (chain : List TypeKey) : List TypeKey :=
  chain.filter fun ancestor => ancestor ≠ requested ∧ ancestor ≠ source

theorem mem_filedFor_iff :
    ancestor ∈ filedFor source requested chain ↔
      ancestor ∈ chain ∧ ancestor ≠ requested ∧ ancestor ≠ source := by
  simp [filedFor]

/-- Along a chain without repetition, filing reports what is to be said of the table before it. -/
theorem events_fileAncestors (distinct : chain.Nodup) :
    (table.fileAncestors source requested converter chain).2 =
      (filedFor source requested chain).filterMap
        (table.announcement? source requested converter) := by
  induction chain generalizing table with
  | nil => rfl
  | cons ancestor rest ih =>
      obtain ⟨notLater, restDistinct⟩ := List.nodup_cons.mp distinct
      rw [fileAncestors]
      split
      · next skipped =>
          have leftOut : filedFor source requested (ancestor :: rest) =
              filedFor source requested rest := by
            apply List.filter_cons_of_neg
            simpa only [decide_eq_true_eq, ← not_or, not_not] using skipped
          rw [ih restDistinct, leftOut]
      · next notSkipped =>
          have filedHere : filedFor source requested (ancestor :: rest) =
              ancestor :: filedFor source requested rest := by
            apply List.filter_cons_of_pos
            simpa only [decide_eq_true_eq, ← not_or] using notSkipped
          have sameLater : ∀ later ∈ filedFor source requested rest,
              (table.fileAncestor source requested converter ancestor).1.announcement?
                  source requested converter later =
                table.announcement? source requested converter later := by
            intro later laterMem
            apply announcement?_congr
            have apart : ¬(source = source ∧ ancestor = later) := by
              rintro ⟨_, rfl⟩
              exact notLater (mem_filedFor_iff.mp laterMem).1
            rw [find?_fileAncestor, if_neg apart, Option.or_none]
          change (table.fileAncestor source requested converter ancestor).2 ++
            ((table.fileAncestor source requested converter ancestor).1.fileAncestors source
              requested converter rest).2 = _
          rw [events_fileAncestor, ih restDistinct, List.filterMap_congr sameLater, filedHere,
            List.filterMap_cons]
          cases table.announcement? source requested converter ancestor <;> rfl

/-- What filing reports of the pair that was asked for. -/
def ownAnnouncement (table : Table) (source target : TypeKey) : Event :=
  if table.isDerived source target = true then .replaced source target
  else .registered source target

theorem events_fileOwn {after : Table} {events : List Event}
    (marked : table.isDerived source target = true → table.contains source target = true)
    (filed : table.fileOwn source target converter = some (after, events)) :
    events = [table.ownAnnouncement source target] := by
  unfold fileOwn at filed
  unfold ownAnnouncement
  split at filed
  · split at filed
    · next derived =>
        simp only [Option.some.injEq, Prod.mk.injEq] at filed
        rw [if_pos derived, filed.2]
    · cases filed
  · next missing =>
      have notDerived : ¬table.isDerived source target = true :=
        fun derived => missing (marked derived)
      simp only [Option.some.injEq, Prod.mk.injEq] at filed
      rw [if_neg notDerived, filed.2]

theorem events_file {after : Table} {events : List Event} (distinct : chain.Nodup)
    (marked : ∀ left right, table.isDerived left right = true →
      table.contains left right = true)
    (filed : table.file source target converter chain = some (after, events)) :
    events = table.ownAnnouncement source target ::
      (filedFor source target chain).filterMap
        (table.announcement? source target converter) := by
  simp only [file, Option.map_eq_some_iff, Prod.exists, Prod.mk.injEq] at filed
  obtain ⟨own, ownEvents, ownFiled, _, rfl⟩ := filed
  have effect := @fileOwn_effect table ⟨source, target, converter, chain⟩ own ownEvents
    (marked _ _) ownFiled
  have sameAbove : ∀ ancestor ∈ filedFor source target chain,
      own.announcement? source target converter ancestor =
        table.announcement? source target converter ancestor := by
    intro ancestor ancestorMem
    apply announcement?_congr
    rw [(effect source ancestor).1, if_neg]
    rintro ⟨_, rfl⟩
    exact (mem_filedFor_iff.mp ancestorMem).2.1 rfl
  rw [events_fileOwn (marked _ _) ownFiled, events_fileAncestors distinct,
    List.filterMap_congr sameAbove, List.singleton_append]

/-- What becomes of the entry for an ancestor for which a converter is filed. -/
theorem Filed.entry_of_mem_filedFor {filing : Filing} {after : Table}
    (filed : Filed table filing after)
    (ancestorMem : ancestor ∈ filedFor filing.source filing.target filing.chain) :
    match table.find? filing.source ancestor with
    | none =>
        after.find? filing.source ancestor = some filing.converter ∧
          after.isDerived filing.source ancestor = true
    | some existing =>
        after.find? filing.source ancestor = some existing ∧
          after.isDerived filing.source ancestor = table.isDerived filing.source ancestor := by
  obtain ⟨inChain, notTarget, notSource⟩ := mem_filedFor_iff.mp ancestorMem
  have notFor : ¬filing.IsFor filing.source ancestor := fun isFor => notTarget isFor.2.symm
  have covers : filing.Covers filing.source ancestor := ⟨rfl, inChain, notTarget, notSource⟩
  have derivedIff := filed.isDerived_iff filing.source ancestor
  rw [filed.find?_eq, if_neg notFor, Filing.offer?, if_pos covers]
  cases entry : table.find? filing.source ancestor with
  | none => exact ⟨rfl, derivedIff.mpr ⟨notFor, Or.inr ⟨covers, entry⟩⟩⟩
  | some existing =>
      refine ⟨rfl, ?_⟩
      rw [Bool.eq_iff_iff, derivedIff, entry]
      simp [notFor]

end Table

namespace Registry

variable {registry : Registry} {source target : TypeKey} {converter : Converter}

/-- What a registration that succeeds reports, in order. First, if the options ask for it, that one
of the two types is assignable to the other. Then that the pair got its first converter, or that its
derived one was replaced. Then, along the chain of the target, that an ancestor without an entry got
the converter, or that one keeps the other converter that it has. An ancestor that had an entry
keeps it, explicit or derived as it was. -/
theorem register_announces_filing (reachable : Reachable registry)
    (succeeded : (register source target converter registry).result = .ok ()) :
    let outcome := register source target converter registry
    let above := (registry.types.ancestors target).1.filter fun ancestor =>
      ancestor ≠ target ∧ ancestor ≠ source
    outcome.events =
        (if registry.options.warnRedundant = true ∧
            ((registry.types.isAssignable source target).1 = true ∨
              (registry.types.isAssignable target source).1 = true) then
          [.redundant source target]
        else []) ++
        [if registry.table.isDerived source target = true then .replaced source target
          else .registered source target] ++
        above.filterMap (fun ancestor =>
          match (exact source ancestor registry).result with
          | none => some (.registered source ancestor)
          | some existing =>
              if existing.identity = converter.identity then none
              else some (.kept source ancestor target)) ∧
      ∀ ancestor ∈ above,
        match (exact source ancestor registry).result with
        | none =>
            (exact source ancestor outcome.registry).result = some converter ∧
              outcome.registry.table.isDerived source ancestor = true
        | some existing =>
            (exact source ancestor outcome.registry).result = some existing ∧
              outcome.registry.table.isDerived source ancestor =
                registry.table.isDerived source ancestor := by
  intro outcome above
  obtain ⟨log, records⟩ := reachable.exists_records
  have marked : ∀ left right, registry.table.isDerived left right = true →
      registry.table.contains left right = true := fun _ _ => records.contains_of_isDerived
  have isFiledFor : above =
      Table.filedFor source target (registry.types.declarations.walk target) := by
    rw [← Hierarchy.ancestors_fst, Table.filedFor]
  constructor
  · have distinct := registry.types.declarations.nodup_walk target
    cases registered registry source target converter with
    | refused error refusal result same events =>
        rw [result] at succeeded
        cases succeeded
    | duplicate admitted explicit result remembers events =>
        rw [result] at succeeded
        cases succeeded
    | filed admitted table filingEvents filed result remembers events =>
        rw [Table.events_file distinct marked filed, prepare_events, ← isFiledFor] at events
        simp only [Bool.and_eq_true, Hierarchy.areConvertible_iff] at events
        rw [List.append_assoc]
        exact events
  · intro ancestor ancestorMem
    rw [exact_result, exact_result]
    exact (reachable.filed_of_ok succeeded).entry_of_mem_filedFor (isFiledFor ▸ ancestorMem)

def charToBool : Converter :=
  ⟨.given 0, .total .char .bool fun _ => true⟩

def charToText : Converter :=
  ⟨.given 1, .total .char .string Char.toString⟩

/-- Owned text is below truth values, and then gets more interfaces, one of which leads back to
characters. -/
def beforeCharToText : List Operation :=
  [ .declareAll
      [{ key := .bool, parent := some .string }, { key := .string, interfaces := [.number] }],
    .register .char .bool charToBool,
    .register .char .str charToText,
    .declareAll
      [ { key := .string, interfaces := [.number, .str, .text, .text] },
        { key := .text, interfaces := [.char, .string] } ] ]

theorem register_announces_filing_in_cycle :
    let registry := (ofTypes ∅ {}).after beforeCharToText
    let outcome := register .char .string charToText registry
    let reported : List Event :=
      [ .redundant .char .string, .replaced .char .string, .kept .char .number .string,
        .registered .char .text ]
    Reachable registry ∧ outcome.result = .ok () ∧
      (registry.types.ancestors .string).1 = [.string, .number, .str, .text, .char] ∧
      outcome.events = reported ∧
      reported.map (fun event => event.severity.label) = ["WARN", "DEBUG", "WARN", "DEBUG"] ∧
      (exact .char .text outcome.registry).result = some charToText ∧
      outcome.registry.table.isDerived .char .text = true ∧
      (exact .char .number outcome.registry).result.map Converter.identity = some (.given 0) := by
  intro registry outcome reported
  have reachable : Reachable registry := (Reachable.created _ _ _ _).after beforeCharToText
  have succeeded : outcome.result = .ok () :=
    register_eq_ok_iff.mpr ⟨by decide +kernel, by decide +kernel⟩
  have textMissing : (exact .char .text registry).result = none := by
    rw [← Option.isNone_iff_eq_none]
    decide +kernel
  have numberOfBool : (exact .char .number registry).result.map Converter.identity =
      some (.given 0) := by decide +kernel
  obtain ⟨existing, numberHeld, sameIdentity⟩ := Option.map_eq_some_iff.mp numberOfBool
  rcases register_announces_filing reachable succeeded with ⟨events, entries⟩
  have atText := entries .text (by decide +kernel)
  have atNumber := entries .number (by decide +kernel)
  rw [textMissing] at atText
  rw [numberHeld] at atNumber
  refine ⟨reachable, succeeded, by decide +kernel, ?_, by decide, atText.1, atText.2, ?_⟩
  · rw [events]
    decide +kernel
  · rw [atNumber.1, Option.map_some, sameIdentity]

end Registry

end Conversion
