import Conversion.Proofs.Table.Entries
import Conversion.Proofs.Table.Steps

/-!
# The log as an account of the table

What was reported since a table was empty says which pairs it serves and which of them are derived.
A pair is reported as registered once, when it gets its first converter; a derived pair may later be
reported as replaced, once as well, and is derived no more from then on. `Table.ToldBy` is this
account. It holds of the empty table and an empty log and survives every step.
-/

namespace Conversion

namespace Report

/-- The pairs reported as registered, the earliest first. -/
def registeredPairs (log : List Report) : List TypePair :=
  log.filterMap (·.event.registeredPair?)

/-- The pairs reported as replaced, the earliest first. -/
def replacedPairs (log : List Report) : List TypePair :=
  log.filterMap (·.event.replacedPair?)

theorem registeredPairs_concat (log : List Report) (report : Report) :
    registeredPairs (log ++ [report]) =
      registeredPairs log ++ report.event.registeredPair?.toList := by
  cases found : report.event.registeredPair? <;> simp [registeredPairs, found]

theorem replacedPairs_concat (log : List Report) (report : Report) :
    replacedPairs (log ++ [report]) = replacedPairs log ++ report.event.replacedPair?.toList := by
  cases found : report.event.replacedPair? <;> simp [replacedPairs, found]

theorem exists_isForAncestor_concat {log : List Report} {report : Report}
    {source ancestor : TypeKey} :
    (∃ other ∈ log ++ [report], other.IsForAncestor source ancestor) ↔
      (∃ other ∈ log, other.IsForAncestor source ancestor) ∨
        report.IsForAncestor source ancestor := by
  simp only [List.mem_append, List.mem_singleton, or_and_right, exists_or, exists_eq_left]

theorem mem_registeredPairs_of_isForAncestor {log : List Report} {source ancestor : TypeKey}
    (told : ∃ report ∈ log, report.IsForAncestor source ancestor) :
    ⟨source, ancestor⟩ ∈ registeredPairs log := by
  rcases told with ⟨report, reported, isEvent, _⟩
  refine List.mem_filterMap.mpr ⟨report, reported, ?_⟩
  rw [isEvent]
  rfl

/-- Whether every pair reported as replaced was reported as registered before. -/
def RegisteredFirst (log : List Report) : Prop :=
  ∀ earlier report pair, earlier ++ [report] <+: log →
    report.event.replacedPair? = some pair → pair ∈ registeredPairs earlier

theorem RegisteredFirst.concat {log : List Report} {report : Report}
    (first : RegisteredFirst log)
    (now : ∀ pair, report.event.replacedPair? = some pair → pair ∈ registeredPairs log) :
    RegisteredFirst (log ++ [report]) := by
  intro earlier last pair upTo replaces
  rcases List.prefix_concat_iff.mp upTo with whole | before
  · rcases List.append_inj' whole rfl with ⟨rfl, same⟩
    rw [List.singleton_inj.mp same] at replaces
    exact now pair replaces
  · exact first earlier last pair before replaces

theorem RegisteredFirst.mem_registeredPairs {log : List Report} {pair : TypePair}
    (first : RegisteredFirst log) (replaced : pair ∈ replacedPairs log) :
    pair ∈ registeredPairs log := by
  rcases List.mem_filterMap.mp replaced with ⟨report, reported, replaces⟩
  rcases List.append_of_mem reported with ⟨earlier, later, rfl⟩
  have upTo : earlier ++ [report] <+: earlier ++ report :: later := ⟨later, by simp⟩
  have registered := first earlier report pair upTo replaces
  rw [registeredPairs, List.filterMap_append]
  exact List.mem_append_left _ registered

end Report

namespace Table

open Report

/-- Whether a log of reports accounts for a table. -/
structure ToldBy (table : Table) (log : List Report) : Prop where
  registered_nodup : (registeredPairs log).Nodup
  mem_registered_iff : ∀ source target,
    ⟨source, target⟩ ∈ registeredPairs log ↔ table.contains source target = true
  replaced_nodup : (replacedPairs log).Nodup
  registered_first : RegisteredFirst log
  isDerived_iff : ∀ source target, table.isDerived source target = true ↔
    (∃ report ∈ log, report.IsForAncestor source target) ∧
      ⟨source, target⟩ ∉ replacedPairs log

variable {table : Table}

theorem contains_put_iff {source target left right : TypeKey} {converter : Converter} :
    (table.put source target converter).contains left right = true ↔
      (source = left ∧ target = right) ∨ table.contains left right = true := by
  rw [contains, find?_put_pair]
  split
  · next same => simp [same]
  · next differ => simp [differ, contains]

namespace ToldBy

variable {log : List Report} {source target : TypeKey} {converter : Converter}
  {declarations : Declarations}

theorem empty : ToldBy ∅ [] where
  registered_nodup := List.nodup_nil
  mem_registered_iff := by
    intro source target
    simp [registeredPairs, contains, find?, EmptyCollection.emptyCollection, Table.empty,
      KeyMap.find?, KeyMap.empty, KeyMap.lookup]
  replaced_nodup := List.nodup_nil
  registered_first := by
    intro earlier report pair upTo
    simp at upTo
  isDerived_iff := by
    intro source target
    simp [isDerived, EmptyCollection.emptyCollection, Table.empty]

theorem idle (told : table.ToldBy log) {report : Report} (idle : report.event.isWrite = false) :
    table.ToldBy (log ++ [report]) := by
  have unregistered := Event.registeredPair?_of_idle idle
  have unreplaced := Event.replacedPair?_of_idle idle
  have sameRegistered : registeredPairs (log ++ [report]) = registeredPairs log := by
    simp [registeredPairs_concat, unregistered]
  have sameReplaced : replacedPairs (log ++ [report]) = replacedPairs log := by
    simp [replacedPairs_concat, unreplaced]
  refine ⟨?_, ?_, ?_, told.registered_first.concat ?_, ?_⟩
  · rw [sameRegistered]
    exact told.registered_nodup
  · intro source target
    rw [sameRegistered]
    exact told.mem_registered_iff source target
  · rw [sameReplaced]
    exact told.replaced_nodup
  · intro pair replaces
    rw [unreplaced] at replaces
    cases replaces
  · intro source target
    have notNow : ¬report.IsForAncestor source target := by
      rintro ⟨isEvent, _⟩
      rw [isEvent] at idle
      cases idle
    rw [exists_isForAncestor_concat, sameReplaced, or_iff_left notNow]
    exact told.isDerived_iff source target

/-- A pair that gets its first converter is reported as registered, and with that the marks fit
again once the pair is marked when the report is for an ancestor. -/
theorem registered (told : table.ToldBy log) (vacant : table.contains source target = false)
    {requested : Option TypeKey} {after : Table}
    (contains_iff : ∀ left right, after.contains left right = true ↔
      (source = left ∧ target = right) ∨ table.contains left right = true)
    (marked : ∀ left right, after.isDerived left right = true ↔
      table.isDerived left right = true ∨
        Report.IsForAncestor ⟨.registered source target, requested, declarations⟩ left right) :
    after.ToldBy (log ++ [⟨.registered source target, requested, declarations⟩]) := by
  have fresh : ⟨source, target⟩ ∉ registeredPairs log := by
    rw [told.mem_registered_iff, vacant]
    exact Bool.false_ne_true
  have sameReplaced : replacedPairs
      (log ++ [⟨.registered source target, requested, declarations⟩]) = replacedPairs log := by
    simp [replacedPairs_concat, Event.replacedPair?]
  have moreRegistered : registeredPairs
      (log ++ [⟨.registered source target, requested, declarations⟩]) =
        registeredPairs log ++ [⟨source, target⟩] := by
    simp [registeredPairs_concat, Event.registeredPair?]
  refine ⟨?_, ?_, ?_, told.registered_first.concat ?_, ?_⟩
  · rw [moreRegistered]
    exact told.registered_nodup.append (List.nodup_singleton _)
      (List.disjoint_singleton.mpr fresh)
  · intro left right
    rw [moreRegistered, List.mem_append, List.mem_singleton, told.mem_registered_iff,
      contains_iff, TypePair.mk.injEq, or_comm, @eq_comm _ left, @eq_comm _ right]
  · rw [sameReplaced]
    exact told.replaced_nodup
  · intro pair replaces
    cases replaces
  · intro left right
    rw [marked, exists_isForAncestor_concat, sameReplaced, told.isDerived_iff, or_and_right]
    refine or_congr_right (iff_self_and.mpr ?_)
    rintro ⟨isEvent, _⟩ replaced
    cases isEvent
    exact fresh (told.registered_first.mem_registeredPairs replaced)

theorem first (told : table.ToldBy log) (vacant : table.contains source target = false) :
    (table.put source target converter).ToldBy
      (log ++ [⟨.registered source target, some target, declarations⟩]) := by
  refine told.registered vacant (fun _ _ => contains_put_iff) ?_
  intro left right
  have notForAncestor : ¬Report.IsForAncestor
      ⟨.registered source target, some target, declarations⟩ left right := by
    rintro ⟨isEvent, requested, isRequested, apart, _⟩
    cases isEvent
    cases isRequested
    exact apart rfl
  rw [isDerived_put, or_iff_left notForAncestor]

theorem derivation (told : table.ToldBy log) {requested ancestor : TypeKey}
    (vacant : table.contains source ancestor = false)
    (above : ancestor ∈ declarations.walk requested) (apart : ancestor ≠ requested) :
    ((table.put source ancestor converter).mark source ancestor).ToldBy
      (log ++ [⟨.registered source ancestor, some requested, declarations⟩]) := by
  refine told.registered vacant (fun _ _ => contains_put_iff) ?_
  intro left right
  rw [isDerived_mark, isDerived_put, or_comm]
  refine or_congr_right ?_
  constructor
  · rintro ⟨rfl, rfl⟩
    exact ⟨rfl, requested, rfl, apart, above⟩
  · rintro ⟨isEvent, _⟩
    cases isEvent
    exact ⟨rfl, rfl⟩

theorem replacement (told : table.ToldBy log) (derived : table.isDerived source target = true) :
    ((table.unmark source target).put source target converter).ToldBy
      (log ++ [⟨.replaced source target, some target, declarations⟩]) := by
  rcases (told.isDerived_iff source target).mp derived with ⟨forAncestor, unreplaced⟩
  have alreadyRegistered := mem_registeredPairs_of_isForAncestor forAncestor
  have present := (told.mem_registered_iff source target).mp alreadyRegistered
  have sameRegistered : registeredPairs
      (log ++ [⟨.replaced source target, some target, declarations⟩]) = registeredPairs log := by
    simp [registeredPairs_concat, Event.registeredPair?]
  have moreReplaced : replacedPairs
      (log ++ [⟨.replaced source target, some target, declarations⟩]) =
        replacedPairs log ++ [⟨source, target⟩] := by
    simp [replacedPairs_concat, Event.replacedPair?]
  refine ⟨?_, ?_, ?_, told.registered_first.concat ?_, ?_⟩
  · rw [sameRegistered]
    exact told.registered_nodup
  · intro left right
    rw [sameRegistered, contains_put_iff, told.mem_registered_iff]
    constructor
    · exact Or.inr
    · rintro (⟨rfl, rfl⟩ | held)
      · exact present
      · exact held
  · rw [moreReplaced]
    exact told.replaced_nodup.append (List.nodup_singleton _)
      (List.disjoint_singleton.mpr unreplaced)
  · intro pair replaces
    cases replaces
    exact alreadyRegistered
  · intro left right
    have notNow : ¬Report.IsForAncestor
        ⟨.replaced source target, some target, declarations⟩ left right := by
      rintro ⟨isEvent, _⟩
      cases isEvent
    rw [isDerived_put, isDerived_unmark, exists_isForAncestor_concat, or_iff_left notNow,
      moreReplaced, List.mem_append, List.mem_singleton, TypePair.mk.injEq, told.isDerived_iff,
      not_or, @eq_comm _ left, @eq_comm _ right]
    exact and_left_comm.trans (and_congr_right fun _ => and_comm)

theorem step {after : Table} {report : Report} (told : table.ToldBy log)
    (step : Step table report after) : after.ToldBy (log ++ [report]) := by
  cases step with
  | idle idle => exact told.idle idle
  | first vacant => exact told.first vacant
  | replacement derived => exact told.replacement derived
  | derivation vacant above apart => exact told.derivation vacant above apart

/-- There are as many reports of registered pairs as there are entries. -/
theorem length_registeredPairs (told : table.ToldBy log) :
    (registeredPairs log).length = table.size := by
  have permuted : (registeredPairs log).Perm table.pairs := by
    apply (List.perm_ext_iff_of_nodup told.registered_nodup table.nodup_pairs).mpr
    intro pair
    rw [mem_pairs_iff]
    exact told.mem_registered_iff pair.source pair.target
  rw [← length_pairs]
  exact permuted.length_eq

end ToldBy

end Table

end Conversion
