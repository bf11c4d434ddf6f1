import Conversion.Proofs.Table.Filing

/-!
# The steps in which a table grows

A filing goes from pair to pair, and at each of them it makes at most one write and reports at most
one event. `Table.Step` names the kinds of write with the event that goes with each, and
`Table.Steps` is a run of such steps. Every filing is a run (`steps_of_file`), so whatever is to
hold of a table together with all that was reported of it need only be shown of one step
(`Steps.preserve`).

An event does not say which registration it belongs to. A `Report` adds that: the target that was
asked for, and the declarations under which its ancestors were looked up.
-/

namespace Conversion

namespace Event

/-- Whether an event reports a write to the table. -/
def isWrite : Event → Bool
  | registered .. => true
  | replaced .. => true
  | _ => false

/-- The pair that got its first converter. -/
def registeredPair? : Event → Option TypePair
  | registered source target => some ⟨source, target⟩
  | _ => none

/-- The pair whose derived converter was replaced. -/
def replacedPair? : Event → Option TypePair
  | replaced source target => some ⟨source, target⟩
  | _ => none

theorem registeredPair?_of_idle {event : Event} (idle : event.isWrite = false) :
    event.registeredPair? = none := by
  cases event with
  | registered source target => cases idle
  | _ => rfl

theorem replacedPair?_of_idle {event : Event} (idle : event.isWrite = false) :
    event.replacedPair? = none := by
  cases event with
  | replaced source target => cases idle
  | _ => rfl

end Event

/-- An event with the call that reported it: the target of a registration, and the declarations in
force. -/
structure Report where
  event : Event
  requested : Option TypeKey
  declarations : Declarations

namespace Report

/-- The events of one call as reports. -/
def ofEvents (requested : Option TypeKey) (declarations : Declarations) (events : List Event) :
    List Report :=
  events.map fun event => ⟨event, requested, declarations⟩

/-- Whether a pair got its first converter on the way to the ancestors of a requested target. -/
def IsForAncestor (report : Report) (source ancestor : TypeKey) : Prop :=
  report.event = .registered source ancestor ∧
    ∃ requested, report.requested = some requested ∧ ancestor ≠ requested ∧
      ancestor ∈ report.declarations.walk requested

variable {requested : Option TypeKey} {declarations : Declarations}

@[simp]
theorem map_event_ofEvents (events : List Event) :
    (ofEvents requested declarations events).map event = events := by
  simp [ofEvents, Function.comp_def]

theorem ofEvents_append (earlier later : List Event) :
    ofEvents requested declarations (earlier ++ later) =
      ofEvents requested declarations earlier ++ ofEvents requested declarations later :=
  List.map_append

theorem idle_of_mem_ofEvents {events : List Event}
    (idle : ∀ event ∈ events, event.isWrite = false) :
    ∀ report ∈ ofEvents requested declarations events, report.event.isWrite = false := by
  intro report reported
  rcases List.mem_map.mp reported with ⟨event, eventMem, rfl⟩
  exact idle event eventMem

end Report

namespace Table

/-- One write to a table with the report of it, or a report without a write. -/
inductive Step (before : Table) : Report → Table → Prop where
  | idle {report : Report} (idle : report.event.isWrite = false) : Step before report before
  /-- A pair without an entry gets the converter that was registered for it. -/
  | first {source target : TypeKey} {converter : Converter} {declarations : Declarations}
      (vacant : before.contains source target = false) :
      Step before ⟨.registered source target, some target, declarations⟩
        (before.put source target converter)
  /-- A derived pair gets the converter that was registered for it. -/
  | replacement {source target : TypeKey} {converter : Converter} {declarations : Declarations}
      (derived : before.isDerived source target = true) :
      Step before ⟨.replaced source target, some target, declarations⟩
        ((before.unmark source target).put source target converter)
  /-- A pair without an entry gets a converter that was registered for a type below its target. -/
  | derivation {source requested ancestor : TypeKey} {converter : Converter}
      {declarations : Declarations} (vacant : before.contains source ancestor = false)
      (above : ancestor ∈ declarations.walk requested) (apart : ancestor ≠ requested) :
      Step before ⟨.registered source ancestor, some requested, declarations⟩
        ((before.put source ancestor converter).mark source ancestor)

/-- A run of steps, with all that they report. -/
inductive Steps : Table → List Report → Table → Prop where
  | nil (table : Table) : Steps table [] table
  | cons {before middle after : Table} {report : Report} {rest : List Report}
      (step : Step before report middle) (steps : Steps middle rest after) :
      Steps before (report :: rest) after

namespace Steps

variable {before middle after : Table} {reports earlier later : List Report}

theorem append (first : Steps before earlier middle) (second : Steps middle later after) :
    Steps before (earlier ++ later) after := by
  induction first with
  | nil table => exact second
  | cons step _ ih => exact .cons step (ih second)

theorem single {report : Report} (step : Step before report after) :
    Steps before [report] after :=
  .cons step (.nil after)

theorem of_idle (table : Table) (idle : ∀ report ∈ reports, report.event.isWrite = false) :
    Steps table reports table := by
  induction reports with
  | nil => exact .nil table
  | cons report rest ih =>
      refine .cons (.idle (idle report List.mem_cons_self)) (ih ?_)
      intro other otherMem
      exact idle other (List.mem_cons_of_mem report otherMem)

/-- What a step keeps true of a table and the log of reports about it, a run keeps true. -/
theorem preserve {motive : Table → List Report → Prop} {log : List Report}
    (step : ∀ {before after : Table} {log : List Report} {report : Report},
      motive before log → Step before report after → motive after (log ++ [report]))
    (steps : Steps before reports after) (initially : motive before log) :
    motive after (log ++ reports) := by
  induction steps generalizing log with
  | nil table =>
      rw [List.append_nil]
      exact initially
  | @cons _ _ _ report rest one _ ih =>
      rw [← List.singleton_append, ← List.append_assoc]
      exact ih (step initially one)

end Steps

variable {table : Table}

theorem steps_fileOwn {source target : TypeKey} {converter : Converter} {after : Table}
    {events : List Event} (declarations : Declarations)
    (filed : table.fileOwn source target converter = some (after, events)) :
    Steps table (Report.ofEvents (some target) declarations events) after := by
  unfold fileOwn at filed
  split at filed
  · split at filed
    · next derived =>
        simp only [Option.some.injEq, Prod.mk.injEq] at filed
        rcases filed with ⟨rfl, rfl⟩
        exact .single (.replacement derived)
    · cases filed
  · next missing =>
      simp only [Option.some.injEq, Prod.mk.injEq] at filed
      rcases filed with ⟨rfl, rfl⟩
      exact .single (.first (Bool.not_eq_true _ ▸ missing))

theorem steps_fileAncestor {source requested ancestor : TypeKey} {declarations : Declarations}
    (converter : Converter) (above : ancestor ∈ declarations.walk requested)
    (apart : ancestor ≠ requested) :
    Steps table
      (Report.ofEvents (some requested) declarations
        (table.fileAncestor source requested converter ancestor).2)
      (table.fileAncestor source requested converter ancestor).1 := by
  unfold fileAncestor
  cases found : table.find? source ancestor with
  | none => exact .single (.derivation (contains_eq_false_iff.mpr found) above apart)
  | some existing =>
      dsimp only
      split
      · exact .nil table
      · exact .single (.idle rfl)

theorem steps_fileAncestors {source requested : TypeKey} {declarations : Declarations}
    (converter : Converter) {chain : List TypeKey}
    (above : ∀ ancestor ∈ chain, ancestor ∈ declarations.walk requested) :
    Steps table
      (Report.ofEvents (some requested) declarations
        (table.fileAncestors source requested converter chain).2)
      (table.fileAncestors source requested converter chain).1 := by
  induction chain generalizing table with
  | nil => exact .nil table
  | cons ancestor rest ih =>
      have aboveRest : ∀ other ∈ rest, other ∈ declarations.walk requested := by
        intro other otherMem
        exact above other (List.mem_cons_of_mem ancestor otherMem)
      rw [fileAncestors]
      split
      · exact ih aboveRest
      · next notSkipped =>
          have apart : ancestor ≠ requested := fun same => notSkipped (Or.inl same)
          rw [Report.ofEvents_append]
          exact (steps_fileAncestor converter (above ancestor List.mem_cons_self) apart).append
            (ih aboveRest)

/-- A filing is a run of steps. -/
theorem steps_of_file {source target : TypeKey} {converter : Converter}
    {declarations : Declarations} {after : Table} {events : List Event}
    (filed : table.file source target converter (declarations.walk target) =
      some (after, events)) :
    Steps table (Report.ofEvents (some target) declarations events) after := by
  simp only [file, Option.map_eq_some_iff, Prod.exists, Prod.mk.injEq] at filed
  rcases filed with ⟨own, ownEvents, ownFiled, rfl, rfl⟩
  rw [Report.ofEvents_append]
  exact (steps_fileOwn declarations ownFiled).append
    (steps_fileAncestors converter fun _ inChain => inChain)

end Table

end Conversion
