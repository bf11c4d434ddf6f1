import Conversion.Proofs.Registry.Operation

/-!
# The table as a function of its history

A history is run from a registry whose table was just emptied, be it a new one or one that is about
to run its registrars again. Its log is the list of all filings on the way. The main statement,
`exact_after_clear`, reads the answer to a lookup of the very pair off the log: operations that
fail, lookups, rules and declarations matter only through the chains that the filings were made
with.

Each step extends the log at its end, so what the table records of one operation carries over to
a history by induction along it.
-/

namespace Conversion

namespace Table.Records

variable {table : Table} {log : List Filing} {source target : TypeKey}

theorem length_filter_le_one (records : table.Records log) (source target : TypeKey) :
    (log.filter fun filing => filing.IsFor source target).length ≤ 1 := by
  have distinct := records.distinct.filter fun filing => decide (filing.IsFor source target)
  have onlyOwn : ∀ filing ∈ log.filter fun filing => filing.IsFor source target,
      filing.IsFor source target := by
    intro filing filtered
    simpa using (List.mem_filter.mp filtered).2
  generalize log.filter (fun filing => filing.IsFor source target) = own at distinct onlyOwn ⊢
  cases own with
  | nil => exact Nat.zero_le 1
  | cons first rest =>
      cases rest with
      | nil => exact Nat.le_refl 1
      | cons second others =>
          have firstFor := onlyOwn first List.mem_cons_self
          have secondFor := onlyOwn second (List.mem_cons_of_mem first List.mem_cons_self)
          have apart := (List.pairwise_cons.mp distinct).1 second List.mem_cons_self
          rw [firstFor.1, firstFor.2] at apart
          exact absurd secondFor apart

theorem find?_isFor (records : table.Records log) {filing : Filing} (filed : filing ∈ log)
    (isFor : filing.IsFor source target) :
    log.find? (·.IsFor source target) = some filing := by
  have filtered : filing ∈ log.filter fun filing => filing.IsFor source target :=
    List.mem_filter.mpr ⟨filed, decide_eq_true isFor⟩
  have single : (log.filter fun filing => filing.IsFor source target) = [filing] := by
    have atMost := records.length_filter_le_one source target
    have atLeast := List.length_pos_of_mem filtered
    rcases List.length_eq_one_iff.mp (Nat.le_antisymm atMost atLeast) with ⟨only, isOnly⟩
    rw [isOnly] at filtered ⊢
    rw [List.mem_singleton.mp filtered]
  rw [← List.head?_filter, single, List.head?_cons]

/-- A pair that was asked for has the converter that it was asked for with. -/
theorem find?_of_isFor (records : table.Records log) {filing : Filing} (filed : filing ∈ log)
    (isFor : filing.IsFor source target) :
    table.find? source target = some filing.converter := by
  rw [records.find?_eq, converterIn, records.find?_isFor filed isFor, Option.some_or,
    Option.map_some]

/-- Every entry was filed, for its own pair or for one that covers it. -/
theorem exists_of_find?_eq_some (records : table.Records log) {converter : Converter}
    (found : table.find? source target = some converter) :
    ∃ filing ∈ log, filing.converter = converter ∧
      (filing.IsFor source target ∨ filing.Covers source target) := by
  rw [records.find?_eq, converterIn, Option.map_eq_some_iff] at found
  rcases found with ⟨filing, chosen, sameConverter⟩
  rcases Option.or_eq_some_iff.mp chosen with own | ⟨_, covering⟩
  · have isFor := List.find?_some own
    exact ⟨filing, List.mem_of_find?_eq_some own, sameConverter,
      Or.inl (of_decide_eq_true isFor)⟩
  · have covers := List.find?_some covering
    exact ⟨filing, List.mem_of_find?_eq_some covering, sameConverter,
      Or.inr (of_decide_eq_true covers)⟩

/-- A pair that was not asked for has the converter of the earliest filing that covers it. -/
theorem find?_of_not_isFor (records : table.Records log)
    (noneFor : ∀ filing ∈ log, ¬filing.IsFor source target) :
    table.find? source target = (log.find? (·.Covers source target)).map Filing.converter := by
  have unasked : log.find? (·.IsFor source target) = none := by
    simpa using noneFor
  rw [records.find?_eq, converterIn, unasked, Option.none_or]

end Table.Records

namespace Registry

/-- The registry that a history leaves. -/
def after (registry : Registry) : List Operation → Registry
  | [] => registry
  | operation :: rest => (operation.perform registry).registry.after rest

/-- The filings of a history, the earliest first. -/
def filings (registry : Registry) : List Operation → List Filing
  | [] => []
  | operation :: rest =>
      operation.filings registry ++ (operation.perform registry).registry.filings rest

variable {registry : Registry}

theorem after_append (registry : Registry) (earlier later : List Operation) :
    registry.after (earlier ++ later) = (registry.after earlier).after later := by
  induction earlier generalizing registry with
  | nil => rfl
  | cons operation rest ih => exact ih _

theorem filings_append (registry : Registry) (earlier later : List Operation) :
    registry.filings (earlier ++ later) =
      registry.filings earlier ++ (registry.after earlier).filings later := by
  induction earlier generalizing registry with
  | nil => rfl
  | cons operation rest ih =>
      rw [List.cons_append, filings, filings, ih, List.append_assoc]
      rfl

theorem records_after {log : List Filing} (history : List Operation)
    (records : registry.table.Records log) :
    (registry.after history).table.Records (log ++ registry.filings history) := by
  induction history generalizing registry log with
  | nil =>
      rw [filings, List.append_nil]
      exact records
  | cons operation rest ih =>
      rw [filings, ← List.append_assoc]
      exact ih (Operation.records_perform records)

theorem records_after_clear (origin : Registry) (history : List Operation) :
    (origin.clear.after history).table.Records (origin.clear.filings history) := by
  have cleared : origin.clear.table.Records [] := Table.Records.empty
  exact records_after history cleared

theorem declarations_after (history : List Operation)
    (settled : ∀ operation ∈ history, operation.declares = false) :
    (registry.after history).types.declarations = registry.types.declarations := by
  induction history generalizing registry with
  | nil => rfl
  | cons operation rest ih =>
      have restSettled := fun later laterMem =>
        settled later (List.mem_cons_of_mem operation laterMem)
      exact (ih restSettled).trans
        (Operation.declarations_perform (settled operation List.mem_cons_self))

theorem rules_after (history : List Operation)
    (ruleless : ∀ operation ∈ history, operation.addsRule = false) :
    (registry.after history).rules = registry.rules := by
  induction history generalizing registry with
  | nil => rfl
  | cons operation rest ih =>
      have restRuleless := fun later laterMem =>
        ruleless later (List.mem_cons_of_mem operation laterMem)
      exact (ih restRuleless).trans
        (Operation.rules_perform (ruleless operation List.mem_cons_self))

theorem registrars_after (registry : Registry) (history : List Operation) :
    (registry.after history).registrars = registry.registrars := by
  induction history generalizing registry with
  | nil => rfl
  | cons operation rest ih => exact (ih _).trans (operation.registrars_perform registry)

/-- Where a filing of a history comes from: an operation that asked for it, at a moment when it
passed the checks and the target had the chain that the filing holds. -/
theorem exists_of_mem_filings {history : List Operation} {filing : Filing}
    (filed : filing ∈ registry.filings history) :
    ∃ earlier operation later, history = earlier ++ operation :: later ∧
      operation.AsksFor filing.source filing.target filing.converter ∧
      filing.chain = (registry.after earlier).types.declarations.walk filing.target ∧
      refusal? (registry.after earlier).types filing.source filing.target filing.converter =
        none := by
  induction history generalizing registry with
  | nil => cases filed
  | cons operation rest ih =>
      rw [filings] at filed
      rcases List.mem_append.mp filed with now | afterwards
      · exact ⟨[], operation, rest, rfl, Operation.of_mem_filings now⟩
      · rcases ih afterwards with ⟨earlier, asking, later, rfl, facts⟩
        exact ⟨operation :: earlier, asking, later, rfl, facts⟩

/-- What a lookup of the very pair answers after any history since the table was empty. The
converter is the one that the pair was registered with, which happens once at most, or else that of
the earliest registration whose target had the type as an ancestor at that moment. -/
theorem exact_after_clear (origin : Registry) (history : List Operation)
    (source target : TypeKey) :
    let log := origin.clear.filings history
    let answer := (exact source target (origin.clear.after history)).result
    (log.filter fun filing => filing.IsFor source target).length ≤ 1 ∧
      (∀ filing ∈ log, filing.IsFor source target → answer = some filing.converter) ∧
      ((∀ filing ∈ log, ¬filing.IsFor source target) →
        answer = (log.find? (·.Covers source target)).map Filing.converter) := by
  intro log answer
  have records := records_after_clear origin history
  refine ⟨records.length_filter_le_one source target, ?_, ?_⟩
  · intro filing filed isFor
    exact records.find?_of_isFor filed isFor
  · intro noneFor
    exact records.find?_of_not_isFor noneFor

/-- Hands its value on. -/
def passingOn (number : Nat) : Converter :=
  ⟨.given number, .dynamic fun value _ => .ok value⟩

/-- Two types with one interface are registered for a source, one after the other. -/
def filedBelowText : List Operation :=
  [ .declareAll
      [(Declaration.of .string).implementing .text, (Declaration.of .char).implementing .text],
    .register .bool .string (passingOn 0),
    .register .bool .char (passingOn 1) ]

/-- The interface is registered in the end, and once more in vain. -/
def filedForText : List Operation :=
  filedBelowText ++ [.register .bool .text (passingOn 2), .register .bool .text (passingOn 3)]

theorem exact_after_replacement :
    let start := clear (ofTypes ∅ {})
    (exact .bool .char (start.after filedBelowText)).result.map Converter.identity =
        some (.given 1) ∧
      (exact .bool .text (start.after filedBelowText)).result.map Converter.identity =
        some (.given 0) ∧
      (exact .bool .text (start.after filedForText)).result.map Converter.identity =
        some (.given 2) ∧
      (exact .str .text (start.after filedForText)).result = none := by
  intro start
  rcases exact_after_clear (ofTypes ∅ {}) filedBelowText .bool .char with ⟨_, explicit, _⟩
  rcases exact_after_clear (ofTypes ∅ {}) filedBelowText .bool .text with ⟨_, _, derived⟩
  rcases exact_after_clear (ofTypes ∅ {}) filedForText .bool .text with ⟨_, replaced, _⟩
  rcases exact_after_clear (ofTypes ∅ {}) filedForText .str .text with ⟨_, _, missing⟩
  have ofChar : ∃ filing ∈ start.filings filedBelowText,
      filing.IsFor .bool .char ∧ filing.converter.identity = .given 1 := by decide +kernel
  have ofText : ∃ filing ∈ start.filings filedForText,
      filing.IsFor .bool .text ∧ filing.converter.identity = .given 2 := by decide +kernel
  rcases ofChar with ⟨charFiling, charFiled, isForChar, charIdentity⟩
  rcases ofText with ⟨textFiling, textFiled, isForText, textIdentity⟩
  refine ⟨?_, ?_, ?_, ?_⟩
  · rw [explicit charFiling charFiled isForChar, Option.map_some, charIdentity]
  · rw [derived (by decide +kernel), Option.map_map]
    decide +kernel
  · rw [replaced textFiling textFiled isForText, Option.map_some, textIdentity]
  · rw [missing (by decide +kernel), Option.map_eq_none_iff]
    exact Option.isNone_iff_eq_none.mp (by decide +kernel)

end Registry

end Conversion
