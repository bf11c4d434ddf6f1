import Conversion.Proofs.Registry.History

/-!
# Conversions in a well-typed registry

A history is well typed when every registration files a closure under the very types that it reads
and makes, and there are no rules. This file gives the outcome of converting a value of any type
into any other after such a history.

The registrations decide which case it is. A closure for the very pair gives its own result. A
derived entry holds a closure for another target, so a made value is of the wrong type and is turned
away, while a refusal names the target of the closure. An entry of a proper ancestor holds a closure
that cannot read the value. Without any entry there is no converter.
-/

namespace Conversion

/-- Whether a converter is a closure that reads one type and makes another. -/
def Converter.IsClosure (converter : Converter) (source target : TypeKey) : Prop :=
  ∃ run, converter.behavior = .closure source target run

/-- Whether an operation keeps a registry well typed. -/
def Operation.IsTyped : Operation → Prop
  | .register source target converter => converter.IsClosure source target
  | .registerForAll sources target converter =>
      ∀ source ∈ sources, converter.IsClosure source target
  | .registerRule _ => False
  | _ => True

theorem Operation.isClosure_of_asksFor {operation : Operation} {source target : TypeKey}
    {converter : Converter} (typed : operation.IsTyped)
    (asks : operation.AsksFor source target converter) : converter.IsClosure source target := by
  cases operation with
  | register own requested offered =>
      rcases asks with ⟨rfl, rfl, rfl⟩
      exact typed
  | registerForAll sources requested offered =>
      rcases asks with ⟨sourceMem, rfl, rfl⟩
      exact typed source sourceMem
  | _ => cases asks

theorem Operation.addsRule_of_isTyped {operation : Operation} (typed : operation.IsTyped) :
    operation.addsRule = false := by
  cases operation with
  | registerRule rule => cases typed
  | _ => rfl

namespace Registry

/-! ### What becomes of the converter that was found -/

section Found

variable {source target : TypeKey} {content : source.Carrier} {registry : Registry}
  {converter : Converter}

theorem convert_of_found_none (missing : (find source target registry).result = none) :
    (convert source target content registry).result = .error (.noConverter source target) := by
  simp only [convert, convertAs, Action.map, missing]

theorem convert_of_made {made : target.Carrier}
    (found : (find source target registry).result = some converter)
    (converted : converter.convert ⟨source, content⟩ target = .ok ⟨target, made⟩) :
    (convert source target content registry).result = .ok made := by
  simp only [convert, convertAs, Action.map, found, converted, Value.as?_self]

/-- A value of another type than the requested one is turned away. -/
theorem convert_of_misfit {made : Value}
    (found : (find source target registry).result = some converter)
    (converted : converter.convert ⟨source, content⟩ target = .ok made)
    (differ : made.key ≠ target) :
    (convert source target content registry).result = .error (.outputMismatch target) := by
  have refused : made.as? target = none := Value.as?_eq_none_iff.mpr differ
  simp only [convert, convertAs, Action.map, found, converted, refused]

theorem convert_of_failed {error : ConvertError}
    (found : (find source target registry).result = some converter)
    (failed : converter.convert ⟨source, content⟩ target = .error error) :
    (convert source target content registry).result = .error error := by
  simp only [convert, convertAs, Action.map, found, failed]

/-- A closure for the very pair gives its own result. -/
theorem convert_of_own_closure {run : source.Carrier → Except String target.Carrier}
    (found : (find source target registry).result = some converter)
    (closure : converter.behavior = .closure source target run) :
    (convert source target content registry).result =
      (run content).mapError (.invalid target) := by
  simp only [convert, convertAs, Action.map, found, Converter.convert, closure, Behavior.convert,
    Value.as?_self]
  cases run content with
  | error reason => rfl
  | ok made => simp [Except.mapError]

/-- A closure for another target makes a value that is turned away. -/
theorem convert_of_closure_for_other {other : TypeKey}
    {run : source.Carrier → Except String other.Carrier} (differ : other ≠ target)
    (found : (find source target registry).result = some converter)
    (closure : converter.behavior = .closure source other run) :
    (∀ made, run content = .ok made →
        (convert source target content registry).result = .error (.outputMismatch target)) ∧
      ∀ reason, run content = .error reason →
        (convert source target content registry).result = .error (.invalid other reason) := by
  constructor
  · intro made answer
    have converted : converter.convert ⟨source, content⟩ target = .ok ⟨other, made⟩ := by
      simp only [Converter.convert, closure, Behavior.convert, Value.as?_self, answer]
    exact convert_of_misfit found converted differ
  · intro reason answer
    have failed : converter.convert ⟨source, content⟩ target = .error (.invalid other reason) := by
      simp only [Converter.convert, closure, Behavior.convert, Value.as?_self, answer]
    exact convert_of_failed found failed

/-- A closure for another source cannot read the value. -/
theorem convert_of_closure_from_other {other made : TypeKey} (differ : source ≠ other)
    (found : (find source target registry).result = some converter)
    (closure : converter.IsClosure other made) :
    (convert source target content registry).result = .error (.sourceMismatch other) := by
  rcases closure with ⟨run, closure⟩
  have unread : (Value.mk source content).as? other = none := Value.as?_eq_none_iff.mpr differ
  simp only [convert, convertAs, Action.map, found, Converter.convert, closure, Behavior.convert,
    unread]

end Found

/-! ### Well-typed histories -/

variable {origin : Registry} {history : List Operation}

theorem isClosure_of_mem_filings (typed : ∀ operation ∈ history, operation.IsTyped)
    {filing : Filing} (filed : filing ∈ origin.filings history) :
    filing.converter.IsClosure filing.source filing.target := by
  rcases exists_of_mem_filings filed with ⟨earlier, operation, later, rfl, asks, _, _⟩
  have operationTyped := typed operation (List.mem_append_right _ List.mem_cons_self)
  exact Operation.isClosure_of_asksFor operationTyped asks

/-- Without rules a lookup goes no further than the ancestors. -/
theorem find_of_ruleless {registry : Registry} (ruleless : registry.rules = ∅)
    (source target : TypeKey) :
    (find source target registry).result =
      (registry.table.find? source target).or (byAncestor source target registry).result := by
  have stillRuleless : (byAncestor source target registry).registry.rules = ∅ := by
    rw [(byAncestor_onlyAsks source target registry).rules, ruleless]
  have noRule : (byRule source target (byAncestor source target registry).registry).result =
      none := by
    simp only [byRule, stillRuleless]
    rfl
  rw [find_result, noRule, Option.or_none]

section Recorded

variable {registry : Registry} {log : List Filing} {source target : TypeKey}

theorem convert_of_registered (records : registry.table.Records log)
    (ruleless : registry.rules = ∅)
    (closures : ∀ filing ∈ log, filing.converter.IsClosure filing.source filing.target)
    (content : source.Carrier) {filing : Filing} (filed : filing ∈ log)
    (isFor : filing.IsFor source target) :
    ∃ run, filing.converter.behavior = .closure source target run ∧
      (convert source target content registry).result =
        (run content).mapError (.invalid target) := by
  have closure := closures filing filed
  rw [isFor.1, isFor.2] at closure
  rcases closure with ⟨run, closure⟩
  have found : (find source target registry).result = some filing.converter := by
    rw [find_of_ruleless ruleless, records.find?_of_isFor filed isFor, Option.some_or]
  exact ⟨run, closure, convert_of_own_closure found closure⟩

theorem convert_of_derived (records : registry.table.Records log)
    (ruleless : registry.rules = ∅)
    (closures : ∀ filing ∈ log, filing.converter.IsClosure filing.source filing.target)
    (content : source.Carrier) (derived : registry.table.isDerived source target = true) :
    ∃ filing, log.find? (·.Covers source target) = some filing ∧
      ∃ run, filing.converter.behavior = .closure source filing.target run ∧
        (∀ made, run content = .ok made →
          (convert source target content registry).result = .error (.outputMismatch target)) ∧
        ∀ reason, run content = .error reason →
          (convert source target content registry).result =
            .error (.invalid filing.target reason) := by
  rcases (records.isDerived_iff source target).mp derived with ⟨noneFor, some_covers⟩
  have earliest : (log.find? (·.Covers source target)).isSome = true := by
    simpa using some_covers
  rcases Option.isSome_iff_exists.mp earliest with ⟨filing, chosen⟩
  have covers : filing.Covers source target := by
    simpa using List.find?_some chosen
  have closure := closures filing (List.mem_of_find?_eq_some chosen)
  rw [covers.1] at closure
  rcases closure with ⟨run, closure⟩
  have found : (find source target registry).result = some filing.converter := by
    rw [find_of_ruleless ruleless, records.find?_of_not_isFor noneFor, chosen, Option.map_some,
      Option.some_or]
  exact ⟨filing, chosen, run, closure,
    convert_of_closure_for_other (Ne.symm covers.2.2.1) found closure⟩

theorem convert_of_ancestor (records : registry.table.Records log)
    (ruleless : registry.rules = ∅)
    (closures : ∀ filing ∈ log, filing.converter.IsClosure filing.source filing.target)
    (content : source.Carrier) (missing : registry.table.contains source target = false)
    {ancestor : TypeKey}
    (closest : (registry.types.declarations.walk source).find?
      (registry.table.contains · target) = some ancestor) :
    ancestor ≠ source ∧
      (convert source target content registry).result = .error (.sourceMismatch ancestor) := by
  have present : registry.table.contains ancestor target = true := by
    simpa using List.find?_some closest
  have differ : source ≠ ancestor := by
    rintro rfl
    rw [missing] at present
    cases present
  rcases Option.isSome_iff_exists.mp present with ⟨converter, entry⟩
  have found : (find source target registry).result = some converter := by
    rw [find_of_ruleless ruleless, Table.contains_eq_false_iff.mp missing, Option.none_or,
      byAncestor_eq_bind_find?, closest]
    exact entry
  rcases records.exists_of_find?_eq_some entry with ⟨filing, filed, sameConverter, serves⟩
  have closure := closures filing filed
  rw [sameConverter, filing.source_eq_of_serves serves] at closure
  exact ⟨Ne.symm differ, convert_of_closure_from_other differ found closure⟩

theorem convert_of_nothing (ruleless : registry.rules = ∅) (content : source.Carrier)
    (missing : registry.table.contains source target = false)
    (noAncestor : (registry.types.declarations.walk source).find?
      (registry.table.contains · target) = none) :
    (convert source target content registry).result = .error (.noConverter source target) := by
  apply convert_of_found_none
  rw [find_of_ruleless ruleless, Table.contains_eq_false_iff.mp missing, Option.none_or,
    byAncestor_eq_bind_find?, noAncestor, Option.bind_none]

/-- Only a closure for the very pair ever makes a value. -/
theorem convert_eq_ok_iff (records : registry.table.Records log)
    (ruleless : registry.rules = ∅)
    (closures : ∀ filing ∈ log, filing.converter.IsClosure filing.source filing.target)
    (content : source.Carrier) :
    (∃ made, (convert source target content registry).result = .ok made) ↔
      ∃ filing ∈ log, filing.IsFor source target ∧
        ∃ run made, filing.converter.behavior = .closure source target run ∧
          run content = .ok made := by
  constructor
  · rintro ⟨made, isMade⟩
    rcases records.isFor_or_isDerived_or_missing source target with
      ⟨filing, filed, isFor⟩ | derived | missing
    · rcases convert_of_registered records ruleless closures content filed isFor with
        ⟨run, closure, outcome⟩
      rw [outcome] at isMade
      refine ⟨filing, filed, isFor, run, made, closure, ?_⟩
      cases answer : run content with
      | error reason => simp [answer, Except.mapError] at isMade
      | ok value => simpa [answer, Except.mapError] using isMade
    · rcases convert_of_derived records ruleless closures content derived with
        ⟨filing, _, run, _, whenMade, whenRefused⟩
      cases answer : run content with
      | error reason => simp [whenRefused reason answer] at isMade
      | ok value => simp [whenMade value answer] at isMade
    · cases closest : (registry.types.declarations.walk source).find?
          (registry.table.contains · target) with
      | none => simp [convert_of_nothing ruleless content missing closest] at isMade
      | some ancestor =>
          have outcome := convert_of_ancestor records ruleless closures content missing closest
          simp [outcome.2] at isMade
  · rintro ⟨filing, filed, isFor, run, made, closure, answer⟩
    rcases convert_of_registered records ruleless closures content filed isFor with
      ⟨run', closure', outcome⟩
    rw [closure] at closure'
    cases closure'
    refine ⟨made, ?_⟩
    rw [outcome, answer]
    rfl

end Recorded

/-- The outcome of converting a value in a well-typed registry without rules. It is decided by the
registrations that succeeded, and it is a value only where the pair itself was registered. -/
theorem convert_of_typed (origin : Registry) (history : List Operation)
    (typed : ∀ operation ∈ history, operation.IsTyped) (source target : TypeKey)
    (content : source.Carrier) :
    let registry := origin.clear.after history
    let log := origin.clear.filings history
    let chain := (registry.types.ancestors source).1
    let result := (convert source target content registry).result
    ((∃ filing ∈ log, filing.IsFor source target) ∨
        registry.table.isDerived source target = true ∨
        registry.table.contains source target = false) ∧
      (∀ filing ∈ log, filing.IsFor source target →
        ∃ run, filing.converter.behavior = .closure source target run ∧
          result = (run content).mapError (.invalid target)) ∧
      (registry.table.isDerived source target = true →
        ∃ filing, log.find? (·.Covers source target) = some filing ∧
          ∃ run, filing.converter.behavior = .closure source filing.target run ∧
            (∀ made, run content = .ok made → result = .error (.outputMismatch target)) ∧
            ∀ reason, run content = .error reason →
              result = .error (.invalid filing.target reason)) ∧
      (registry.table.contains source target = false →
        (∀ ancestor, chain.find? (registry.table.contains · target) = some ancestor →
          ancestor ≠ source ∧ result = .error (.sourceMismatch ancestor)) ∧
        (chain.find? (registry.table.contains · target) = none →
          result = .error (.noConverter source target))) ∧
      ((∃ made, result = .ok made) ↔
        ∃ filing ∈ log, filing.IsFor source target ∧
          ∃ run made, filing.converter.behavior = .closure source target run ∧
            run content = .ok made) := by
  intro registry log chain result
  have records : registry.table.Records log := records_after_clear origin history
  have closures : ∀ filing ∈ log, filing.converter.IsClosure filing.source filing.target :=
    fun filing filed => isClosure_of_mem_filings typed filed
  have ruleless : registry.rules = ∅ :=
    rules_after history fun operation operationMem =>
      Operation.addsRule_of_isTyped (typed operation operationMem)
  have chainEq : chain = registry.types.declarations.walk source :=
    Hierarchy.ancestors_fst registry.types source
  rw [chainEq]
  refine ⟨records.isFor_or_isDerived_or_missing source target, ?_, ?_, ?_, ?_⟩
  · intro filing filed isFor
    exact convert_of_registered records ruleless closures content filed isFor
  · intro derived
    exact convert_of_derived records ruleless closures content derived
  · intro missing
    constructor
    · intro ancestor closest
      exact convert_of_ancestor records ruleless closures content missing closest
    · intro noAncestor
      exact convert_of_nothing ruleless content missing noAncestor
  · exact convert_eq_ok_iff records ruleless closures content

def yesOrNo : Converter :=
  ⟨.given 0, .closure .bool .str fun flag : Bool => if flag then .ok "yes" else .error "no"⟩

/-- The target extends another type, and so does a type the source of. -/
def typedHistory : List Operation :=
  [.declareAll [(Declaration.of .str).extending .string, (Declaration.of .char).extending .bool],
    .register .bool .str yesOrNo]

theorem convert_in_typedHistory :
    let registry := (clear (ofTypes ∅ {})).after typedHistory
    (∀ operation ∈ typedHistory, operation.IsTyped) ∧
      (convert .bool .str true registry).result = .ok "yes" ∧
      (convert .bool .string true registry).result = .error (.outputMismatch .string) ∧
      (convert .bool .string false registry).result = .error (.invalid .str "no") ∧
      (convert .char .str 'a' registry).result = .error (.sourceMismatch .bool) ∧
      (convert .string .bool "yes" registry).result = .error (.noConverter .string .bool) := by
  intro registry
  have typed : ∀ operation ∈ typedHistory, operation.IsTyped := by
    intro operation operationMem
    simp only [typedHistory, List.mem_cons, List.not_mem_nil, or_false] at operationMem
    rcases operationMem with rfl | rfl
    · trivial
    · exact ⟨_, rfl⟩
  have logged : ∃ chain, (clear (ofTypes ∅ {})).filings typedHistory =
      [⟨.bool, .str, yesOrNo, chain⟩] := ⟨_, rfl⟩
  rcases logged with ⟨chain, logEq⟩
  have covered : ∀ flag : Bool,
      (∀ made : String, (if flag then .ok "yes" else .error "no") = Except.ok made →
        (convert .bool .string flag registry).result = .error (.outputMismatch .string)) ∧
      ∀ reason : String, (if flag then .ok "yes" else .error "no" : Except String String) =
          .error reason →
        (convert .bool .string flag registry).result = .error (.invalid .str reason) := by
    intro flag
    rcases convert_of_typed (ofTypes ∅ {}) typedHistory typed .bool .string flag with
      ⟨_, _, derived, _⟩
    rcases derived (by decide +kernel) with ⟨filing, chosen, run, closure, answers⟩
    have only := List.mem_of_find?_eq_some chosen
    rw [logEq, List.mem_singleton] at only
    subst only
    cases closure
    exact answers
  refine ⟨typed, ?_, ?_, ?_, ?_, ?_⟩
  · rcases convert_of_typed (ofTypes ∅ {}) typedHistory typed .bool .str true with
      ⟨_, registered, _⟩
    rcases registered ⟨.bool, .str, yesOrNo, chain⟩ (by simp [logEq]) ⟨rfl, rfl⟩ with
      ⟨run, closure, result⟩
    cases closure
    exact result
  · exact (covered true).1 _ rfl
  · exact (covered false).2 _ rfl
  · rcases convert_of_typed (ofTypes ∅ {}) typedHistory typed .char .str 'a' with
      ⟨_, _, _, missing, _⟩
    exact ((missing (by decide +kernel)).1 .bool (by decide +kernel)).2
  · rcases convert_of_typed (ofTypes ∅ {}) typedHistory typed .string .bool "yes" with
      ⟨_, _, _, missing, _⟩
    exact (missing (by decide +kernel)).2 (by decide +kernel)

end Registry

end Conversion
