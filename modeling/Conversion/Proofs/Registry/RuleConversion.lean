import Conversion.Proofs.Registry.Consistency
import Conversion.Proofs.Registry.Resolution
import Conversion.Proofs.Registry.TypedConversion

/-!
# Conversions by rules

The test of a rule and its conversion are separate. The test is about a pair of types, while the
conversion reads a value of any type and may make one of any type, whatever was requested. They meet
in a lookup: the rule found for a pair is one that accepts it, and it is then run on a value of the
source for that very target.

`RuleBody.Accepts` says for each sort how a rule comes to accept a pair. The type at the end that
the sort fixes is then the type of the rule, so that neither the rule nor the conversion around it
turns a value away for its type. Of a custom rule there is only to say that its test passed and that
its conversion is run. The main statement is `convert_by_found_rule`.
-/

namespace Conversion

/-- How a rule comes to accept a pair of types under some declarations. -/
inductive RuleBody.Accepts (declarations : Declarations) (source target : TypeKey) :
    RuleBody → Prop where
  | fixedSource {accepts : TypeKey → Bool}
      {run : source.Carrier → TypeKey → Except ConvertError Value}
      (accepted : accepts target = true) :
      Accepts declarations source target (.fixedSource source accepts run)
  | fixedTarget {accepts : TypeKey → Bool} {run : Value → Except ConvertError target.Carrier}
      (accepted : accepts source = true) :
      Accepts declarations source target (.fixedTarget target accepts run)
  | assignableSource {base : TypeKey} {run : Value → Except ConvertError target.Carrier}
      (reaches : declarations.Reaches source base) :
      Accepts declarations source target (.assignableSource base target run)
  | custom {kind : RuleKind} {accepts : TypeKey → TypeKey → (TypeKey → Option Declaration) → Bool}
      {run : Value → TypeKey → Except ConvertError Value}
      (accepted : accepts source target declarations.find? = true) :
      Accepts declarations source target (.custom kind accepts run)

theorem RuleBody.canConvert_iff_accepts {body : RuleBody} {source target : TypeKey}
    {types : Hierarchy} :
    (body.canConvert source target types).1 = true ↔
      body.Accepts types.declarations source target := by
  constructor
  · intro holds
    cases body with
    | fixedSource own accepts run =>
        obtain ⟨rfl, accepted⟩ : source = own ∧ accepts target = true := by
          simpa [canConvert] using holds
        exact .fixedSource accepted
    | fixedTarget own accepts run =>
        obtain ⟨rfl, accepted⟩ : target = own ∧ accepts source = true := by
          simpa [canConvert] using holds
        exact .fixedTarget accepted
    | assignableSource base own run =>
        by_cases same : target = own
        · subst same
          apply Accepts.assignableSource
          rw [← Declarations.mem_walk_iff]
          simpa [canConvert, Hierarchy.isAssignable_eq_contains] using holds
        · simp [canConvert, same] at holds
    | custom kind accepts run => exact .custom holds
  · intro holds
    cases holds with
    | fixedSource accepted => simp [canConvert, accepted]
    | fixedTarget accepted => simp [canConvert, accepted]
    | assignableSource reaches =>
        rw [← Declarations.mem_walk_iff] at reaches
        simp [canConvert, Hierarchy.isAssignable_eq_contains, reaches]
    | custom accepted => exact accepted

namespace Registry

variable {registry : Registry} {source target : TypeKey}

theorem Reachable.asRule?_of_entry (reachable : Reachable registry) {converter : Converter}
    (entry : registry.table.find? source target = some converter) : converter.asRule? = none := by
  obtain ⟨origin, history, rfl⟩ := reachable.exists_history
  have records := records_after_clear origin history
  obtain ⟨filing, filed, rfl, _⟩ := records.exists_of_find?_eq_some entry
  exact (proper_of_mem_filings filed).2

/-- A rule that is found is one of the registry and accepts the pair. -/
theorem Reachable.accepts_of_found (reachable : Reachable registry) {rule : Rule}
    (found : (find source target registry).result = some rule.toConverter) :
    rule ∈ registry.rules.toList ∧ rule.body.Accepts registry.types.declarations source target := by
  have notByAncestor : (byAncestor source target registry).result ≠ some rule.toConverter := by
    rw [byAncestor_result]
    intro entered
    obtain ⟨ancestor, _, entry⟩ := List.exists_of_findSome?_eq_some entered
    simpa using reachable.asRule?_of_entry entry
  have chosen : (byRule source target registry).result = some rule.toConverter := by
    rw [find_result_eq_or, Option.or_eq_some_iff] at found
    exact (found.resolve_left notByAncestor).2
  rw [byRule_result, Option.map_eq_some_iff] at chosen
  obtain ⟨other, first, same⟩ := chosen
  obtain rfl : other = rule := by
    simpa using congrArg Converter.asRule? same
  have accepted := List.find?_some first
  exact ⟨List.mem_of_find?_eq_some first, RuleBody.canConvert_iff_accepts.mp accepted⟩

theorem convertAs_of_found {converter : Converter} {value : Value}
    (found : (find source target registry).result = some converter) :
    (convertAs value source target registry).result = converter.convert value target := by
  simp only [convertAs, Action.map, found]

/-- A converter that answers for the requested target is not turned away. -/
theorem convert_of_fitting {converter : Converter} {content : source.Carrier}
    {answer : Except ConvertError target.Carrier}
    (found : (find source target registry).result = some converter)
    (fits : converter.convert ⟨source, content⟩ target = answer.map (Value.mk target)) :
    (convert source target content registry).result = answer := by
  cases answer with
  | error error => exact convert_of_failed found fits
  | ok made => exact convert_of_made found fits

/-- When a lookup finds a rule, what the rule is run on and what comes of it fit the pair. A rule
with a fixed source is run on the content of the value, and a rule with a fixed target answers for
the conversion. A rule with a base is found only for sources that lead to the base, and a custom one
only where its test passes. -/
theorem convert_by_found_rule (reachable : Reachable registry) (source target : TypeKey)
    (content : source.Carrier) {rule : Rule}
    (found : (find source target registry).result = some rule.toConverter) :
    let value : Value := ⟨source, content⟩
    let result := (convert source target content registry).result
    rule ∈ registry.rules.toList ∧
      (rule.body.isCustom = false →
        (rule.kind = .fixedSource → ∃ accepts run,
          rule.body = .fixedSource source accepts run ∧ accepts target = true ∧
            (convertAs value source target registry).result = run content target ∧
            (∀ error, run content target = .error error → result = .error error) ∧
            (∀ made, run content target = .ok ⟨target, made⟩ → result = .ok made) ∧
            ∀ made, run content target = .ok made → made.key ≠ target →
              result = .error (.outputMismatch target)) ∧
        (rule.kind = .fixedTarget → ∃ accepts run,
          rule.body = .fixedTarget target accepts run ∧ accepts source = true ∧
            result = run value) ∧
        (rule.kind = .assignableSource → ∃ base run,
          rule.body = .assignableSource base target run ∧ result = run value ∧
            registry.types.declarations.Reaches source base)) ∧
      ∀ kind accepts run, rule.body = .custom kind accepts run →
        accepts source target registry.types.declarations.find? = true ∧
          (convertAs value source target registry).result = run value target := by
  intro value result
  obtain ⟨ruleMem, accepted⟩ := reachable.accepts_of_found found
  refine ⟨ruleMem, ?_⟩
  obtain ⟨identity, body⟩ := rule
  cases accepted with
  | @fixedSource accepts run accepted =>
      have ran : (Rule.mk identity (.fixedSource source accepts run)).toConverter.convert value
          target = run content target := by
        simp [value, Rule.toConverter, Converter.convert, Behavior.convert, RuleBody.convert]
      refine ⟨fun _ => ⟨fun _ => ?_, by rintro ⟨⟩, by rintro ⟨⟩⟩, by rintro _ _ _ ⟨⟩⟩
      refine ⟨accepts, run, rfl, accepted, ?_, ?_, ?_, ?_⟩
      · rw [convertAs_of_found found, ran]
      · intro error failed
        exact convert_of_failed found (ran.trans failed)
      · intro made answered
        exact convert_of_made found (ran.trans answered)
      · intro made answered differ
        exact convert_of_misfit found (ran.trans answered) differ
  | @fixedTarget accepts run accepted =>
      have answered : result = run value := convert_of_fitting found rfl
      refine ⟨fun _ => ⟨by rintro ⟨⟩, fun _ => ?_, by rintro ⟨⟩⟩, by rintro _ _ _ ⟨⟩⟩
      exact ⟨accepts, run, rfl, accepted, answered⟩
  | @assignableSource base run reaches =>
      have answered : result = run value := convert_of_fitting found rfl
      refine ⟨fun _ => ⟨by rintro ⟨⟩, by rintro ⟨⟩, fun _ => ?_⟩, by rintro _ _ _ ⟨⟩⟩
      exact ⟨base, run, rfl, answered, reaches⟩
  | @custom kind accepts run accepted =>
      refine ⟨by rintro ⟨⟩, ?_⟩
      rintro _ _ _ ⟨⟩
      exact ⟨accepted, convertAs_of_found found⟩

/-- Makes a letter, whatever is requested. -/
def letterRule : Rule :=
  ⟨.given 0, .fixedSource .char (fun _ => true) fun letter _ => .ok ⟨.char, letter⟩⟩

def refusingRule : Rule :=
  ⟨.given 1, .fixedTarget .string (· = .bool) fun _ => .error (.outputMismatch .char)⟩

def borrowedRule : Rule :=
  ⟨.given 2, .assignableSource .string .bool fun value => .ok (value.as? .str).isSome⟩

/-- Makes the same letter of all declared types. -/
def declaredRule : Rule :=
  ⟨.given 3, .custom .fixedTarget
    (fun source target find? => target = .char && (find? source).isSome)
    fun _ _ => .ok ⟨.char, 'd'⟩⟩

def ofAllSorts : Registry :=
  (ofTypes ∅ {}).after
    [ .declare ((Declaration.of .str).extending .string), .registerRule borrowedRule,
      .registerRule refusingRule, .registerRule letterRule, .registerRule declaredRule ]

theorem convert_in_ofAllSorts :
    Reachable ofAllSorts ∧
      (convertAs ⟨.char, 'y'⟩ .char .bool ofAllSorts).result = .ok ⟨.char, 'y'⟩ ∧
      (convert .char .bool 'y' ofAllSorts).result = .error (.outputMismatch .bool) ∧
      (convert .bool .string true ofAllSorts).result = .error (.outputMismatch .char) ∧
      (convert .str .bool "yes" ofAllSorts).result = .ok true ∧
      ofAllSorts.types.declarations.Reaches .str .string ∧
      (convertAs ⟨.str, "yes"⟩ .str .char ofAllSorts).result = .ok ⟨.char, 'd'⟩ := by
  have reachable : Reachable ofAllSorts := (Reachable.created ∅ [] {} 0).after _
  have letterFound : (find .char .bool ofAllSorts).result = some letterRule.toConverter := by cbv
  have refusingFound : (find .bool .string ofAllSorts).result = some refusingRule.toConverter := by
    cbv
  have borrowedFound : (find .str .bool ofAllSorts).result = some borrowedRule.toConverter := by
    cbv
  have declaredFound : (find .str .char ofAllSorts).result = some declaredRule.toConverter := by
    cbv
  obtain ⟨_, byLetter, _⟩ := convert_by_found_rule reachable .char .bool 'y' letterFound
  obtain ⟨_, byRefusing, _⟩ := convert_by_found_rule reachable .bool .string true refusingFound
  obtain ⟨_, byBorrowed, _⟩ := convert_by_found_rule reachable .str .bool "yes" borrowedFound
  obtain ⟨_, _, byDeclared⟩ := convert_by_found_rule reachable .str .char "yes" declaredFound
  obtain ⟨ofSource, _, _⟩ := byLetter rfl
  obtain ⟨_, ofTarget, _⟩ := byRefusing rfl
  obtain ⟨_, _, ofBase⟩ := byBorrowed rfl
  obtain ⟨_, _, letterBody, _, raw, _, _, mismatch⟩ := ofSource rfl
  obtain ⟨_, _, refusingBody, _, refused⟩ := ofTarget rfl
  obtain ⟨_, _, borrowedBody, answer, reaches⟩ := ofBase rfl
  obtain ⟨_, made⟩ := byDeclared _ _ _ rfl
  cases letterBody
  cases refusingBody
  cases borrowedBody
  exact ⟨reachable, raw, mismatch _ rfl (by decide), refused, answer, reaches, made⟩

end Registry

end Conversion
