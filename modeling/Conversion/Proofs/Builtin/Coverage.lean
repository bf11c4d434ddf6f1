import Conversion.Proofs.Builtin.Standard
import Conversion.Proofs.Registry.RuleConversion

/-!
# What the built-in conversions cover

On a registry with the two built-in registrars the pair of types alone decides which converter
serves a value of a built-in type (`find_behavior_eq`), and the converter it decides on can always
read the value. So the pairs fall into three groups: for some every value has an answer, for some
the text of the value decides, and all others have no converter. Values of the user's types are
never read, whatever the types stand below. `convert_covers` puts this together.
-/

namespace Conversion.Builtin

open Conversion.Registry

variable {registry : Registry} {source target : TypeKey}

/-! ### Which converter serves a pair -/

/-- The converter for a value of a built-in type. -/
def serving? : TypeKey → TypeKey → Option Behavior
  | .int _, .string => some numberToString
  | .float _, .string => some numberToString
  | .bool, .string => some boolToString
  | .char, .string => some charToString
  | .str, .string => some strToString
  | .int _, .bool => some (.rule numberToBool)
  | .float _, .bool => some (.rule numberToBool)
  | .string, .bool => some stringToBool
  | .str, .bool => some (.rule anyTextToBool)
  | .string, .char => some stringToChar
  | .string, .int _ => some (.rule stringToNumber)
  | .string, .float _ => some (.rule stringToNumber)
  | .str, .int _ => some (.rule strToNumber)
  | .str, .float _ => some (.rule strToNumber)
  | _, _ => none

theorem byRule_behavior (standard : IsStandard registry) (source target : TypeKey) :
    (byRule source target registry).result.map Converter.behavior =
      (ruleBodies.find? fun body => (body.canConvert source target registry.types).1).map
        Behavior.rule := by
  rw [byRule_result, ← standard.rules, List.find?_map, Option.map_map, Option.map_map]
  rfl

/-- A search on a standard registry goes through the entries of the ancestors and then through the
rules. -/
theorem find_behavior (standard : IsStandard registry) (source target : TypeKey) :
    (find source target registry).result.map Converter.behavior =
      ((entryFor? source target).or
          ((registry.types.declarations.walk source).findSome? (entryFor? · target))).or
        ((ruleBodies.find? fun body => (body.canConvert source target registry.types).1).map
          Behavior.rule) := by
  have asks := byAncestor_onlyAsks source target registry
  have entries : (byAncestor source target registry).result.map Converter.behavior =
      (registry.types.declarations.walk source).findSome? (entryFor? · target) := by
    rw [byAncestor_result, List.map_findSome?]
    congr 1
    funext key
    exact standard.entries key target
  rw [find_result, byRule_congr asks.declarations asks.rules, Option.map_or, Option.map_or,
    standard.entries, entries, byRule_behavior standard]

theorem find_behavior_eq (standard : IsStandard registry) (isBuiltin : source.IsBuiltin = true)
    (hasValues : source.HasValues = true) (targetHasValues : target.HasValues = true) :
    (find source target registry).result.map Converter.behavior = serving? source target := by
  rw [find_behavior standard, standard.types.walk_eq source isBuiltin]
  have walk := standard.types.walk_eq source isBuiltin
  cases source <;> cases target <;>
    simp [TypeKey.HasValues, TypeKey.IsBuiltin] at isBuiltin hasValues targetHasValues <;>
    simp [walk, chain, entryFor?, serving?, ruleBodies, stringToNumber, strToNumber, numberToBool,
      anyTextToBool, RuleBody.canConvert, isNumber_eq, Hierarchy.isAssignable_fst]

theorem hasValues_of_content {key : TypeKey} (content : key.Carrier) : key.HasValues = true := by
  cases key with
  | number => cases content
  | text => cases content
  | abstract name => cases content
  | _ => rfl

theorem values_of_serving {behavior : Behavior} (serving : serving? source target = some behavior) :
    source.IsBuiltin = true ∧ source.HasValues = true ∧ target.HasValues = true := by
  unfold serving? at serving
  split at serving <;> first | exact ⟨rfl, rfl, rfl⟩ | cases serving

theorem exists_of_serving (standard : IsStandard registry) {behavior : Behavior}
    (serving : serving? source target = some behavior) :
    ∃ converter, (find source target registry).result = some converter ∧
      converter.behavior = behavior := by
  rcases values_of_serving serving with ⟨isBuiltin, hasValues, targetHasValues⟩
  rw [← find_behavior_eq standard isBuiltin hasValues targetHasValues,
    Option.map_eq_some_iff] at serving
  exact serving

theorem convert_of_serving (standard : IsStandard registry) {behavior : Behavior}
    (serving : serving? source target = some behavior) {content : source.Carrier}
    {made : target.Carrier}
    (converted : behavior.convert ⟨source, content⟩ target = .ok ⟨target, made⟩) :
    (convert source target content registry).result = .ok made := by
  rcases exists_of_serving standard serving with ⟨converter, found, rfl⟩
  exact convert_of_made found converted

theorem convert_of_serving_error (standard : IsStandard registry) {behavior : Behavior}
    (serving : serving? source target = some behavior) {content : source.Carrier}
    {error : ConvertError}
    (failed : behavior.convert ⟨source, content⟩ target = .error error) :
    (convert source target content registry).result = .error error := by
  rcases exists_of_serving standard serving with ⟨converter, found, rfl⟩
  exact convert_of_failed found failed

theorem convert_of_serving_answer (standard : IsStandard registry) {behavior : Behavior}
    (serving : serving? source target = some behavior) {content : source.Carrier}
    {answer : Except ConvertError target.Carrier}
    (converted : behavior.convert ⟨source, content⟩ target = answer.map (Value.mk target)) :
    (convert source target content registry).result = answer := by
  rcases exists_of_serving standard serving with ⟨converter, found, rfl⟩
  exact convert_of_fitting found converted

/-! ### Pairs of built-in types -/

/-- How far the built-in conversions cover a pair of types. -/
inductive Coverage where
  /-- Every value has an answer. -/
  | always
  /-- The text of the value decides whether there is an answer. -/
  | reading
  | never

/-- How far a pair is covered, for a source that is a built-in type. -/
def coverage : TypeKey → TypeKey → Coverage
  | .int _, .string => .always
  | .float _, .string => .always
  | .bool, .string => .always
  | .char, .string => .always
  | .str, .string => .always
  | .int _, .bool => .always
  | .float _, .bool => .always
  | .string, .bool => .reading
  | .string, .char => .reading
  | .string, .int _ => .reading
  | .string, .float _ => .reading
  | .str, .int _ => .reading
  | .str, .float _ => .reading
  | .str, .bool => .reading
  | _, _ => .never

theorem convert_number {value : Value} {text : String} (isText : numberText? value = some text) :
    numberToString.convert value target = .ok ⟨.string, text⟩ := by
  simp only [numberToString, Behavior.convert, isText]

theorem convert_of_always (standard : IsStandard registry)
    (always : coverage source target = .always) (content : source.Carrier) :
    ∃ made, (convert source target content registry).result = .ok made := by
  cases source with
  | int type =>
      cases target with
      | string => exact ⟨_, convert_of_serving standard rfl (convert_number rfl)⟩
      | bool => exact ⟨_, convert_of_serving standard rfl rfl⟩
      | _ => cases always
  | float format =>
      cases target with
      | string => exact ⟨_, convert_of_serving standard rfl (convert_number rfl)⟩
      | bool => exact ⟨_, convert_of_serving standard rfl rfl⟩
      | _ => cases always
  | bool =>
      cases target with
      | string => exact ⟨_, convert_of_serving standard rfl rfl⟩
      | _ => cases always
  | char =>
      cases target with
      | string => exact ⟨_, convert_of_serving standard rfl rfl⟩
      | _ => cases always
  | str =>
      cases target with
      | string => exact ⟨_, convert_of_serving standard rfl rfl⟩
      | _ => cases always
  | _ => cases target <;> cases always

theorem convert_of_never (standard : IsStandard registry) (isBuiltin : source.IsBuiltin = true)
    (targetHasValues : target.HasValues = true) (never : coverage source target = .never)
    (content : source.Carrier) :
    (convert source target content registry).result = .error (.noConverter source target) := by
  have unserved : serving? source target = none := by
    cases source <;> cases target <;> first | rfl | cases never
  have missing := find_behavior_eq standard isBuiltin (hasValues_of_content content) targetHasValues
  rw [unserved, Option.map_eq_none_iff] at missing
  exact convert_of_found_none missing

/-- Whether a behavior makes a value of the target or says why the given one is invalid. -/
def Reads (behavior : Behavior) (value : Value) (target : TypeKey) : Prop :=
  (∃ made, behavior.convert value target = .ok ⟨target, made⟩) ∨
    ∃ reason, behavior.convert value target = .error (.invalid target reason)

/-- A closure makes its errors out of the reasons that it gives. -/
theorem convert_closure_eq (run : source.Carrier → Except String target.Carrier)
    (content : source.Carrier) :
    (Behavior.closure source target run).convert ⟨source, content⟩ target =
      ((run content).mapError (.invalid target)).map (Value.mk target) := by
  simp only [Behavior.convert, Value.as?_self]
  cases run content <;> rfl

theorem reads_closure {run : source.Carrier → Except String target.Carrier}
    (content : source.Carrier) : Reads (.closure source target run) ⟨source, content⟩ target := by
  rw [Reads, convert_closure_eq]
  cases run content with
  | ok made => exact Or.inl ⟨made, rfl⟩
  | error reason => exact Or.inr ⟨reason, rfl⟩

theorem reads_parseNumber (text : String) (number : isNumber target = true) :
    (∃ made, parseNumber text target = .ok ⟨target, made⟩) ∨
      ∃ reason, parseNumber text target = .error (.invalid target reason) := by
  rw [isNumber_eq] at number
  unfold parseNumber
  cases target with
  | int type =>
      dsimp only
      cases type.read (Text.trim text.toList) with
      | ok made => exact Or.inl ⟨made, rfl⟩
      | error error => exact Or.inr ⟨error.message, rfl⟩
  | float format =>
      dsimp only
      cases format.read (Text.trim text.toList) with
      | ok made => exact Or.inl ⟨made, rfl⟩
      | error error => exact Or.inr ⟨error.message, rfl⟩
  | _ => cases number

theorem reads_stringToNumber (text : String) (number : isNumber target = true) :
    Reads (.rule stringToNumber) ⟨.string, text⟩ target :=
  reads_parseNumber text number

theorem reads_strToNumber (text : String) (number : isNumber target = true) :
    Reads (.rule strToNumber) ⟨.str, text⟩ target :=
  reads_parseNumber text number

theorem reads_anyTextToBool (text : String) : Reads (.rule anyTextToBool) ⟨.str, text⟩ .bool := by
  cases answer : parseBool text with
  | ok made =>
      exact Or.inl ⟨made, by
        simp [Behavior.convert, RuleBody.convert, anyTextToBool, textToBool, text?, answer,
          Except.map]⟩
  | error reason =>
      exact Or.inr ⟨reason, by
        simp [Behavior.convert, RuleBody.convert, anyTextToBool, textToBool, text?, answer,
          Except.map]⟩

theorem convert_of_reads (standard : IsStandard registry) {behavior : Behavior}
    (serving : serving? source target = some behavior) {content : source.Carrier}
    (reads : Reads behavior ⟨source, content⟩ target) :
    (∃ made, (convert source target content registry).result = .ok made) ∨
      ∃ reason, (convert source target content registry).result =
        .error (.invalid target reason) := by
  rcases reads with ⟨made, converted⟩ | ⟨reason, failed⟩
  · exact Or.inl ⟨made, convert_of_serving standard serving converted⟩
  · exact Or.inr ⟨reason, convert_of_serving_error standard serving failed⟩

theorem convert_of_reading (standard : IsStandard registry)
    (reading : coverage source target = .reading) (content : source.Carrier) :
    (∃ made, (convert source target content registry).result = .ok made) ∨
      ∃ reason, (convert source target content registry).result =
        .error (.invalid target reason) := by
  cases source with
  | string =>
      cases target with
      | bool => exact convert_of_reads standard rfl (reads_closure content)
      | char => exact convert_of_reads standard rfl (reads_closure content)
      | int type =>
          have number := isNumber_eq (.int type)
          exact convert_of_reads standard rfl (reads_stringToNumber content number)
      | float format =>
          have number := isNumber_eq (.float format)
          exact convert_of_reads standard rfl (reads_stringToNumber content number)
      | _ => cases reading
  | str =>
      cases target with
      | bool => exact convert_of_reads standard rfl (reads_anyTextToBool content)
      | int type =>
          have number := isNumber_eq (.int type)
          exact convert_of_reads standard rfl (reads_strToNumber content number)
      | float format =>
          have number := isNumber_eq (.float format)
          exact convert_of_reads standard rfl (reads_strToNumber content number)
      | _ => cases reading
  | _ => cases target <;> cases reading

/-! ### Types of the user -/

/-- Every converter that a search can come to is one of those filed or a rule. -/
theorem behavior_of_found (standard : IsStandard registry) {converter : Converter}
    (found : (find source target registry).result = some converter) :
    (∃ key, entryFor? key target = some converter.behavior) ∨
      ∃ body ∈ ruleBodies, converter.behavior = .rule body := by
  have behavior := find_behavior standard source target
  rw [found, Option.map_some, eq_comm, Option.or_eq_some_iff, Option.or_eq_some_iff] at behavior
  rcases behavior with (own | ⟨_, above⟩) | ⟨_, rule⟩
  · exact Or.inl ⟨source, own⟩
  · rcases List.exists_of_findSome?_eq_some above with ⟨key, _, entry⟩
    exact Or.inl ⟨key, entry⟩
  · rcases Option.map_eq_some_iff.mp rule with ⟨body, first, same⟩
    exact Or.inr ⟨body, List.mem_of_find?_eq_some first, same.symm⟩

theorem mismatch_of_entryFor? {key : TypeKey} {behavior : Behavior}
    (entry : entryFor? key target = some behavior) (name text : String) :
    ∃ expected, behavior.convert ⟨.custom name, text⟩ target =
      .error (.sourceMismatch expected) := by
  unfold entryFor? at entry
  split at entry <;> cases entry <;> exact ⟨_, rfl⟩

theorem mismatch_of_rule {body : RuleBody} (isRule : body ∈ ruleBodies) (name text : String) :
    ∃ expected, body.convert ⟨.custom name, text⟩ target = .error (.sourceMismatch expected) := by
  simp only [ruleBodies, List.mem_cons, List.not_mem_nil, or_false] at isRule
  rcases isRule with rfl | rfl | rfl | rfl <;> exact ⟨_, rfl⟩

/-- No value of a user's type is ever converted. -/
theorem convert_custom (standard : IsStandard registry) (name : String) (target : TypeKey)
    (text : String) :
    (convert (.custom name) target text registry).result =
        .error (.noConverter (.custom name) target) ∨
      ∃ expected, (convert (.custom name) target text registry).result =
        .error (.sourceMismatch expected) := by
  cases found : (find (.custom name) target registry).result with
  | none => exact Or.inl (convert_of_found_none found)
  | some converter =>
      right
      rcases behavior_of_found standard found with ⟨key, entry⟩ | ⟨body, isRule, behavior⟩
      · rcases mismatch_of_entryFor? entry name text with ⟨expected, mismatch⟩
        exact ⟨expected, convert_of_failed found mismatch⟩
      · rcases mismatch_of_rule isRule name text with ⟨expected, mismatch⟩
        refine ⟨expected, convert_of_failed found ?_⟩
        rw [Converter.convert, behavior]
        exact mismatch

/-- What there is to say of all values on a registry with the two built-in registrars, over any
hierarchy in which none of the built-in types was declared. -/
theorem convert_covers (builder : Builder) (serial : Nat)
    (registrars : builder.registrars = [primitives, rules])
    (undeclared : ∀ key, key.IsBuiltin = true →
      (builder.assemble serial).types.isDeclared key = false) :
    let built := builder.build serial
    built.result = .ok () ∧
      (∀ source target (content : source.Carrier), source.IsBuiltin = true →
        target.HasValues = true →
        let answer := (convert source target content built.registry).result
        match coverage source target with
        | .always => ∃ made, answer = .ok made
        | .reading => (∃ made, answer = .ok made) ∨
            ∃ reason, answer = .error (.invalid target reason)
        | .never => answer = .error (.noConverter source target)) ∧
      ∀ name target text,
        let answer := (convert (.custom name) target text built.registry).result
        answer = .error (.noConverter (.custom name) target) ∨
          ∃ expected, answer = .error (.sourceMismatch expected) := by
  intro built
  rcases isStandard_of_areBuiltin (Or.inl registrars) undeclared with ⟨succeeded, standard⟩
  refine ⟨succeeded, ?_, convert_custom standard⟩
  intro source target content isBuiltin hasValues
  cases covered : coverage source target with
  | always => exact convert_of_always standard covered content
  | reading => exact convert_of_reading standard covered content
  | never => exact convert_of_never standard isBuiltin hasValues covered content

/-- A type of the user that stands below two built-in interfaces. -/
def priceBuilder : Builder where
  declarations := [((Declaration.of (.custom "Price")).extending .number).implementing .text]
  registrars := [primitives, rules]

theorem convert_covers_price :
    let registry := (priceBuilder.build 0).registry
    (∃ made, (convert .bool .string true registry).result = .ok made) ∧
      (convert .bool .char true registry).result = .error (.noConverter .bool .char) ∧
      ((convert (.custom "Price") .string "3" registry).result =
          .error (.noConverter (.custom "Price") .string) ∨
        ∃ expected, (convert (.custom "Price") .string "3" registry).result =
          .error (.sourceMismatch expected)) := by
  intro registry
  have undeclared : ∀ key : TypeKey, key.IsBuiltin = true →
      (priceBuilder.assemble 0).types.isDeclared key = false := by
    intro key isBuiltin
    cases key with
    | custom name => cases isBuiltin
    | abstract name => cases isBuiltin
    | _ => rfl
  rcases convert_covers priceBuilder 0 rfl undeclared with ⟨_, covered, custom⟩
  exact ⟨covered .bool .string true rfl rfl, covered .bool .char true rfl rfl,
    custom "Price" .string "3"⟩

end Conversion.Builtin
