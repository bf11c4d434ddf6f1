import Conversion.Proofs.Builtin.Reading
import Conversion.Proofs.Registry.Resolution

/-!
# Which texts are truth values

A truth value is read from owned text by a closure that was filed for the pair, and from borrowed
text by a rule for anything assignable to the text interface; the rule would serve owned text as
well, if it were asked. The closure leaves it to its wrapper to make an error out of a reason while
the rule makes the error itself. All of them answer alike (`truth_of_texts`), and what they answer
depends on one word only, which is the text without white space around it and in lower case
(`Means`).
-/

namespace Conversion

namespace Text

variable {char : Char}

theorem bounds_of_isUpper (upper : char.isUpper = true) : 65 ≤ char.toNat ∧ char.toNat ≤ 90 :=
  of_decide_eq_true upper

theorem toNat_toLower (upper : char.isUpper = true) : char.toLower.toNat = char.toNat + 32 := by
  have greatest : char.val.toNat ≤ 90 := (bounds_of_isUpper upper).2
  have lowered : char.toLower = ⟨char.val + 32, _⟩ := dif_pos (of_decide_eq_true upper)
  have shifted : char.toLower.val = char.val + 32 := congrArg Char.val lowered
  change char.toLower.val.toNat = char.val.toNat + 32
  simp only [shifted, UInt32.toNat_add, UInt32.toNat_ofNat]
  omega

theorem toLower_of_not_isUpper (other : ¬char.isUpper = true) : char.toLower = char :=
  dif_neg fun upper => other (decide_eq_true upper)

theorem not_isBlank_of_bounds (least : 65 ≤ char.toNat) (greatest : char.toNat ≤ 122) :
    isBlank char = false := by
  simp [isBlank, blankRanges]
  omega

theorem isBlank_toLower (char : Char) : isBlank char.toLower = isBlank char := by
  by_cases upper : char.isUpper = true
  · have bounds := bounds_of_isUpper upper
    have shifted := toNat_toLower upper
    have before : isBlank char = false := not_isBlank_of_bounds bounds.1 (by omega)
    have after : isBlank char.toLower = false := not_isBlank_of_bounds (by omega) (by omega)
    rw [before, after]
  · rw [toLower_of_not_isUpper upper]

end Text

namespace Builtin

open Conversion.Registry

/-- Whether a text is a word up to white space around it and the case of its ASCII letters. -/
def Means (text word : String) : Prop :=
  ∃ core, Text.Pads text.toList core ∧ Text.IsBare core ∧ word.toList = core.map Char.toLower

variable {registry : Registry} {text other word : String}

theorem means_iff :
    Means text word ↔ word = String.ofList ((Text.trim text.toList).map Char.toLower) := by
  constructor
  · rintro ⟨core, pads, bare, isWord⟩
    rw [Text.trim_eq_iff.mpr ⟨pads, bare⟩, ← isWord, String.ofList_toList]
  · rintro rfl
    obtain ⟨pads, bare⟩ := Text.trim_eq_iff.mp (Eq.refl (Text.trim text.toList))
    exact ⟨_, pads, bare, String.toList_ofList⟩

/-- What reading a truth value from a text answers. -/
def truthOf (text : String) : Except ConvertError Bool :=
  (parseBool text).mapError (.invalid .bool)

theorem parseBool_of_means (means : Means text word) :
    parseBool text =
      if word ∈ trueWords then .ok true
      else if word ∈ falseWords then .ok false
      else .error (Text.quote word ++ " is not a boolean") := by
  rw [means_iff.mp means]
  rfl

theorem truthOf_congr (means : Means text word) (meansToo : Means other word) :
    truthOf other = truthOf text := by
  rw [truthOf, truthOf, parseBool_of_means means, parseBool_of_means meansToo]

theorem truthOf_eq_ok_true_iff (means : Means text word) :
    truthOf text = .ok true ↔ word ∈ trueWords := by
  rw [truthOf, parseBool_of_means means]
  split
  · simp [Except.mapError, *]
  · split <;> simp [Except.mapError, *]

theorem truthOf_eq_ok_false_iff (means : Means text word) :
    truthOf text = .ok false ↔ word ∈ falseWords := by
  have apart : ∀ word ∈ trueWords, word ∉ falseWords := by decide
  rw [truthOf, parseBool_of_means means]
  split
  · next isTrue => simp [Except.mapError, apart word isTrue]
  · split <;> simp [Except.mapError, *]

theorem truthOf_cases (means : Means text word) :
    truthOf text = .ok true ∨ truthOf text = .ok false ∨
      truthOf text = .error (.invalid .bool (Text.quote word ++ " is not a boolean")) := by
  rw [truthOf, parseBool_of_means means]
  split
  · exact Or.inl rfl
  · right
    split
    · exact Or.inl rfl
    · exact Or.inr rfl

/-- White space around a text and the case of its letters do not change its word. -/
theorem Means.of_alike {front back : List Char} (means : Means text word)
    (blankFront : ∀ char ∈ front, Text.isBlank char = true)
    (blankBack : ∀ char ∈ back, Text.isBlank char = true)
    (alike : other.toList.map Char.toLower = (front ++ text.toList ++ back).map Char.toLower) :
    Means other word := by
  have sameWord : (Text.trim other.toList).map Char.toLower =
      (Text.trim text.toList).map Char.toLower := by
    calc (Text.trim other.toList).map Char.toLower
        = Text.trim (other.toList.map Char.toLower) := (Text.trim_map Text.isBlank_toLower _).symm
      _ = Text.trim ((front ++ text.toList ++ back).map Char.toLower) := by rw [alike]
      _ = (Text.trim (front ++ text.toList ++ back)).map Char.toLower :=
          Text.trim_map Text.isBlank_toLower _
      _ = (Text.trim text.toList).map Char.toLower := by
          rw [Text.trim_append blankFront blankBack]
  rw [means_iff] at means ⊢
  rw [means, sameWord]

theorem stringToBool_convert (text : String) :
    stringToBool.convert ⟨.string, text⟩ .bool = (truthOf text).map (Value.mk .bool) :=
  @convert_closure_eq .string .bool parseBool text

theorem anyTextToBool_convert {value : Value} (isText : text? value = some text) :
    anyTextToBool.convert value .bool = (truthOf text).map (Value.mk .bool) := by
  simp only [anyTextToBool, RuleBody.convert, textToBool, isText, truthOf]
  cases parseBool text <;> rfl

theorem convert_text_bool (standard : IsStandard registry) (text : String) :
    (convert .string .bool text registry).result = truthOf text ∧
      (convert .str .bool text registry).result = truthOf text := by
  constructor
  · refine convert_of_serving_answer standard rfl ?_
    exact stringToBool_convert text
  · refine convert_of_serving_answer standard rfl ?_
    exact anyTextToBool_convert rfl

/-! ### The converters that lookups find -/

theorem exists_exact_stringToBool (standard : IsStandard registry) :
    ∃ own, (exact .string .bool registry).result = some own ∧ own.behavior = stringToBool := by
  have entry := standard.entries .string .bool
  rwa [entryFor?, Option.map_eq_some_iff] at entry

/-- The rule for texts serves whatever is assignable to the text interface and is no number. -/
theorem exists_byRule_anyTextToBool (standard : IsStandard registry) {source : TypeKey}
    (notNumber : isNumber source = false)
    (assignable : (registry.types.isAssignable source .text).1 = true) :
    ∃ rule, (byRule source .bool registry).result = some rule ∧
      rule.behavior = .rule anyTextToBool := by
  have first : (ruleBodies.find? fun body => (body.canConvert source .bool registry.types).1) =
      some anyTextToBool := by
    simp [ruleBodies, stringToNumber, strToNumber, numberToBool, anyTextToBool,
      RuleBody.canConvert, isNumber_eq .bool, notNumber, assignable]
  have behavior := byRule_behavior standard source .bool
  rwa [first, Option.map_some, Option.map_eq_some_iff] at behavior

theorem isAssignable_text (standard : IsStandard registry) {source : TypeKey}
    (isText : source = .string ∨ source = .str) :
    (registry.types.isAssignable source .text).1 = true := by
  rw [Hierarchy.isAssignable_fst]
  rcases isText with rfl | rfl
  · simp [standard.types.walk_eq .string rfl, chain]
  · simp [standard.types.walk_eq .str rfl, chain]

/-- No entry stands in the way of the rule when borrowed text is read. -/
theorem find_str_bool (standard : IsStandard registry) :
    (find .str .bool registry).result = (byRule .str .bool registry).result := by
  have unfiled : ∀ key ∈ registry.types.declarations.walk .str,
      registry.table.find? key .bool = none := by
    intro key keyMem
    have entry := standard.entries key .bool
    simp only [standard.types.walk_eq .str rfl, chain, List.mem_cons, List.not_mem_nil,
      or_false] at keyMem
    rcases keyMem with rfl | rfl
    · simpa [entryFor?] using entry
    · simpa [entryFor?] using entry
  rw [find_result_eq_or, byAncestor_result, List.findSome?_eq_none_iff.mpr unfiled, Option.none_or]

theorem convert_of_behavior {converter : Converter} {body : RuleBody} (value : Value)
    (target : TypeKey) (behavior : converter.behavior = .rule body) :
    converter.convert value target = body.convert value target := by
  rw [Converter.convert, behavior]
  rfl

/-- A truth value is read alike from owned text by the closure that is filed for it, from borrowed
text by the rule that is found for it, and from either by the rules that a lookup by rules finds.
The answer is true or false if the word of the text is one of four, and else an error that quotes
the word; so it does not depend on white space around the text nor on the case of its letters. -/
theorem truth_of_texts (builder : Builder) (serial : Nat)
    (areBuiltin : AreBuiltin builder.registrars)
    (undeclared : ∀ key, key.IsBuiltin = true →
      (builder.assemble serial).types.isDeclared key = false) :
    let built := builder.build serial
    built.result = .ok () ∧
      ∀ registry, Remembers built.registry registry →
        let answer := fun text : String => (convert .string .bool text registry).result
        (∃ own ownedRule borrowedRule,
          (exact .string .bool registry).result = some own ∧ own.asRule? = none ∧
            (byRule .string .bool registry).result = some ownedRule ∧
            (byRule .str .bool registry).result = some borrowedRule ∧
            (find .str .bool registry).result = some borrowedRule ∧
            ∀ text : String,
              own.convert ⟨.string, text⟩ .bool = (answer text).map (Value.mk .bool) ∧
                ownedRule.convert ⟨.string, text⟩ .bool = (answer text).map (Value.mk .bool) ∧
                borrowedRule.convert ⟨.str, text⟩ .bool = (answer text).map (Value.mk .bool) ∧
                (convert .str .bool text registry).result = answer text) ∧
          (∀ text, ∃ word, Means text word ∧
            (answer text = .ok true ↔ word ∈ ["true", "yes", "on", "1"]) ∧
            (answer text = .ok false ↔ word ∈ ["false", "no", "off", "0"]) ∧
            (answer text = .ok true ∨ answer text = .ok false ∨
              answer text = .error (.invalid .bool (Text.quote word ++ " is not a boolean")))) ∧
          ∀ (text other : String) (front back : List Char),
            (∀ char ∈ front, Text.isBlank char = true) →
            (∀ char ∈ back, Text.isBlank char = true) →
            other.toList.map Char.toLower = (front ++ text.toList ++ back).map Char.toLower →
            answer other = answer text := by
  intro built
  rcases isStandard_of_build serial areBuiltin undeclared with ⟨succeeded, isStandard⟩
  refine ⟨succeeded, ?_⟩
  intro registry remembers answer
  have standard := isStandard registry remembers
  have isAnswer : answer = truthOf := by
    funext text
    exact (convert_text_bool standard text).1
  rw [isAnswer]
  refine ⟨?_, ?_, ?_⟩
  · rcases exists_exact_stringToBool standard with ⟨own, isOwn, closure⟩
    rcases exists_byRule_anyTextToBool standard rfl (isAssignable_text standard (Or.inl rfl)) with
      ⟨ownedRule, forOwned, ownedBody⟩
    rcases exists_byRule_anyTextToBool standard rfl (isAssignable_text standard (Or.inr rfl)) with
      ⟨borrowedRule, forBorrowed, borrowedBody⟩
    have found := (find_str_bool standard).trans forBorrowed
    refine ⟨own, ownedRule, borrowedRule, isOwn, ?_, forOwned, forBorrowed, found, ?_⟩
    · simp [Converter.asRule?, closure, stringToBool]
    · intro text
      have byOwned : text? ⟨.string, text⟩ = some text := rfl
      have byBorrowed : text? ⟨.str, text⟩ = some text := rfl
      rw [convert_of_behavior _ _ ownedBody, convert_of_behavior _ _ borrowedBody,
        anyTextToBool_convert byOwned, anyTextToBool_convert byBorrowed]
      refine ⟨?_, rfl, rfl, (convert_text_bool standard text).2⟩
      rw [Converter.convert, closure]
      exact stringToBool_convert text
  · intro text
    have means : Means text _ := means_iff.mpr rfl
    exact ⟨_, means, truthOf_eq_ok_true_iff means, truthOf_eq_ok_false_iff means,
      truthOf_cases means⟩
  · intro text other front back blankFront blankBack alike
    have means : Means text _ := means_iff.mpr rfl
    exact truthOf_congr means (means.of_alike blankFront blankBack alike)

theorem truth_of_texts_shouted :
    let registry := (rulesFirst.build 0).registry
    let shouted := "\u3000YES\t"
    (convert .string .bool shouted registry).result = .ok true ∧
      (convert .str .bool shouted registry).result = .ok true ∧
      (convert .string .bool "May be" registry).result =
        .error (.invalid .bool "\"may be\" is not a boolean") := by
  intro registry shouted
  rcases truth_of_texts rulesFirst 0 (Or.inr rfl) undeclared_rulesFirst with ⟨_, reads⟩
  rcases reads registry (Remembers.refl registry) with ⟨converters, words, alike⟩
  rcases converters with ⟨_, _, _, _, _, _, _, _, agree⟩
  rcases agree shouted with ⟨_, _, _, borrowed⟩
  have yes : (convert .string .bool "yes" registry).result = .ok true := by
    rcases words "yes" with ⟨word, means, isTrue, _⟩
    obtain rfl : word = "yes" := (means_iff.mp means).trans (by decide +kernel)
    exact isTrue.mpr (by simp)
  have owned := alike "yes" shouted ['\u3000'] ['\t'] (List.forall_mem_singleton.mpr rfl)
    (List.forall_mem_singleton.mpr rfl) (by decide +kernel)
  refine ⟨owned.trans yes, borrowed.trans (owned.trans yes), ?_⟩
  rcases words "May be" with ⟨word, means, isTrue, isFalse, answers⟩
  obtain rfl : word = "may be" := (means_iff.mp means).trans (by decide +kernel)
  have notTrue := mt isTrue.mp (by simp)
  have notFalse := mt isFalse.mp (by simp)
  have quoted : Text.quote "may be" ++ " is not a boolean" = "\"may be\" is not a boolean" := by
    decide +kernel
  rw [← quoted]
  exact (answers.resolve_left notTrue).resolve_left notFalse

end Builtin

end Conversion
