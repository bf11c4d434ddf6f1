import Conversion.Proofs.Builtin.Coverage
import Conversion.Proofs.Numeric.IntReading

/-!
# Writing and reading back

An integer, a truth value or a character is written by one conversion and read back by another one,
and the two have nothing in common: numbers are written through the interface that they implement
and read by rules, the others by closures that were filed. The text of such a value is read as the
value (`parseNumber_display`, `parseBool_display`, `parseChar_display`), and since lookups leave a
registry standard, this holds for conversions that come one after the other (`text_round_trips`).
-/

namespace Conversion.Builtin

open Conversion.Registry

/-! ### Texts that are read back -/

theorem not_isBlank_of_mem_toString {number : Int} :
    ∀ char ∈ (toString number).toList, Text.isBlank char = false := by
  intro char charMem
  rw [toList_toString, List.mem_append] at charMem
  rcases charMem with sign | digit
  · split at sign
    · rw [List.mem_singleton.mp sign]
      rfl
    · cases sign
  · exact Text.not_isBlank_of_isDigit (isDigit_of_mem_toDigits digit)

theorem parseNumber_display {type : IntType} (number : type.Carrier) :
    parseNumber (TypeKey.display (.int type) number) (.int type) = .ok ⟨.int type, number⟩ := by
  simp only [parseNumber, TypeKey.display, Text.trim_eq_self not_isBlank_of_mem_toString,
    IntType.read_toString]

theorem parseBool_display (truth : Bool) : parseBool (TypeKey.display .bool truth) = .ok truth := by
  cases truth <;> rfl

theorem parseChar_display (char : Char) : parseChar (TypeKey.display .char char) = .ok char := by
  simp [parseChar, TypeKey.display, Char.toString]

/-! ### Conversions there and back -/

variable {registry : Registry} {source target : TypeKey}

theorem convert_closure {run : source.Carrier → Except String target.Carrier}
    {content : source.Carrier} {made : target.Carrier} (answer : run content = .ok made) :
    (Behavior.closure source target run).convert ⟨source, content⟩ target = .ok ⟨target, made⟩ := by
  rw [convert_closure_eq, answer]
  rfl

theorem convert_int_and_back (standard : IsStandard registry) {type : IntType}
    (number : type.Carrier) :
    let text := TypeKey.display (.int type) number
    (convert (.int type) .string number registry).result = .ok text ∧
      (convert .string (.int type) text registry).result = .ok number ∧
      (convert .str (.int type) text registry).result = .ok number := by
  intro text
  have owned : (Behavior.rule stringToNumber).convert ⟨.string, text⟩ (.int type) =
      .ok ⟨.int type, number⟩ := parseNumber_display number
  have borrowed : (Behavior.rule strToNumber).convert ⟨.str, text⟩ (.int type) =
      .ok ⟨.int type, number⟩ := parseNumber_display number
  exact ⟨convert_of_serving standard rfl (convert_number rfl),
    convert_of_serving standard rfl owned, convert_of_serving standard rfl borrowed⟩

theorem convert_bool_and_back (standard : IsStandard registry) (truth : Bool) :
    let text := TypeKey.display .bool truth
    (convert .bool .string truth registry).result = .ok text ∧
      (convert .string .bool text registry).result = .ok truth ∧
      (convert .str .bool text registry).result = .ok truth := by
  intro text
  have read := parseBool_display truth
  refine ⟨convert_of_serving standard rfl rfl,
    convert_of_serving standard rfl (convert_closure read), convert_of_serving standard rfl ?_⟩
  simp [Behavior.convert, RuleBody.convert, anyTextToBool, textToBool, text?, text, read,
    Except.map]

theorem convert_char_and_back (standard : IsStandard registry) (char : Char) :
    let text := TypeKey.display .char char
    (convert .char .string char registry).result = .ok text ∧
      (convert .string .char text registry).result = .ok char := by
  intro text
  have read := parseChar_display char
  exact ⟨convert_of_serving standard rfl rfl,
    convert_of_serving standard rfl (convert_closure read)⟩

/-- Every integer, truth value and character is converted to a text that is converted back to it, on
a registry with the two built-in registrars in either order, beside any types of the user and after
any lookups. -/
theorem text_round_trips (builder : Builder) (serial : Nat)
    (areBuiltin : AreBuiltin builder.registrars)
    (undeclared : ∀ key, key.IsBuiltin = true →
      (builder.assemble serial).types.isDeclared key = false) :
    let built := builder.build serial
    built.result = .ok () ∧
      ∀ registry, Remembers built.registry registry →
        (∀ (type : IntType) (number : type.Carrier),
          let text := TypeKey.display (.int type) number
          (convert (.int type) .string number registry).result = .ok text ∧
            (convert .string (.int type) text registry).result = .ok number ∧
            (convert .str (.int type) text registry).result = .ok number) ∧
        (∀ truth : Bool,
          let text := TypeKey.display .bool truth
          (convert .bool .string truth registry).result = .ok text ∧
            (convert .string .bool text registry).result = .ok truth ∧
            (convert .str .bool text registry).result = .ok truth) ∧
        ∀ char : Char,
          let text := TypeKey.display .char char
          (convert .char .string char registry).result = .ok text ∧
            (convert .string .char text registry).result = .ok char := by
  intro built
  rcases isStandard_of_areBuiltin areBuiltin undeclared with ⟨succeeded, isStandard⟩
  refine ⟨succeeded, ?_⟩
  intro registry remembers
  have standard := isStandard.of_remembers remembers
  refine ⟨?_, convert_bool_and_back standard, convert_char_and_back standard⟩
  intro type number
  exact convert_int_and_back standard number

/-- The rules come first. -/
def rulesFirst : Builder where
  registrars := [rules, primitives]

def widest : IntType :=
  ⟨true, .w128⟩

/-- A value whose magnitude is out of range. -/
def least : widest.Carrier :=
  ⟨-170141183460469231731687303715884105728, by decide⟩

theorem text_round_trips_at_extremes :
    let registry := (rulesFirst.build 0).registry
    let text := "-170141183460469231731687303715884105728"
    (convert (.int widest) .string least registry).result = .ok text ∧
      (convert .string (.int widest) text registry).result = .ok least ∧
      (convert .str (.int widest) text registry).result = .ok least ∧
      (convert .str .bool "false" registry).result = .ok false ∧
      (convert .string .char "\t" registry).result = .ok '\t' := by
  intro registry text
  have undeclared : ∀ key : TypeKey, key.IsBuiltin = true →
      (rulesFirst.assemble 0).types.isDeclared key = false := by
    intro key isBuiltin
    cases key with
    | custom name => cases isBuiltin
    | abstract name => cases isBuiltin
    | _ => rfl
  rcases text_round_trips rulesFirst 0 (Or.inr rfl) undeclared with ⟨_, trips⟩
  rcases trips registry (Remembers.refl registry) with ⟨integers, truths, chars⟩
  have written : TypeKey.display (.int widest) least = text := by
    decide
  have trip := integers widest least
  rw [written] at trip
  exact ⟨trip.1, trip.2.1, trip.2.2, (truths false).2.2, (chars '\t').2⟩

end Conversion.Builtin
