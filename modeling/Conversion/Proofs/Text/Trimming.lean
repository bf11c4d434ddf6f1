import Mathlib.Data.List.DropRight
import Conversion.Text.Blank

/-!
# What trimming leaves

Trimming is defined by dropping characters from both ends. Here its result is found without dropping
any: it is the one text that neither begins nor ends with white space and has the given text around
it (`trim_eq_iff`). So trimming does not see white space that is added at the ends (`trim_append`),
and it may be done before or after a change of characters under which white space stays what it is
(`trim_map`).
-/

namespace Conversion.Text

/-- Whether a text is another one with white space, or nothing, on either side of it. -/
def Pads (text core : List Char) : Prop :=
  ∃ front back, (∀ char ∈ front, isBlank char = true) ∧ (∀ char ∈ back, isBlank char = true) ∧
    text = front ++ core ++ back

/-- Whether a text neither begins nor ends with white space. -/
structure IsBare (text : List Char) : Prop where
  first : ∀ char rest, text = char :: rest → isBlank char = false
  last : ∀ front char, text = front ++ [char] → isBlank char = false

variable {text core front back : List Char}

theorem not_isBlank_of_trimFront {char : Char} {rest : List Char}
    (begins : trimFront text = char :: rest) : isBlank char = false := by
  have first := List.head?_dropWhile_not isBlank text
  rwa [← trimFront, begins] at first

theorem pads_trim (text : List Char) : Pads text (trim text) := by
  refine ⟨text.takeWhile isBlank, (trimFront text).rtakeWhile isBlank, ?_, ?_, ?_⟩
  · intro char charMem
    exact List.mem_takeWhile_imp charMem
  · intro char charMem
    exact List.mem_rtakeWhile_imp charMem
  · have atBack : trim text ++ (trimFront text).rtakeWhile isBlank = trimFront text :=
      List.rdropWhile_append_rtakeWhile ..
    rw [List.append_assoc, atBack]
    exact List.takeWhile_append_dropWhile.symm

theorem isBare_trim (text : List Char) : IsBare (trim text) := by
  constructor
  · intro char rest begins
    obtain ⟨behind, isFront⟩ : trim text <+: trimFront text := List.rdropWhile_prefix ..
    have atFront : trimFront text = char :: (rest ++ behind) := by
      simpa [begins] using isFront.symm
    exact not_isBlank_of_trimFront atFront
  · intro front char ends
    have atFront : trimFront (trimFront text).reverse = char :: front.reverse := by
      simpa [trim, trimBack] using congrArg List.reverse ends
    exact not_isBlank_of_trimFront atFront

theorem trimFront_append (blank : ∀ char ∈ front, isBlank char = true) :
    trimFront (front ++ text) = trimFront text :=
  List.dropWhile_append_of_pos blank

theorem trimFront_eq_self_of_first
    (first : ∀ char rest, text = char :: rest → isBlank char = false) : trimFront text = text := by
  cases text with
  | nil => rfl
  | cons char rest => simp [trimFront, first char rest rfl]

/-- White space around a text that has none at its own ends is all that is trimmed. -/
theorem trim_of_pads (pads : Pads text core) (bare : IsBare core) : trim text = core := by
  rcases pads with ⟨front, back, blankFront, blankBack, rfl⟩
  have blankBackwards : ∀ char ∈ back.reverse, isBlank char = true := by
    simpa using blankBack
  have endBackwards : ∀ char rest, core.reverse = char :: rest → isBlank char = false := by
    intro char rest backwards
    apply bare.last rest.reverse
    simpa using congrArg List.reverse backwards
  have atBack : trimBack (core ++ back) = core := by
    simp [trimBack, trimFront_append blankBackwards, trimFront_eq_self_of_first endBackwards]
  cases core with
  | nil =>
      have nothing : trimFront (front ++ [] ++ back) = [] := by
        simpa [trimFront, or_imp, forall_and] using ⟨blankFront, blankBack⟩
      rw [trim, nothing]
      rfl
  | cons char rest =>
      have unblank := bare.first char rest rfl
      have atFront : trimFront (front ++ (char :: rest) ++ back) = (char :: rest) ++ back := by
        rw [List.append_assoc, trimFront_append blankFront]
        simp [trimFront, unblank]
      rw [trim, atFront, atBack]

theorem trim_eq_iff : trim text = core ↔ Pads text core ∧ IsBare core := by
  constructor
  · rintro rfl
    exact ⟨pads_trim text, isBare_trim text⟩
  · rintro ⟨pads, bare⟩
    exact trim_of_pads pads bare

theorem trim_append (blankFront : ∀ char ∈ front, isBlank char = true)
    (blankBack : ∀ char ∈ back, isBlank char = true) :
    trim (front ++ text ++ back) = trim text := by
  rcases pads_trim text with ⟨before, behind, blankBefore, blankBehind, around⟩
  apply trim_of_pads _ (isBare_trim text)
  refine ⟨front ++ before, behind ++ back, ?_, ?_, ?_⟩
  · simpa [or_imp, forall_and] using ⟨blankFront, blankBefore⟩
  · simpa [or_imp, forall_and] using ⟨blankBehind, blankBack⟩
  · conv_lhs => rw [around]
    simp

theorem trim_map {change : Char → Char} (keeps : ∀ char, isBlank (change char) = isBlank char)
    (text : List Char) : trim (text.map change) = (trim text).map change := by
  rcases pads_trim text with ⟨before, behind, blankBefore, blankBehind, around⟩
  have bare := isBare_trim text
  apply trim_of_pads
  · refine ⟨before.map change, behind.map change, ?_, ?_, ?_⟩
    · simpa [keeps] using blankBefore
    · simpa [keeps] using blankBehind
    · conv_lhs => rw [around]
      simp
  · constructor
    · intro char rest begins
      obtain ⟨own, others, isTrim, rfl, _⟩ := List.map_eq_cons_iff.mp begins
      simpa [keeps] using bare.first own others isTrim
    · intro front char ends
      obtain ⟨others, final, isTrim, _, isLast⟩ := List.map_eq_append_iff.mp ends
      obtain ⟨own, rfl, rfl⟩ := List.map_eq_singleton_iff.mp isLast
      simpa [keeps] using bare.last others own isTrim

/-- A text without any white space is left when there is nothing else around it. -/
theorem trim_of_pads_of_solid (pads : Pads text core)
    (solid : ∀ char ∈ core, isBlank char = false) : trim text = core := by
  apply trim_of_pads pads
  constructor
  · rintro char rest rfl
    exact solid char (by simp)
  · rintro front char rfl
    exact solid char (by simp)

end Conversion.Text
