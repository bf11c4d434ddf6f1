/-!
# White space

The characters with the property White_Space, which are twenty-five, and texts trimmed of them at
both ends.
-/

namespace Conversion.Text

/-- The ranges of the white-space characters, by first and last code point. -/
def blankRanges : List (Nat × Nat) :=
  [(0x9, 0xd), (0x20, 0x20), (0x85, 0x85), (0xa0, 0xa0), (0x1680, 0x1680), (0x2000, 0x200a),
    (0x2028, 0x2029), (0x202f, 0x202f), (0x205f, 0x205f), (0x3000, 0x3000)]

/-- Whether a character is white space. -/
def isBlank (char : Char) : Bool :=
  blankRanges.any fun range => range.1 ≤ char.toNat && char.toNat ≤ range.2

/-- The text without the white space at its front. -/
def trimFront (text : List Char) : List Char :=
  text.dropWhile isBlank

/-- The text without the white space at its end. -/
def trimBack (text : List Char) : List Char :=
  (trimFront text.reverse).reverse

/-- The text without white space at either end. -/
def trim (text : List Char) : List Char :=
  trimBack (trimFront text)

theorem not_isBlank_of_isDigit {char : Char} (digit : char.isDigit = true) :
    isBlank char = false := by
  rw [Char.isDigit, Bool.and_eq_true, decide_eq_true_eq, decide_eq_true_eq] at digit
  have least : 48 ≤ char.toNat := digit.1
  have greatest : char.toNat ≤ 57 := digit.2
  simp [isBlank, blankRanges]
  omega

theorem trimFront_eq_self {text : List Char} (solid : ∀ char ∈ text, isBlank char = false) :
    trimFront text = text := by
  cases text with
  | nil => rfl
  | cons first rest => simp [trimFront, solid first]

theorem trim_eq_self {text : List Char} (solid : ∀ char ∈ text, isBlank char = false) :
    trim text = text := by
  have backwards : ∀ char ∈ text.reverse, isBlank char = false := by
    intro char charMem
    exact solid char (List.mem_reverse.mp charMem)
  rw [trim, trimFront_eq_self solid, trimBack, trimFront_eq_self backwards, List.reverse_reverse]

end Conversion.Text
