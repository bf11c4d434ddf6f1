import Conversion.Text.Extending
import Conversion.Text.Ignorable
import Conversion.Text.Unprintable

/-!
# Quoted text

A text between double quotes for a diagnostic: the quote and the backslash are escaped, four control
characters have a letter or a zero after the backslash, and any other character that would not show
as itself is written by its code point.
-/

namespace Conversion.Text

/-- The lower-case hexadecimal digits of a number. -/
def hexDigits (number : Nat) : List Char :=
  Nat.toDigits 16 number

/-- A character as its code point in braces. -/
def byCodePoint (char : Char) : List Char :=
  ['\\', 'u', '\x7b'] ++ hexDigits char.toNat ++ ['\x7d']

/-- What stands for a character inside quotes. -/
def escape (char : Char) : List Char :=
  if char = '\x00' then ['\\', '0']
  else if char = '\t' then ['\\', 't']
  else if char = '\r' then ['\\', 'r']
  else if char = '\n' then ['\\', 'n']
  else if char = '\\' then ['\\', '\\']
  else if char = '"' then ['\\', '"']
  else if isCombining char || isUnprintable char || isIgnorable char then byCodePoint char
  else [char]

/-- A text in quotes, as characters. -/
def quoteChars (text : List Char) : List Char :=
  ['"'] ++ text.flatMap escape ++ ['"']

/-- A text in quotes. -/
def quote (text : String) : String :=
  String.ofList (quoteChars text.toList)

/-- A list of texts in brackets, each in quotes. -/
def quoteList (texts : List String) : String :=
  "[" ++ ", ".intercalate (texts.map quote) ++ "]"

end Conversion.Text
