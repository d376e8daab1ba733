/-!
# Blank characters and pieces of texts

The Unicode `White_Space` characters: the controls from tab to return, the space, the next-line
control, the no-break spaces, the Ogham space mark, the spaces from en quad to hair space, the
line and paragraph separators, the medium mathematical space and the ideographic space.
`trim` drops them from both ends of a string. The zero-width no-break space and the
Mongolian vowel separator are not blank.

`split` cuts a text at every occurrence of a character, as `String.splitOn` does with that
character as the separator: two separators in a row leave an empty piece between them.
-/

namespace Courier.Text

/-- Whether a character has the Unicode `White_Space` property. -/
def isBlank (c : Char) : Bool :=
  let n := c.toNat
  (0x09 ≤ n && n ≤ 0x0D) || n == 0x20 || n == 0x85 || n == 0xA0 || n == 0x1680 ||
    (0x2000 ≤ n && n ≤ 0x200A) || n == 0x2028 || n == 0x2029 || n == 0x202F ||
    n == 0x205F || n == 0x3000

/-- A string without its leading and trailing blanks. -/
def trim (s : String) : String :=
  String.ofList ((s.toList.dropWhile isBlank).reverse.dropWhile isBlank).reverse

/-- The pieces of a text between the occurrences of a character. -/
def split (s : String) (c : Char) : List String := (s.toList.splitOn c).map String.ofList

theorem isBlank_of_isWhitespace (c : Char) (h : c.isWhitespace) : isBlank c := by
  simp only [Char.isWhitespace, Bool.or_eq_true, decide_eq_true_eq] at h
  simp only [isBlank, Bool.or_eq_true, Bool.and_eq_true, beq_iff_eq, decide_eq_true_eq]
  rcases h with ((h | h) | h) | h <;> simp [h]

end Courier.Text
