/-!
# Uppercase characters

The characters with the Unicode `Uppercase` property: the uppercase letters and the other
uppercase characters such as the capital Roman numerals and the circled capital letters.
Titlecase letters such as `ǅ` are not uppercase. The table lists runs `(first, count, step)`:
the characters `first + k * step` for `k < count`.
-/

namespace Courier.Text

/-- Runs of uppercase characters. -/
def uppercaseRuns : List (Nat × Nat × Nat) := [
  (0x41, 26, 1), (0xC0, 23, 1), (0xD8, 7, 1), (0x100, 28, 2), (0x139, 8, 2),
  (0x14A, 24, 2), (0x179, 3, 2), (0x181, 2, 1), (0x184, 2, 2), (0x187, 2, 2),
  (0x18A, 2, 1), (0x18E, 4, 1), (0x193, 2, 1), (0x196, 3, 1), (0x19C, 2, 1),
  (0x19F, 2, 1), (0x1A2, 3, 2), (0x1A7, 2, 2), (0x1AC, 2, 2), (0x1AF, 2, 2),
  (0x1B2, 2, 1), (0x1B5, 2, 2), (0x1B8, 1, 1), (0x1BC, 1, 1), (0x1C4, 1, 1),
  (0x1C7, 1, 1), (0x1CA, 1, 1), (0x1CD, 8, 2), (0x1DE, 9, 2), (0x1F1, 1, 1),
  (0x1F4, 2, 2), (0x1F7, 2, 1), (0x1FA, 29, 2), (0x23A, 2, 1), (0x23D, 2, 1),
  (0x241, 2, 2), (0x244, 3, 1), (0x248, 4, 2), (0x370, 2, 2), (0x376, 1, 1),
  (0x37F, 1, 1), (0x386, 2, 2), (0x389, 2, 1), (0x38C, 2, 2), (0x38F, 2, 2),
  (0x392, 16, 1), (0x3A3, 9, 1), (0x3CF, 1, 1), (0x3D2, 3, 1), (0x3D8, 12, 2),
  (0x3F4, 1, 1), (0x3F7, 2, 2), (0x3FA, 1, 1), (0x3FD, 51, 1), (0x460, 17, 2),
  (0x48A, 28, 2), (0x4C1, 7, 2), (0x4D0, 48, 2), (0x531, 38, 1), (0x10A0, 38, 1),
  (0x10C7, 1, 1), (0x10CD, 1, 1), (0x13A0, 86, 1), (0x1C89, 1, 1), (0x1C90, 43, 1),
  (0x1CBD, 3, 1), (0x1E00, 75, 2), (0x1E9E, 49, 2), (0x1F08, 8, 1), (0x1F18, 6, 1),
  (0x1F28, 8, 1), (0x1F38, 8, 1), (0x1F48, 6, 1), (0x1F59, 4, 2), (0x1F68, 8, 1),
  (0x1FB8, 4, 1), (0x1FC8, 4, 1), (0x1FD8, 4, 1), (0x1FE8, 5, 1), (0x1FF8, 4, 1),
  (0x2102, 1, 1), (0x2107, 1, 1), (0x210B, 3, 1), (0x2110, 3, 1), (0x2115, 1, 1),
  (0x2119, 5, 1), (0x2124, 4, 2), (0x212B, 3, 1), (0x2130, 4, 1), (0x213E, 2, 1),
  (0x2145, 1, 1), (0x2160, 16, 1), (0x2183, 1, 1), (0x24B6, 26, 1), (0x2C00, 48, 1),
  (0x2C60, 2, 2), (0x2C63, 2, 1), (0x2C67, 4, 2), (0x2C6E, 3, 1), (0x2C72, 1, 1),
  (0x2C75, 1, 1), (0x2C7E, 3, 1), (0x2C82, 49, 2), (0x2CEB, 2, 2), (0x2CF2, 1, 1),
  (0xA640, 23, 2), (0xA680, 14, 2), (0xA722, 7, 2), (0xA732, 31, 2), (0xA779, 3, 2),
  (0xA77E, 5, 2), (0xA78B, 2, 2), (0xA790, 2, 2), (0xA796, 11, 2), (0xA7AB, 4, 1),
  (0xA7B0, 5, 1), (0xA7B6, 8, 2), (0xA7C5, 3, 1), (0xA7C9, 2, 2), (0xA7CC, 1, 1),
  (0xA7D0, 1, 1), (0xA7D6, 4, 2), (0xA7F5, 1, 1), (0xFF21, 26, 1), (0x10400, 40, 1),
  (0x104B0, 36, 1), (0x10570, 11, 1), (0x1057C, 15, 1), (0x1058C, 7, 1), (0x10594, 2, 1),
  (0x10C80, 51, 1), (0x10D50, 22, 1), (0x118A0, 32, 1), (0x16E40, 32, 1), (0x1D400, 26, 1),
  (0x1D434, 26, 1), (0x1D468, 26, 1), (0x1D49C, 2, 2), (0x1D49F, 1, 1), (0x1D4A2, 1, 1),
  (0x1D4A5, 2, 1), (0x1D4A9, 4, 1), (0x1D4AE, 8, 1), (0x1D4D0, 26, 1), (0x1D504, 2, 1),
  (0x1D507, 4, 1), (0x1D50D, 8, 1), (0x1D516, 7, 1), (0x1D538, 2, 1), (0x1D53B, 4, 1),
  (0x1D540, 5, 1), (0x1D546, 1, 1), (0x1D54A, 7, 1), (0x1D56C, 26, 1), (0x1D5A0, 26, 1),
  (0x1D5D4, 26, 1), (0x1D608, 26, 1), (0x1D63C, 26, 1), (0x1D670, 26, 1), (0x1D6A8, 25, 1),
  (0x1D6E2, 25, 1), (0x1D71C, 25, 1), (0x1D756, 25, 1), (0x1D790, 25, 1), (0x1D7CA, 1, 1),
  (0x1E900, 34, 1), (0x1F130, 26, 1), (0x1F150, 26, 1), (0x1F170, 26, 1)]

/-- Whether a code point lies in a run `(first, count, step)`. -/
def inRun (n : Nat) : Nat × Nat × Nat → Bool
  | (first, count, step) => first ≤ n && n < first + count * step && (n - first) % step == 0

/-- Whether a character has the Unicode `Uppercase` property. -/
def isUppercase (c : Char) : Bool := uppercaseRuns.any (inRun c.toNat)

end Courier.Text
