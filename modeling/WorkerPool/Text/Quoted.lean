/-
  Quoted text: how a text stands in a dump of a value.

  The text is put in double quotes.  A quote and a backslash get a backslash
  in front, the four common controls are written by letter (`\n`, `\r`, `\t`,
  `\0`), and any other character that would not be seen, or not by itself, is
  written as its code point in braces.

  * `invisible` are the controls, separators, format and private-use
    characters and the fillers; `unassigned` and `combining` have modules of
    their own;
  * `quoted` is the whole text, quotes included.
-/
import WorkerPool.Text.Combining
import WorkerPool.Text.Unassigned

namespace WorkerPool.Text

/-- Ranges of assigned code points that show nothing: controls, separators
    (the plain blank apart), format characters, private use, and the Hangul
    fillers, in ascending order. -/
def invisible : List (Nat × Nat) :=
  [(0x0000, 0x001F), (0x007F, 0x00A0), (0x00AD, 0x00AD), (0x0600, 0x0605),
   (0x061C, 0x061C), (0x06DD, 0x06DD), (0x070F, 0x070F), (0x0890, 0x0891),
   (0x08E2, 0x08E2), (0x115F, 0x1160), (0x1680, 0x1680), (0x180E, 0x180E),
   (0x2000, 0x200F), (0x2028, 0x202F), (0x205F, 0x2064), (0x2066, 0x206F),
   (0x3000, 0x3000), (0x3164, 0x3164), (0xE000, 0xF8FF), (0xFEFF, 0xFEFF),
   (0xFFA0, 0xFFA0), (0xFFF9, 0xFFFB), (0x110BD, 0x110BD), (0x110CD, 0x110CD),
   (0x13430, 0x1343F), (0x1BCA0, 0x1BCA3), (0x1D173, 0x1D17A), (0xE0001, 0xE0001),
   (0xE0020, 0xE007F), (0xF0000, 0xFFFFD), (0x100000, 0x10FFFD)]

/-- Whether a character lies in one of some ranges. -/
def inRanges (c : Char) (ranges : List (Nat × Nat)) : Bool :=
  ranges.any fun (lo, hi) => lo ≤ c.toNat && c.toNat ≤ hi

/-- Whether a character is written by its code point. -/
def isShapeless (c : Char) : Bool :=
  inRanges c invisible || inRanges c combining || inRanges c unassigned

/-- One character of a quoted text. -/
def escape (c : Char) : List Char :=
  match c with
  | '"' => ['\\', '"']
  | '\\' => ['\\', '\\']
  | '\n' => ['\\', 'n']
  | '\r' => ['\\', 'r']
  | '\t' => ['\\', 't']
  | c =>
    if c.toNat = 0 then ['\\', '0']
    else if isShapeless c then
      ['\\', 'u', '\x7b'] ++ Nat.toDigits 16 c.toNat ++ ['\x7d']
    else [c]

/-- A text in double quotes. -/
def quoted (s : String) : String :=
  String.ofList ('"' :: s.toList.flatMap escape ++ ['"'])

end WorkerPool.Text
