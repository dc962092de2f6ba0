import RowQuery.Text.CodeSet

/-!
White space. A character is blank when it has the Unicode property White_Space (25 characters),
and trimming drops the blanks at the two ends of a text and nothing else.
-/

namespace RowQuery.Text

/-- The characters with the Unicode property White_Space. -/
def blanks : CodeSet :=
  ⟨[0x09, 0x0E, 0x20, 0x21, 0x85, 0x86, 0xA0, 0xA1, 0x1680, 0x1681, 0x2000, 0x200B, 0x2028, 0x202A,
    0x202F, 0x2030, 0x205F, 0x2060, 0x3000, 0x3001]⟩

/-- Whether the character is white space. -/
def isBlank (c : Char) : Bool := blanks.contains c

/-- The text without its leading blanks. -/
def trimLeft (cs : List Char) : List Char := cs.dropWhile isBlank

/-- The text without its trailing blanks. -/
def trimRight (cs : List Char) : List Char := (cs.reverse.dropWhile isBlank).reverse

/-- The text without the blanks at either end. -/
def trim (cs : List Char) : List Char := trimRight (trimLeft cs)

/-- The string without the blanks at either end. -/
def trimmed (s : String) : String := String.ofList (trim s.toList)

theorem trim_nil : trim [] = [] := rfl

example : trim [' ', 'a', ' ', 'b', '\u3000'] = ['a', ' ', 'b'] := by decide

end RowQuery.Text
