import RowQuery.Json.Basic
import RowQuery.Numeric.Shortest

/-!
The text of JSON values: compact, without any blank, or indented by two spaces a level. Strings
escape the quote, the backslash and the control characters below the space, and nothing else.
-/

namespace RowQuery.Json

/-- The written form of one character of a string. -/
def escapeChar (c : Char) : List Char :=
  match c with
  | '"' => ['\\', '"']
  | '\\' => ['\\', '\\']
  | '\x08' => ['\\', 'b']
  | '\x0c' => ['\\', 'f']
  | '\n' => ['\\', 'n']
  | '\r' => ['\\', 'r']
  | '\t' => ['\\', 't']
  | c =>
    if c.toNat < 0x20 then
      let hex := Nat.toDigits 16 c.toNat
      ['\\', 'u'] ++ List.replicate (4 - hex.length) '0' ++ hex
    else [c]

/-- The string between quotes. -/
def stringText (s : String) : String :=
  String.ofList ('"' :: (s.toList.flatMap escapeChar ++ ['"']))

/-- The text of a floating-point number. -/
def floatText : Numeric.Binary64 → String
  | .finite negative rank _ => String.ofList (Numeric.Binary64.literal negative rank)
  | _ => "null"

/-- The pieces with a comma between neighbours. -/
def commas (pieces : List String) : String := ",".intercalate pieces

mutual

/-- The compact text of a value. -/
def compact : Json → String
  | null => "null"
  | bool b => if b then "true" else "false"
  | integer n => Numeric.intText n
  | float x => floatText x
  | string s => stringText s
  | array items => "[" ++ commas (compactItems items) ++ "]"
  | object members => "\x7b" ++ commas (compactMembers members) ++ "\x7d"

/-- The compact texts of a list of values. -/
def compactItems : List Json → List String
  | [] => []
  | value :: rest => compact value :: compactItems rest

/-- The compact texts of an object's members. -/
def compactMembers : List (String × Json) → List String
  | [] => []
  | (key, value) :: rest => (stringText key ++ ":" ++ compact value) :: compactMembers rest

end

/-- A line break and the indentation of a level. -/
def newline (level : Nat) : String := String.ofList ('\n' :: List.replicate (2 * level) ' ')

/-- A bracketed block with one piece a line, or the bare brackets if there is no piece. -/
def block (left right : String) (level : Nat) (pieces : List String) : String :=
  if pieces.isEmpty then left ++ right
  else
    left ++ newline (level + 1) ++ ("," ++ newline (level + 1)).intercalate pieces
      ++ newline level ++ right

mutual

/-- The indented text of a value that stands at the given level. -/
def prettyAt (level : Nat) : Json → String
  | array items => block "[" "]" level (prettyItems (level + 1) items)
  | object members => block "\x7b" "\x7d" level (prettyMembers (level + 1) members)
  | null => "null"
  | bool b => if b then "true" else "false"
  | integer n => Numeric.intText n
  | float x => floatText x
  | string s => stringText s

/-- The indented texts of a list of values. -/
def prettyItems (level : Nat) : List Json → List String
  | [] => []
  | value :: rest => prettyAt level value :: prettyItems level rest

/-- The indented texts of an object's members. -/
def prettyMembers (level : Nat) : List (String × Json) → List String
  | [] => []
  | (key, value) :: rest =>
    (stringText key ++ ": " ++ prettyAt level value) :: prettyMembers level rest

end

/-- The indented text of a value. -/
def pretty (value : Json) : String := prettyAt 0 value

end RowQuery.Json
