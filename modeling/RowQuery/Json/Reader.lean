import RowQuery.Json.Document

/-!
Reading JSON text. A value is read from the front of the text, and what stands behind it is handed
back; blanks are the space, the tab and the two line breaks.
-/

namespace RowQuery.Json

/-- Drops the blanks that may stand between the tokens of a document. -/
def skipBlanks (cs : List Char) : List Char :=
  cs.dropWhile fun c => c = ' ' || c = '\n' || c = '\t' || c = '\r'

/-- Reads four hexadecimal digits. -/
def readUnit? : List Char → Option (Nat × List Char)
  | a :: b :: c :: d :: rest => do
    let a ← Numeric.hexValue? a
    let b ← Numeric.hexValue? b
    let c ← Numeric.hexValue? c
    let d ← Numeric.hexValue? d
    return (((a * 16 + b) * 16 + c) * 16 + d, rest)
  | _ => none

/-- The character that a letter behind a backslash stands for. -/
def unescape? : Char → Option Char
  | '"' => some '"'
  | '\\' => some '\\'
  | '/' => some '/'
  | 'b' => some '\x08'
  | 'f' => some '\x0c'
  | 'n' => some '\n'
  | 'r' => some '\r'
  | 't' => some '\t'
  | _ => none

/-- A piece of a string: a character or a 16-bit unit written by its number. -/
inductive Piece where
  | char (c : Char)
  | unit (n : Nat)

/-- Reads the pieces of a string up to its closing quote. -/
def readPieces? (fuel : Nat) (cs : List Char) : Option (List Piece × List Char) :=
  match fuel, cs with
  | 0, _ => none
  | _, [] => none
  | _, '"' :: rest => some ([], rest)
  | fuel + 1, '\\' :: 'u' :: rest => do
    let (n, rest) ← readUnit? rest
    let (pieces, rest) ← readPieces? fuel rest
    return (.unit n :: pieces, rest)
  | fuel + 1, '\\' :: letter :: rest => do
    let c ← unescape? letter
    let (pieces, rest) ← readPieces? fuel rest
    return (.char c :: pieces, rest)
  | _, ['\\'] => none
  | fuel + 1, c :: rest =>
    if c.toNat < 0x20 then none
    else do
      let (pieces, rest) ← readPieces? fuel rest
      return (.char c :: pieces, rest)

/-- The text that the pieces spell; there is none if half a surrogate pair stands alone. -/
def spell? : List Piece → Option (List Char)
  | [] => some []
  | .char c :: rest => (spell? rest).map (c :: ·)
  | .unit n :: rest =>
    if n < 0xD800 || 0xE000 ≤ n then (spell? rest).map (Char.ofNat n :: ·)
    else
      match rest with
      | .unit m :: rest' =>
        if n < 0xDC00 && 0xDC00 ≤ m && m < 0xE000 then
          (spell? rest').map (Char.ofNat (0x10000 + (n - 0xD800) * 0x400 + (m - 0xDC00)) :: ·)
        else none
      | _ => none

/-- Reads a string whose opening quote has been read. -/
def readString? (cs : List Char) : Option (Option String × List Char) :=
  (readPieces? (cs.length + 1) cs).map fun (pieces, rest) =>
    ((spell? pieces).map String.ofList, rest)

/-- Reads one or more digits. -/
def readDigitRun? (cs : List Char) : Option (List Char × List Char) :=
  let (ds, rest) := cs.span Numeric.isDigit
  if ds.isEmpty then none else some (ds, rest)

/-- Reads the whole part of a number: one zero, or digits that do not begin with one. -/
def readWhole? (cs : List Char) : Option (List Char × List Char) := do
  let (ds, rest) ← readDigitRun? cs
  match ds with
  | '0' :: _ :: _ => none
  | _ => some (ds, rest)

/-- Reads the part of a number behind its point, if there is one. -/
def readFraction? : List Char → Option (Option (List Char) × List Char)
  | '.' :: cs => (readDigitRun? cs).map fun (ds, rest) => (some ds, rest)
  | cs => some (none, cs)

/-- Reads the power of ten of a number, if there is one. -/
def readTenPower? : List Char → Option (Option Int × List Char)
  | c :: cs =>
    if c = 'e' || c = 'E' then do
      let (negative, cs) := match cs with
        | '-' :: rest => (true, rest)
        | '+' :: rest => (false, rest)
        | rest => (false, rest)
      let (ds, rest) ← readDigitRun? cs
      let n : Int := Numeric.digitsValue 0 ds
      return (some (if negative then -n else n), rest)
    else some (none, c :: cs)
  | [] => some (none, [])

/-- Reads a number whose minus sign, if any, has been read. -/
def readNumber? (negative : Bool) (cs : List Char) : Option (Document × List Char) := do
  let (whole, cs) ← readWhole? cs
  let (fraction, cs) ← readFraction? cs
  let (power, cs) ← readTenPower? cs
  let text : NumberText := ⟨negative, whole, fraction, power.getD 0⟩
  return (.ofNumber text (fraction.isNone && power.isNone), cs)

mutual

/-- Reads a value from the front of the text. -/
def readValue? (fuel : Nat) (cs : List Char) : Option (Document × List Char) :=
  match fuel with
  | 0 => none
  | fuel + 1 =>
    match skipBlanks cs with
    | 'n' :: 'u' :: 'l' :: 'l' :: rest => some (.null, rest)
    | 't' :: 'r' :: 'u' :: 'e' :: rest => some (.bool true, rest)
    | 'f' :: 'a' :: 'l' :: 's' :: 'e' :: rest => some (.bool false, rest)
    | '"' :: rest => (readString? rest).map fun (s, rest) => (.string s, rest)
    | '-' :: rest => readNumber? true rest
    | '[' :: rest =>
      match skipBlanks rest with
      | ']' :: rest => some (.array [], rest)
      | _ => (readItems? fuel rest).map fun (items, rest) => (.array items, rest)
    | '\x7b' :: rest =>
      match skipBlanks rest with
      | '\x7d' :: rest => some (.object [], rest)
      | _ => (readMembers? fuel rest).map fun (members, rest) => (.object members, rest)
    | rest => readNumber? false rest

/-- Reads the items of an array up to its closing bracket; there is at least one. -/
def readItems? (fuel : Nat) (cs : List Char) : Option (List Document × List Char) :=
  match fuel with
  | 0 => none
  | fuel + 1 =>
    match readValue? fuel cs with
    | none => none
    | some (value, rest) =>
      match skipBlanks rest with
      | ']' :: rest => some ([value], rest)
      | ',' :: rest => (readItems? fuel rest).map fun (items, rest) => (value :: items, rest)
      | _ => none

/-- Reads the members of an object up to its closing brace; there is at least one. -/
def readMembers? (fuel : Nat) (cs : List Char) :
    Option (List (Option String × Document) × List Char) :=
  match fuel with
  | 0 => none
  | fuel + 1 =>
    match skipBlanks cs with
    | '"' :: rest =>
      match readString? rest with
      | none => none
      | some (key, rest) =>
        match skipBlanks rest with
        | ':' :: rest =>
          match readValue? fuel rest with
          | none => none
          | some (value, rest) =>
            match skipBlanks rest with
            | '\x7d' :: rest => some ([(key, value)], rest)
            | ',' :: rest =>
              (readMembers? fuel rest).map fun (members, rest) => ((key, value) :: members, rest)
            | _ => none
        | _ => none
    | _ => none

end

/-- Reads a text that is one document and nothing else but blanks. -/
def readDocument? (text : String) : Option Document := do
  let cs := text.toList
  let (document, rest) ← readValue? (2 * cs.length + 2) cs
  if (skipBlanks rest).isEmpty then some document else none

end RowQuery.Json
