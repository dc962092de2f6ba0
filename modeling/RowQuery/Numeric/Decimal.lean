import RowQuery.Numeric.Binary64
import RowQuery.Numeric.Integer

/-!
Floating-point numbers as people write them: an optional sign, digits with an optional point among,
before or behind them, an optional power of ten, or one of the words for infinity and no number.
The value is the number nearest to what is written.
-/

namespace RowQuery.Numeric

/-- An unsigned decimal as it is written: the digits, how many of them stand behind the point, and
the power of ten. -/
structure DecimalText where
  digits : List Char
  places : Nat
  power : Int

/-- Reads the power of ten that follows the digits: nothing, or a letter and a signed numeral. -/
def readPower? : List Char → Option Int
  | [] => some 0
  | c :: cs => if c = 'e' || c = 'E' then readSigned? cs else none

/-- Reads an unsigned decimal. At least one digit has to stand before or behind the point. -/
def readDecimal? (cs : List Char) : Option DecimalText :=
  let (whole, rest) := cs.span isDigit
  let (fraction, rest) := match rest with
    | '.' :: behind => behind.span isDigit
    | _ => ([], rest)
  if whole.isEmpty && fraction.isEmpty then none
  else (readPower? rest).map fun power => ⟨whole ++ fraction, fraction.length, power⟩

/-- Whether the text is the given lower-case word in any case. -/
def isWord (word : String) (cs : List Char) : Bool := cs.map Char.toLower == word.toList

/-- Reads an unsigned number. -/
def readMagnitude? (negative : Bool) (cs : List Char) : Option Binary64 :=
  if isWord "nan" cs then some .nan
  else if isWord "inf" cs || isWord "infinity" cs then some (.infinite negative)
  else (readDecimal? cs).map fun d =>
    .ofDecimal negative (digitsValue 0 d.digits) (d.power - d.places)

/-- Reads a number with an optional sign. -/
def readBinary64? : List Char → Option Binary64
  | '-' :: cs => readMagnitude? true cs
  | '+' :: cs => readMagnitude? false cs
  | cs => readMagnitude? false cs

/-- Reads a number from a string. -/
def parseBinary64? (s : String) : Option Binary64 := readBinary64? s.toList

end RowQuery.Numeric
