import RowQuery.Numeric.Integer
import RowQuery.Params
import RowQuery.Text.Split
import RowQuery.Text.Utf8

/-!
Query strings in the form encoding: name and value with `=` between them, pairs with an ampersand
between them. In a name or value a plus sign means a space, and a percent sign with two hexadecimal
digits a byte; the bytes are read as UTF-8.
-/

namespace RowQuery.Params

/-- The bytes that an encoded name or value means. -/
def decodeBytes : List Char → List UInt8
  | '%' :: a :: b :: rest =>
    match Numeric.hexValue? a, Numeric.hexValue? b with
    | some high, some low => UInt8.ofNat (high * 16 + low) :: decodeBytes rest
    | _, _ => '%'.toUInt8 :: decodeBytes (a :: b :: rest)
  | '+' :: rest => ' '.toUInt8 :: decodeBytes rest
  | c :: rest => String.utf8EncodeChar c ++ decodeBytes rest
  | [] => []

/-- The text that an encoded name or value means. -/
def decode (cs : List Char) : String := String.ofList (Text.decodeUtf8 (decodeBytes cs))

/-- The name and value of a piece of a query string; without `=` the value is empty. -/
def decodePair (piece : List Char) : String × String :=
  match Text.cutAt? '=' piece with
  | some (name, value) => (decode name, decode value)
  | none => (decode piece, "")

/-- The parameters of a query string. A question mark before it and empty pieces do not count. -/
def parse (query : String) : Params :=
  let cs := match query.toList with
    | '?' :: cs => cs
    | cs => cs
  ofPairs (((Text.splitOn '&' cs).filter fun piece => !piece.isEmpty).map decodePair)

end RowQuery.Params
