import RowQuery.Numeric.Binary64
import RowQuery.Numeric.Integer

/-!
Writing floating-point numbers. The digits are the fewest that read back as the same number, of
those the nearest to it; the layouts differ in where the point stands and which way a tie goes.
-/

namespace RowQuery.Numeric

-- Powers of natural numbers are the core library's own, whatever is imported besides.
attribute [local instance (high)] instPowNat

/-- A decimal `digits * 10 ^ power`. -/
structure Decimal where
  digits : Nat
  power : Int
deriving DecidableEq

/-- Which of two equally near decimals is taken. -/
inductive Tie where
  /-- The one with an even last digit. -/
  | even
  /-- The greater one. -/
  | up
deriving DecidableEq

namespace Decimal

/-- Whether the decimal is read as the magnitude of the given rank. -/
def readsAs (d : Decimal) (rank : Nat) : Bool :=
  match Binary64.ofDecimal false d.digits d.power with
  | .finite _ r _ => r == rank
  | _ => false

/-- The decimal without trailing zeros among its digits, which `fuel` bounds. -/
def strip (fuel : Nat) (d : Decimal) : Decimal :=
  match fuel with
  | 0 => d
  | fuel + 1 =>
    if d.digits ≠ 0 && d.digits % 10 = 0 then strip fuel ⟨d.digits / 10, d.power + 1⟩ else d

/-- The power of ten just above `num / den`, for a quotient above zero. -/
def magnitude (num den : Nat) : Int :=
  let k : Int := (Nat.toDigits 10 num).length - (Nat.toDigits 10 den).length
  if den * 10 ^ k.toNat ≤ num * 10 ^ (-k).toNat then k + 1 else k

/-- The decimal on the grid of `10 ^ power` that reads as the magnitude, if there is one: the nearer
of the two neighbours if both do. -/
def onGrid? (tie : Tie) (rank : Nat) (num den : Nat) (power : Int) : Option Decimal :=
  let num := num * 10 ^ (-power).toNat
  let den := den * 10 ^ power.toNat
  let low : Decimal := ⟨num / den, power⟩
  let high : Decimal := ⟨num / den + 1, power⟩
  match low.readsAs rank, high.readsAs rank with
  | true, false => some low
  | false, true => some high
  | false, false => none
  | true, true =>
    some <| match compare (2 * (num % den)) den with
      | .lt => low
      | .gt => high
      | .eq => if tie = .up || low.digits % 2 = 1 then high else low

/-- The shortest decimal that reads as the magnitude of the given rank. Seventeen digits are enough;
the exact value stands behind them. -/
def shortest (tie : Tie) (rank : Nat) : Decimal :=
  if rank = 0 then ⟨0, 0⟩
  else
    let (num, den) := Binary64.quotient rank
    let top := magnitude num den
    let found := (List.range 17).findSome? fun (n : Nat) =>
      onGrid? tie rank num den (top - 1 - (n : Int))
    match found with
    | some d => strip 17 d
    | none =>
      let e := Binary64.exponent rank
      let m := Binary64.significand rank
      ⟨m * 2 ^ e.toNat * 5 ^ (-e).toNat, min e 0⟩

/-- The digits with the point set, and nothing behind the point if no digit stands there. -/
def positional (d : Decimal) : List Char :=
  let ds := natDigits d.digits
  if 0 ≤ d.power then ds ++ List.replicate d.power.toNat '0'
  else
    let places := (-d.power).toNat
    let ds := List.replicate (places + 1 - ds.length) '0' ++ ds
    ds.take (ds.length - places) ++ '.' :: ds.drop (ds.length - places)

/-- The power of ten of the leading digit. -/
def leading (d : Decimal) : Int := (natDigits d.digits).length - 1 + d.power

/-- One digit before the point and a signed power of ten. -/
def scientific (d : Decimal) : List Char :=
  let mantissa := match natDigits d.digits with
    | [] => []
    | [c] => [c]
    | c :: cs => c :: '.' :: cs
  mantissa ++ 'e' :: (if d.leading < 0 then '-' else '+') :: natDigits d.leading.natAbs

end Decimal

namespace Binary64

/-- The sign of a number in text. -/
def signText (negative : Bool) : List Char := if negative then ['-'] else []

/-- The plain text of a number: never an exponent, and no point in a whole number. -/
def plain : Binary64 → List Char
  | nan => ['N', 'a', 'N']
  | infinite negative => signText negative ++ ['i', 'n', 'f']
  | finite negative rank _ => signText negative ++ (Decimal.shortest .up rank).positional

/-- The plain text of a number, as a string. -/
def plainText (x : Binary64) : String := String.ofList x.plain

/-- The text of a finite magnitude that shows it to be floating-point: a whole number gets `.0`, and
an exponent is written where the leading digit is at 10¹⁶ or above, or at 10⁻⁶ or below. -/
def literal (negative : Bool) (rank : Nat) : List Char :=
  let d := Decimal.shortest .even rank
  let body :=
    if -5 ≤ d.leading && d.leading < 16 then
      if 0 ≤ d.power then d.positional ++ ['.', '0'] else d.positional
    else d.scientific
  signText negative ++ body

end Binary64

end RowQuery.Numeric
