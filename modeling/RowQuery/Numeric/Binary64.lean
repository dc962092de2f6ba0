/-!
Floating-point numbers of 64 bits, taken exactly. The finite magnitudes are numbered in ascending
order from zero, so a finite number is a sign and a rank, comparing numbers is comparing ranks, and
rounding is finding the rank of the nearest magnitude, the even one of two equally near.
-/

namespace RowQuery.Numeric

-- Powers of natural numbers are the core library's own, whatever is imported besides.
attribute [local instance (high)] instPowNat

/-- The number of finite magnitudes. -/
def rankLimit : Nat := 2047 * 2 ^ (52 : Nat)

/-- A floating-point number of 64 bits. -/
inductive Binary64 where
  /-- No number. -/
  | nan
  /-- An infinity. -/
  | infinite (negative : Bool)
  /-- The finite number whose magnitude has the given rank. -/
  | finite (negative : Bool) (rank : Nat) (inRange : rank < rankLimit)
deriving DecidableEq

namespace Binary64

/-- A finite magnitude is `significand rank * 2 ^ exponent rank`. -/
def significand (rank : Nat) : Nat := if rank < 2 ^ (52 : Nat) then rank else 2 ^ (52 : Nat) + rank % 2 ^ (52 : Nat)

/-- The power of two of a finite magnitude. -/
def exponent (rank : Nat) : Int := if rank < 2 ^ (52 : Nat) then -1074 else (rank / 2 ^ (52 : Nat) : Nat) - 1075

/-- The magnitude as a quotient of natural numbers. -/
def quotient (rank : Nat) : Nat × Nat :=
  let e := exponent rank
  (significand rank * 2 ^ e.toNat, 2 ^ (-e).toNat)

/-- The position on the line of numbers: equal numbers have equal keys, and smaller ones smaller. -/
def key? : Binary64 → Option Int
  | nan => none
  | infinite negative => some (if negative then -(rankLimit : Int) else rankLimit)
  | finite negative rank _ => some (if negative then -(rank : Int) else rank)

/-- How two numbers compare; nothing compares with `nan`. -/
def compare? (a b : Binary64) : Option Ordering := do return compare (← a.key?) (← b.key?)

/-- Whether two numbers are equal; both zeros are, and `nan` equals nothing. -/
def equal (a b : Binary64) : Bool := a.compare? b == some .eq

/-- Whether the number is finite. -/
def isFinite : Binary64 → Bool
  | finite .. => true
  | _ => false

/-- The number with the sign set as given. -/
def withSign (negative : Bool) : Binary64 → Binary64
  | nan => nan
  | infinite _ => infinite negative
  | finite _ rank h => finite negative rank h

/-- The integer nearest to `num / den`; of two equally near the even one. -/
def nearest (num den : Nat) : Nat :=
  let q := num / den
  match compare (2 * (num % den)) den with
  | .lt => q
  | .gt => q + 1
  | .eq => q + q % 2

/-- The power of two at which `num / den` has a significand of 53 bits, or the least power. -/
def scale (num den : Nat) : Int :=
  let q : Int := (num.log2 : Int) - den.log2 - 53
  let q := if den * 2 ^ (53 : Nat) * 2 ^ q.toNat ≤ num * 2 ^ (-q).toNat then q + 1 else q
  max q (-1074)

/-- The number of the given rank, or an infinity beyond the last finite one. -/
def ofRank (negative : Bool) (rank : Nat) : Binary64 :=
  if h : rank < rankLimit then finite negative rank h else infinite negative

/-- The number nearest to `num / den`, for a `den` above zero. -/
def ofQuotient (negative : Bool) (num den : Nat) : Binary64 :=
  if num = 0 then ofRank negative 0
  else
    let q := scale num den
    let m := nearest (num * 2 ^ (-q).toNat) (den * 2 ^ q.toNat)
    ofRank negative ((q + 1074).toNat * 2 ^ (52 : Nat) + m)

/-- The number nearest to an integer. -/
def ofInt (n : Int) : Binary64 := ofQuotient (n < 0) n.natAbs 1

/-- The number nearest to `digits * 10 ^ power`. Powers that are certain to leave the range on
either side are not computed. -/
def ofDecimal (negative : Bool) (digits : Nat) (power : Int) : Binary64 :=
  let top := (Nat.toDigits 10 digits).length + power
  if digits = 0 || top < -400 then ofRank negative 0
  else if 400 < top then infinite negative
  else ofQuotient negative (digits * 10 ^ power.toNat) (10 ^ (-power).toNat)

/-- The product of two magnitudes, rounded once. -/
def mulRanks (r s : Nat) : Binary64 :=
  let (n₁, d₁) := quotient r
  let (n₂, d₂) := quotient s
  ofQuotient false (n₁ * n₂) (d₁ * d₂)

/-- The quotient of two magnitudes, rounded once; the second one is above zero. -/
def divRanks (r s : Nat) : Binary64 :=
  let (n₁, d₁) := quotient r
  let (n₂, d₂) := quotient s
  ofQuotient false (n₁ * d₂) (d₁ * n₂)

end Binary64

end RowQuery.Numeric
