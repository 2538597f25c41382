/-! Floating-point numbers with 53 binary digits, held exactly. -/

namespace TabularAudit

/-- A finite number is `± m * 2 ^ e`, with `2 ^ 52 ≤ m < 2 ^ 53` unless `e` is the least
exponent. -/
inductive Binary64 where
  | nan
  | infinite (negative : Bool)
  | finite (negative : Bool) (m : Nat) (e : Int)
  deriving DecidableEq, Repr

namespace Binary64

abbrev pow2 (n : Nat) : Nat := Nat.pow 2 n
abbrev pow10 (n : Nat) : Nat := Nat.pow 10 n

def leastExponent : Int := -1074
def greatestExponent : Int := 971

def signed (negative : Bool) (m : Nat) : Int := if negative then -(m : Int) else m

/-- The exponent at which `num / den` has 53 digits before the point, but never below the
least one. -/
def exponentFor (num den : Nat) : Int :=
  let e := max ((num.log2 : Int) - den.log2 - 53) leastExponent
  if num * pow2 (-e).toNat < den * pow2 (53 + e.toNat) then e else e + 1

def roundHalfEven (num den : Nat) : Nat :=
  let q := num / den
  let r := num % den
  if 2 * r < den then q else if den < 2 * r then q + 1 else if q % 2 = 0 then q else q + 1

/-- The number nearest to `± num / den`; of two equally near the one with even last digit. -/
def ofRatio (negative : Bool) (num den : Nat) : Binary64 :=
  if num = 0 then .finite negative 0 leastExponent
  else
    let e := exponentFor num den
    let m := roundHalfEven (num * pow2 (-e).toNat) (den * pow2 e.toNat)
    let (m, e) := if m = pow2 53 then (pow2 52, e + 1) else (m, e)
    if e ≤ greatestExponent then .finite negative m e else .infinite negative

/-- The number nearest to `± digits * 10 ^ exponent`; beyond 400 places it is surely infinite or
zero. -/
def ofDecimal (negative : Bool) (digits : Nat) (exponent : Int) : Binary64 :=
  let places := exponent + (digits.log2 / 4 : Nat)
  if digits = 0 ∨ exponent + digits.log2 < -400 then .finite negative 0 leastExponent
  else if 400 < places then .infinite negative
  else ofRatio negative (digits * pow10 exponent.toNat) (pow10 (-exponent).toNat)

def ofInt? (n : Int) : Option Binary64 :=
  match ofRatio (n < 0) n.natAbs 1 with
  | .infinite _ => none
  | x => some x

def zero : Binary64 := .finite false 0 leastExponent
def one : Binary64 := .finite false (pow2 52) (-52)

def toRat? : Binary64 → Option Rat
  | finite negative m e => some (signed negative m * (2 : Rat) ^ e)
  | _ => none

def compare? : Binary64 → Binary64 → Option Ordering
  | nan, _ | _, nan => none
  | infinite a, infinite b => some (compare b.toNat a.toNat)
  | infinite a, finite .. => some (if a then .lt else .gt)
  | finite .., infinite b => some (if b then .gt else .lt)
  | finite a m e, finite b n f =>
    some (compareOfLessAndEq (signed a m * (2 : Rat) ^ e) (signed b n * (2 : Rat) ^ f))

def isZero : Binary64 → Bool
  | finite _ m _ => m == 0
  | _ => false

def isIntegral : Binary64 → Bool
  | finite _ m e => m % pow2 (-e).toNat == 0
  | _ => false

def truncate (negative : Bool) (m : Nat) (e : Int) : Int :=
  signed negative (m * pow2 e.toNat / pow2 (-e).toNat)

theorem compare?_nan_left (x : Binary64) : compare? nan x = none := by
  cases x <;> rfl

theorem compare?_nan_right (x : Binary64) : compare? x nan = none := by
  cases x <;> rfl

end Binary64

end TabularAudit
