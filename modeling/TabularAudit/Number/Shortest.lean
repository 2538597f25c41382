import TabularAudit.Number.Binary64

/-! The shortest decimal that reads back as the same floating-point number. -/

namespace TabularAudit.Binary64

/-- A positive number as a fraction, four times over, between the bounds of what rounds to it. -/
structure Span where
  low : Nat
  value : Nat
  high : Nat
  den : Nat
  closed : Bool

/-- The gap below a power of two is half as wide as the gap above it. -/
def span (m : Nat) (e : Int) : Span :=
  let scale := pow2 e.toNat
  let below := if m = pow2 52 ∧ leastExponent < e then 1 else 2
  ⟨(4 * m - below) * scale, 4 * m * scale, (4 * m + 2) * scale, 4 * pow2 (-e).toNat, m % 2 = 0⟩

def Span.holds (s : Span) (num den : Nat) : Bool :=
  if s.closed then s.low * den ≤ num * s.den && num * s.den ≤ s.high * den
  else s.low * den < num * s.den && num * s.den < s.high * den

def atLeastPower (num den : Nat) (p : Int) : Bool := den * pow10 p.toNat ≤ num * pow10 (-p).toNat

def pointPlace (s : Span) (m : Nat) (e : Int) : Int :=
  let p := Int.fdiv (((m.log2 : Int) + e) * 30103) 100000 + 1
  if atLeastPower s.value s.den p then p + 1
  else if atLeastPower s.value s.den (p - 1) then p
  else p - 1

/-- The one or two neighbours on the grid of steps `10 ^ place` that round to the number, the nearer
first. -/
def onGrid? (s : Span) (place : Int) : Option Nat :=
  let unit := pow10 place.toNat
  let scale := pow10 (-place).toNat
  let below := s.value * scale / (s.den * unit)
  let holds (k : Nat) := s.holds (k * unit) scale
  let twice := 2 * (s.value * scale)
  let middle := (2 * below + 1) * (s.den * unit)
  match holds below, holds (below + 1) with
  | true, false => some below
  | false, true => some (below + 1)
  | true, true =>
      some (if twice < middle ∨ (twice = middle ∧ below % 2 = 0) then below else below + 1)
  | false, false => none

def shortestFrom (s : Span) (point : Int) : (left count : Nat) → Nat × Nat
  | 0, count =>
      (s.value * pow10 ((count : Int) - point).toNat / (s.den * pow10 (point - count).toNat), count)
  | left + 1, count =>
    match onGrid? s (point - count) with
    | some k => (k, count)
    | none => shortestFrom s point left (count + 1)

/-- Trailing zeros arise when the nearest grid point is the next power of ten. -/
def shortest (m : Nat) (e : Int) : List Char × Int :=
  let s := span m e
  let point := pointPlace s m e
  let (k, count) := shortestFrom s point 17 1
  let digits := Nat.toDigits 10 k
  ((digits.reverse.dropWhile (· = '0')).reverse, point + ((digits.length : Int) - count))

def exponentText (n : Int) : List Char :=
  let digits := Nat.toDigits 10 n.natAbs
  'e' :: (if n < 0 then '-' else '+') :: (if digits.length < 2 then '0' :: digits else digits)

def pointed : List Char → List Char
  | d :: e :: rest => d :: '.' :: e :: rest
  | digits => digits

/-- Positional from `1e-4` up to sixteen digits before the point, else with an exponent. -/
def layout (digits : List Char) (point : Int) : List Char :=
  if point ≤ -4 ∨ 16 < point then pointed digits ++ exponentText (point - 1)
  else if point ≤ 0 then '0' :: '.' :: List.replicate (-point).toNat '0' ++ digits
  else
    let whole := digits.take point.toNat
    let fraction := digits.drop point.toNat
    whole ++ List.replicate (point.toNat - whole.length) '0' ++
      '.' :: (if fraction.isEmpty then ['0'] else fraction)

def text : Binary64 → String
  | nan => "nan"
  | infinite negative => if negative then "-inf" else "inf"
  | finite negative m e =>
    let body :=
      if m = 0 then ['0', '.', '0'] else let (digits, point) := shortest m e; layout digits point
    String.ofList (if negative then '-' :: body else body)

theorem layout_ne_nil (digits : List Char) (point : Int) : layout digits point ≠ [] := by
  simp only [layout]
  split
  · simp [exponentText]
  · split <;> simp

theorem text_ne_empty (x : Binary64) : x.text ≠ "" := by
  cases x with
  | nan => decide
  | infinite negative => cases negative <;> decide
  | finite negative m e =>
      rw [text, Ne, String.ofList_eq_empty_iff]
      cases negative with
      | true => simp
      | false =>
          simp only [Bool.false_eq_true, if_false]
          split
          · simp
          · exact layout_ne_nil _ _

end TabularAudit.Binary64
