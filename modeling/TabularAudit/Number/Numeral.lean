import TabularAudit.Number.Binary64
import TabularAudit.Text.Blank
import TabularAudit.Text.Digit

/-! Numerals in texts, with decimal digits of any script. -/

namespace TabularAudit.Numeral

/-- Numerals of more digits are not read as integers, and integers of more digits are not written. -/
def maxDigits : Nat := 4300

def text? (n : Int) : Option String := if (toString n.natAbs).length ≤ maxDigits then some (toString n) else none

def fold (digits : List Char) : Nat :=
  digits.foldl (fun n c => 10 * n + (Text.decimalValue? c).getD 0) 0

structure Parts where
  negative : Bool
  whole : List Char
  fraction : List Char

def unsigned? (negative : Bool) (cs : List Char) : Option (Parts × List Char) :=
  let whole := cs.takeWhile Text.isDecimal
  let rest := cs.dropWhile Text.isDecimal
  if whole.isEmpty then none
  else match rest with
    | '.' :: tail =>
      let fraction := tail.takeWhile Text.isDecimal
      if fraction.isEmpty then some (⟨negative, whole, []⟩, rest)
      else some (⟨negative, whole, fraction⟩, tail.dropWhile Text.isDecimal)
    | _ => some (⟨negative, whole, []⟩, rest)

def scan? : List Char → Option (Parts × List Char)
  | '-' :: rest => unsigned? true rest
  | cs => unsigned? false cs

def Parts.toFloat (p : Parts) : Binary64 :=
  .ofDecimal p.negative (fold (p.whole ++ p.fraction)) (-(p.fraction.length : Int))

def Parts.toInt (p : Parts) : Int := if p.negative then -(fold p.whole : Int) else fold p.whole

def whole? (cs : List Char) : Option Parts :=
  match scan? cs with
  | some (parts, []) => some parts
  | _ => none

/-- What may surround a numeral: ASCII spaces and controls, and the blanks of other scripts. -/
def isMargin (c : Char) : Bool :=
  if c.toNat < 127 then c == ' ' || (9 ≤ c.toNat && c.toNat ≤ 13) else Text.isBlank c

def withoutMargin (cs : List Char) : List Char :=
  ((cs.dropWhile isMargin).reverse.dropWhile isMargin).reverse

def digits? : List Char → Option (List Char)
  | [] => none
  | [c] => if Text.isDecimal c then some [c] else none
  | c :: '_' :: rest => if Text.isDecimal c then (digits? rest).map (c :: ·) else none
  | c :: rest => if Text.isDecimal c then (digits? rest).map (c :: ·) else none

def int? (s : String) : Option Int :=
  let (sign, cs) := match withoutMargin s.toList with
    | '-' :: rest => (-1, rest)
    | '+' :: rest => (1, rest)
    | cs => ((1 : Int), cs)
  match digits? cs with
  | some digits => if digits.length ≤ maxDigits then some (sign * fold digits) else none
  | none => none

end TabularAudit.Numeral
