import TabularAudit.Text.Blank
import TabularAudit.Text.Case
import TabularAudit.Text.Digit

/-! Search patterns: what they consist of, and which characters their sets hold. -/

namespace TabularAudit.Pattern

inductive Folding where
  | exact
  | ascii
  | full
  deriving DecidableEq, Repr

inductive Category where
  | digit
  | space
  | word
  deriving DecidableEq, Repr

/-- Code points stand for characters, so that a pattern may name one that no text holds. -/
inductive SetItem where
  | one (n : Nat)
  | range (first last : Nat)
  | category (kind : Category) (ascii negated : Bool)
  deriving DecidableEq, Repr

structure CharSet where
  folding : Folding
  negated : Bool
  items : List SetItem
  deriving DecidableEq, Repr

inductive Anchor where
  | textStart
  | lineStart
  | textEnd
  | lastLineEnd
  | lineEnd
  | wordEdge (ascii negated : Bool)
  deriving DecidableEq, Repr

inductive Greed where
  | greedy
  | lazy
  | possessive
  deriving DecidableEq, Repr

/-- A back reference carries the least and greatest width of its group. -/
inductive Pat where
  | set (chars : CharSet)
  | anyChar (lineBreaks : Bool)
  | seq (items : List Pat)
  | alt (items : List Pat)
  | repeated (greed : Greed) (least : Nat) (most : Option Nat) (body : Pat)
  | group (index : Nat) (body : Pat)
  | atomic (body : Pat)
  | look (behind : Option Nat) (negated : Bool) (body : Pat)
  | backref (index : Nat) (folding : Folding) (widths : Nat × Nat)
  | conditional (index : Nat) (yes no : Pat)
  | anchor (a : Anchor)
  deriving Repr, Inhabited

def Pat.empty : Pat := .seq []

def inAscii (n low high : Nat) : Bool := low ≤ n && n ≤ high

def Category.has (kind : Category) (ascii : Bool) (c : Char) : Bool :=
  match kind, ascii with
  | digit, true => Text.isAsciiDigit c
  | digit, false => Text.isDecimal c
  | space, true => c == ' ' || inAscii c.toNat 9 13
  | space, false => Text.isBlank c
  | word, true => Text.isAsciiLetter c || Text.isAsciiDigit c || c == '_'
  | word, false => Text.isAlphanumeric c || c == '_'

def smallAscii (n : Nat) : Nat := if 65 ≤ n && n ≤ 90 then n + 32 else n

def Folding.small (f : Folding) (n : Nat) : Nat :=
  match f with
  | exact => n
  | ascii => smallAscii n
  | full => Text.mapCase Text.lowerRuns n

def siblings (n : Nat) : List Nat := (Text.capitalSequence Text.smallSiblings n).getD []

def preimages (n : Nat) : List Nat :=
  Text.lowerRuns.filterMap fun run =>
    let m := n - run.image + run.first
    if run.image ≤ n ∧ m ≤ run.last ∧ (m - run.first) % run.step = 0 then some m else none

def Folding.family (f : Folding) (n : Nat) : List Nat :=
  match f with
  | exact => [n]
  | ascii => let x := smallAscii n; if 97 ≤ x && x ≤ 122 then [x, x - 32] else [x]
  | full =>
    let x := f.small n
    (x :: siblings x).flatMap fun y => y :: preimages y

def SetItem.has (family : List Nat) (c : Char) : SetItem → Bool
  | one n => family.contains n
  | range first last => family.any fun n => first ≤ n && n ≤ last
  | category kind ascii negated => kind.has ascii c != negated

def CharSet.has (s : CharSet) (c : Char) : Bool :=
  let family := s.folding.family c.toNat
  s.items.any (SetItem.has family c) != s.negated

/-- Widths beyond this count as unbounded. -/
def greatWidth : Nat := Nat.pow 2 64

mutual

def Pat.widths : Pat → Nat × Nat
  | .set _ | .anyChar _ => (1, 1)
  | .seq items => let (low, high) := seqWidths items; (min low greatWidth, min high greatWidth)
  | .alt items => altWidths items
  | .repeated _ least most body =>
    let (low, high) := body.widths
    match most with
    | none => (low * least, if high = 0 then 0 else greatWidth)
    | some n => (low * least, high * n)
  | .group _ body | .atomic body => body.widths
  | .look .. | .anchor _ => (0, 0)
  | .backref _ _ widths => widths
  | .conditional _ yes no => (min yes.widths.1 no.widths.1, max yes.widths.2 no.widths.2)

def seqWidths : List Pat → Nat × Nat
  | [] => (0, 0)
  | p :: rest =>
    let (low, high) := p.widths
    let (lows, highs) := seqWidths rest
    (low + lows, high + highs)

def altWidths : List Pat → Nat × Nat
  | [] => (greatWidth, 0)
  | p :: rest =>
    let (low, high) := p.widths
    let (lows, highs) := altWidths rest
    (min low lows, max high highs)

end

end TabularAudit.Pattern
