import TabularAudit.Expr.Normal
import TabularAudit.Expr.Token

/-!
What of an expression text stands outside of its strings and its parentheses, told from the characters alone.
-/

namespace TabularAudit.Expr

/-- The text without the contents of its strings, each of which leaves its opening quote. None if a quote stays
open. -/
def unquoted? : Place → List Char → Option (List Char)
  | .outside _, [] => some []
  | _, [] => none
  | .inside quote, c :: cs =>
    let state :=
      if c = '\\' then .escaped quote else if c = quote then .outside false else .inside quote
    unquoted? state cs
  | .escaped quote, _ :: cs => unquoted? (.inside quote) cs
  | .outside gap, c :: cs => (unquoted? (if isQuote c then .inside c else .outside gap) cs).map (c :: ·)

def unquotedText : Place → List Char → List Char
  | _, [] => []
  | .inside quote, c :: cs =>
    let state :=
      if c = '\\' then .escaped quote else if c = quote then .outside false else .inside quote
    unquotedText state cs
  | .escaped quote, _ :: cs => unquotedText (.inside quote) cs
  | .outside gap, c :: cs => c :: unquotedText (if isQuote c then .inside c else .outside gap) cs

structure IsTidy (cs : List Char) : Prop where
  undoubled : ∀ c ∈ ['&', '|', ' '], ¬[c, c] <:+: cs
  spaces : ∀ c ∈ cs, Text.isBlank c = true → c = ' '

/-- A text in normal form is tidy outside of its strings, up to the first quote that stays open, and has no blank at
its ends. -/
structure IsNormal (cs : List Char) : Prop where
  tidy : IsTidy (unquotedText (.outside false) cs)
  ends : ∀ c, cs.head? = some c ∨ cs.getLast? = some c → Text.isBlank c = false

/-- The characters of depth zero, where each group leaves its opening parenthesis. None if a parenthesis stays open
or closes nothing. -/
def ungrouped? : (depth : Nat) → List Char → Option (List Char)
  | depth, [] => if depth = 0 then some [] else none
  | depth, c :: cs =>
    let rest :=
      if c = '(' then ungrouped? (depth + 1) cs
      else if c = ')' then if depth = 0 then none else ungrouped? (depth - 1) cs
      else ungrouped? depth cs
    if depth = 0 then rest.map (c :: ·) else rest

def surface? (s : String) : Option (List Char) := (unquoted? (.outside false) s.toList).bind (ungrouped? 0)

/-- The words of a text; `inWord` holds behind a character of a word. Digits in front of a letter are no part of its
word. -/
def words : (inWord : Bool) → List Char → List String
  | _, [] => []
  | inWord, c :: cs =>
    if inWord && isWordChar c then words true cs
    else if isWordStart c then String.ofList (c :: cs.takeWhile isWordChar) :: words true cs
    else words false cs

def numerals : (inWord : Bool) → List Char → List (List Char)
  | _, [] => []
  | inWord, c :: cs =>
    if inWord && isWordChar c then numerals true cs
    else if Text.isDecimal c then (c :: cs).takeWhile Text.isDecimal :: numerals false cs
    else numerals (isWordStart c) cs

def HasShortNumerals (cs : List Char) : Prop := ∀ digits ∈ numerals false cs, digits.length ≤ Numeral.maxDigits

instance (cs : List Char) : Decidable (HasShortNumerals cs) :=
  inferInstanceAs (Decidable (∀ digits ∈ numerals false cs, digits.length ≤ Numeral.maxDigits))

structure IsUnbroken (cs : List Char) : Prop where
  comma : ',' ∉ cs
  signs : ¬['&', '&'] <:+: cs ∧ ¬['|', '|'] <:+: cs
  words : ∀ w ∈ words false cs, Text.lower w ≠ "and" ∧ Text.lower w ≠ "or"

def beginsNegated (s : String) : Bool :=
  let cs := Text.stripStart s.toList
  cs.head? == some '!' || Text.lower (String.ofList (cs.takeWhile isWordChar)) == "not"

def signChars : List Char := ['-', '&', '|', '=', '<', '>', '!', '(', ')', '.', ',']

def isForeign (c : Char) : Bool :=
  !(Text.isBlank c || isQuote c || Text.isDecimal c || isWordStart c || signChars.contains c)

def isOutcast (c : Char) : Bool :=
  if Text.isDigit c then !Text.isDecimal c else Text.isLetter c && !isWordStart c

end TabularAudit.Expr
