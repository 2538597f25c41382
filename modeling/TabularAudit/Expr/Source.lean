import TabularAudit.Expr.Parser
import TabularAudit.Expr.Surface

/-! How tokens lie in the text that they were read from, and how a string is written as one. -/

namespace TabularAudit

def Numeral.Parts.text (p : Numeral.Parts) : List Char :=
  (if p.negative then ['-'] else []) ++ (p.whole ++ if p.fraction.isEmpty then [] else '.' :: p.fraction)

namespace Expr

inductive Lexeme.IsSource : Lexeme → List Char → Prop where
  | word {c : Char} {more : List Char} : isWordStart c = true → (∀ d ∈ more, isWordChar d = true) →
      IsSource (wordLexeme (String.ofList (c :: more))) (c :: more)
  | conjunction : IsSource (.conjunction "&&") ['&', '&']
  | disjunction : IsSource (.disjunction "||") ['|', '|']
  | negation : IsSource (.negation "!") ['!']
  | relation {symbol : String} : symbol ∈ relationSymbols → IsSource (.relation symbol) symbol.toList
  | opening : IsSource .opening ['(']
  | closing : IsSource .closing [')']
  | dot : IsSource .dot ['.']
  | comma : IsSource .comma [',']
  | number {p : Numeral.Parts} : p.whole ≠ [] → (∀ d ∈ p.whole ++ p.fraction, Text.isDecimal d = true) →
      IsSource (.number (if p.fraction.isEmpty then .int p.toInt else .float p.toFloat)) p.text
  | string {quote : Char} {body : List Char} : isQuote quote = true → closingQuote? quote body = some body.length →
      IsSource (.string (String.ofList (unescape body.dropLast))) (quote :: body)
  /-- A single character that begins nothing else. -/
  | unknown {c : Char} : isForeign c = true ∧ isOutcast c = false ∨ c ∈ ['-', '&', '|'] →
      IsSource (.stray (String.ofList [c])) [c]
  | tail {quote : Char} {cs : List Char} : isQuote quote = true → closingQuote? quote cs = none →
      IsSource (.stray (String.ofList (quote :: cs))) (quote :: cs)

def escaped (quote : Char) (cs : List Char) : List Char :=
  cs.flatMap fun c => if c = '\\' ∨ c = quote then ['\\', c] else [c]

def quotedWith (quote : Char) (s : String) : String := String.ofList (quote :: (escaped quote s.toList ++ [quote]))

def Lexeme.isOpen : Lexeme → Bool
  | .stray source => source.toList.head?.any isQuote
  | _ => false

def Token.source (text : List Char) (next : Nat) (t : Token) : List Char :=
  let stretch := (text.drop t.position).take (next - t.position)
  if t.lexeme.isOpen then stretch else Text.stripEnd stretch

def sources (text : List Char) : List Token → List (Token × List Char)
  | [] => []
  | t :: ts => (t, t.source text (position text.length ts)) :: sources text ts

/-- The tokens share the text out among themselves; the end of the text counts as the position behind the last of
them. -/
structure IsCover (text : List Char) (ts : List Token) : Prop where
  rising : (ts.map Token.position ++ [text.length]).Pairwise (· < ·)
  sources : ∀ p ∈ Expr.sources text ts, p.1.lexeme.IsSource p.2
  tail : ∀ t ∈ ts, t.lexeme.isOpen = true →
    t.lexeme = .stray (String.ofList (text.drop t.position)) ∧ ts.getLast? = some t
  /-- Every character that is no blank is part of exactly one token. -/
  once : ∀ i c, text[i]? = some c → Text.isBlank c = false →
    (Expr.sources text ts).countP (fun p => p.1.position ≤ i && i < p.1.position + p.2.length) = 1

end Expr

end TabularAudit
