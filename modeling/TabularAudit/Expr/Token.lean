import TabularAudit.Text.Digit
import TabularAudit.Number.Numeral
import TabularAudit.Value.Text

/-! Tokens of rule expressions. -/

namespace TabularAudit.Expr

/-- The words and signs of the boolean operators keep their spelling; `stray` is what starts no
token. -/
inductive Lexeme where
  | word (w : String)
  | string (value : String)
  | number (value : Value)
  | relation (symbol : String)
  | conjunction (spelling : String)
  | disjunction (spelling : String)
  | negation (spelling : String)
  | opening
  | closing
  | dot
  | comma
  | stray (source : String)
  deriving Repr, DecidableEq

structure Token where
  lexeme : Lexeme
  position : Nat
  deriving Repr, DecidableEq

/-- A minus sign after these begins a number. -/
def Lexeme.expectsValue : Lexeme → Bool
  | relation _ | conjunction _ | disjunction _ | negation _ | opening | comma => true
  | _ => false

def isQuote (c : Char) : Bool := c == '"' || c == '\''

def closingQuote? (quote : Char) : List Char → Option Nat
  | [] => none
  | ['\\'] => none
  | '\\' :: _ :: cs => (closingQuote? quote cs).map (· + 2)
  | c :: cs => if c = quote then some 1 else (closingQuote? quote cs).map (· + 1)

/-- Only quotes and backslashes are escaped; any other backslash stands for itself. -/
def unescape : List Char → List Char
  | [] => []
  | ['\\'] => ['\\']
  | '\\' :: c :: cs =>
      if isQuote c || c == '\\' then c :: unescape cs else '\\' :: unescape (c :: cs)
  | c :: cs => c :: unescape cs

def isWordStart (c : Char) : Bool := Text.isAsciiLetter c || c == '_'

def isWordChar (c : Char) : Bool := isWordStart c || Text.isAsciiDigit c

/-- Longer symbols come before their beginnings. -/
def relationSymbols : List String := ["==", "!=", "<>", ">=", "<=", "=", ">", "<"]

def relationAt? (cs : List Char) : Option String :=
  relationSymbols.find? fun symbol => symbol.toList.isPrefixOf cs

def wordLexeme (w : String) : Lexeme :=
  match Text.lower w with
  | "and" => .conjunction w
  | "or" => .disjunction w
  | "not" => .negation w
  | _ => .word w

def startsNumber (sign : Bool) : List Char → Bool
  | '-' :: c :: _ => sign && Text.isDigit c
  | c :: _ => Text.isDigit c
  | [] => false

/-- A whole number of too many digits is refused. -/
def numberAt (cs : List Char) : Except Fault (Lexeme × Nat) :=
  match Numeral.scan? cs with
  | none => .error .foreignCharacter
  | some (parts, rest) =>
    let value := if parts.fraction.isEmpty then Value.int parts.toInt else .float parts.toFloat
    if parts.fraction.isEmpty && Numeral.maxDigits < parts.whole.length then .error .badNumeral
    else .ok (.number value, cs.length - rest.length)

def stringAt (quote : Char) (cs : List Char) : Lexeme × Nat :=
  match closingQuote? quote cs with
  | some n => (.string (String.ofList (unescape (cs.take (n - 1)))), n + 1)
  | none => (.stray (String.ofList (quote :: cs)), cs.length + 1)

def wordAt (cs : List Char) : Except Fault (Lexeme × Nat) :=
  match cs with
  | c :: _ =>
    if isWordStart c then
      let w := cs.takeWhile isWordChar
      .ok (wordLexeme (String.ofList w), w.length)
    else .error .foreignCharacter
  | [] => .error .foreignCharacter

def signAt (cs : List Char) : Lexeme × Nat :=
  match cs with
  | '&' :: '&' :: _ => (.conjunction "&&", 2)
  | '|' :: '|' :: _ => (.disjunction "||", 2)
  | _ =>
    match relationAt? cs with
    | some symbol => (.relation symbol, symbol.length)
    | none =>
      match cs with
      | '!' :: _ => (.negation "!", 1)
      | '(' :: _ => (.opening, 1)
      | ')' :: _ => (.closing, 1)
      | '.' :: _ => (.dot, 1)
      | ',' :: _ => (.comma, 1)
      | c :: _ => (.stray (String.ofList [c]), 1)
      | [] => (.stray "", 1)

def lexemeAt (sign : Bool) (c : Char) (cs : List Char) : Except Fault (Lexeme × Nat) :=
  if isQuote c then .ok (stringAt c cs)
  else if startsNumber sign (c :: cs) then numberAt (c :: cs)
  else if Text.isLetter c || c == '_' then wordAt (c :: cs)
  else .ok (signAt (c :: cs))

/-- `skip` counts the characters of the last lexeme that are still to be passed over. -/
def tokensFrom (position : Nat) (sign : Bool) : (skip : Nat) → List Char → Except Fault (List Token)
  | _, [] => .ok []
  | skip + 1, _ :: cs => tokensFrom (position + 1) sign skip cs
  | 0, c :: cs =>
    if Text.isBlank c then tokensFrom (position + 1) sign 0 cs
    else do
      let (lexeme, length) ← lexemeAt sign c cs
      return ⟨lexeme, position⟩ :: (← tokensFrom (position + 1) lexeme.expectsValue (length - 1) cs)

def tokenize (s : String) : Except Fault (List Token) := tokensFrom 0 true 0 s.toList

end TabularAudit.Expr
