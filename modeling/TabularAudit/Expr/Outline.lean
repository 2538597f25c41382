import TabularAudit.Expr.Parser

/-!
The boolean outline of a list of tokens, found by counting parentheses alone. Pieces between `or`
and then between `and` are cut at depth zero, and only what is left of a piece behind its `not`
signs is read. A text that is one side of a comparison has nothing to cut.
-/

namespace TabularAudit.Expr

namespace Lexeme

def isDisjunction : Lexeme → Bool
  | disjunction _ => true
  | _ => false

def isConjunction : Lexeme → Bool
  | conjunction _ => true
  | _ => false

def isNegation : Lexeme → Bool
  | negation _ => true
  | _ => false

def isStray : Lexeme → Bool
  | stray _ => true
  | _ => false

def endsComparison : Lexeme → Bool
  | conjunction _ | disjunction _ | negation _ | closing | comma | stray _ => true
  | _ => false

def endsArgument : Lexeme → Bool
  | closing | comma => true
  | _ => false

def endsDisjunct (l : Lexeme) : Bool := l.isDisjunction || l.endsArgument

end Lexeme

def balance : List Token → Int
  | [] => 0
  | ⟨.opening, _⟩ :: ts => balance ts + 1
  | ⟨.closing, _⟩ :: ts => balance ts - 1
  | _ :: ts => balance ts

/-- A token that closes no parenthesis, or separates no arguments, behind the tokens `p`. -/
def Stray (p : List Token) (t : Token) : Prop := t.lexeme.endsArgument ∧ balance p = 0

def upTo (stops : Lexeme → Bool) : (depth : Nat) → List Token → List Token
  | _, [] => []
  | depth, t :: ts =>
    if depth = 0 ∧ stops t.lexeme then [] else t :: upTo stops (t.lexeme.depthAfter depth) ts

def pieces (separates : Lexeme → Bool) (stop : Nat) :
    (depth : Nat) → List Token → List (List Token × Nat)
  | _, [] => [([], stop)]
  | depth, t :: ts =>
    if depth = 0 ∧ separates t.lexeme then ([], t.position) :: pieces separates stop 0 ts
    else match pieces separates stop (t.lexeme.depthAfter depth) ts with
      | [] => []
      | (piece, e) :: more => (t :: piece, e) :: more

namespace Outline

section
variable (text : List Char)

/-- A piece that reads as one comparison, to its end, is that comparison. -/
def operand (stop : Nat) (ts : List Token) : Node :=
  match comparison text stop ts with
  | some ⟨n, [], _⟩ => n
  | _ => unreadable text (position stop ts) stop

def term (stop : Nat) (ts : List Token) : Node :=
  (operand text stop (ts.dropWhile (·.lexeme.isNegation))).negated
    (ts.takeWhile (·.lexeme.isNegation)).length

def conjunction (stop : Nat) (ts : List Token) : Node :=
  .conjunction ((pieces Lexeme.isConjunction stop 0 ts).map fun p => term text p.2 p.1)

def formula (stop : Nat) (ts : List Token) : Node :=
  .disjunction ((pieces Lexeme.isDisjunction stop 0 ts).map fun p => conjunction text p.2 p.1)

end

end Outline

/-- A text that reads, to its end, as one side of a comparison: a value with the members and calls behind it. A group
is such a value, whatever it holds. -/
def side? (s : String) : Option Node :=
  match tokenize (normalize s) with
  | .ok ts =>
    match chain (normalize s).toList (normalize s).length ts with
    | some ⟨n, [], _⟩ => some n
    | _ => none
  | .error _ => none

end TabularAudit.Expr
