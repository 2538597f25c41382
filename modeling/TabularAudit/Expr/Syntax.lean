import TabularAudit.Value.Basic

/-! Syntax trees of rule expressions. -/

namespace TabularAudit.Expr

/-- A `name` is a dotted identifier; `member` and `method` apply to a computed value. -/
inductive Node where
  | literal (value : Value)
  | name (head : String) (rest : List String)
  | member (target : Node) (name : String)
  | function (name : String) (args : List Node)
  | method (target : Node) (name : String) (args : List Node)
  | comparison (symbol : String) (left right : Node)
  | all (operands : List Node)
  | any (operands : List Node)
  | not (operand : Node)
  | unreadable (text : String)
  deriving Repr, Inhabited, BEq

def Node.negated : Nat → Node → Node
  | 0, node => node
  | n + 1, node => .not (negated n node)

def Node.conjunction : List Node → Node
  | [node] => node
  | nodes => .all nodes

def Node.disjunction : List Node → Node
  | [node] => node
  | nodes => .any nodes

end TabularAudit.Expr
