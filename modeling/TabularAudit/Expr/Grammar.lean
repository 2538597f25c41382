import TabularAudit.Expr.Parser

/-!
The grammar of rule expressions, as derivation trees. A tree yields the lexemes at its leaves and
stands for a syntax tree; nothing here looks ahead or skips what cannot be read.
-/

namespace TabularAudit.Expr

namespace Grammar

mutual

inductive Disjunction where
  | one (c : Conjunction)
  | more (c : Conjunction) (spelling : String) (d : Disjunction)

inductive Conjunction where
  | one (u : Unary)
  | more (u : Unary) (spelling : String) (c : Conjunction)

inductive Unary where
  | negated (spelling : String) (u : Unary)
  | plain (c : Comparison)

inductive Comparison where
  | plain (c : Chain)
  | related (left : Chain) (symbol : String) (right : Chain)

/-- The bare word `it` is a name only when no member follows, since `it.` begins a primary of its
own. -/
inductive Chain where
  | bareIt (w : String) (it : isIt w = true)
  | linked (p : Primary) (l : Links)

inductive Links where
  | done
  | part (name : String) (l : Links)
  | call (name : String) (a : Arguments) (l : Links)

inductive Arguments where
  | empty
  | items (l : Items)

inductive Items where
  | one (d : Disjunction)
  | more (d : Disjunction) (l : Items)

/-- No primary but a constant begins with the word of a constant. -/
inductive Primary where
  | string (s : String)
  | number (v : Value)
  | constant (w : String) (v : Value) (reads : constant? w = some v)
  | call (w : String) (free : constant? w = none) (a : Arguments)
  | ofIt (it w : String) (isIt : isIt it = true)
  | name (w : String) (free : constant? w = none) (other : isIt w = false)
  | group (d : Disjunction)

end

mutual

def Disjunction.yield : Disjunction → List Lexeme
  | .one c => c.yield
  | .more c spelling d => c.yield ++ .disjunction spelling :: d.yield

def Conjunction.yield : Conjunction → List Lexeme
  | .one u => u.yield
  | .more u spelling c => u.yield ++ .conjunction spelling :: c.yield

def Unary.yield : Unary → List Lexeme
  | .negated spelling u => .negation spelling :: u.yield
  | .plain c => c.yield

def Comparison.yield : Comparison → List Lexeme
  | .plain c => c.yield
  | .related left symbol right => left.yield ++ .relation symbol :: right.yield

def Chain.yield : Chain → List Lexeme
  | .bareIt w _ => [.word w]
  | .linked p l => p.yield ++ l.yield

def Links.yield : Links → List Lexeme
  | .done => []
  | .part name l => .dot :: .word name :: l.yield
  | .call name a l => .dot :: .word name :: .opening :: (a.yield ++ .closing :: l.yield)

def Arguments.yield : Arguments → List Lexeme
  | .empty => []
  | .items l => l.yield

def Items.yield : Items → List Lexeme
  | .one d => d.yield
  | .more d l => d.yield ++ .comma :: l.yield

def Primary.yield : Primary → List Lexeme
  | .string s => [.string s]
  | .number v => [.number v]
  | .constant w _ _ => [.word w]
  | .call w _ a => .word w :: .opening :: (a.yield ++ [.closing])
  | .ofIt it w _ => [.word it, .dot, .word w]
  | .name w _ _ => [.word w]
  | .group d => .opening :: (d.yield ++ [.closing])

end

mutual

def Disjunction.nodes : Disjunction → List Node
  | .one c => [.conjunction c.nodes]
  | .more c _ d => .conjunction c.nodes :: d.nodes

def Conjunction.nodes : Conjunction → List Node
  | .one u => [u.node]
  | .more u _ c => u.node :: c.nodes

def Unary.node : Unary → Node
  | .negated _ u => .not u.node
  | .plain c => c.node

def Comparison.node : Comparison → Node
  | .plain c => c.node
  | .related left symbol right => .comparison symbol left.node right.node

def Chain.node : Chain → Node
  | .bareIt w _ => .name w []
  | .linked p l => l.node p.node

def Links.node : Links → Node → Node
  | .done, n => n
  | .part name l, n => l.node (n.extended name)
  | .call name a l, n => l.node (.method n name a.nodes)

def Arguments.nodes : Arguments → List Node
  | .empty => []
  | .items l => l.nodes

def Items.nodes : Items → List Node
  | .one d => [.disjunction d.nodes]
  | .more d l => .disjunction d.nodes :: l.nodes

def Primary.node : Primary → Node
  | .string s => .literal (.text s)
  | .number v => .literal v
  | .constant _ v _ => .literal v
  | .call w _ a => .function w a.nodes
  | .ofIt _ w _ => .name w []
  | .name w _ _ => .name w []
  | .group d => .disjunction d.nodes

end

def Disjunction.node (d : Disjunction) : Node := .disjunction d.nodes

end Grammar

mutual

def Node.isReadable : Node → Bool
  | .literal _ | .name _ _ => true
  | .member target _ => target.isReadable
  | .function _ args => areReadable args
  | .method target _ args => target.isReadable && areReadable args
  | .comparison _ left right => left.isReadable && right.isReadable
  | .all operands | .any operands => areReadable operands
  | .not operand => operand.isReadable
  | .unreadable _ => false

def Node.areReadable : List Node → Bool
  | [] => true
  | n :: ns => n.isReadable && areReadable ns

end

end TabularAudit.Expr
