import TabularAudit.Expr.Syntax

/-! Syntax trees whose negations stand before single operands only. -/

namespace TabularAudit.Expr.Node

def isAtom : Node → Bool
  | .not _ | .all _ | .any _ => false
  | _ => true

def junction (conjunctive : Bool) (operands : List Node) : Node :=
  if conjunctive then .all operands else .any operands

mutual

def isNegationNormal : Node → Bool
  | .not operand => operand.isAtom
  | .all operands | .any operands => areNegationNormal operands
  | _ => true

def areNegationNormal : List Node → Bool
  | [] => true
  | node :: rest => node.isNegationNormal && areNegationNormal rest

end

mutual

def signed (positive : Bool) : Node → Node
  | .not operand => operand.signed !positive
  | .all operands => junction positive (signedAll positive operands)
  | .any operands => junction (!positive) (signedAll positive operands)
  | node => if positive then node else .not node

def signedAll (positive : Bool) : List Node → List Node
  | [] => []
  | node :: rest => node.signed positive :: signedAll positive rest

end

def negationNormal (node : Node) : Node := node.signed true

mutual

theorem boolean_induction {motive : Node → Prop} (atom : ∀ n, n.isAtom = true → motive n)
    (negation : ∀ n, motive n → motive (.not n))
    (joined : ∀ conjunctive (ns : List Node), (∀ n ∈ ns, motive n) → motive (junction conjunctive ns)) : ∀ n, motive n
  | .not n => negation n (boolean_induction atom negation joined n)
  | .all ns => joined true ns (operands_induction atom negation joined ns)
  | .any ns => joined false ns (operands_induction atom negation joined ns)
  | .literal _ | .name .. | .member .. | .function .. | .method .. | .comparison .. | .unreadable _ => atom _ rfl

theorem operands_induction {motive : Node → Prop} (atom : ∀ n, n.isAtom = true → motive n)
    (negation : ∀ n, motive n → motive (.not n))
    (joined : ∀ conjunctive (ns : List Node), (∀ n ∈ ns, motive n) → motive (junction conjunctive ns)) :
    ∀ (ns : List Node), ∀ n ∈ ns, motive n
  | [] => nofun
  | n :: ns => List.forall_mem_cons.2
      ⟨boolean_induction atom negation joined n, operands_induction atom negation joined ns⟩

end

section
variable (positive conjunctive : Bool)

theorem signedAll_eq_map (ns : List Node) : signedAll positive ns = ns.map (signed positive) := by
  induction ns with
  | nil => rfl
  | cons n ns ih => rw [signedAll, ih, List.map_cons]

theorem areNegationNormal_eq_all (ns : List Node) : areNegationNormal ns = ns.all isNegationNormal := by
  induction ns with
  | nil => rfl
  | cons n ns ih => rw [areNegationNormal, ih, List.all_cons]

theorem signed_junction (ns : List Node) :
    (junction conjunctive ns).signed positive = junction (conjunctive == positive) (ns.map (signed positive)) := by
  rw [← signedAll_eq_map]
  cases conjunctive <;> cases positive <;> rfl

theorem signed_atom {n : Node} (atom : n.isAtom = true) :
    n.signed positive = if positive then n else .not n := by
  cases n <;> first | rfl | cases atom

theorem isNegationNormal_junction (ns : List Node) :
    (junction conjunctive ns).isNegationNormal = ns.all isNegationNormal := by
  rw [← areNegationNormal_eq_all]
  cases conjunctive <;> rfl

theorem isNegationNormal_atom {n : Node} (atom : n.isAtom = true) : n.isNegationNormal = true := by
  cases n <;> first | rfl | cases atom

end

theorem isNegationNormal_signed (n : Node) (positive : Bool) : (n.signed positive).isNegationNormal = true := by
  induction n using boolean_induction generalizing positive with
  | atom n atom =>
      rw [signed_atom positive atom]
      cases positive with
      | false => exact atom
      | true => exact isNegationNormal_atom atom
  | negation n ih => exact ih !positive
  | joined conjunctive ns ih =>
      rw [signed_junction, isNegationNormal_junction, List.all_map, List.all_eq_true]
      exact fun n member => ih n member positive

end TabularAudit.Expr.Node
