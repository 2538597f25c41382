import TabularAudit.Expr.Meaning
import TabularAudit.Proofs.Parsing.Shape

/-!
What an expression says does not depend on the texts of the operands that could not be read: those are only noted.
-/

namespace TabularAudit.Expr

inductive Traced.Like {α : Type} : Except Fault α → Except Fault α → Prop where
  | same (x : Except Fault α) : Like x x
  | unsupported (reason reason' : Unsupported) :
      Like (.error (.unsupported reason)) (.error (.unsupported reason'))

namespace Traced

variable {α β : Type}

theorem Like.bind {x y : Traced α} {f g : α → Traced β} (first : Like x.result y.result)
    (next : ∀ a, Like (f a).result (g a).result) : Like (x >>= f).result (y >>= g).result := by
  rw [result_bind, result_bind]
  generalize x.result = r at first ⊢
  generalize y.result = s at first ⊢
  cases first with
  | same =>
      cases r with
      | ok a => exact next a
      | error fault => exact .same _
  | unsupported reason reason' => exact .unsupported _ _

theorem Like.any {test test' : α → Traced Bool} {as : List α} (same : ∀ a ∈ as, Like (test a).result (test' a).result) :
    Like (Traced.any test as).result (Traced.any test' as).result := by
  induction as with
  | nil => exact .same _
  | cons a as ih =>
      rw [Traced.any, Traced.any]
      refine (same a List.mem_cons_self).bind fun found => ?_
      cases found
      · exact ih fun b member => same b (List.mem_cons_of_mem a member)
      · exact .same _

end Traced

open Traced

variable (f : String → String)

theorem verdict_like {obj : Option ModelObject} {x y : Traced Value} (like : Like x.result y.result) :
    (verdict obj x).result = (verdict obj y).result := by
  obtain ⟨result, log⟩ := x
  obtain ⟨result', log'⟩ := y
  change Like result result' at like
  cases like with
  | same =>
      cases result with
      | ok v => rfl
      | error fault => cases fault <;> cases obj <;> rfl
  | unsupported reason reason' => cases obj <;> rfl

theorem invocation_withTexts (target : Node) : invocation (target.withTexts f) = invocation target := by
  cases target <;> rfl

theorem length_withTextsAll (ns : List Node) : (Node.withTextsAll f ns).length = ns.length := by
  rw [Node.withTextsAll_eq_map, List.length_map]

mutual

theorem eval_withTexts : ∀ (node : Node) (env : Env) (obj : Option ModelObject),
    Like (eval (node.withTexts f) env obj).result (eval node env obj).result
  | .literal v, env, obj => by rw [Node.withTexts]; exact .same _
  | .name head rest, env, obj => by rw [Node.withTexts]; exact .same _
  | .member target name, env, obj => by
      rw [Node.withTexts, eval, eval]
      exact (eval_withTexts target env obj).bind fun v => .same _
  | .function name args, env, obj => by
      rw [Node.withTexts, eval, eval, length_withTextsAll]
      split
      · exact (evalAll_withTexts args env obj).bind fun vs => .same _
      · exact .same _
  | .method target name args, env, obj => by
      rw [Node.withTexts, eval, eval, invocation_withTexts, length_withTextsAll]
      cases invocation target name args.length with
      | pattern => exact (evalAll_withTexts args env obj).bind fun vs => .same _
      | blank onlyEmpty => exact (evalAll_withTexts args env obj).bind fun vs => .same _
      | size path => exact .same _
      | inhabited path => exact .same _
      | relationships =>
          exact Like.bind (.same _) fun o => (holdsForAny_withTexts args _ _).bind fun found => .same _
      | refused reason => exact .same _
      | text =>
          exact (eval_withTexts target env obj).bind fun v =>
            (evalAll_withTexts args env obj).bind fun vs => .same _
  | .comparison symbol left right, env, obj => by
      rw [Node.withTexts, eval, eval]
      exact (eval_withTexts left env obj).bind fun v => (eval_withTexts right env obj).bind fun w => .same _
  | .all operands, env, obj => by
      rw [Node.withTexts, eval, eval]
      exact (allHold_withTexts operands env obj).bind fun b => .same _
  | .any operands, env, obj => by
      rw [Node.withTexts, eval, eval]
      exact (anyHolds_withTexts operands env obj).bind fun b => .same _
  | .not operand, env, obj => by
      rw [Node.withTexts, eval, eval]
      exact (truth_withTexts operand env obj).bind fun b => .same _
  | .unreadable text, env, obj => by
      rw [Node.withTexts, eval, eval]
      exact .unsupported _ _

theorem truth_withTexts : ∀ (node : Node) (env : Env) (obj : Option ModelObject),
    Like (verdict obj (eval (node.withTexts f) env obj)).result (verdict obj (eval node env obj)).result
  | node, env, obj => by
      rw [verdict_like (eval_withTexts node env obj)]
      exact .same _

theorem evalAll_withTexts : ∀ (nodes : List Node) (env : Env) (obj : Option ModelObject),
    Like (evalAll (Node.withTextsAll f nodes) env obj).result (evalAll nodes env obj).result
  | [], env, obj => .same _
  | node :: rest, env, obj => by
      rw [Node.withTextsAll, evalAll, evalAll]
      exact (eval_withTexts node env obj).bind fun v => (evalAll_withTexts rest env obj).bind fun vs => .same _

theorem allHold_withTexts : ∀ (nodes : List Node) (env : Env) (obj : Option ModelObject),
    Like (allHold (Node.withTextsAll f nodes) env obj).result (allHold nodes env obj).result
  | [], env, obj => .same _
  | node :: rest, env, obj => by
      rw [Node.withTextsAll, allHold, allHold]
      refine (truth_withTexts node env obj).bind fun b => ?_
      split
      · exact allHold_withTexts rest env obj
      · exact .same _

theorem anyHolds_withTexts : ∀ (nodes : List Node) (env : Env) (obj : Option ModelObject),
    Like (anyHolds (Node.withTextsAll f nodes) env obj).result (anyHolds nodes env obj).result
  | [], env, obj => .same _
  | node :: rest, env, obj => by
      rw [Node.withTextsAll, anyHolds, anyHolds]
      refine (truth_withTexts node env obj).bind fun b => ?_
      split
      · exact .same _
      · exact anyHolds_withTexts rest env obj

theorem holdsForAny_withTexts : ∀ (nodes : List Node) (env : Env) (relationships : List ModelObject),
    Like (holdsForAny (Node.withTextsAll f nodes) env relationships).result
      (holdsForAny nodes env relationships).result
  | [], env, relationships => .same _
  | predicate :: _, env, relationships => by
      rw [Node.withTextsAll, holdsForAny, holdsForAny]
      exact Like.any fun r _ => truth_withTexts predicate env (some r)

end

theorem result_ofTraced_truth {n m : Node} (same : n.withTexts f = m.withTexts f) (env : Env)
    (obj : Option ModelObject) :
    (Outcome.ofTraced (truth n env obj)).result = (Outcome.ofTraced (truth m env obj)).result := by
  have alike : ∀ k : Node, (truth (k.withTexts f) env obj).result = (truth k env obj).result :=
    fun k => verdict_like (eval_withTexts f k env obj)
  have results : (truth n env obj).result = (truth m env obj).result := by rw [← alike n, same, alike m]
  rw [Outcome.ofTraced, Outcome.ofTraced, results]
  cases (truth m env obj).result <;> rfl

end TabularAudit.Expr
