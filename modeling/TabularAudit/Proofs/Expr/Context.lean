import TabularAudit.Expr.Collection
import TabularAudit.Proofs.Expr.Texts

/-!
Operands that say the same wherever a place of an expression is evaluated can be put there for each other.
-/

namespace TabularAudit.Expr

open Traced

def Node.IsValue (n : Node) : Prop := ∀ method arity, invocation n method arity = .text

theorem Context.isValue_fill {n : Node} (context : Context) (value : n.IsValue) : (context.fill n).IsValue := by
  cases context with
  | here => exact value
  | _ => exact fun method arity => rfl

theorem arity_of_relationships {target : Node} {method : String} {arity : Nat}
    (found : invocation target method arity = .relationships) : arity = 1 := by
  unfold invocation nameInvocation at found
  grind

section
variable {x y : Node} {env : Env} {obj : Option ModelObject}
  (like : Like (eval x env obj).result (eval y env obj).result) (before after : List Node)
include like

theorem evalAll_like :
    Like (evalAll (before ++ x :: after) env obj).result (evalAll (before ++ y :: after) env obj).result := by
  induction before with
  | nil =>
      rw [List.nil_append, List.nil_append, evalAll, evalAll]
      exact like.bind fun v => .same _
  | cons node before ih =>
      rw [List.cons_append, List.cons_append, evalAll, evalAll]
      exact Like.bind (.same _) fun v => ih.bind fun vs => .same _

theorem allHold_like :
    Like (allHold (before ++ x :: after) env obj).result (allHold (before ++ y :: after) env obj).result := by
  induction before with
  | nil =>
      rw [List.nil_append, List.nil_append, allHold, allHold, result_bind, result_bind, verdict_like like]
      exact .same _
  | cons node before ih =>
      rw [List.cons_append, List.cons_append, allHold, allHold]
      refine Like.bind (.same _) fun b => ?_
      split
      · exact ih
      · exact .same _

theorem anyHolds_like :
    Like (anyHolds (before ++ x :: after) env obj).result (anyHolds (before ++ y :: after) env obj).result := by
  induction before with
  | nil =>
      rw [List.nil_append, List.nil_append, anyHolds, anyHolds, result_bind, result_bind, verdict_like like]
      exact .same _
  | cons node before ih =>
      rw [List.cons_append, List.cons_append, anyHolds, anyHolds]
      refine Like.bind (.same _) fun b => ?_
      split
      · exact .same _
      · exact ih

end

theorem holdsForAny_like {x y : Node} {before after : List Node} (alone : before.length + (after.length + 1) = 1)
    {env : Env} {relationships : List ModelObject}
    (like : ∀ r ∈ relationships, Like (eval x env (some r)).result (eval y env (some r)).result) :
    Like (holdsForAny (before ++ x :: after) env relationships).result
      (holdsForAny (before ++ y :: after) env relationships).result := by
  obtain rfl : before = [] := List.length_eq_zero_iff.1 (by omega)
  rw [List.nil_append, List.nil_append, holdsForAny, holdsForAny]
  refine Like.any fun r member => ?_
  rw [verdict_like (like r member)]
  exact .same _

variable {n m : Node} (first : n.IsValue) (second : m.IsValue)
include first second

theorem eval_fill (context : Context) (env : Env) (o : ModelObject)
    (like : ∀ visit ∈ context.visits env o,
      Like (eval n visit.1 (some visit.2)).result (eval m visit.1 (some visit.2)).result) :
    Like (eval (context.fill n) env (some o)).result (eval (context.fill m) env (some o)).result := by
  induction context generalizing env o with
  | here => exact like (env, o) (List.mem_singleton.2 rfl)
  | member inner name ih =>
      rw [Context.fill, Context.fill, eval, eval]
      exact (ih env o like).bind fun v => .same _
  | function name before inner after ih =>
      simp only [Context.fill, eval, List.length_append, List.length_cons]
      split
      · exact (evalAll_like (ih env o like) before after).bind fun vs => .same _
      · exact .same _
  | called inner name args ih =>
      rw [Context.fill, Context.fill, eval, eval, inner.isValue_fill first, inner.isValue_fill second]
      exact (ih env o like).bind fun v => .same _
  | argument target name before inner after ih =>
      rw [Context.visits] at like
      simp only [Context.fill, eval, List.length_append, List.length_cons]
      -- A predicate is evaluated once for each relationship, and with another object as `current`.
      by_cases asked : invocation target name (before.length + (after.length + 1)) = .relationships
      · rw [if_pos asked] at like
        have inside : ∀ r ∈ env.index.relationshipsOf o, Like
            (eval (inner.fill n) { env with current := some ⟨currentName o, some o⟩ } (some r)).result
            (eval (inner.fill m) { env with current := some ⟨currentName o, some o⟩ } (some r)).result :=
          fun r member => ih _ r fun visit visited => like visit (List.mem_flatMap.2 ⟨r, member, visited⟩)
        rw [asked]
        exact (holdsForAny_like (arity_of_relationships asked) inside).bind fun b => .same _
      · rw [if_neg asked] at like
        have args := evalAll_like (ih env o like) before after
        cases call : invocation target name (before.length + (after.length + 1)) with
        | pattern => exact args.bind fun vs => .same _
        | blank onlyEmpty => exact args.bind fun vs => .same _
        | size path => exact .same _
        | inhabited path => exact .same _
        | relationships => exact absurd call asked
        | refused reason => exact .same _
        | text => exact Like.bind (.same _) fun v => args.bind fun vs => .same _
  | left symbol inner other ih =>
      rw [Context.fill, Context.fill, eval, eval]
      exact (ih env o like).bind fun v => .same _
  | right symbol other inner ih =>
      rw [Context.fill, Context.fill, eval, eval]
      exact Like.bind (.same _) fun v => (ih env o like).bind fun w => .same _
  | all before inner after ih =>
      rw [Context.fill, Context.fill, eval, eval]
      exact (allHold_like (ih env o like) before after).bind fun b => .same _
  | any before inner after ih =>
      rw [Context.fill, Context.fill, eval, eval]
      exact (anyHolds_like (ih env o like) before after).bind fun b => .same _
  | not inner ih =>
      rw [Context.fill, Context.fill, eval, eval, result_bind, result_bind, verdict_like (ih env o like)]
      exact .same _

end TabularAudit.Expr
