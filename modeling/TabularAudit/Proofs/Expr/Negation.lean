import Mathlib.Data.List.Forall2
import TabularAudit.Expr.Negation
import TabularAudit.Proofs.Expr.Truth

/-!
Negations moved inwards. The operands are reached in the same order as before, up to the first one that decides or
fails, so that a tree keeps its truth, its fault and what is noted on the way.
-/

namespace TabularAudit.Expr

namespace Traced

variable {α β : Type}

def signed (positive : Bool) (x : Traced Bool) : Traced Bool := ⟨x.result.map (· == positive), x.log⟩

theorem signed_true (x : Traced Bool) : x.signed true = x := by
  obtain ⟨result, log⟩ := x
  cases result with
  | error fault => rfl
  | ok b => cases b <;> rfl

theorem signed_signed (p q : Bool) (x : Traced Bool) : (x.signed p).signed q = x.signed (p == q) := by
  obtain ⟨result, log⟩ := x
  cases result with
  | error fault => rfl
  | ok b => cases b <;> cases p <;> cases q <;> rfl

theorem signed_bind (positive : Bool) (x : Traced Bool) (f : Bool → Traced Bool) :
    x.signed positive >>= f = x >>= fun b => f (b == positive) := by
  obtain ⟨result, log⟩ := x
  cases result <;> rfl

theorem bind_signed (positive : Bool) (x : Traced α) (f : α → Traced Bool) :
    (x >>= f).signed positive = x >>= fun a => (f a).signed positive := by
  obtain ⟨result, log⟩ := x
  cases result <;> rfl

end Traced

section
variable {env : Env} {obj : Option ModelObject} {positive : Bool} {ns ms : List Node}

theorem truth_negation (n : Node) (env : Env) (obj : Option ModelObject) :
    truth (.not n) env obj = (truth n env obj).signed false := by
  rw [truth_not, Traced.signed]
  congr 2
  funext b
  cases b <;> rfl

theorem truth_junction_nil (conjunctive : Bool) (env : Env) (obj : Option ModelObject) :
    truth (.junction conjunctive []) env obj = pure conjunctive := by
  cases conjunctive with
  | true => exact (truth_conjunction [] env obj).trans (by rw [allHold])
  | false => exact (truth_disjunction [] env obj).trans (by rw [anyHolds])

theorem truth_junction_cons (conjunctive : Bool) (n : Node) (ns : List Node) (env : Env) (obj : Option ModelObject) :
    truth (.junction conjunctive (n :: ns)) env obj = truth n env obj >>= fun b =>
      if b = conjunctive then truth (.junction conjunctive ns) env obj else pure b := by
  cases conjunctive with
  | true =>
      have whole : truth (.all (n :: ns)) env obj = allHold (n :: ns) env obj := truth_conjunction _ _ _
      have others : truth (.all ns) env obj = allHold ns env obj := truth_conjunction _ _ _
      simp only [Node.junction, if_true, whole, others]
      rw [allHold]
      refine congrArg (truth n env obj >>= ·) ?_
      funext b
      cases b <;> rfl
  | false =>
      have whole : truth (.any (n :: ns)) env obj = anyHolds (n :: ns) env obj := truth_disjunction _ _ _
      have others : truth (.any ns) env obj = anyHolds ns env obj := truth_disjunction _ _ _
      simp only [Node.junction, Bool.false_eq_true, if_false, whole, others]
      rw [anyHolds]
      refine congrArg (truth n env obj >>= ·) ?_
      funext b
      cases b <;> rfl

/-- Operands that say the same as others are joined as those are; operands that say the opposite are joined the other
way, since what decides the one junction decides the other. -/
theorem truth_junction_signed (conjunctive : Bool)
    (same : List.Forall₂ (fun n m => truth m env obj = (truth n env obj).signed positive) ns ms) :
    truth (.junction (conjunctive == positive) ms) env obj =
      (truth (.junction conjunctive ns) env obj).signed positive := by
  induction same with
  | nil =>
      rw [truth_junction_nil, truth_junction_nil]
      rfl
  | @cons n m ns ms first rest ih =>
      rw [truth_junction_cons, truth_junction_cons, first, Traced.signed_bind, Traced.bind_signed]
      refine congrArg (truth n env obj >>= ·) ?_
      funext b
      rw [ih]
      -- A test goes on to the other operands, or decides, as its opposite does.
      cases b <;> cases conjunctive <;> cases positive <;> rfl

end

theorem truth_signed (n : Node) (positive : Bool) (env : Env) (obj : Option ModelObject) :
    truth (n.signed positive) env obj = (truth n env obj).signed positive := by
  induction n using Node.boolean_induction generalizing positive with
  | atom n atom =>
      rw [Node.signed_atom positive atom]
      cases positive with
      | true => exact (Traced.signed_true _).symm
      | false => exact truth_negation n env obj
  | negation n ih =>
      rw [Node.signed, ih, truth_negation, Traced.signed_signed]
      cases positive <;> rfl
  | joined conjunctive ns ih =>
      rw [Node.signed_junction]
      apply truth_junction_signed
      rw [List.forall₂_map_right_iff]
      exact List.forall₂_same.2 fun n member => ih n member positive

theorem truth_negationNormal (n : Node) (env : Env) (obj : Option ModelObject) :
    truth n.negationNormal env obj = truth n env obj := by
  rw [Node.negationNormal, truth_signed, Traced.signed_true]

theorem truth_not_junction (conjunctive : Bool) (ns : List Node) (env : Env) (obj : Option ModelObject) :
    truth (.not (.junction conjunctive ns)) env obj = truth (.junction (!conjunctive) (ns.map .not)) env obj := by
  have opposite : List.Forall₂ (fun n m => truth m env obj = (truth n env obj).signed false) ns (ns.map .not) := by
    rw [List.forall₂_map_right_iff]
    exact List.forall₂_same.2 fun n _ => truth_negation n env obj
  have joined := truth_junction_signed conjunctive opposite
  rw [truth_negation, ← joined]
  cases conjunctive <;> rfl

/-- A negation can be moved inwards, over `and`, over `or` and over another negation, at any place of a tree: the truth,
the fault and what is noted stay, and so does the answer for a text. -/
theorem negation_moves_inwards (env : Env) (obj : Option ModelObject) :
    (∀ ns, truth (.not (.all ns)) env obj = truth (.any (ns.map .not)) env obj ∧
      truth (.not (.any ns)) env obj = truth (.all (ns.map .not)) env obj) ∧
    (∀ n, truth (.not (.not n)) env obj = truth n env obj) ∧
    ∀ n : Node, n.negationNormal.isNegationNormal = true ∧ truth n.negationNormal env obj = truth n env obj ∧
      ∀ s t, parse s = .ok n → parse t = .ok n.negationNormal → judge (.text s) obj env = judge (.text t) obj env := by
  refine ⟨fun ns => ⟨truth_not_junction true ns env obj, truth_not_junction false ns env obj⟩, fun n => ?_, fun n => ?_⟩
  · rw [truth_negation, truth_negation, Traced.signed_signed]
    exact Traced.signed_true _
  · refine ⟨Node.isNegationNormal_signed n true, truth_negationNormal n env obj, fun s t tree normal => ?_⟩
    simp only [judge, tree, normal, truth_negationNormal]

/-- A call without a meaning is false behind two negations, and the fault behind it is met. -/
theorem negation_moves_inwards_to_fault :
    let s := "not (not f() and not (char(-1) or A))"
    let t := "f() or (char(-1) or A)"
    let o : ModelObject := ⟨"Sales", .table, {}, none, none⟩
    ∃ n, parse s = .ok n ∧ parse t = .ok n.negationNormal ∧ n.negationNormal.isNegationNormal = true ∧
      judge (.text t) (some o) ⟨{}, none⟩ = ⟨false, [.unsupported (.function "f"), .fault]⟩ ∧
      judge (.text s) (some o) ⟨{}, none⟩ = judge (.text t) (some o) ⟨{}, none⟩ := by
  intro s t o
  let call : Node := .function "f" []
  let char : Node := .function "char" [.literal (.int (-1))]
  let n : Node := .not (.all [.not call, .not (.any [char, .name "A" []])])
  have tree : parse "not (not f() and not (char(-1) or A))" = .ok n := (parse_ofList _).trans (by with_unfolding_all rfl)
  have normal : parse "f() or (char(-1) or A)" = .ok n.negationNormal := (parse_ofList _).trans (by with_unfolding_all rfl)
  obtain ⟨-, -, moved⟩ := negation_moves_inwards ⟨{}, none⟩ (some o)
  refine ⟨n, tree, normal, (moved n).1, ?_, (moved n).2.2 s t tree normal⟩
  rw [judge, normal]
  decide

end TabularAudit.Expr
