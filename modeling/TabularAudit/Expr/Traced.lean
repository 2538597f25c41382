import TabularAudit.Fault

/-! Results together with the constructs that were passed over on the way. -/

namespace TabularAudit.Expr

/-- The log survives a fault. -/
structure Traced (α : Type) where
  result : Except Fault α
  log : List Unsupported := []

namespace Traced

variable {α β : Type}

def ofResult (r : Except Fault α) : Traced α := ⟨r, []⟩

def chain (x : Traced α) (f : α → Traced β) : Traced β :=
  match x.result with
  | .ok a =>
    let y := f a
    ⟨y.result, x.log ++ y.log⟩
  | .error fault => ⟨.error fault, x.log⟩

instance : Monad Traced where
  pure a := ofResult (.ok a)
  bind := chain

instance : MonadLift (Except Fault) Traced := ⟨ofResult⟩

def refuse (reason : Unsupported) : Traced α := ofResult (.error (.unsupported reason))

def any (test : α → Traced Bool) : List α → Traced Bool
  | [] => pure false
  | a :: rest => do
    let found ← test a
    if found then return true
    any test rest

theorem result_pure (a : α) : (pure a : Traced α).result = .ok a := rfl

theorem result_bind (x : Traced α) (f : α → Traced β) :
    (x >>= f).result = x.result >>= fun a => (f a).result := by
  cases x with
  | mk result log => cases result <;> rfl

theorem bind_of_ok {x : Traced α} {a : α} (found : x.result = .ok a) (f : α → Traced β) :
    x >>= f = ⟨(f a).result, x.log ++ (f a).log⟩ := by
  cases x with
  | mk result log =>
      subst found
      rfl

theorem result_ofResult (r : Except Fault α) : (ofResult r).result = r := rfl

end Traced

end TabularAudit.Expr
