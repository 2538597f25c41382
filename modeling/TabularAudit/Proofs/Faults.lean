import TabularAudit.Fault
import TabularAudit.Value.Integer

/-!
The fault with which a result ends. Of steps that are made one after the other it is that of the first which fails.
-/

namespace TabularAudit

namespace Fault

variable {α β : Type} {x : Except Fault α} {fault : Fault}

def of? : Except Fault α → Option Fault
  | .ok _ => none
  | .error fault => some fault

theorem of?_eq_none_iff : of? x = none ↔ ∃ a, x = .ok a := by
  cases x <;> simp [of?]

theorem of?_eq_some_iff : of? x = some fault ↔ x = .error fault := by
  cases x <;> simp [of?]

theorem of?_map (f : α → β) (x : Except Fault α) : of? (x.map f) = of? x := by
  cases x <;> rfl

theorem of?_bind {f : α → Except Fault β} {next : Option Fault} (same : ∀ a, x = .ok a → of? (f a) = next) :
    of? (x >>= f) = (of? x).or next := by
  cases made : x with
  | error fault => rfl
  | ok a => exact same a made

theorem of?_mapM (f : α → Except Fault β) (as : List α) : of? (as.mapM f) = as.findSome? fun a => of? (f a) := by
  induction as with
  | nil => rfl
  | cons a as ih =>
      calc of? ((a :: as).mapM f)
        _ = of? (f a >>= fun b => as.mapM f >>= fun bs => .ok (b :: bs)) := by
            rw [List.mapM_cons]
            rfl
        _ = (of? (f a)).or ((of? (as.mapM f)).or none) := by
            apply of?_bind
            intro b _
            apply of?_bind
            intro bs _
            rfl
        _ = (a :: as).findSome? fun a => of? (f a) := by
            rw [Option.or_none, ih, List.findSome?_cons]
            cases of? (f a) <;> rfl

end Fault

namespace Value

variable {v : Value} {fault : Fault}

theorem of?_toInt (v : Value) : Fault.of? v.toInt = v.integerFault? := by
  cases v with
  | float x => cases x <;> rfl
  | text s =>
      rw [toInt, integerFault?]
      cases Numeral.int? s <;> rfl
  | _ => rfl

theorem cases_of_integerFault (found : v.integerFault? = some fault) :
    fault = .tooLarge ∨ fault = .badNumeral ∨ fault = .wrongKind := by
  unfold integerFault? at found
  split at found <;> simp_all

end Value

end TabularAudit
