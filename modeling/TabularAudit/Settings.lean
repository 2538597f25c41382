import TabularAudit.Fault
import TabularAudit.Number.Numeral
import TabularAudit.Storage.Path

/-! Settings from the environment. -/

namespace TabularAudit

abbrev Environment := List (String × String)

/-- No path of rules stands for the bundled catalog. -/
structure Settings where
  rulesPath : Option Path := none
  logLevel : String := "INFO"
  logFormat : String := "console"
  workers : Int := 1
  deriving DecidableEq, Repr

namespace Settings

def pathOf (raw : String) : Option Path := if raw.isEmpty then none else some (.ofText raw)

/-- An integer that is at least one; a blank text is as good as none. -/
def workersOf (name raw : String) : Except Fault Int :=
  let raw := Text.trim raw
  if raw.isEmpty then .ok 1
  else match Numeral.int? raw with
    | some n => .ok (max 1 n)
    | none => .error (.setting name raw)

def ofEnvironment (env : Environment) : Except Fault Settings := do
  let workers ← workersOf "BPA_MAX_WORKERS" ((env.lookup "BPA_MAX_WORKERS").getD "")
  return {
    rulesPath := (env.lookup "BPA_RULES_PATH").bind pathOf
    logLevel := (env.lookup "BPA_LOG_LEVEL").getD "INFO"
    logFormat := (env.lookup "BPA_LOG_FORMAT").getD "console"
    workers }

theorem one_le_of_workersOf {name raw : String} {n : Int} (read : workersOf name raw = .ok n) : 1 ≤ n := by
  simp only [workersOf] at read
  split at read
  · cases read
    exact Int.le_refl 1
  · split at read
    · cases read
      exact Int.le_max_left 1 _
    · cases read

theorem one_le_workers {env : Environment} {s : Settings} (read : ofEnvironment env = .ok s) : 1 ≤ s.workers := by
  rw [ofEnvironment] at read
  cases found : workersOf "BPA_MAX_WORKERS" ((env.lookup "BPA_MAX_WORKERS").getD "") with
  | error fault =>
      rw [found] at read
      cases read
  | ok n =>
      rw [found] at read
      cases read
      exact one_le_of_workersOf found

end Settings

end TabularAudit
