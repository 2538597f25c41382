import TabularAudit.Settings
import TabularAudit.Text.Case

/-! Which events are logged, and in what form. -/

namespace TabularAudit

namespace Logging

inductive Level where
  | debug
  | info
  | warning
  | error
  | critical
  deriving DecidableEq, Repr

def Level.all : List Level := [.debug, .info, .warning, .error, .critical]

def Level.weight : Level → Nat
  | debug => 10
  | info => 20
  | warning => 30
  | error => 40
  | critical => 50

def Level.text : Level → String
  | debug => "debug"
  | info => "info"
  | warning => "warning"
  | error => "error"
  | critical => "critical"

def thresholds : List (String × Nat) :=
  [("DEBUG", 10), ("INFO", 20), ("WARNING", 30), ("WARN", 30), ("ERROR", 40), ("CRITICAL", 50),
    ("FATAL", 50), ("NOTSET", 0)]

/-- Unknown names ask for informative events and all above. -/
def threshold (name : String) : Nat := (thresholds.lookup (Text.upper name)).getD 20

structure Setup where
  threshold : Nat
  json : Bool
  deriving DecidableEq, Repr

def given (asked : Option String) (fallback : String) : String :=
  match asked with
  | some s => if s.isEmpty then fallback else s
  | none => fallback

def setup (s : Settings) (level format : Option String) : Setup :=
  ⟨threshold (given level s.logLevel), Text.lower (given format s.logFormat) == "json"⟩

def Setup.enabled (s : Setup) : List Level := Level.all.filter fun l => s.threshold ≤ l.weight

end Logging

end TabularAudit
