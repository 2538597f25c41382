import TabularAudit.Finding

/-! What tells findings of two runs apart. -/

namespace TabularAudit

/-- What of a value counts in a key: of numbers only their size, whatever their kind. -/
inductive Atom where
  | nothing
  | number (size : Rat)
  | infinity (negative : Bool)
  | notNumber
  | word (s : String)
  | member (family name : String)
  deriving DecidableEq

def Binary64.atom : Binary64 → Atom
  | nan => .notNumber
  | infinite negative => .infinity negative
  | finite negative m e => .number (signed negative m * (2 : Rat) ^ e)

def Value.atom? : Value → Option Atom
  | null => some .nothing
  | bool b => some (.number (if b then 1 else 0))
  | int n => some (.number n)
  | float x => some x.atom
  | text s => some (.word s)
  | enum family name => some (.member family name)
  | list _ | map _ => none

def Finding.exactKey (f : Finding) : String × Option Atom := (f.ruleId, f.affectedObject.atom?)

end TabularAudit
