import TabularAudit.Finding

/-! Two runs side by side. -/

namespace TabularAudit

structure Comparison where
  resolved : List Finding := []
  fresh : List Finding := []
  recurring : List Finding := []
  deriving Repr

namespace Comparison

def occursIn (f : Finding) (fs : List Finding) : Bool := fs.any f.sameKey

def isKeyed (fs : List Finding) : Bool := fs.all fun f => f.affectedObject.isAtom

def split (current previous : List Finding) : Comparison :=
  { resolved := previous.filter fun f => !occursIn f current
    fresh := current.filter fun f => !occursIn f previous
    recurring := current.filter fun f => occursIn f previous }

/-- Lists and maps cannot stand in a key. -/
def ofRuns (current previous : List Finding) : Except Fault Comparison :=
  if isKeyed current && isKeyed previous then .ok (split current previous) else .error .wrongKind

def isFixed (f : Finding) (current : List Finding) : Bool := current.all fun g => !g.sameKey f

def briefs (fs : List Finding) : Value := .list (fs.map fun f => .map f.keyEntries)

def entries (c : Comparison) : Entries :=
  [("resolvedCount", .int c.resolved.length), ("newCount", .int c.fresh.length),
    ("recurringCount", .int c.recurring.length), ("resolved", briefs c.resolved), ("new", briefs c.fresh),
    ("recurring", briefs c.recurring)]

theorem length_fresh_add_length_recurring (current previous : List Finding) :
    (split current previous).fresh.length + (split current previous).recurring.length = current.length := by
  simp only [split]
  induction current with
  | nil => rfl
  | cons f rest ih =>
      by_cases h : occursIn f previous <;> simp [h] at ih ⊢ <;> omega

end Comparison

end TabularAudit
