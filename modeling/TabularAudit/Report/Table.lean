import TabularAudit.Report.Shape

/-! The tables of a report page, from the fields of the findings themselves. -/

namespace TabularAudit

def Finding.ComesBefore (f g : Finding) : Prop :=
  g.severity < f.severity ∨ f.severity = g.severity ∧
    (f.ruleId < g.ruleId ∨ f.ruleId = g.ruleId ∧ f.affectedObject.display < g.affectedObject.display)

namespace Report

/-- Groups that hold findings by category: each category once, in increasing order, and each finding once, among those of
its category in the order in which they all stand. -/
structure Arranges (groups : List (String × List Finding)) (fs : List Finding) : Prop where
  names : (groups.map Prod.fst).Pairwise (· < ·)
  once : (groups.flatMap Prod.snd).Perm fs
  category : ∀ g ∈ groups, g.2 ≠ [] ∧ ∀ f ∈ g.2, f.category = g.1
  order : ∀ g ∈ groups, g.2.Sublist fs ∧ g.2.Pairwise Finding.ComesBefore

def severityName : Int → String
  | 3 => "Error"
  | 2 => "Warning"
  | 1 => "Info"
  | _ => "Unknown"

/-- Nothing but the row of a finding starts with this piece. -/
def rowStart : Piece := .fixed "\n    <tr>\n      \n      <td class=\"sev-"

def rowOf (f : Finding) : Markup :=
  [rowStart, .slot (severityName f.severity), .fixed "\">", .slot (severityName f.severity),
    .fixed "</td>\n      <td title=\"", .slot f.description, .fixed "\">", .slot f.ruleName,
    .fixed "</td>\n      <td><code>", .slot f.affectedObject.display, .fixed "</code></td>\n      <td>",
    .slot f.objectType.display, .fixed "</td>\n      <td>", .fixed (if f.hasAutoFix then "yes" else ""),
    .fixed "</td>\n    </tr>\n    "]

def headingOf (name : String) (rows : Nat) : Markup :=
  [.fixed "\n  <h2>", .slot name, .fixed " <span class=\"muted\">(", .slot (toString rows),
    .fixed ")</span></h2>\n  <table>\n",
    .fixed "    <tr><th>Severity</th><th>Rule</th><th>Object</th><th>Type</th><th>Auto-fix</th></tr>\n    "]

def tableOf (group : String × List Finding) : Markup :=
  headingOf group.1 group.2.length ++ group.2.flatMap rowOf ++ [Piece.fixed "\n  </table>\n  "]

end Report

end TabularAudit
