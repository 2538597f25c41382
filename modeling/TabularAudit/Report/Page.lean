import TabularAudit.Report.Markup

/-! The report page of a run. -/

namespace TabularAudit.Report

def style : List String :=
  ["    body \x7b font-family: \"Segoe UI\", Arial, sans-serif; margin: 2rem; color: #222; \x7d",
    "    h1 \x7b margin-bottom: 0.25rem; \x7d",
    "    .cards \x7b display: flex; gap: 1rem; margin: 1rem 0 2rem; \x7d",
    "    .card \x7b border: 1px solid #ddd; border-radius: 6px; padding: 0.75rem 1.25rem; min-width: 7rem; \x7d",
    "    .card .n \x7b font-size: 1.6rem; font-weight: 600; \x7d",
    "    table \x7b border-collapse: collapse; width: 100%; margin-bottom: 2rem; \x7d",
    "    th, td \x7b text-align: left; padding: 0.4rem 0.6rem; border-bottom: 1px solid #eee; vertical-align: top; \x7d",
    "    th \x7b background: #f6f6f6; \x7d",
    "    .sev-Error \x7b color: #b00020; font-weight: 600; \x7d",
    "    .sev-Warning \x7b color: #b36b00; \x7d",
    "    .sev-Info \x7b color: #345; \x7d",
    "    .muted \x7b color: #777; \x7d"]

structure Group where
  category : Value
  findings : List Value
  deriving Repr

def categoryOf (f : Value) : Value := ((member? f "category").getD .null).orElse (.text "")

def isRecord : Value → Bool
  | .map _ => true
  | _ => false

def groups : List Value → List Group
  | [] => []
  | f :: rest =>
    match groups rest with
    | [] => [⟨categoryOf f, [f]⟩]
    | g :: more =>
      if (categoryOf f).sameKey g.category then ⟨categoryOf f, f :: g.findings⟩ :: more
      else ⟨categoryOf f, [f]⟩ :: g :: more

def categoryBefore (f g : Value) : Except Fault Bool := Value.before (categoryOf f) (categoryOf g)

def clash (f g : Value) : Bool :=
  !((categoryOf f).isText && (categoryOf g).isText) && (categoryBefore f g).toOption.isNone

def hasClash : List Value → Bool
  | [] => false
  | f :: rest => rest.any (clash f) || hasClash rest

def byCategory (findings : List Value) : Except Fault (List Group) :=
  if !findings.all isRecord then .error .notRecord
  else if hasClash findings then .error .wrongKind
  else .ok (groups (findings.mergeSort fun f g => !(categoryBefore g f).toOption.getD false))

def severityWord (severity : Option Value) : Except Fault String := do
  match ← ((severity.getD .null).orElse (.int 0)).toInt with
  | 3 => return "Error"
  | 2 => return "Warning"
  | 1 => return "Info"
  | _ => return "Unknown"

def head (model : Value) : Markup :=
  [.fixed "<!doctype html>\n<html lang=\"en\">\n<head>\n  <meta charset=\"utf-8\">\n  <title>Best Practice Analysis: ",
    .slot model.display,
    .fixed ("</title>\n  <style>\n" ++ Text.join "\n" style ++ "\n  </style>\n</head>\n<body>\n"),
    .fixed "  <h1>Best Practice Analysis</h1>\n  <div class=\"muted\">Model: ",
    .slot model.display,
    .fixed "</div>\n\n"]

def card (kind label : String) (v : Option Value) : Markup :=
  [.fixed ("    <div class=\"card\"><div class=\"" ++ kind ++ "\">"), shown v,
    .fixed ("</div>" ++ label ++ "</div>\n")]

def cards (contents : List Markup) : Markup :=
  [Piece.fixed "  <div class=\"cards\">\n"] ++ contents.flatten ++ [Piece.fixed "  </div>\n"]

def summaryCards (summary : Value) : Markup :=
  cards
    [card "n" "Findings" (member? summary "totalCount"),
      card "n sev-Error" "Errors" (member? summary "errorCount"),
      card "n sev-Warning" "Warnings" (member? summary "warningCount"),
      card "n sev-Info" "Info" (member? summary "infoCount"),
      card "n" "Rules evaluated" (member? summary "rulesEvaluated")]

def joined (v : Option Value) : Except Fault String := do
  match v with
  | none => return ""
  | some v => return Text.join ", " ((← v.items).map Value.display)

def skipped (summary : Value) : Except Fault Markup := do
  if isSet (member? summary "rulesSkipped") then
    let ids ← joined (member? summary "skippedRules")
    return [.fixed "  \n  <p class=\"muted\">", shown (member? summary "rulesSkipped"),
      .fixed " rule(s) skipped: ",
      .slot ids, .fixed "</p>\n  \n\n"]
  else return [.fixed "  \n\n"]

def resolvedRow (f : Value) : Markup :=
  [.fixed "\n    <tr><td>", shown (member? f "ruleName"), .fixed "</td><td><code>",
    shown (member? f "affectedObject"),
    .fixed "</code></td></tr>\n    "]

def resolvedTable (comparison : Value) : Except Fault Markup := do
  match member? comparison "resolved" with
  | none => return []
  | some resolved =>
    if resolved.isEmpty then return []
    else
      let rows := (← resolved.items).map resolvedRow
      return [Piece.fixed "\n  <table>\n    <tr><th>Resolved rule</th><th>Object</th></tr>\n    "] ++
        rows.flatten ++
        [Piece.fixed "\n  </table>\n  "]

def compared (comparison : Value) : Except Fault Markup := do
  if comparison.isEmpty then return [.fixed "  \n\n"]
  else
    let counts := cards
      [card "n" "Resolved" (member? comparison "resolvedCount"),
        card "n" "New" (member? comparison "newCount"),
        card "n" "Recurring" (member? comparison "recurringCount")]
    let table ← resolvedTable comparison
    return [Piece.fixed "  \n  <h2>Compared with previous run</h2>\n"] ++ counts ++ [Piece.fixed "  "] ++
      table ++
      [Piece.fixed "\n  \n\n"]

def findingRow (f : Value) : Except Fault Markup := do
  let label ← severityWord (member? f "severity")
  return [.fixed "\n    <tr>\n      \n      <td class=\"sev-", .slot label, .fixed "\">", .slot label,
    .fixed "</td>\n      <td title=\"", shown (member? f "description"),
    .fixed "\">", shown (member? f "ruleName"),
    .fixed "</td>\n      <td><code>", shown (member? f "affectedObject"),
    .fixed "</code></td>\n      <td>",
    shown (member? f "objectType"), .fixed "</td>\n      <td>",
    .fixed (if isSet (member? f "hasAutoFix") then "yes" else ""), .fixed "</td>\n    </tr>\n    "]

def groupTable (g : Group) : Except Fault Markup := do
  let rows ← g.findings.mapM findingRow
  return [Piece.fixed "\n  <h2>", .slot g.category.display, .fixed " <span class=\"muted\">(",
    .slot (toString g.findings.length), .fixed ")</span></h2>\n  <table>\n",
    .fixed ("    <tr><th>Severity</th><th>Rule</th><th>Object</th><th>Type</th>" ++
      "<th>Auto-fix</th></tr>\n    ")] ++ rows.flatten ++
    [Piece.fixed "\n  </table>\n  "]

def groupTables (gs : List Group) : Except Fault Markup := do
  if gs.isEmpty then return [.fixed "\n  <p>No best practice violations found.</p>\n  "]
  else return (← gs.mapM groupTable).flatten

/-- The page of a bundle, and of its comparison with an earlier run; a null comparison is
left out. -/
def page (bundle comparison : Value) : Except Fault Markup := do
  if !isRecord bundle then .error .notRecord
  else
    let findings ← (((member? bundle "findings").getD .null).orElse (.list [])).items
    let gs ← byCategory findings
    let summary := ((member? bundle "summary").getD .null).orElse (.map [])
    let model := (member? bundle "model").getD (.text "Model")
    let skipped ← skipped summary
    let compared ← compared comparison
    let tables ← groupTables gs
    return head model ++ summaryCards summary ++ [Piece.fixed "\n"] ++ skipped ++ compared ++
      [Piece.fixed "  "] ++ tables ++
      [Piece.fixed "\n</body>\n</html>"]

def html (bundle comparison : Value) : Except Fault String :=
  (page bundle comparison).map Markup.text

end TabularAudit.Report
