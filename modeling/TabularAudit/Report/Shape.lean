import TabularAudit.Report.Page
import TabularAudit.Rule.Catalog
import TabularAudit.Run.Comparison
import TabularAudit.Run.Summary

/-! What a report page shows apart from its texts. -/

namespace TabularAudit

namespace Report

def marks (s : String) : List Char := s.toList.filter isMarkup

def Piece.isFixed : Piece → Bool
  | fixed _ => true
  | slot _ => false

def Markup.template (m : Markup) : Markup := m.filter Piece.isFixed

def categories (fs : List Finding) : List (String × List Finding) :=
  (Catalog.sortedTexts (fs.map Finding.category)).map fun name => (name, fs.filter fun f => f.category = name)

/-- Numbers and flags only: severity and fix of each finding by category, the number of rules that were skipped, and
that of the findings that were resolved since an earlier run, if there was one. -/
structure Shape where
  groups : List (List (Int × Bool))
  skipped : Nat
  resolved : Option Nat
  deriving DecidableEq, Repr

def Shape.of (b : Bundle) (c : Option Comparison) : Shape where
  groups := (categories b.findings).map fun group => group.2.map fun f => (f.severity, f.hasAutoFix)
  skipped := b.summary.skipped.length
  resolved := c.map fun c => c.resolved.length

end Report

end TabularAudit
