import TabularAudit.Value.Text

/-! Pages made of fixed markup and of slots for texts. -/

namespace TabularAudit.Report

def escapeChar (c : Char) : List Char :=
  if c = '&' then "&amp;".toList
  else if c = '<' then "&lt;".toList
  else if c = '>' then "&gt;".toList
  else if c = '"' then "&#34;".toList
  else if c = '\'' then "&#39;".toList
  else [c]

def escape (s : String) : String := String.ofList (s.toList.flatMap escapeChar)

/-- Only slots hold texts that do not belong to the page itself. -/
inductive Piece where
  | fixed (markup : String)
  | slot (text : String)
  deriving DecidableEq, Repr

abbrev Markup := List Piece

def Piece.text : Piece → String
  | fixed markup => markup
  | slot text => escape text

def Markup.text (m : Markup) : String := m.foldl (fun s piece => s ++ piece.text) ""

def shown (v : Option Value) : Piece := .slot ((v.map Value.display).getD "")

def member? (v : Value) (name : String) : Option Value :=
  match v with
  | .map entries => Entries.find? entries name
  | _ => none

def isSet (v : Option Value) : Bool := v.any fun v => !v.isEmpty

def isMarkup (c : Char) : Bool := c == '<' || c == '>' || c == '"' || c == '\''

theorem any_isMarkup_escapeChar (c : Char) : (escapeChar c).any isMarkup = false := by
  unfold escapeChar
  split
  · decide
  split
  · decide
  split
  · decide
  split
  · decide
  split
  · decide
  simp [isMarkup, *]

theorem any_isMarkup_escape (s : String) : (escape s).toList.any isMarkup = false := by
  simp only [escape, String.toList_ofList, List.any_flatMap, List.any_eq_false]
  intro c _
  simp [any_isMarkup_escapeChar]

end TabularAudit.Report
