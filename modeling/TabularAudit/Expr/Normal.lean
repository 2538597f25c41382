import TabularAudit.Text.Blank

/-! Expression texts in normal form: single spaces, and words for the boolean operators. -/

namespace TabularAudit.Expr

/-- Where the scan stands; `gap` holds when a space would be the first character or the second in a
row. -/
inductive Place where
  | outside (gap : Bool)
  | inside (quote : Char)
  | escaped (quote : Char)
  deriving DecidableEq, Repr

def spaceUnless (gap : Bool) : List Char := if gap then [] else [' ']

def normalizeFrom : Place → List Char → List Char
  | _, [] => []
  | .inside quote, c :: cs =>
    let state :=
      if c = '\\' then .escaped quote else if c = quote then .outside false else .inside quote
    c :: normalizeFrom state cs
  | .escaped quote, c :: cs => c :: normalizeFrom (.inside quote) cs
  | .outside gap, '&' :: '&' :: cs =>
      spaceUnless gap ++ 'a' :: 'n' :: 'd' :: ' ' :: normalizeFrom (.outside true) cs
  | .outside gap, '|' :: '|' :: cs =>
      spaceUnless gap ++ 'o' :: 'r' :: ' ' :: normalizeFrom (.outside true) cs
  | .outside gap, c :: cs =>
    if c = '"' ∨ c = '\'' then c :: normalizeFrom (.inside c) cs
    else if Text.isBlank c then spaceUnless gap ++ normalizeFrom (.outside true) cs
    else c :: normalizeFrom (.outside false) cs

def normalizeChars (cs : List Char) : List Char := Text.strip (normalizeFrom (.outside true) cs)

/-- Quoted strings, and the tail after a quote that is never closed, are kept as they are. -/
def normalize (s : String) : String := String.ofList (normalizeChars s.toList)

end TabularAudit.Expr
