import TabularAudit.Expr.Comparison

/-! Values that expressions take for a flag that is off, for a member of an enum, or for a word. -/

namespace TabularAudit

def isNumeral (s : String) : Bool := (Value.text s).isNumeric

namespace Value

/-- Off, and yet not the Boolean: null, zero, any text but "true", lists and maps. -/
def isLooselyOff : Value → Bool
  | bool _ => false
  | enum family member => Expr.matchesMember family member (bool false)
  | v => !v.holds

def endsBehindPoint (member written : String) : Bool :=
  ('.' :: (Text.lower member).toList).isSuffixOf (Text.lower written).toList

def isQualified (member : String) : Value → Bool
  | text s => endsBehindPoint member s
  | enum _ own => Text.lower own == Text.lower member || endsBehindPoint member own
  | _ => false

/-- Equal to a word that is no numeral. A Boolean is compared with the truth of the word, a member of an enum under
the rules of its family, and all else as text. -/
def isReadAs (word : String) : Value → Bool
  | bool b => b == (text word).holds
  | enum family member => Expr.matchesMember family member (text word)
  | v => v.plainText == word

end Value

end TabularAudit
