import TabularAudit.Value.Text

/-! Which values read as integers, and what is wrong with the others. -/

namespace TabularAudit.Value

/-- Booleans, integers, finite floats and texts that spell an integer are read. An infinity is too large, any other
float or text is no numeral, and nothing else is a number at all. -/
def integerFault? : Value → Option Fault
  | bool _ | int _ | float (.finite ..) => none
  | float (.infinite _) => some .tooLarge
  | float .nan => some .badNumeral
  | text s => if (Numeral.int? s).isSome then none else some .badNumeral
  | null | enum .. | list _ | map _ => some .wrongKind

end TabularAudit.Value
