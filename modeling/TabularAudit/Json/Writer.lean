import TabularAudit.Value.Text

/-! Writing JSON texts: two spaces for each level, ASCII characters only. -/

namespace TabularAudit.Json

def unitEscape (n : Nat) : List Char := '\\' :: 'u' :: Text.hexDigits 4 n

/-- Characters beyond the sixteen-bit range are written as a pair of units. -/
def escape (c : Char) : List Char :=
  match c with
  | '"' => ['\\', '"']
  | '\\' => ['\\', '\\']
  | '\n' => ['\\', 'n']
  | '\r' => ['\\', 'r']
  | '\t' => ['\\', 't']
  | _ =>
    let n := c.toNat
    if n = 8 then ['\\', 'b']
    else if n = 12 then ['\\', 'f']
    else if 32 ≤ n ∧ n < 127 then [c]
    else if n < 0x10000 then unitEscape n
    else unitEscape (0xD800 + (n - 0x10000) / 0x400) ++ unitEscape (0xDC00 + (n - 0x10000) % 0x400)

def quoted (s : String) : List Char := '"' :: s.toList.flatMap escape ++ ['"']

def floatText : Binary64 → String
  | .nan => "NaN"
  | .infinite negative => if negative then "-Infinity" else "Infinity"
  | x => x.text

def indent (depth : Nat) : List Char := '\n' :: List.replicate (2 * depth) ' '

def block (opening closing : Char) (depth : Nat) (items : List (List Char)) : List Char :=
  if items.isEmpty then [opening, closing]
  else
    opening :: indent (depth + 1) ++ (',' :: indent (depth + 1)).intercalate items ++ indent depth ++ [closing]

mutual

def write (depth : Nat) : Value → List Char
  | .null => "null".toList
  | .bool b => (if b then "true" else "false").toList
  | .int n => (toString n).toList
  | .float x => (floatText x).toList
  | .text s => quoted s
  | .enum _ member => quoted member
  | .list items => block '[' ']' depth (writeItems (depth + 1) items)
  | .map entries => block (Char.ofNat 123) (Char.ofNat 125) depth (writeEntries (depth + 1) entries)

def writeItems (depth : Nat) : List Value → List (List Char)
  | [] => []
  | v :: rest => write depth v :: writeItems depth rest

def writeEntries (depth : Nat) : List (String × Value) → List (List Char)
  | [] => []
  | (k, v) :: rest => (quoted k ++ ':' :: ' ' :: write depth v) :: writeEntries depth rest

end

def text (v : Value) : String := String.ofList (write 0 v)

end TabularAudit.Json
