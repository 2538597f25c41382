import TabularAudit.Fault
import TabularAudit.Number.Numeral
import TabularAudit.Number.Shortest
import TabularAudit.Text.Case
import TabularAudit.Value.Basic

/-! How values read as text, as numbers and as truth. -/

namespace TabularAudit.Value

def boolText (b : Bool) : String := if b then "True" else "False"

def bracketed (opening closing : Char) (items : List String) : String :=
  String.ofList [opening] ++ Text.join ", " items ++ String.ofList [closing]

mutual

/-- The written form, with texts between quotes. Integers are written whole: the readers of documents and of expressions
refuse one of more than `Numeral.maxDigits` digits, and no operation makes a longer one out of shorter ones. -/
def literal : Value → String
  | null => "None"
  | bool b => boolText b
  | int n => toString n
  | float x => x.text
  | text s => Text.quoted s
  | enum family member =>
      "EnumValue(type_name=" ++ Text.quoted family ++ ", member=" ++ Text.quoted member ++ ")"
  | list items => bracketed '[' ']' (literals items)
  | map entries => bracketed (Char.ofNat 123) (Char.ofNat 125) (entryLiterals entries)

def literals : List Value → List String
  | [] => []
  | v :: rest => literal v :: literals rest

def entryLiterals : Entries → List String
  | [] => []
  | (k, v) :: rest => (Text.quoted k ++ ": " ++ literal v) :: entryLiterals rest

end

def display : Value → String
  | text s => s
  | v => literal v

/-- The text on which string methods and comparisons work: nothing is empty, whole floats lose their
point. Integers are as short as those of `literal`, and a whole float has at most 309 digits. -/
def plainText : Value → String
  | null => ""
  | enum _ member => member
  | float (.finite negative m e) =>
    if (Binary64.finite negative m e).isIntegral then toString (Binary64.truncate negative m e)
    else (Binary64.finite negative m e).text
  | v => display v

/-- Only the word "true" counts among texts; lists, maps and enum members never do. -/
def holds : Value → Bool
  | bool b => b
  | int n => n != 0
  | float x => !x.isZero
  | text s => Text.lower (Text.trim s) == "true"
  | _ => false

def isNumeric : Value → Bool
  | int _ | float _ => true
  | text s => (Numeral.whole? (Text.strip s.toList)).isSome
  | _ => false

def toNumber : Value → Except Fault Binary64
  | bool b => .ok (if b then .one else .zero)
  | int n =>
    match Binary64.ofInt? n with
    | some x => .ok x
    | none => .error .tooLarge
  | float x => .ok x
  | text s =>
    match Numeral.whole? (Text.strip s.toList) with
    | none => .ok .nan
    | some parts =>
      if Numeral.withoutMargin s.toList = Text.strip s.toList then .ok parts.toFloat else .error .badNumeral
  | _ => .ok .nan

def wholePart : Binary64 → Except Fault Int
  | .nan => .error .badNumeral
  | .infinite _ => .error .tooLarge
  | .finite negative m e => .ok (Binary64.truncate negative m e)

def toInt : Value → Except Fault Int
  | bool b => .ok b.toNat
  | int n => .ok n
  | float x => wholePart x
  | text s =>
    match Numeral.int? s with
    | some n => .ok n
    | none => .error .badNumeral
  | _ => .error .wrongKind

def kindName : Value → String
  | null => "NoneType"
  | bool _ => "bool"
  | int _ => "int"
  | float _ => "float"
  | text _ => "str"
  | enum .. => "EnumValue"
  | list _ => "list"
  | map _ => "dict"

def items : Value → Except Fault (List Value)
  | list xs => .ok xs
  | map entries => .ok (entries.map fun e => text e.1)
  | text s => .ok (s.toList.map fun c => text (String.ofList [c]))
  | _ => .error .wrongKind

mutual

/-- Strict order for sorting: numbers among themselves, texts by code point, lists item by item. -/
def before : Value → Value → Except Fault Bool
  | text s, text t => .ok (s < t)
  | list xs, list ys => itemsBefore xs ys
  | v, w =>
    match v.magnitude?, w.magnitude? with
    | some x, some y => .ok (x.compare? y == some .lt)
    | _, _ => .error .wrongKind

def itemsBefore : List Value → List Value → Except Fault Bool
  | [], [] => .ok false
  | [], _ :: _ => .ok true
  | _ :: _, [] => .ok false
  | x :: xs, y :: ys => if same x y then itemsBefore xs ys else before x y

end

theorem plainText_text (s : String) : plainText (text s) = s := rfl

theorem display_text (s : String) : display (text s) = s := rfl

theorem bracketed_ne_empty (opening closing : Char) (items : List String) :
    bracketed opening closing items ≠ "" := by
  simp [bracketed]

theorem literal_ne_empty (v : Value) : literal v ≠ "" := by
  cases v with
  | null => decide
  | bool b => cases b <;> decide
  | int n =>
      cases n with
      | ofNat n => exact Nat.repr_ne_empty
      | negSucc n =>
          change "-" ++ (n + 1).repr ≠ ""
          simp
  | float x => exact x.text_ne_empty
  | text s =>
      change Text.quoted s ≠ ""
      simp [Text.quoted]
  | enum family member =>
      change "EnumValue(type_name=" ++ Text.quoted family ++ ", member=" ++ Text.quoted member ++ ")" ≠ ""
      simp
  | list items => exact bracketed_ne_empty _ _ _
  | map entries => exact bracketed_ne_empty _ _ _

theorem display_eq_empty_iff {v : Value} : display v = "" ↔ v = text "" := by
  cases v with
  | text s => simp [display_text]
  | _ => exact iff_of_false (literal_ne_empty _) nofun

end TabularAudit.Value
