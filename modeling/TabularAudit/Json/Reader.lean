import TabularAudit.Value.Entries
import TabularAudit.Value.Text

/-! Reading JSON texts. Integers stay exact; the constants for infinities and "not a number" are
admitted. -/

namespace TabularAudit.Json

def isSpace (c : Char) : Bool := c == ' ' || c == '\t' || c == '\n' || c == '\r'

def skip (cs : List Char) : List Char := cs.dropWhile isSpace

def hexValue? (c : Char) : Option Nat :=
  if '0' ≤ c && c ≤ '9' then some (c.toNat - 48)
  else if 'a' ≤ c && c ≤ 'f' then some (c.toNat - 87)
  else if 'A' ≤ c && c ≤ 'F' then some (c.toNat - 55)
  else none

def hexValue (cs : List Char) : Option Nat :=
  cs.foldl (fun n c => do return 16 * (← n) + (← hexValue? c)) (some 0)

/-- A code unit of a pair that stands alone is no character; the replacement character takes its place. -/
def unitChar (n : Nat) : Char := if 0xD800 ≤ n && n ≤ 0xDFFF then '\uFFFD' else Char.ofNat n

def pairChar (high low : Nat) : Char :=
  Char.ofNat (0x10000 + (high - 0xD800) * 0x400 + (low - 0xDC00))

def simpleEscape? (c : Char) : Option Char :=
  match c with
  | '"' => some '"'
  | '\\' => some '\\'
  | '/' => some '/'
  | 'b' => some (Char.ofNat 8)
  | 'f' => some (Char.ofNat 12)
  | 'n' => some '\n'
  | 'r' => some '\r'
  | 't' => some '\t'
  | _ => none

def readString : List Char → Option (List Char × List Char)
  | [] => none
  | '"' :: rest => some ([], rest)
  | '\\' :: 'u' :: a :: b :: c :: d :: '\\' :: 'u' :: e :: f :: g :: h :: rest =>
    match hexValue [a, b, c, d], hexValue [e, f, g, h] with
    | some high, low? =>
      if 0xD800 ≤ high && high < 0xDC00 && low?.any (fun low => 0xDC00 ≤ low && low < 0xE000) then
        (readString rest).map fun (cs, rest) => (pairChar high (low?.getD 0) :: cs, rest)
      else
        (readString ('\\' :: 'u' :: e :: f :: g :: h :: rest)).map fun (cs, rest) =>
          (unitChar high :: cs, rest)
    | none, _ => none
  | '\\' :: 'u' :: a :: b :: c :: d :: rest =>
    match hexValue [a, b, c, d] with
    | some n => (readString rest).map fun (cs, rest) => (unitChar n :: cs, rest)
    | none => none
  | '\\' :: c :: rest =>
    match simpleEscape? c with
    | some c => (readString rest).map fun (cs, rest) => (c :: cs, rest)
    | none => none
  | c :: rest =>
      if c.toNat < 32 then none else (readString rest).map fun (cs, rest) => (c :: cs, rest)

def digits (cs : List Char) : List Char × List Char :=
  (cs.takeWhile Text.isAsciiDigit, cs.dropWhile Text.isAsciiDigit)

def fraction (cs : List Char) : List Char × List Char :=
  match cs with
  | '.' :: tail => if (digits tail).1.isEmpty then ([], cs) else digits tail
  | _ => ([], cs)

def exponent? (cs : List Char) : Option (Int × List Char) :=
  match cs with
  | c :: tail =>
    if c = 'e' ∨ c = 'E' then
      let (sign, tail) := match tail with
        | '-' :: rest => ((-1 : Int), rest)
        | '+' :: rest => (1, rest)
        | _ => (1, tail)
      let (ds, rest) := digits tail
      if ds.isEmpty then none else some (sign * Numeral.fold ds, rest)
    else none
  | [] => none

def readNumber (negative : Bool) (cs : List Char) : Except Fault (Value × List Char) :=
  let (whole, rest) := match cs with
    | '0' :: rest => (['0'], rest)
    | _ => digits cs
  if whole.isEmpty then .error .notJson
  else
    let (part, rest) := fraction rest
    let float (e : Int) :=
      Value.float (.ofDecimal negative (Numeral.fold (whole ++ part)) (e - part.length))
    match exponent? rest with
    | some (e, rest) => .ok (float e, rest)
    | none =>
      if !part.isEmpty then .ok (float 0, rest)
      else if Numeral.maxDigits < whole.length then .error .badNumeral
      else .ok (.int (if negative then -(Numeral.fold whole : Int) else Numeral.fold whole), rest)

def word? (word : String) (cs : List Char) : Option (List Char) :=
  if word.toList.isPrefixOf cs then some (cs.drop word.length) else none

def constants : List (String × Value) :=
  [("null", .null), ("true", .bool true), ("false", .bool false), ("NaN", .float .nan),
    ("Infinity", .float (.infinite false)), ("-Infinity", .float (.infinite true))]

def constant? (cs : List Char) : Option (Value × List Char) :=
  constants.findSome? fun (word, v) => (word? word cs).map fun rest => (v, rest)

def readAtom (cs : List Char) : Except Fault (Value × List Char) :=
  match constant? cs with
  | some result => .ok result
  | none =>
    match cs with
    | '-' :: rest => readNumber true rest
    | _ => readNumber false cs

def openBrace : Char := Char.ofNat 123
def closeBrace : Char := Char.ofNat 125

/-- Each nested value takes at least one character, so the length of the text bounds the depth. -/
def readValue : (fuel : Nat) → List Char → Except Fault (Value × List Char)
  | 0, _ => .error .notJson
  | fuel + 1, cs =>
    match cs with
    | [] => .error .notJson
    | c :: rest =>
      if c = '"' then
        match readString rest with
        | some (s, rest) => .ok (.text (String.ofList s), rest)
        | none => .error .notJson
      else if c = '[' then
        match skip rest with
        | ']' :: rest => .ok (.list [], rest)
        | inside => do
          let (items, rest) ← readItems fuel inside
          return (.list items, rest)
      else if c = openBrace then
        match skip rest with
        | [] => .error .notJson
        | d :: inside =>
          if d = closeBrace then .ok (.map [], inside)
          else do
            let (entries, rest) ← readEntries fuel (d :: inside)
            return (.map (Entries.ofPairs entries), rest)
      else readAtom cs
where
  readItems : (fuel : Nat) → List Char → Except Fault (List Value × List Char)
    | 0, _ => .error .notJson
    | fuel + 1, cs => do
      let (item, rest) ← readValue fuel cs
      match skip rest with
      | ']' :: rest => return ([item], rest)
      | ',' :: rest =>
        let (items, rest) ← readItems fuel (skip rest)
        return (item :: items, rest)
      | _ => .error .notJson
  readEntries : (fuel : Nat) → List Char → Except Fault (List (String × Value) × List Char)
    | 0, _ => .error .notJson
    | fuel + 1, cs =>
      match cs with
      | '"' :: rest =>
        match readString rest with
        | none => .error .notJson
        | some (key, rest) =>
          match skip rest with
          | ':' :: rest => do
            let (value, rest) ← readValue fuel (skip rest)
            match skip rest with
            | [] => .error .notJson
            | d :: rest =>
              if d = closeBrace then return ([(String.ofList key, value)], rest)
              else if d = ',' then
                let (entries, rest) ← readEntries fuel (skip rest)
                return ((String.ofList key, value) :: entries, rest)
              else .error .notJson
          | _ => .error .notJson
      | _ => .error .notJson

/-- The value of a whole text; of several entries with one key the last counts, in the place of the
first. -/
def readAll (cs : List Char) : Except Fault Value := do
  let (value, rest) ← readValue (2 * cs.length + 2) (skip cs)
  if (skip rest).isEmpty then return value else .error .notJson

def read (s : String) : Except Fault Value := readAll s.toList

end TabularAudit.Json
