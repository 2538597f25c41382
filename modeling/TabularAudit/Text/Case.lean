import TabularAudit.Text.CaseTable

/-! Small and capital letters of whole texts. -/

namespace TabularAudit.Text

def mapCase : List CaseRun → Nat → Nat
  | [], n => n
  | run :: rest, n =>
    if n < run.first then n
    else if n ≤ run.last then if (n - run.first) % run.step = 0 then n - run.first + run.image else n
    else mapCase rest n

def small (c : Char) : Char := Char.ofNat (mapCase lowerRuns c.toNat)

/-- The one capital letter; letters whose capital form takes several characters are left alone. -/
def capital (c : Char) : Char := Char.ofNat (mapCase upperRuns c.toNat)

def isCased (c : Char) : Bool := casedRanges.has c.toNat
def isCaseIgnorable (c : Char) : Bool := caseIgnorableRanges.has c.toNat

def nextIsCased (cs : List Char) : Bool :=
  match cs.dropWhile isCaseIgnorable with
  | [] => false
  | c :: _ => isCased c

/-- A capital sigma that ends a word gets the final small form. -/
def lowerWithin (before : List Char) (c : Char) (after : List Char) : List Char :=
  if c = 'Σ' then [if nextIsCased before && !nextIsCased after then 'ς' else 'σ']
  else if c = 'İ' then ['i', '\u0307']
  else [small c]

def lowerChars (before : List Char) : List Char → List Char
  | [] => []
  | c :: rest => lowerWithin before c rest ++ lowerChars (c :: before) rest

def capitalSequence : List (Nat × List Nat) → Nat → Option (List Nat)
  | [], _ => none
  | (n, image) :: rest, m =>
      if m < n then none else if m = n then some image else capitalSequence rest m

def upperChar (c : Char) : List Char :=
  match capitalSequence upperSequences c.toNat with
  | some image => image.map Char.ofNat
  | none => [capital c]

def lower (s : String) : String := String.ofList (lowerChars [] s.toList)
def upper (s : String) : String := String.ofList (s.toList.flatMap upperChar)

theorem toList_lower (s : String) : (lower s).toList = lowerChars [] s.toList := by
  simp [lower]

end TabularAudit.Text
