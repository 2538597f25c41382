import TabularAudit.Value.Text

/-! Comparing values of different kinds. -/

namespace TabularAudit.Expr

inductive Relation where
  | eq
  | ne
  | gt
  | ge
  | lt
  | le
  deriving DecidableEq, Repr

namespace Relation

def ofSymbol? : String → Option Relation
  | "=" | "==" => some eq
  | "!=" | "<>" => some ne
  | ">" => some gt
  | ">=" => some ge
  | "<" => some lt
  | "<=" => some le
  | _ => none

def isEquality (r : Relation) : Bool := r == eq || r == ne

/-- What cannot be compared is unequal and in no order. -/
def admits (r : Relation) (o : Option Ordering) : Bool :=
  match r with
  | eq => o == some .eq
  | ne => o != some .eq
  | gt => o == some .gt
  | ge => o == some .gt || o == some .eq
  | lt => o == some .lt
  | le => o == some .lt || o == some .eq

def onBools (r : Relation) (a b : Bool) : Bool := if r == ne then a != b else a == b

theorem admits_ne (o : Option Ordering) : admits ne o = !admits eq o := by
  simp [admits, bne]

theorem onBools_ne (a b : Bool) : onBools ne a b = !onBools eq a b := by
  cases a <;> cases b <;> rfl

end Relation

/-- Families whose members match any text that contains their name. -/
def isContained (family : String) : Bool := family == "DataType"

/-- A member stands for its name, alone or behind a point, in any letter case. -/
def matchesMember (family member : String) (actual : Value) : Bool :=
  match actual with
  | .null => false
  | _ =>
    let got := (Text.lower actual.plainText).toList
    let want := (Text.lower member).toList
    if isContained family then Text.contains want got else got == want || ('.' :: want).isSuffixOf got

def memberCompare (r : Relation) (family member : String) (actual : Value) : Except Fault Bool :=
  if r.isEquality then .ok (r.onBools (matchesMember family member actual) true)
  else .error (.unsupported .enumOrder)

def boolCompare (r : Relation) (left right : Value) : Except Fault Bool :=
  if r.isEquality then .ok (r.onBools left.holds right.holds) else .error (.unsupported .boolOrder)

/-- A numeral on the right makes the comparison one of numbers. -/
def plainCompare (r : Relation) (left right : Value) : Except Fault Bool :=
  if right.isNumeric then do
    let x ← left.toNumber
    let y ← right.toNumber
    return r.admits (x.compare? y)
  else .ok (r.admits (some (compareOfLessAndEq left.plainText right.plainText)))

/-- Enum members decide first, then nulls, then Booleans. -/
def compareBy (r : Relation) (left right : Value) : Except Fault Bool :=
  match left, right with
  | _, .enum family member => memberCompare r family member left
  | .enum family member, _ => memberCompare r family member right
  | .null, .null => .ok (r == .eq || r == .ge || r == .le)
  | _, .null => .ok (r == .ne)
  | _, _ =>
      if left.isBool || right.isBool then boolCompare r left right else plainCompare r left right

def compare (symbol : String) (left right : Value) : Except Fault Bool :=
  match Relation.ofSymbol? symbol with
  | some r => compareBy r left right
  | none => .error (.unsupported (.operator symbol))

end TabularAudit.Expr
