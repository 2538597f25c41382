import TabularAudit.Number.Binary64

/-! The open values of model properties, rule fields and finding files. -/

namespace TabularAudit

/-- An `enum` is written in a rule as `Family.Member`; a `map` keeps the order of its entries. -/
inductive Value where
  | null
  | bool (b : Bool)
  | int (n : Int)
  | float (x : Binary64)
  | text (s : String)
  | enum (family member : String)
  | list (items : List Value)
  | map (entries : List (String × Value))
  deriving Repr, Inhabited

abbrev Entries := List (String × Value)

def Entries.find? : Entries → String → Option Value
  | [], _ => none
  | (j, v) :: rest, k => if j = k then some v else find? rest k

namespace Value

mutual

def equals : Value → Value → Bool
  | null, null => true
  | bool a, bool b => a = b
  | int m, int n => m = n
  | float x, float y => x = y
  | text s, text t => s = t
  | enum a b, enum c d => a = c && b = d
  | list xs, list ys => itemsEqual xs ys
  | map xs, map ys => entriesEqual xs ys
  | _, _ => false

def itemsEqual : List Value → List Value → Bool
  | [], [] => true
  | x :: xs, y :: ys => equals x y && itemsEqual xs ys
  | _, _ => false

def entriesEqual : List (String × Value) → List (String × Value) → Bool
  | [], [] => true
  | (k, v) :: xs, (j, w) :: ys => k = j && equals v w && entriesEqual xs ys
  | _, _ => false

end

mutual

theorem equals_iff : ∀ v w : Value, equals v w = true ↔ v = w
  | null, w => by cases w <;> simp [equals]
  | bool a, w => by cases w <;> simp [equals]
  | int n, w => by cases w <;> simp [equals]
  | float x, w => by cases w <;> simp [equals]
  | text s, w => by cases w <;> simp [equals]
  | enum a b, w => by cases w <;> simp [equals]
  | list xs, w => by
      cases w with
      | list ys => simp [equals, itemsEqual_iff xs ys]
      | _ => simp [equals]
  | map xs, w => by
      cases w with
      | map ys => simp [equals, entriesEqual_iff xs ys]
      | _ => simp [equals]

theorem itemsEqual_iff : ∀ xs ys : List Value, itemsEqual xs ys = true ↔ xs = ys
  | [], ys => by cases ys <;> simp [itemsEqual]
  | x :: xs, ys => by
      cases ys with
      | nil => simp [itemsEqual]
      | cons y ys => simp [itemsEqual, equals_iff x y, itemsEqual_iff xs ys]

theorem entriesEqual_iff : ∀ xs ys : List (String × Value), entriesEqual xs ys = true ↔ xs = ys
  | [], ys => by cases ys <;> simp [entriesEqual]
  | (k, v) :: xs, ys => by
      cases ys with
      | nil => simp [entriesEqual]
      | cons y ys => simp [entriesEqual, Prod.ext_iff, equals_iff v y.2, entriesEqual_iff xs ys]

end

instance : DecidableEq Value := fun v w => decidable_of_iff _ (equals_iff v w)

def isEmpty : Value → Bool
  | null => true
  | bool b => !b
  | int n => n == 0
  | float x => x.isZero
  | text s => s.isEmpty
  | enum .. => false
  | list items => items.isEmpty
  | map entries => entries.isEmpty

def isBool : Value → Bool
  | bool _ => true
  | _ => false

def isText : Value → Bool
  | text _ => true
  | _ => false

def orElse (v fallback : Value) : Value := if v.isEmpty then fallback else v

def magnitude? : Value → Option Binary64
  | bool b => some (.finite false b.toNat 0)
  | int n => some (.finite (n < 0) n.natAbs 0)
  | float x => some x
  | _ => none

def sameNumber (v w : Value) : Bool :=
  match v.magnitude?, w.magnitude? with
  | some x, some y => x.compare? y == some .eq
  | _, _ => false

mutual

/-- Numbers are the same across their kinds, maps whatever the order of their entries. -/
def same : Value → Value → Bool
  | null, null => true
  | text s, text t => s == t
  | enum a b, enum c d => a == c && b == d
  | list xs, list ys => sameItems xs ys
  | map xs, map ys => xs.length == ys.length && sameEntries xs ys
  | v, w => sameNumber v w

def sameItems : List Value → List Value → Bool
  | [], [] => true
  | x :: xs, y :: ys => same x y && sameItems xs ys
  | _, _ => false

def sameEntries : List (String × Value) → List (String × Value) → Bool
  | [], _ => true
  | (k, v) :: rest, ys =>
    (match Entries.find? ys k with
      | some w => same v w
      | none => false) && sameEntries rest ys

end

def isAtom : Value → Bool
  | list _ | map _ => false
  | _ => true

/-- Sameness in a key, where "not a number" is the same as itself. -/
def sameKey : Value → Value → Bool
  | float .nan, float .nan => true
  | v, w => same v w

def ofOption : Option String → Value
  | none => null
  | some s => text s

theorem same_text_text (s t : String) : same (text s) (text t) = (s == t) := by
  simp [same]

theorem isEmpty_text (s : String) : isEmpty (text s) = s.isEmpty := rfl

end Value

end TabularAudit
