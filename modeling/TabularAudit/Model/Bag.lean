import TabularAudit.Fault
import TabularAudit.Text.Case
import TabularAudit.Value.Text

/-! Properties under names whose letter case does not count. -/

namespace TabularAudit

/-- Entries stand in order of first insertion, each under the spelling of its first insertion. -/
structure Bag where
  entries : Entries := []
  deriving Repr, Inhabited, DecidableEq

namespace Bag

def empty : Bag := {}

def fold (name : String) : String := Text.lower name

def findFolded : Entries → String → Option Value
  | [], _ => none
  | (name, v) :: rest, folded => if fold name = folded then some v else findFolded rest folded

def putFolded : Entries → String → String → Value → Entries
  | [], _, name, v => [(name, v)]
  | (old, w) :: rest, folded, name, v =>
    if fold old = folded then (old, v) :: rest else (old, w) :: putFolded rest folded name v

def eraseFolded : Entries → String → Entries
  | [], _ => []
  | (old, w) :: rest, folded =>
      if fold old = folded then rest else (old, w) :: eraseFolded rest folded

def find? (b : Bag) (name : String) : Option Value := findFolded b.entries (fold name)

def get (b : Bag) (name : String) : Value := (b.find? name).getD .null

def contains (b : Bag) (name : String) : Bool := (b.find? name).isSome

def put (b : Bag) (name : String) (v : Value) : Bag := ⟨putFolded b.entries (fold name) name v⟩

def putAll (b : Bag) (entries : Entries) : Bag := entries.foldl (fun b e => b.put e.1 e.2) b

def ofEntries (entries : Entries) : Bag := empty.putAll entries

def putIfAbsent (b : Bag) (name : String) (v : Value) : Bag :=
  if b.contains name then b else b.put name v

def names (b : Bag) : List String := b.entries.map Prod.fst

def size (b : Bag) : Nat := b.entries.length

def read (b : Bag) (name : String) : Except Fault Value :=
  match b.find? name with
  | some v => .ok v
  | none => .error .missingKey

def erase (b : Bag) (name : String) : Except Fault Bag :=
  if b.contains name then .ok ⟨eraseFolded b.entries (fold name)⟩ else .error .missingKey

def pop (b : Bag) (name : String) (fallback : Option Value) : Except Fault (Value × Bag) :=
  match b.find? name, fallback with
  | some v, _ => .ok (v, ⟨eraseFolded b.entries (fold name)⟩)
  | none, some v => .ok (v, b)
  | none, none => .error .missingKey

def popFirst (b : Bag) : Except Fault ((String × Value) × Bag) :=
  match b.entries with
  | [] => .error .missingKey
  | e :: rest => .ok (e, ⟨rest⟩)

def nameOf : Value → Except Fault String
  | .text name => .ok name
  | _ => .error .notRecord

/-- The two parts of a pair; a text of two characters and a map of two entries are pairs as well. -/
def pairOf : Value → Except Fault (Value × Value)
  | .list [k, v] => .ok (k, v)
  | .map [(k, _), (v, _)] => .ok (.text k, .text v)
  | .text s =>
    match s.toList with
    | [k, v] => .ok (.text (String.ofList [k]), .text (String.ofList [v]))
    | _ => .error .notPair
  | .list _ | .map _ => .error .notPair
  | _ => .error .wrongKind

def ofPairs : List Value → Bag → Except Fault Bag
  | [], b => .ok b
  | item :: rest, b => do
    let (k, v) ← pairOf item
    ofPairs rest (b.put (← nameOf k) v)

def ofValue (v : Value) : Except Fault Bag :=
  match v with
  | .map entries => .ok (ofEntries entries)
  | .list items => ofPairs items empty
  | .text s => if s.isEmpty then .ok empty else .error .notPair
  | _ => if v.isEmpty then .ok empty else .error .wrongKind

inductive Change where
  | put (name : String) (v : Value)
  | putIfAbsent (name : String) (v : Value)
  | putAll (entries : Entries)
  | erase (name : String)
  | pop (name : String) (fallback : Option Value)
  | popFirst
  | clear
  deriving Repr

def apply (b : Bag) : Change → Except Fault (Value × Bag)
  | .put name v => .ok (.null, b.put name v)
  | .putIfAbsent name v => .ok ((b.find? name).getD v, b.putIfAbsent name v)
  | .putAll entries => .ok (.null, b.putAll entries)
  | .erase name => (b.erase name).map fun c => (.null, c)
  | .pop name fallback => b.pop name fallback
  | .popFirst => b.popFirst.map fun (e, c) => (.list [.text e.1, e.2], c)
  | .clear => .ok (.null, empty)

/-- The same spelled names with the same values, in any order. -/
def same (b c : Bag) : Bool := Value.same (.map b.entries) (.map c.entries)

def literal (b : Bag) : String := "PropertyBag(" ++ Value.literal (.map b.entries) ++ ")"

theorem findFolded_putFolded (es : Entries) (folded name other : String) (v : Value)
    (h : fold name = folded) :
    findFolded (putFolded es folded name v) other =
      if folded = other then some v else findFolded es other := by
  induction es with
  | nil => simp [putFolded, findFolded, h]
  | cons e es ih =>
      obtain ⟨old, w⟩ := e
      by_cases ho : fold old = folded
      · by_cases hf : folded = other <;> simp [putFolded, findFolded, ho, hf]
      · by_cases hf : fold old = other
        · subst hf
          simp [putFolded, findFolded, ho, Ne.symm ho]
        · simp [putFolded, findFolded, ho, hf, ih]

theorem find?_put (b : Bag) (name other : String) (v : Value) :
    (b.put name v).find? other = if fold name = fold other then some v else b.find? other :=
  findFolded_putFolded b.entries (fold name) name (fold other) v rfl

end Bag

end TabularAudit
