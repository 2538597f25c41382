import TabularAudit.Model.Bag

/-! Changes of a bag, made of what it can do itself: read, store and erase one property, and tell its first name. -/

namespace TabularAudit.Bag

/-- A fault does not undo what was changed before it. -/
abbrev Step := EStateM Fault Bag

namespace Step

def item (name : String) : Step Value := fun b =>
  match b.read name with
  | .ok v => .ok v b
  | .error fault => .error fault b

def store (name : String) (v : Value) : Step Unit := fun b => .ok () (b.put name v)

def erase (name : String) : Step Unit := fun b =>
  match b.erase name with
  | .ok c => .ok () c
  | .error fault => .error fault b

def firstName : Step String := fun b =>
  match b.names with
  | [] => .error .missingKey b
  | name :: _ => .ok name b

def ifPresent {α : Type} (x : Step α) : Step (Option α) := fun b =>
  match x b with
  | .ok a c => .ok (some a) c
  | .error .missingKey c => .ok none c
  | .error fault c => .error fault c

def find (name : String) (fallback : Value) : Step Value := do
  return (← ifPresent (item name)).getD fallback

def storeIfAbsent (name : String) (v : Value) : Step Value := do
  match ← ifPresent (item name) with
  | some w => return w
  | none =>
    store name v
    return v

def pop (name : String) (fallback : Option Value) : Step Value := do
  match ← ifPresent (item name), fallback with
  | some v, _ =>
    erase name
    return v
  | none, some v => return v
  | none, none => throw .missingKey

def popFirst : Step (String × Value) := do
  let name ← firstName
  let v ← item name
  erase name
  return (name, v)

def storeAll : Entries → Step Unit
  | [] => return ()
  | e :: rest => do
    store e.1 e.2
    storeAll rest

theorem popFirst_nil : popFirst ⟨[]⟩ = .error .missingKey ⟨[]⟩ := rfl

theorem popFirst_cons (e : String × Value) (rest : Entries) : popFirst ⟨e :: rest⟩ = .ok e ⟨rest⟩ := by
  have found : Bag.find? ⟨e :: rest⟩ e.1 = some e.2 := by rw [find?, findFolded, if_pos rfl]
  have erased : Bag.erase ⟨e :: rest⟩ e.1 = .ok ⟨rest⟩ := by
    rw [Bag.erase, contains, found, Option.isSome_some, if_pos rfl, eraseFolded, if_pos rfl]
  simp only [popFirst, bind, EStateM.bind, firstName, names, List.map_cons, item, read, found, erase, erased]
  rfl

def clear (b : Bag) : EStateM.Result Fault Bag Unit :=
  match _taken : popFirst b with
  | .ok _ c => clear c
  | .error .missingKey c => .ok () c
  | .error fault c => .error fault c
termination_by b.size
decreasing_by
  obtain ⟨entries⟩ := b
  cases entries with
  | nil =>
      rw [popFirst_nil] at _taken
      cases _taken
  | cons e rest =>
      rw [popFirst_cons] at _taken
      cases _taken
      exact Nat.lt_succ_self _

end Step

def Change.run : Change → Step Value
  | .put name v => do
    Step.store name v
    return .null
  | .putIfAbsent name v => Step.storeIfAbsent name v
  | .putAll entries => do
    Step.storeAll entries
    return .null
  | .erase name => do
    Step.erase name
    return .null
  | .pop name fallback => Step.pop name fallback
  | .popFirst => do
    let e ← Step.popFirst
    return .list [.text e.1, e.2]
  | .clear => do
    Step.clear
    return .null

def perform : List Change → Bag → List (Except Fault Value) × Bag
  | [], b => ([], b)
  | change :: rest, b =>
    match change.run b with
    | .ok v c => (.ok v :: (perform rest c).1, (perform rest c).2)
    | .error fault c => (.error fault :: (perform rest c).1, (perform rest c).2)

end TabularAudit.Bag
