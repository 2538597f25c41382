import TabularAudit.Model.Change

/-! What has happened to the properties of a bag, and what that leaves in it. -/

namespace TabularAudit.Bag

inductive Event where
  | stored (name : String) (v : Value)
  | removed (name : String)

namespace Event

def name : Event → String
  | stored name _ => name
  | removed name => name

def value? : Event → Option Value
  | stored _ v => some v
  | removed _ => none

def concerns (e : Event) (name : String) : Bool := fold e.name = fold name

def removes (e : Event) (name : String) : Bool := e.value?.isNone && e.concerns name

end Event

/-- The newest event comes first. -/
abbrev History := List Event

namespace History

def value? (h : History) (name : String) : Option Value :=
  (h.find? fun e => e.concerns name).bind Event.value?

def enters (earlier : History) (e : Event) : Bool := e.value?.isSome && (value? earlier e.name).isNone

def namesUpTo (later : List Event) : History → List String
  | [] => []
  | e :: earlier =>
    namesUpTo (e :: later) earlier ++
      if enters earlier e && later.all (fun l => !l.removes e.name) then [e.name] else []

def names (h : History) : List String := namesUpTo [] h

def answer (h : History) : Change → Except Fault Value × History
  | .put name v => (.ok .null, .stored name v :: h)
  | .putIfAbsent name v =>
    match h.value? name with
    | some w => (.ok w, h)
    | none => (.ok v, .stored name v :: h)
  | .putAll entries => (.ok .null, entries.foldl (fun h e => .stored e.1 e.2 :: h) h)
  | .erase name =>
    match h.value? name with
    | some _ => (.ok .null, .removed name :: h)
    | none => (.error .missingKey, h)
  | .pop name fallback =>
    match h.value? name, fallback with
    | some v, _ => (.ok v, .removed name :: h)
    | none, some v => (.ok v, h)
    | none, none => (.error .missingKey, h)
  | .popFirst =>
    match h.names with
    | [] => (.error .missingKey, h)
    | name :: _ => (.ok (.list [.text name, (h.value? name).getD .null]), .removed name :: h)
  | .clear => (.ok .null, h.names.foldl (fun h name => .removed name :: h) h)

def answers (h : History) : List Change → List (Except Fault Value) × History
  | [] => ([], h)
  | change :: rest => ((h.answer change).1 :: ((h.answer change).2.answers rest).1, ((h.answer change).2.answers rest).2)

end History

end TabularAudit.Bag
