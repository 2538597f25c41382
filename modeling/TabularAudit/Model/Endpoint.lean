import TabularAudit.Model.Index

/-! The ends of relationships as pairs of names, compared part by part. -/

namespace TabularAudit

def Value.text? : Value → Option String
  | .text s => some s
  | _ => none

theorem Value.text?_text (s : String) : (Value.text s).text? = some s := rfl

structure Endpoint where
  table : Option String
  column : Option String
  deriving DecidableEq, Repr

namespace Endpoint

def namesTable (e : Endpoint) : Bool := e.table.any (· ≠ "")

def names (e : Endpoint) : String × String := (e.table.getD "", e.column.getD "")

def key (e : Endpoint) : String := qualifiedColumn (e.table.getD "") (e.column.getD "")

end Endpoint

namespace ModelObject

def endpoint (r : ModelObject) (side : Side) : Endpoint := ⟨(r.endTable side).text?, (r.endColumn side).text?⟩

def ownEndpoint (c : ModelObject) : Endpoint := ⟨c.table, some c.shortName⟩

end ModelObject

def endpoints (objects : List ModelObject) : List Endpoint :=
  (Index.ofKind objects .relationship).flatMap fun r => Side.all.map r.endpoint

def keyedEndpoints (objects : List ModelObject) (c : ModelObject) : List Endpoint :=
  (endpoints objects).filter fun e => e.namesTable && e.key == c.ownEndpoint.key

end TabularAudit
