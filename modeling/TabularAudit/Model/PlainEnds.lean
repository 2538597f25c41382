import TabularAudit.Expr.Loose
import TabularAudit.Model.Endpoint
import TabularAudit.Model.Snapshot

/-! How the records of a snapshot give the ends of relationships, and how expressions read them. -/

namespace TabularAudit

namespace Record

/-- Properties that an expression takes for the name of an end, before the end itself. -/
def endAliases (property : String) : List String := [property ++ ".Name", property ++ "Name"]

def hasTextEnds (b : Bag) : Bool := endProperties.all fun property => (b.get property).isText

def hasEndAlias (b : Bag) : Bool :=
  endProperties.any fun property => (endAliases property).any fun name => (b.find? name).isSome

end Record

def Snapshot.relationshipRecords (snapshot : Value) : Except Fault (List Bag) := do
  let b ← Bag.ofValue snapshot
  (← records b "relationships").mapM Record.ofValue

namespace ModelObject

/-- What `FromTable.Name` or `ToTable.Name` reads on a relationship whose ends are texts. -/
def endLabel (r : ModelObject) (side : Side) : Value :=
  ((Record.endAliases (side.word ++ "Table")).findSome? r.properties.find?).getD (r.endTable side)

structure IsVisibleColumn (c : ModelObject) : Prop where
  column : c.kind.isColumn = true
  shown : c.properties.get "IsHidden" = .bool false

/-- A column from which a relationship goes out, with many rows for one at the other end. -/
structure IsForeignKey (c r : ModelObject) : Prop where
  source : r.endpoint .source = c.ownEndpoint
  many : r.properties.get "FromCardinality" = .text "Many"

/-- A column at either end of a relationship that goes out from the table of the column. -/
structure LooksForeign (c r : ModelObject) : Prop where
  ends : r.endpoint .source = c.ownEndpoint ∨ r.endpoint .target = c.ownEndpoint
  label : (r.endLabel .source).isReadAs (c.table.getD "") = true
  many : (r.properties.get "FromCardinality").isReadAs "Many" = true

variable (c r : ModelObject)

instance : Decidable c.IsVisibleColumn :=
  decidable_of_iff (c.kind.isColumn = true ∧ c.properties.get "IsHidden" = .bool false)
    ⟨fun ⟨column, shown⟩ => ⟨column, shown⟩, fun ⟨column, shown⟩ => ⟨column, shown⟩⟩

instance : Decidable (c.IsForeignKey r) :=
  decidable_of_iff (r.endpoint .source = c.ownEndpoint ∧ r.properties.get "FromCardinality" = .text "Many")
    ⟨fun ⟨source, many⟩ => ⟨source, many⟩, fun ⟨source, many⟩ => ⟨source, many⟩⟩

instance : Decidable (c.LooksForeign r) :=
  decidable_of_iff ((r.endpoint .source = c.ownEndpoint ∨ r.endpoint .target = c.ownEndpoint) ∧
      (r.endLabel .source).isReadAs (c.table.getD "") = true ∧
      (r.properties.get "FromCardinality").isReadAs "Many" = true)
    ⟨fun ⟨ends, label, many⟩ => ⟨ends, label, many⟩, fun ⟨ends, label, many⟩ => ⟨ends, label, many⟩⟩

end ModelObject

end TabularAudit
