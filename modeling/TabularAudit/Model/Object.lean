import TabularAudit.Model.Bag

/-! The objects of a tabular model. -/

namespace TabularAudit

/-- Rules may name kinds that no snapshot holds. -/
inductive Kind where
  | model
  | table
  | calculatedTable
  | dataColumn
  | calculatedColumn
  | measure
  | relationship
  | other (name : String)
  deriving DecidableEq, Repr

namespace Kind

def text : Kind → String
  | model => "Model"
  | table => "Table"
  | calculatedTable => "CalculatedTable"
  | dataColumn => "DataColumn"
  | calculatedColumn => "CalculatedColumn"
  | measure => "Measure"
  | relationship => "Relationship"
  | other name => name

def ofText : String → Kind
  | "Model" => model
  | "Table" => table
  | "CalculatedTable" => calculatedTable
  | "DataColumn" => dataColumn
  | "CalculatedColumn" => calculatedColumn
  | "Measure" => measure
  | "Relationship" => relationship
  | name => other name

def isTable (k : Kind) : Bool := k = table || k = calculatedTable

def isColumn (k : Kind) : Bool := k = dataColumn || k = calculatedColumn

theorem text_ofText (s : String) : (ofText s).text = s := by
  unfold ofText
  split <;> rfl

end Kind

/-- `table` is the short name of the table that an object belongs to. -/
structure ModelObject where
  name : String
  kind : Kind
  properties : Bag := {}
  expression : Option String := none
  table : Option String := none
  deriving Repr, DecidableEq

namespace ModelObject

def unnamed (kind : Kind) : String := "Unknown_" ++ kind.text

def named (name : String) (kind : Kind) (properties : Bag) (expression table : Option String) :
    ModelObject :=
  ⟨if name = "" then unnamed kind else name, kind, properties, expression, table⟩

def shortName (o : ModelObject) : String :=
  ((o.properties.get "Name").orElse (.text o.name)).display

theorem unnamed_ne_empty (kind : Kind) : unnamed kind ≠ "" := by
  intro h
  have length := congrArg (fun s : String => s.toList.length) h
  simp [unnamed] at length

theorem named_name_ne_empty (name : String) (kind : Kind) (properties : Bag)
    (expression table : Option String) :
    (named name kind properties expression table).name ≠ "" := by
  simp only [named]
  split
  · exact unnamed_ne_empty kind
  · assumption

end ModelObject

/-- Whether a property names a table or column; null names what has no name. -/
def Value.names : Value → Option String → Bool
  | .null, none => true
  | .text s, some t => s == t
  | _, _ => false

inductive Side where
  | source
  | target
  deriving DecidableEq, Repr

namespace Side

def all : List Side := [source, target]

def word : Side → String
  | source => "From"
  | target => "To"

end Side

namespace ModelObject

def endTable (r : ModelObject) (side : Side) : Value := r.properties.get (side.word ++ "Table")

def endColumn (r : ModelObject) (side : Side) : Value := r.properties.get (side.word ++ "Column")

def endsOn (r : ModelObject) (side : Side) (o : ModelObject) : Bool :=
  if o.kind.isTable then (r.endTable side).names (some o.shortName)
  else (r.endTable side).names o.table && (r.endColumn side).names (some o.shortName)

end ModelObject

end TabularAudit
