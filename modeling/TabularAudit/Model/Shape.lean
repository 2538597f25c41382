import TabularAudit.Model.Section

/-! The shape of a snapshot, whatever its records hold, and the codes that are decoded when it is read. -/

namespace TabularAudit

namespace Record

def isRecord : Value → Bool
  | .map _ => true
  | _ => false

def areRecords : Value → Bool
  | .null => true
  | .list items => items.all isRecord
  | _ => false

/-- A code can be read unless it is a text of digit signs that are not all decimal digits, or has too many digits. -/
def isReadable : Value → Bool
  | .int n => (Numeral.text? n).isSome
  | .text s => !s.toList.all Text.isDigit || (s.toList.all Text.isDecimal && s.length ≤ Numeral.maxDigits)
  | _ => true

/-- Row numbers are known by their type, and nothing else of theirs is read. -/
def codesOfColumn (b : Bag) : List Value :=
  let type := firstGiven b ["Type", "ColumnType"]
  type.toList ++ if Snapshot.isRowNumberType type then [] else (firstGiven b ["DataType", "ExplicitDataType"]).toList

def codesOfRelationship (b : Bag) : List Value :=
  (firstGiven b ["CrossFilteringBehavior", "CrossFilterDirection"]).toList ++ (b.find? "FromCardinality").toList ++
    (b.find? "ToCardinality").toList

end Record

namespace Snapshot

/-- The model is a record, each section a list of records, and so is what stands in tables; all of them can be missing. -/
def isShaped : Value → Bool
  | .map entries =>
    let b := Bag.ofEntries entries
    (b.get "model" == .null || Record.isRecord (b.get "model")) &&
      ["tables", "columns", "measures", "relationships"].all (fun name => Record.areRecords (b.get name)) &&
      ((records b "tables").toOption.getD []).all fun table =>
        ["Columns", "Measures"].all fun name => Record.areRecords ((bagOf table).get name)
  | _ => false

def Records.codes (r : Records) : List Value :=
  r.columns.flatMap (fun record => Record.codesOfColumn (bagOf record)) ++
    r.relationships.flatMap fun record => Record.codesOfRelationship (bagOf record)

end Snapshot

end TabularAudit
