import TabularAudit.Storage.Document
import TabularAudit.Value.Integer

/-! What a file of findings holds, record by record. -/

namespace TabularAudit

namespace Finding

/-- What is wrong with a record: it is no map, or gives a severity that is no integer. An empty severity is filled
in. -/
def recordFault? : Value → Option Fault
  | .map r =>
    let severity := (Entries.find? r "severity").getD .null
    if severity.isEmpty then none else severity.integerFault?
  | _ => some .notRecord

/-- Whether the object of a record can stand in a key. An empty one is filled in with a text. -/
def namesAtom : Value → Bool
  | .map r =>
    let object := (Entries.find? r "affectedObject").getD .null
    object.isEmpty || object.isAtom
  | _ => false

end Finding

namespace Document

def findingRecords? : Value → Option (List Value)
  | .list records => some records
  | .map entries =>
    match Entries.find? entries "findings" with
    | some (.list records) => some records
    | _ => none
  | _ => none

end Document

def Disk.Holds (d : Disk) (p : Path) (v : Value) : Prop :=
  ∃ content, d.read? p = some content ∧ Document.parse content = .ok v

end TabularAudit
