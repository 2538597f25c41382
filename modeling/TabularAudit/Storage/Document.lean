import TabularAudit.Json.Reader
import TabularAudit.Model.Snapshot
import TabularAudit.Rule.Catalog
import TabularAudit.Finding
import TabularAudit.Storage.Disk

/-! Documents on a disk: snapshots, findings and rule catalogs. -/

namespace TabularAudit

namespace Document

def mark : List UInt8 := [0xEF, 0xBB, 0xBF]

/-- The text behind the mark, if there is one; a file that ends inside the mark is empty. -/
def decode (content : ByteArray) : Except Fault String :=
  let head := (content.extract 0 3).toList
  if head.length < 3 ∧ head.isPrefixOf mark then .ok ""
  else
    let body := if head = mark then content.extract 3 content.size else content
    match String.fromUTF8? body with
    | some s => .ok s
    | none => .error .badEncoding

def parse (content : ByteArray) : Except Fault Value := decode content >>= Json.read

end Document

namespace Disk

/-- The value in a file; the two faults are those of a file that cannot be read and of a text that
is no document. -/
def document (d : Disk) (p : Path) (unreadable unparsable : Fault) : Except Fault Value :=
  match d.read? p with
  | none => .error unreadable
  | some content =>
    match Document.parse content with
    | .error .notJson => .error unparsable
    | r => r

def snapshotDocument (d : Disk) (p : Path) : Except Fault Value :=
  d.document p (.snapshot (.unreadable p.text)) (.snapshot (.notJson p.text))

def sections : List String := ["tables", "columns", "measures", "relationships"]

def readSections (d : Disk) (p : Path) : List String → Except Fault Entries
  | [] => .ok []
  | name :: rest =>
    let file := p.child (name ++ ".json")
    if (d.entry? file).isNone then readSections d p rest
    else do
      let v ← d.snapshotDocument file
      return (name, v) :: (← readSections d p rest)

def snapshot (d : Disk) (p : Path) : Except Fault Value :=
  match d.entry? p with
  | some (.file _) => do
    match ← d.snapshotDocument p with
    | .map entries => return .map entries
    | _ => .error (.snapshot (.notObject p.text))
  | some .directory => do
    let entries ← d.readSections p ("model" :: sections)
    if entries.any fun e => sections.contains e.1 then return .map entries
    else .error (.snapshot (.noRecords p.text))
  | none => .error (.snapshot (.notFound p.text))

def findings (d : Disk) (p : Path) : Except Fault (List Finding) := do
  let records := match ← d.snapshotDocument p with
    | .map entries => (Entries.find? entries "findings").getD .null
    | v => v
  match records with
  | .list records => records.mapM Finding.ofValue
  | _ => .error (.snapshot (.notFindings p.text))

def catalog (d : Disk) (p : Path) (builtin : Bool) : Except Fault Catalog := do
  let document ← d.document p (.catalog (.unreadable p.text)) (.catalog (.notJson p.text))
  Catalog.ofDocument document builtin

end Disk

end TabularAudit
