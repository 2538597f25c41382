import TabularAudit.Fault
import TabularAudit.Storage.Path

/-! Files and directories, as far as a run sees them. -/

namespace TabularAudit

inductive Entry where
  | directory
  | file (content : ByteArray)

structure Disk where
  entries : List (Path × Entry) := []

/-- Effects on a disk; what was written stays written after a fault. -/
abbrev Effect := ExceptT Fault (StateM Disk)

namespace Disk

def spelled? (d : Disk) (p : Path) : Option Entry :=
  if p.parts = [] then some .directory else d.entries.lookup p

def isDirectory (d : Disk) (p : Path) : Bool :=
  match d.spelled? p with
  | some .directory => true
  | _ => false

/-- Double points lead out of a directory that is there. -/
def walk (d : Disk) (p : Path) : List String → Option Path
  | [] => some p
  | part :: rest =>
    if part = ".." then if d.isDirectory p then walk d p.parent rest else none
    else walk d (p.child part) rest

def entry? (d : Disk) (p : Path) : Option Entry :=
  (d.spelled? p).orElse fun _ => (d.walk ⟨p.root, []⟩ p.parts).bind d.spelled?

def read? (d : Disk) (p : Path) : Option ByteArray :=
  match d.entry? p with
  | some (.file content) => some content
  | _ => none

def put (d : Disk) (p : Path) (e : Entry) : Disk := ⟨(p, e) :: d.entries.filter fun q => q.1 ≠ p⟩

def makeDirectories (d : Disk) : List Path → Except Fault Disk
  | [] => .ok d
  | p :: rest =>
    match d.entry? p with
    | some .directory => makeDirectories d rest
    | some (.file _) => .error (if rest.isEmpty then .pathTaken else .notDirectory)
    | none => makeDirectories (d.put p .directory) rest

def makeDirectory (d : Disk) (p : Path) : Except Fault Disk := d.makeDirectories p.trail

def write (d : Disk) (p : Path) (text : String) : Except Fault Disk :=
  match d.entry? p, d.entry? p.parent with
  | some .directory, _ => .error .isDirectory
  | _, some .directory => .ok (d.put p (.file text.toUTF8))
  | _, some (.file _) => .error .notDirectory
  | _, none => .error .notFound

def files (d : Disk) : List Path :=
  d.entries.filterMap fun
    | (p, .file _) => some p
    | (_, .directory) => none

def ofEntries (entries : List (Path × Entry)) : Disk :=
  entries.foldl (fun d e => (e.1.parent.trail.foldl (fun d p => d.put p .directory) d).put e.1 e.2) {}

theorem spelled?_put (d : Disk) (p : Path) (e : Entry) (h : p.parts ≠ []) :
    (d.put p e).spelled? p = some e := by
  simp [spelled?, put, h]

end Disk

namespace Effect

def ofResult {α : Type} (r : Except Fault α) : Effect α := ExceptT.mk (pure r)

def look {α : Type} (f : Disk → Except Fault α) : Effect α := do
  let d ← getThe Disk
  ofResult (f d)

def change (f : Disk → Except Fault Disk) : Effect Unit := do
  let d ← look f
  set d

def makeDirectory (p : Path) : Effect Unit := change fun d => d.makeDirectory p

def write (p : Path) (text : String) : Effect Unit := change fun d => d.write p text

end Effect

end TabularAudit
