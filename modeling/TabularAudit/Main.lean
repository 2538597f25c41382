import Std.Time
import TabularAudit.Command.Basic

/-! The command line: reads what a command may look at, runs the command, and writes what it has
made. -/

namespace TabularAudit.Main

def spellings (arg : String) : List String :=
  [arg, String.ofList (arg.toList.drop 2)] ++ (Command.cutAtEquals arg.toList).2.toList

def mentioned (args : List String) (env : Environment) : List Path :=
  let named := (("output" :: args.flatMap spellings) ++ (env.lookup "BPA_RULES_PATH").toList).map Path.ofText
  let sections := named.flatMap fun p => ("model" :: Disk.sections).map fun name => p.child (name ++ ".json")
  ((named ++ sections).flatMap Path.trail).eraseDups

def lookAt (p : Path) : IO (Option (Path × Entry)) := do
  try
    let place ← IO.FS.realPath p.text
    if ← place.isDir then return some (p, .directory)
    else if ← place.pathExists then return some (p, .file (← IO.FS.readBinFile place))
    else return none
  catch _ => return none

def environment : IO Environment := do
  let names := ["BPA_RULES_PATH", "BPA_LOG_LEVEL", "BPA_LOG_FORMAT", "BPA_MAX_WORKERS"]
  let given ← names.mapM fun name => do return (← IO.getEnv name).map fun value => (name, value)
  return given.filterMap id

def store (before : Disk) (change : Path × Entry) : IO Unit := do
  match change with
  | (p, .directory) => IO.FS.createDirAll p.text
  | (p, .file content) =>
    if (before.read? p).any fun old => old == content then return
    IO.FS.writeBinFile p.text content

end TabularAudit.Main

def main (args : List String) : IO UInt32 := do
  let env ← TabularAudit.Main.environment
  let stamp := (← Std.Time.PlainDateTime.now).format "uuuuMMdd_HHmmss"
  let entries ← (TabularAudit.Main.mentioned args env).mapM TabularAudit.Main.lookAt
  let disk : TabularAudit.Disk := ⟨entries.filterMap id⟩
  let (outcome, after) := (TabularAudit.Command.execute env stamp args).run disk
  after.entries.reverse.forM (TabularAudit.Main.store disk)
  IO.print outcome.stdout
  IO.eprint outcome.stderr
  if outcome.fault.isSome then IO.eprintln "the command failed"
  return outcome.exit.toUInt32
