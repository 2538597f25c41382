import TabularAudit.Audit
import TabularAudit.Command.Options
import TabularAudit.Logging

/-! The commands of the program. -/

namespace TabularAudit

inductive Command where
  | run (metadata out : Path) (rules previous : Option Path)
  | compare (current previous : Path) (out : Option Path)
  | list (category : Option String) (rules : Option Path)
  deriving Repr

namespace Command

/-- Exit code and texts of a command; a fault that is not reported to the user is kept as it is. -/
structure Outcome where
  exit : Nat
  stdout : String := ""
  stderr : String := ""
  fault : Option Fault := none

def Outcome.done (stdout : String) : Outcome := { exit := 0, stdout }

def Outcome.usage : Outcome := { exit := 2 }

def isReported : Fault → Bool
  | .scopeNotText _ | .catalog _ | .snapshot _ | .setting .. => true
  | _ => false

def Outcome.failed (fault : Fault) : Outcome :=
  if isReported fault then { exit := 1, stderr := "Error: " ++ fault.message ++ "\n" }
  else { exit := 1, fault := some fault }

def Outcome.ofResult : Except Fault String → Outcome
  | .ok stdout => .done stdout
  | .error fault => .failed fault

/-- A path that has to be there; behind a slash it has to be a directory. -/
def existing (d : Disk) (directories : Bool) (raw : String) : Option Path :=
  let cs := raw.toList
  if cs.isEmpty then none
  else match d.entry? (.ofText raw) with
    | some .directory => if directories then some (.ofText raw) else none
    | some (.file _) =>
      if "/".toList.isSuffixOf cs || "/.".toList.isSuffixOf cs then none else some (.ofText raw)
    | none => none

/-- Null when the option is missing, nothing when its path is. -/
def existingOption (d : Disk) (a : Arguments) (key : String) : Option (Option Path) :=
  match a.option? key with
  | none => some none
  | some raw => (existing d false raw).map some

/-- Workers never change a result, but their number has to be positive. -/
def hasWorkers (a : Arguments) : Bool :=
  match a.option? "workers" with
  | none => true
  | some raw => (Numeral.int? raw).any fun n => 1 ≤ n

def runSpecs : List Spec :=
  [⟨"metadata", 'm'⟩, ⟨"rules", 'r'⟩, ⟨"out", 'o'⟩, ⟨"previous", 'p'⟩, ⟨"workers", none⟩]

def readRun (d : Disk) (a : Arguments) : Option Command := do
  let metadata ← (← a.option? "metadata") |> existing d true
  let rules ← existingOption d a "rules"
  let previous ← existingOption d a "previous"
  if a.positional.isEmpty && hasWorkers a then
    return .run metadata (.ofText ((a.option? "out").getD "output")) rules previous
  else none

def readCompare (d : Disk) (a : Arguments) : Option Command := do
  match a.positional with
  | [current, previous] =>
    return .compare (← existing d false current) (← existing d false previous)
      ((a.option? "out").map .ofText)
  | _ => none

def readRules (d : Disk) (a : Arguments) : Option Command := do
  let rules ← existingOption d a "rules"
  if a.positional.isEmpty then return .list (a.option? "category") rules else none

def commands : List (String × List Spec × (Disk → Arguments → Option Command)) :=
  [("run", runSpecs, readRun), ("compare", [⟨"out", 'o'⟩], readCompare),
    ("rules", [⟨"category", 'c'⟩, ⟨"rules", 'r'⟩], readRules)]

def helpText : String :=
  "Usage: [--log-level LEVEL] [--log-format FORMAT] run|compare|rules [OPTIONS]\n"

def runDirectory (d : Disk) (metadata out : Path) (stamp : String) : Path :=
  let name := match d.entry? metadata with
    | some (.file _) => metadata.stem
    | _ => metadata.name
  out.child (name ++ "_" ++ stamp)

def runText (s : Summary) (directory : Path) : String :=
  toString s.total ++ " findings (" ++ toString s.errors ++ " errors, " ++
    toString s.warnings ++ " warnings, " ++ toString s.infos ++ " info); " ++
    toString s.skipped.length ++ " rules skipped\nReport generated: " ++
    (directory.child "report.html").text ++ "\n"

def findingLine (sign : String) (f : Finding) : String :=
  "  " ++ sign ++ " " ++ f.ruleId ++ "  " ++ f.affectedObject.display ++ "\n"

def comparisonText (c : Comparison) : String :=
  "resolved: " ++ toString c.resolved.length ++ "  new: " ++ toString c.fresh.length ++ "  recurring: " ++
    toString c.recurring.length ++ "\n" ++ Text.join "" (c.fresh.map (findingLine "+")) ++
    Text.join "" (c.resolved.map (findingLine "-"))

def ruleLine (r : Rule) : String :=
  r.severity.display ++ "  " ++ r.id ++ "  (" ++ r.scope.display ++ ")" ++
    (if r.hasAutoFix then " [auto-fix]" else "") ++ "\n"

def rulesText (c : Catalog) : String :=
  Text.join "" (c.rules.map ruleLine) ++ toString c.rules.length ++ " rules\n"

def comparisonOf (d : Disk) (current previous : Path) : Except Fault Comparison := do
  Comparison.ofRuns (← d.findings current) (← d.findings previous)

def perform (s : Settings) (stamp : String) : Command → Effect String
  | .run metadata out rules previous => do
    let directory ← Effect.look fun d => .ok (runDirectory d metadata out stamp)
    let outcome ← Audit.perform ⟨metadata, directory, rules.or s.rulesPath, previous⟩
    return runText outcome.bundle.summary directory
  | .compare current previous out => do
    let c ← Effect.look fun d => comparisonOf d current previous
    if let some p := out then Effect.write p (Json.text (.map c.entries))
    return comparisonText c
  | .list category rules => do
    let catalog ← Effect.look fun d => Audit.catalogFor d (rules.or s.rulesPath)
    return rulesText (catalog.restrict (Value.ofOption category))

def groupSpecs : List Spec := [⟨"log-level", none⟩, ⟨"log-format", none⟩]

/-- Settings are read once the command is known, and before its own arguments are. -/
def execute (env : Environment) (stamp : String) (args : List String) : StateM Disk Outcome := do
  match scan groupSpecs false args with
  | none => return .usage
  | some group =>
    if group.help then return .done helpText
    match group.positional with
    | [] => return .usage
    | name :: rest =>
      match commands.lookup name, Settings.ofEnvironment env with
      | none, _ => return .usage
      | some _, .error fault => return .failed fault
      | some (specs, readCommand), .ok settings =>
        match scan specs true rest with
        | none => return .usage
        | some a =>
          if a.help then return .done helpText
          match readCommand (← get) a with
          | none => return .usage
          | some command => return .ofResult (← (perform settings stamp command).run)

end Command

end TabularAudit
