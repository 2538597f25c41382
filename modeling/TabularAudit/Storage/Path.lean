import TabularAudit.Text.Search

/-! Paths of files, without the parts that change nothing. -/

namespace TabularAudit

/-- `root` is empty in a relative path. -/
structure Path where
  root : String := ""
  parts : List String := []
  deriving DecidableEq, Repr

namespace Path

/-- Two slashes at the front are a root of their own; more than two count as one. -/
def rootOf (cs : List Char) : String :=
  match (cs.takeWhile (· == '/')).length with
  | 0 => ""
  | 2 => "//"
  | _ => "/"

/-- Empty parts and single points are dropped; double points stay. -/
def ofText (s : String) : Path :=
  ⟨rootOf s.toList,
    ((Text.splitOn '/' s.toList).map String.ofList).filter fun part => part != "" && part != "."⟩

def text (p : Path) : String :=
  if p.root = "" ∧ p.parts = [] then "." else p.root ++ Text.join "/" p.parts

def child (p : Path) (name : String) : Path := { p with parts := p.parts ++ [name] }

def parent (p : Path) : Path := { p with parts := p.parts.dropLast }

def name (p : Path) : String := p.parts.getLast?.getD ""

/-- The name without its last suffix; a point at either end starts no suffix. -/
def stem (p : Path) : String :=
  let cs := p.name.toList
  match Text.lastIndexOf? ['.'] cs with
  | some i => if 0 < i ∧ i + 1 < cs.length then String.ofList (cs.take i) else p.name
  | none => p.name

def trail (p : Path) : List Path :=
  (List.range p.parts.length).map fun i => { p with parts := p.parts.take (i + 1) }

theorem parent_child (p : Path) (name : String) : (p.child name).parent = p := by
  simp [child, parent]

theorem name_child (p : Path) (name : String) : (p.child name).name = name := by
  simp [child, Path.name]

end Path

end TabularAudit
