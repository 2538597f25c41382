import TabularAudit.Text.Search

/-! Options and positional arguments of a command line. -/

namespace TabularAudit.Command

/-- An option that takes a value; its long name is its key. -/
structure Spec where
  long : String
  short : Option Char := none
  deriving DecidableEq, Repr

structure Arguments where
  options : List (String × String) := []
  positional : List String := []
  help : Bool := false
  deriving DecidableEq, Repr

inductive Reading where
  | stop
  | plain
  | help
  | attached (key value : String)
  | awaiting (key : String)
  | unknown
  deriving DecidableEq, Repr

def cutAtEquals (cs : List Char) : String × Option String :=
  let name := cs.takeWhile (· != '=')
  match cs.dropWhile (· != '=') with
  | [] => (String.ofList name, none)
  | _ :: value => (String.ofList name, some (String.ofList value))

def readLong (specs : List Spec) (cs : List Char) : Reading :=
  match cutAtEquals cs with
  | ("help", none) => .help
  | (name, value) =>
    if specs.any fun s => s.long == name then
      match value with
      | some v => .attached name v
      | none => .awaiting name
    else .unknown

def readShort (specs : List Spec) (c : Char) (rest : List Char) : Reading :=
  match specs.find? fun s => s.short == some c with
  | some s => if rest.isEmpty then .awaiting s.long else .attached s.long (String.ofList rest)
  | none => .unknown

def read (specs : List Spec) (arg : String) : Reading :=
  match arg.toList with
  | ['-', '-'] => .stop
  | '-' :: '-' :: name => readLong specs name
  | '-' :: c :: rest => readShort specs c rest
  | _ => .plain

/-- With `mixed`, options may stand behind positional arguments. -/
def scan (specs : List Spec) (mixed : Bool) : List String → Option Arguments
  | [] => some {}
  | arg :: rest =>
    match read specs arg with
    | .stop => some { positional := rest }
    | .plain =>
      if mixed then (scan specs mixed rest).map fun a => { a with positional := arg :: a.positional }
      else some { positional := arg :: rest }
    | .help => (scan specs mixed rest).map fun a => { a with help := true }
    | .attached key value =>
        (scan specs mixed rest).map fun a => { a with options := (key, value) :: a.options }
    | .awaiting key =>
      match rest with
      | [] => none
      | value :: rest =>
          (scan specs mixed rest).map fun a => { a with options := (key, value) :: a.options }
    | .unknown => none

/-- The value of an option is the last one given. -/
def Arguments.option? (a : Arguments) (key : String) : Option String := a.options.reverse.lookup key

end TabularAudit.Command
