import TabularAudit.Expr.Comparison
import TabularAudit.Expr.Lookup
import TabularAudit.Expr.Method
import TabularAudit.Expr.Parser
import TabularAudit.Expr.Traced

/-! What a rule expression says about an object. -/

namespace TabularAudit.Expr

inductive Invocation where
  | pattern
  | blank (onlyEmpty : Bool)
  | size (path : List String)
  | inhabited (path : List String)
  | relationships
  | refused (reason : Unsupported)
  | text
  deriving DecidableEq, Repr

def blankTests : List String := ["IsNullOrWhitespace", "IsNullOrWhiteSpace", "IsNullOrEmpty"]

/-- Calls that are no test of a pattern, a blank text or a collection are methods of a text. -/
def nameInvocation (path : List String) (method : String) (arity : Nat) : Invocation :=
  let space := match path with
    | [name] => Text.lower name
    | _ => ""
  if space = "regex" ∧ method = "IsMatch" then .pattern
  else if space = "string" ∧ method ∈ blankTests then
    if arity = 1 then .blank (method == "IsNullOrEmpty") else .refused (.arity method)
  else if path.getLast?.any collectionNames.contains ∧ (method = "Count" ∨ method = "Any") then
    if arity = 0 then if method = "Count" then .size path else .inhabited path
    else if method = "Any" ∧ arity = 1 ∧ path = ["UsedInRelationships"] then .relationships
    else .refused (.arguments path method)
  else .text

def invocation (target : Node) (method : String) (arity : Nat) : Invocation :=
  match target with
  | .name head rest => nameInvocation (head :: rest) method arity
  | _ => .text

/-- Half of a character pair is no character; the replacement character takes its place. -/
def codeChar (n : Nat) : Char := if 0xD800 ≤ n && n < 0xE000 then '\uFFFD' else Char.ofNat n

def charOf (v : Value) : Except Fault Value := do
  let n ← wholeArgument v
  if n < -2147483648 ∨ 2147483648 ≤ n then .error .tooLarge
  else if n < 0 ∨ 0x110000 ≤ n then .error .badNumeral
  else return .text (String.ofList [codeChar n.toNat])

def isBlankText (onlyEmpty : Bool) : Value → Bool
  | .null => true
  | v => if onlyEmpty then v.plainText.isEmpty else (Text.trim v.plainText).isEmpty

def memberOf (v : Value) (name : String) : Except Fault Value :=
  if name = "Length" then .ok (lengthOf v) else .error (.unsupported (.member name))

/-- The truth of a value; a construct without meaning is false, and logged where there is an object
to name. -/
def verdict (obj : Option ModelObject) (x : Traced Value) : Traced Bool :=
  match x.result, obj with
  | .ok v, _ => ⟨.ok v.holds, x.log⟩
  | .error (.unsupported reason), some _ => ⟨.ok false, x.log ++ [reason]⟩
  | .error (.unsupported _), none => ⟨.error .notRecord, x.log⟩
  | .error fault, _ => ⟨.error fault, x.log⟩

def currentName (o : ModelObject) : String :=
  if o.kind.isTable then o.shortName else o.table.getD ""

mutual

def eval : Node → Env → Option ModelObject → Traced Value
  | .literal v, _, _ => pure v
  | .name head rest, env, obj => Traced.ofResult (denote env obj head rest)
  | .member target name, env, obj => do
    let v ← eval target env obj
    memberOf v name
  | .function name args, env, obj =>
    if Text.lower name = "char" ∧ args.length = 1 then do
      let vs ← evalAll args env obj
      charOf (vs.headD .null)
    else Traced.refuse (.function name)
  | .method target name args, env, obj =>
    match invocation target name args.length with
    | .pattern => do
      let vs ← evalAll args env obj
      return .bool (← matchesPattern vs)
    | .blank onlyEmpty => do
      let vs ← evalAll args env obj
      return .bool (isBlankText onlyEmpty (vs.headD .null))
    | .size path => do return .int (← sizeAt env.index obj path)
    | .inhabited path => do return .bool (← hasMembers env.index obj path)
    | .relationships => do
      let o ← receiver obj
      let inner := { env with current := some ⟨currentName o, some o⟩ }
      let found ← holdsForAny args inner (env.index.relationshipsOf o)
      return .bool found
    | .refused reason => Traced.refuse reason
    | .text => do
      let v ← eval target env obj
      let vs ← evalAll args env obj
      callMethod v name vs
  | .comparison symbol left right, env, obj => do
    let v ← eval left env obj
    let w ← eval right env obj
    return .bool (← compare symbol v w)
  | .all operands, env, obj => do return .bool (← allHold operands env obj)
  | .any operands, env, obj => do return .bool (← anyHolds operands env obj)
  | .not operand, env, obj => do
    let b ← verdict obj (eval operand env obj)
    return .bool !b
  | .unreadable text, _, _ => Traced.refuse (.operand text)

def evalAll : List Node → Env → Option ModelObject → Traced (List Value)
  | [], _, _ => pure []
  | node :: rest, env, obj => do
    let v ← eval node env obj
    let vs ← evalAll rest env obj
    return v :: vs

/-- Operands after a false one are not evaluated. -/
def allHold : List Node → Env → Option ModelObject → Traced Bool
  | [], _, _ => pure true
  | node :: rest, env, obj => do
    let b ← verdict obj (eval node env obj)
    if b then allHold rest env obj else return false

def anyHolds : List Node → Env → Option ModelObject → Traced Bool
  | [], _, _ => pure false
  | node :: rest, env, obj => do
    let b ← verdict obj (eval node env obj)
    if b then return true else anyHolds rest env obj

def holdsForAny : List Node → Env → List ModelObject → Traced Bool
  | [], _, _ => pure false
  | predicate :: _, env, relationships =>
    Traced.any (fun r => verdict (some r) (eval predicate env (some r))) relationships

end

def truth (node : Node) (env : Env) (obj : Option ModelObject) : Traced Bool :=
  verdict obj (eval node env obj)

inductive Event where
  | unparsable (message : String)
  | unreadable
  | unsupported (reason : Unsupported)
  | fault
  deriving DecidableEq, Repr

structure Outcome where
  result : Bool
  log : List Event := []
  deriving DecidableEq, Repr

def Outcome.ofTraced (x : Traced Bool) : Outcome :=
  let events := x.log.map Event.unsupported
  match x.result with
  | .ok b => ⟨b, events⟩
  | .error _ => ⟨false, events ++ [.fault]⟩

/-- An expression that cannot be read, or that fails, does not hold. -/
def judge (expression : Value) (obj : Option ModelObject) (env : Env) : Outcome :=
  match expression with
  | .text s =>
    match parse s with
    | .ok node => Outcome.ofTraced (truth node env obj)
    | .error (.unexpected symbol position) =>
        ⟨false, [.unparsable (Fault.unexpected symbol position).message]⟩
    | .error _ => ⟨false, [.unreadable]⟩
  | _ => ⟨false, [.unreadable]⟩

def holds (expression : Value) (o : ModelObject) (c : Index) : Bool :=
  (judge expression (some o) ⟨c, none⟩).result

end TabularAudit.Expr
