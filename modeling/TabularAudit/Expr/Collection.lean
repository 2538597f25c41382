import TabularAudit.Expr.Meaning

/-! Sizes of collections, which are spelled in two ways, and the places of an expression where one of them stands. -/

namespace TabularAudit.Expr

def Node.dotted : List String → Node
  | [] => .name "" []
  | head :: rest => .name head rest

def Node.size (path : List String) : Node := .method (.dotted path) "Count" []

def memberLists (c : Index) : List (String × List ModelObject) := [("Columns", c.columns), ("Measures", c.measures)]

structure CollectionPath where
  ofCurrent : Bool := false
  owners : Nat := 0
  name : String
  isCollection : name ∈ collectionNames

def ownerAt? (c : Index) : Nat → ModelObject → Option ModelObject
  | 0, o => some o
  | n + 1, o => (c.table? (o.table.getD "")).bind (ownerAt? c n)

def isUnsupported {α : Type} : Except Fault α → Bool
  | .error (.unsupported _) => true
  | _ => false

/-- The same value, or no meaning on both sides, or a fault on both. -/
inductive Agree {α : Type} : Except Fault α → Except Fault α → Prop where
  | value (a : α) : Agree (.ok a) (.ok a)
  | unsupported (reason reason' : Unsupported) : Agree (.error (.unsupported reason)) (.error (.unsupported reason'))
  | fault {x y : Fault} : isUnsupported (.error x : Except Fault α) = false →
      isUnsupported (.error y : Except Fault α) = false → Agree (.error x) (.error y)

namespace CollectionPath

variable (p : CollectionPath)

def parts : List String := (if p.ofCurrent then ["current"] else []) ++ (List.replicate p.owners "Table" ++ [p.name])

def text : String := Text.join "." p.parts

def countName : Node := .dotted (p.parts ++ ["Count"])

def countCall : Node := .method (.dotted p.parts) "Count" []

/-- Every owning table is known. Behind `current`, where the call has no meaning, the name has none either. -/
def isConsistent (env : Env) (o : ModelObject) : Bool :=
  if p.ofCurrent then
    match env.current with
    | none => true
    | some reference =>
      (reference.object.bind (ownerAt? env.index p.owners)).any fun owner =>
        isUnsupported (memberCount env.index owner p.name)
  else (ownerAt? env.index p.owners o).isSome

end CollectionPath

inductive Context where
  | here
  | member (inner : Context) (name : String)
  | function (name : String) (before : List Node) (inner : Context) (after : List Node)
  | called (inner : Context) (name : String) (args : List Node)
  | argument (target : Node) (name : String) (before : List Node) (inner : Context) (after : List Node)
  | left (symbol : String) (inner : Context) (other : Node)
  | right (symbol : String) (other : Node) (inner : Context)
  | all (before : List Node) (inner : Context) (after : List Node)
  | any (before : List Node) (inner : Context) (after : List Node)
  | not (inner : Context)

namespace Context

def fill : Context → Node → Node
  | .here, n => n
  | .member inner name, n => .member (inner.fill n) name
  | .function name before inner after, n => .function name (before ++ inner.fill n :: after)
  | .called inner name args, n => .method (inner.fill n) name args
  | .argument target name before inner after, n => .method target name (before ++ inner.fill n :: after)
  | .left symbol inner other, n => .comparison symbol (inner.fill n) other
  | .right symbol other inner, n => .comparison symbol other (inner.fill n)
  | .all before inner after, n => .all (before ++ inner.fill n :: after)
  | .any before inner after, n => .any (before ++ inner.fill n :: after)
  | .not inner, n => .not (inner.fill n)

/-- Where the place can be evaluated: a predicate on relationships is asked of each of them. -/
def visits : Context → Env → ModelObject → List (Env × ModelObject)
  | .here, env, o => [(env, o)]
  | .argument target name before inner after, env, o =>
    if invocation target name (before.length + (after.length + 1)) = .relationships then
      (env.index.relationshipsOf o).flatMap fun r =>
        inner.visits { env with current := some ⟨currentName o, some o⟩ } r
    else inner.visits env o
  | .member inner _, env, o | .function _ _ inner _, env, o | .called inner _ _, env, o | .left _ inner _, env, o
  | .right _ _ inner, env, o | .all _ inner _, env, o | .any _ inner _, env, o | .not inner, env, o =>
    inner.visits env o

end Context

end TabularAudit.Expr
