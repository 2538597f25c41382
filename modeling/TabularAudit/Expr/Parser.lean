import TabularAudit.Expr.Normal
import TabularAudit.Expr.Syntax
import TabularAudit.Expr.Token

/-!
Reading tokens as a syntax tree, by recursive descent, lowest precedence first. The tokens end at a
mark that stands at `stop`; a cursor is the list of tokens before the mark that are still to be read.
-/

namespace TabularAudit.Expr

/-- What has been read from a cursor, and the cursor after it. A cursor never moves back, and never
past the mark. -/
structure Read (α : Type) (ts : List Token) where
  value : α
  rest : List Token
  suffix : rest <:+ ts

abbrev Later (ts : List Token) := {us : List Token // us <:+ ts ∧ us.length < ts.length}

namespace Read

variable {α β : Type} {t : Token} {ts us : List Token}

def map (f : α → β) (r : Read α ts) : Read β ts := ⟨f r.value, r.rest, r.suffix⟩

def within (h : us <:+ ts) (r : Read α us) : Read α ts := ⟨r.value, r.rest, r.suffix.trans h⟩

def behind (r : Read α us) : Read α (t :: us) := r.within (List.suffix_cons t us)

def next? (r : Read α ts) : Option (Lexeme × Later ts) :=
  match r.rest, r.suffix with
  | [], _ => none
  | t :: us, h => some (t.lexeme, ⟨us, (List.suffix_cons t us).trans h, h.length_le⟩)

def closed? (r : Read α ts) : Option (Read α ts) :=
  match r.next? with
  | some (.closing, us) => some ⟨r.value, us.1, us.2.1⟩
  | _ => none

theorem length_le (r : Read α ts) : r.rest.length ≤ ts.length := r.suffix.length_le

end Read

namespace Lexeme

def endsOperand : Lexeme → Bool
  | conjunction _ | disjunction _ | closing | comma => true
  | _ => false

def depthAfter (depth : Nat) : Lexeme → Nat
  | opening => depth + 1
  | closing => depth - 1
  | _ => depth

def sign : Lexeme → String
  | number v => v.literal
  | opening => "("
  | closing => ")"
  | dot => "."
  | comma => ","
  | word w | string w | relation w | conjunction w | disjunction w | negation w | stray w => w

end Lexeme

def passOver (stops : Lexeme → Bool) : (depth : Nat) → List Token → List Token
  | _, [] => []
  | depth, t :: ts =>
    if depth = 0 ∧ stops t.lexeme then t :: ts else passOver stops (t.lexeme.depthAfter depth) ts

theorem passOver_suffix (stops : Lexeme → Bool) (depth : Nat) (ts : List Token) :
    passOver stops depth ts <:+ ts := by
  induction ts generalizing depth with
  | nil => exact List.suffix_rfl
  | cons t ts ih =>
      simp only [passOver]
      split
      · exact List.suffix_rfl
      · exact (ih _).trans (List.suffix_cons t ts)

def position (stop : Nat) : List Token → Nat
  | [] => stop
  | t :: _ => t.position

def standsAt (stops : Lexeme → Bool) : List Token → Bool
  | [] => true
  | t :: _ => stops t.lexeme

def slice (text : List Char) (start stop : Nat) : List Char :=
  Text.strip ((text.drop start).take (stop - start))

def unreadable (text : List Char) (start stop : Nat) : Node :=
  .unreadable (String.ofList (slice text start stop))

/-- An operand that cannot be read ends where a readable one would: at the next `and`, `or`, `,` or
`)` of its own depth. -/
def skipped (text : List Char) (stop : Nat) (ts : List Token) : Read Node ts :=
  let rest := passOver Lexeme.endsOperand 0 ts
  ⟨unreadable text (position stop ts) (position stop rest), rest, passOver_suffix _ 0 ts⟩

def constant? (w : String) : Option Value :=
  match Text.lower w with
  | "true" => some (.bool true)
  | "false" => some (.bool false)
  | "null" => some .null
  | _ => none

def isIt (w : String) : Bool := Text.lower w == "it"

/-- A dotted identifier grows by a part; any other value gets a member read. -/
def Node.extended (n : Node) (name : String) : Node :=
  match n with
  | .name head rest => .name head (rest ++ [name])
  | _ => .member n name

def plainWord : (ts : List Token) → Option (Read Node ts)
  | ⟨.word w, _⟩ :: us => some ⟨.name w [], us, List.suffix_cons _ us⟩
  | _ => none

section
variable (text : List Char) (stop : Nat)

mutual

def disjuncts (ts : List Token) : Read (List Node) ts :=
  let first := (conjuncts ts).map Node.conjunction
  match first.next? with
  | some (.disjunction _, us) => ((disjuncts us.1).within us.2.1).map (first.value :: ·)
  | _ => first.map fun n => [n]
termination_by 10 * ts.length + 9
decreasing_by all_goals (try have := us.2.2); omega

def conjuncts (ts : List Token) : Read (List Node) ts :=
  let first := unary ts
  match first.next? with
  | some (.conjunction _, us) => ((conjuncts us.1).within us.2.1).map (first.value :: ·)
  | _ => first.map fun n => [n]
termination_by 10 * ts.length + 8
decreasing_by all_goals (try have := us.2.2); omega

def unary (ts : List Token) : Read Node ts :=
  match ts with
  | ⟨.negation _, _⟩ :: us => (unary us).behind.map .not
  | ts => operand ts
termination_by 10 * ts.length + 7
decreasing_by
  · simp only [List.length_cons]
    omega
  · omega

/-- An operand is tried as a comparison, and skipped when that fails or stops too early. -/
def operand (ts : List Token) : Read Node ts :=
  match comparison ts with
  | some r => if standsAt Lexeme.endsOperand r.rest then r else skipped text stop ts
  | none => skipped text stop ts
termination_by 10 * ts.length + 6
decreasing_by omega

def comparison (ts : List Token) : Option (Read Node ts) :=
  (chain ts).bind fun left =>
    match left.next? with
    | some (.relation symbol, us) =>
      (chain us.1).bind fun right =>
        match right.rest with
        | ⟨.relation _, _⟩ :: _ => none
        | _ => some ((right.within us.2.1).map (.comparison symbol left.value))
    | _ => some left
termination_by 10 * ts.length + 5
decreasing_by all_goals (try have := us.2.2); omega

def chain (ts : List Token) : Option (Read Node ts) :=
  (primary ts).bind fun first => (links first.value first.rest).map (Read.within first.suffix)
termination_by 10 * ts.length + 4
decreasing_by all_goals (try have := first.length_le); omega

def links (n : Node) (ts : List Token) : Option (Read Node ts) :=
  match ts with
  | ⟨.dot, _⟩ :: ⟨.word w, _⟩ :: ⟨.opening, _⟩ :: us =>
    (arguments us).bind fun args =>
      (links (.method n w args.value) args.rest).map fun r => (r.within args.suffix).behind.behind.behind
  | ⟨.dot, _⟩ :: ⟨.word w, _⟩ :: us => (links (n.extended w) us).map fun r => r.behind.behind
  | ⟨.dot, _⟩ :: _ => none
  | ts => some ⟨n, ts, List.suffix_rfl⟩
termination_by 10 * ts.length + 3
decreasing_by all_goals (try have := args.length_le); simp only [List.length_cons]; omega

def arguments (ts : List Token) : Option (Read (List Node) ts) :=
  match ts with
  | ⟨.closing, _⟩ :: us => some ⟨[], us, List.suffix_cons _ us⟩
  | ts => (argumentList ts).closed?
termination_by 10 * ts.length + 11
decreasing_by omega

def argumentList (ts : List Token) : Read (List Node) ts :=
  let first := (disjuncts ts).map Node.disjunction
  match first.next? with
  | some (.comma, us) => ((argumentList us.1).within us.2.1).map (first.value :: ·)
  | _ => first.map fun n => [n]
termination_by 10 * ts.length + 10
decreasing_by all_goals (try have := us.2.2); omega

def primary (ts : List Token) : Option (Read Node ts) :=
  match ts with
  | ⟨.string s, _⟩ :: us => some ⟨.literal (.text s), us, List.suffix_cons _ us⟩
  | ⟨.number v, _⟩ :: us => some ⟨.literal v, us, List.suffix_cons _ us⟩
  | ⟨.opening, _⟩ :: us => ((disjuncts us).map Node.disjunction).closed?.map Read.behind
  | ⟨.word w, _⟩ :: us =>
    match constant? w with
    | some v => some ⟨.literal v, us, List.suffix_cons _ us⟩
    | none => (named w us).map Read.behind
  | _ => none
termination_by 10 * ts.length + 2
decreasing_by all_goals simp only [List.length_cons]; omega

def named (w : String) (ts : List Token) : Option (Read Node ts) :=
  match ts with
  | ⟨.opening, _⟩ :: us => (arguments us).map fun args => args.behind.map (.function w)
  | ⟨.dot, p⟩ :: us =>
    if isIt w then (plainWord us).map Read.behind
    else some ⟨.name w [], ⟨.dot, p⟩ :: us, List.suffix_rfl⟩
  | ts => some ⟨.name w [], ts, List.suffix_rfl⟩
termination_by 10 * ts.length + 3
decreasing_by all_goals simp only [List.length_cons]; omega

end

/-- Only a token that closes nothing, or separates no arguments, is left over. -/
def parseTokens (ts : List Token) : Except Fault Node :=
  let r := (disjuncts text stop ts).map Node.disjunction
  match r.rest with
  | [] => .ok r.value
  | t :: _ => .error (.unexpected t.lexeme.sign t.position)

end

def parse (s : String) : Except Fault Node := do
  let text := normalize s
  parseTokens text.toList text.length (← tokenize text)

/-- The characters of a text that is written out need not be encoded and decoded to be parsed. -/
theorem parse_ofList (cs : List Char) : parse (String.ofList cs) =
    (tokensFrom 0 true 0 (normalizeChars cs)).bind (parseTokens (normalizeChars cs) (normalizeChars cs).length) := by
  rw [parse, normalize, tokenize, String.toList_ofList, String.toList_ofList, String.length_ofList]
  rfl

end TabularAudit.Expr
