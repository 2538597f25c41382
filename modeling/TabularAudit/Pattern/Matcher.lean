import TabularAudit.Pattern.Reader

/-! Searching a text for a pattern, alternatives in order and longer repetitions first. -/

namespace TabularAudit.Pattern

/-- A position in the text, and the newest position of each mark: `2 * i` where group `i` began,
`2 * i + 1` where it ended. -/
structure Found where
  position : Nat
  marks : List (Nat × Nat) := []

def Found.moved (f : Found) (n : Nat) : Found := { f with position := f.position + n }

def Found.marked (f : Found) (mark : Nat) : Found :=
  { f with marks := (mark, f.position) :: f.marks }

def Found.span? (f : Found) (index : Nat) : Option (Nat × Nat) :=
  match f.marks.lookup (2 * index), f.marks.lookup (2 * index + 1) with
  | some first, some last => if first ≤ last then some (first, last) else none
  | _, _ => none

abbrev Next := Found → Option Found

abbrev Step := Found → Next → Option Found

/-- Beyond the least number, an iteration that begins where the last one did is not tried. -/
def repeatGreedy (body : Step) (least : Nat) (most : Option Nat) :
    (fuel count : Nat) → (last : Option Nat) → Step
  | 0, _, _, _, _ => none
  | fuel + 1, count, last, f, next =>
    if count < least then body f fun g => repeatGreedy body least most fuel (count + 1) last g next
    else
      let again := if most.all (count < ·) && last != some f.position then
          body f fun g => repeatGreedy body least most fuel (count + 1) (some f.position) g next
        else none
      match again with
      | some g => some g
      | none => next f

def repeatLazy (body : Step) (least : Nat) (most : Option Nat) :
    (fuel count : Nat) → (last : Option Nat) → Step
  | 0, _, _, _, _ => none
  | fuel + 1, count, last, f, next =>
    if count < least then body f fun g => repeatLazy body least most fuel (count + 1) last g next
    else
      match next f with
      | some g => some g
      | none =>
        if most.all (count < ·) && last != some f.position then
          body f fun g => repeatLazy body least most fuel (count + 1) (some f.position) g next
        else none

/-- Iterations are taken one by one and never given back. -/
def repeatPossessive (body : Step) (least : Nat) (most : Option Nat) :
    (fuel count : Nat) → (last : Option Nat) → Next
  | 0, _, _, _ => none
  | fuel + 1, count, last, f =>
    if count < least then
      match body f some with
      | some g => repeatPossessive body least most fuel (count + 1) last g
      | none => none
    else if most.all (count < ·) && last != some f.position then
      match body f some with
      | some g => repeatPossessive body least most fuel (count + 1) (some f.position) g
      | none => some f
    else some f

def isWordAt (ascii : Bool) (text : Array Char) (i : Nat) : Bool :=
  match text[i]? with
  | some c => Category.word.has ascii c
  | none => false

/-- An empty text has no word edges and no place between them. -/
def Anchor.holds (text : Array Char) (i : Nat) : Anchor → Bool
  | textStart => i == 0
  | lineStart => i == 0 || text[i - 1]? == some '\n'
  | textEnd => i == text.size
  | lastLineEnd => i == text.size || (i + 1 == text.size && text[i]? == some '\n')
  | lineEnd => i == text.size || text[i]? == some '\n'
  | wordEdge ascii negated =>
    text.size != 0 && ((i != 0 && isWordAt ascii text (i - 1)) != isWordAt ascii text i) != negated

def sameAt (folding : Folding) (text : Array Char) (first length i : Nat) : Bool :=
  i + length ≤ text.size && (List.range length).all fun k =>
    match text[first + k]?, text[i + k]? with
    | some c, some d => folding.small c.toNat == folding.small d.toNat
    | _, _ => false

def attempt (negated : Bool) (found : Option Found) (f : Found) (next : Next) : Option Found :=
  match negated, found with
  | false, some g => next { g with position := f.position }
  | true, none => next f
  | _, _ => none

mutual

def run (text : Array Char) : Pat → Step
  | .set chars, f, next =>
    match text[f.position]? with
    | some c => if chars.has c then next (f.moved 1) else none
    | none => none
  | .anyChar lineBreaks, f, next =>
    match text[f.position]? with
    | some c => if lineBreaks || c != '\n' then next (f.moved 1) else none
    | none => none
  | .seq items, f, next => runAll text items f next
  | .alt items, f, next => runAny text items f next
  | .repeated greed least most body, f, next =>
    let fuel := least + text.size + 3
    match greed with
    | .greedy => repeatGreedy (fun g k => run text body g k) least most fuel 0 none f next
    | .lazy => repeatLazy (fun g k => run text body g k) least most fuel 0 none f next
    | .possessive =>
      match repeatPossessive (fun g k => run text body g k) least most fuel 0 none f with
      | some g => next g
      | none => none
  | .group index body, f, next =>
    run text body (f.marked (2 * index)) fun g => next (g.marked (2 * index + 1))
  | .atomic body, f, next =>
    match run text body f some with
    | some g => next g
    | none => none
  | .look none negated body, f, next => attempt negated (run text body f some) f next
  | .look (some width) negated body, f, next =>
    let found :=
      if width ≤ f.position then run text body { f with position := f.position - width } some
      else none
    attempt negated found f next
  | .backref index folding _, f, next =>
    match f.span? index with
    | some (first, last) =>
      if sameAt folding text first (last - first) f.position then next (f.moved (last - first)) else none
    | none => none
  | .conditional index yes no, f, next =>
    if (f.span? index).isSome then run text yes f next else run text no f next
  | .anchor a, f, next => if a.holds text f.position then next f else none

def runAll (text : Array Char) : List Pat → Step
  | [], f, next => next f
  | p :: rest, f, next => run text p f fun g => runAll text rest g next

def runAny (text : Array Char) : List Pat → Step
  | [], _, _ => none
  | p :: rest, f, next =>
    match run text p f next with
    | some g => some g
    | none => runAny text rest f next

end

def occursIn (p : Pat) (s : String) : Bool :=
  let text := s.toList.toArray
  (List.range (text.size + 1)).any fun i => (run text p ⟨i, []⟩ some).isSome

/-- A request for ignored case counts wherever it stands in the pattern. -/
def caseMark : List Char := "(?i)".toList

def compile (pattern : String) (ignoreCase : Bool) : Except Fault Pat :=
  let cs := pattern.toList
  read { ignoreCase := ignoreCase || Text.contains caseMark cs } (Text.replaceAll caseMark [] cs)

end TabularAudit.Pattern
