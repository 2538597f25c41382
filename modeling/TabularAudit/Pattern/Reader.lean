import TabularAudit.Fault
import TabularAudit.Number.Numeral
import TabularAudit.Pattern.Syntax

/-! Reading a pattern from its text. -/

namespace TabularAudit.Pattern

structure Flags where
  ignoreCase : Bool := false
  multiline : Bool := false
  dotAll : Bool := false
  verbose : Bool := false
  ascii : Bool := false
  template : Bool := false
  deriving Repr

def Flags.folding (f : Flags) : Folding :=
  if !f.ignoreCase then .exact else if f.ascii then .ascii else .full

/-- `flags` hold where the reader stands; the widths are those of the groups already closed. -/
structure ReaderState where
  rest : List Char
  flags : Flags
  opened : Nat := 0
  closed : List (Nat × (Nat × Nat)) := []
  names : List (String × Nat) := []
  lookbehind : Option Nat := none
  conditions : List Nat := []
  looseLookbehind : Bool := false
  repeats : Bool := false
  asciiAsked : Bool := false
  unicodeAsked : Bool := false

abbrev Reader := StateT ReaderState (Except Fault)

namespace Reader

def fail {α : Type} : Reader α := throw .badPattern

/-- A backslash at the very end escapes nothing. -/
def peek : Reader (Option Char) := do
  match (← get).rest with
  | [] => return none
  | ['\\'] => fail
  | c :: _ => return some c

def drop (n : Nat) : Reader Unit := modify fun s => { s with rest := s.rest.drop n }

def accept (c : Char) : Reader Bool := do
  if (← peek) == some c then drop 1; return true else return false

def sign : Reader (Bool × Char) := do
  match (← get).rest with
  | '\\' :: c :: rest => modify (fun s => { s with rest }); return (true, c)
  | ['\\'] | [] => fail
  | c :: rest => modify (fun s => { s with rest }); return (false, c)

def takeWhile (limit : Nat) (p : Char → Bool) : Reader (List Char) := do
  let taken := ((← get).rest.take limit).takeWhile p
  drop taken.length
  return taken

def takeAll (p : Char → Bool) : Reader (List Char) := do
  let taken := (← get).rest.takeWhile p
  drop taken.length
  return taken

def upTo (terminator : Char) : Reader (List Char) := do
  let taken ← takeAll (· != terminator)
  if taken.isEmpty then fail
  else if ← accept terminator then return taken
  else fail

def skipSigns (terminator : Char) (optional : Bool) : List Char → Option (List Char)
  | [] => if optional then some [] else none
  | '\\' :: _ :: rest => skipSigns terminator optional rest
  | c :: rest => if c = terminator then some rest else skipSigns terminator optional rest

def skipPast (terminator : Char) (optional : Bool) : Reader Unit := do
  match skipSigns terminator optional (← get).rest with
  | some rest => modify fun s => { s with rest }
  | none => fail

end Reader

open Reader

def hexDigit? (c : Char) : Option Nat :=
  if '0' ≤ c && c ≤ '9' then some (c.toNat - 48)
  else if 'a' ≤ c && c ≤ 'f' then some (c.toNat - 87)
  else if 'A' ≤ c && c ≤ 'F' then some (c.toNat - 55)
  else none

def isOctal (c : Char) : Bool := '0' ≤ c && c ≤ '7'

def inBase (base : Nat) (cs : List Char) : Nat :=
  cs.foldl (fun n c => base * n + (hexDigit? c).getD 0) 0

def hexEscape (count : Nat) : Reader Nat := do
  let cs ← takeWhile count fun c => (hexDigit? c).isSome
  if cs.length = count ∧ inBase 16 cs ≤ 0x10FFFF then return inBase 16 cs else fail

def controlEscape? : Char → Option Nat
  | 'a' => some 7
  | 'b' => some 8
  | 'f' => some 12
  | 'n' => some 10
  | 'r' => some 13
  | 't' => some 9
  | 'v' => some 11
  | '\\' => some 92
  | _ => none

def categoryEscape? (ascii : Bool) : Char → Option SetItem
  | 'd' => some (.category .digit ascii false)
  | 'D' => some (.category .digit ascii true)
  | 's' => some (.category .space ascii false)
  | 'S' => some (.category .space ascii true)
  | 'w' => some (.category .word ascii false)
  | 'W' => some (.category .word ascii true)
  | _ => none

def numberEscape? (c : Char) : Option (Reader Nat) :=
  match c with
  | 'x' => some (hexEscape 2)
  | 'u' => some (hexEscape 4)
  | 'U' => some (hexEscape 8)
  | _ => none

/-- Letters and digits have a meaning behind a backslash or none at all; other characters stand for
themselves. -/
def plainEscape (c : Char) : Reader Nat :=
  if Text.isAsciiLetter c || Text.isAsciiDigit c then fail else return c.toNat

def octalEscape (c : Char) : Reader Nat := do
  let n := inBase 8 (c :: (← takeWhile 2 isOctal))
  if n ≤ 0o377 then return n else fail

def setEscape (c : Char) : Reader SetItem := do
  match controlEscape? c, categoryEscape? (← get).flags.ascii c, numberEscape? c with
  | some n, _, _ => return .one n
  | none, some item, _ => return item
  | none, none, some read => return .one (← read)
  | none, none, none =>
      if isOctal c then return .one (← octalEscape c) else return .one (← plainEscape c)

def setItem : Reader SetItem := do
  match ← sign with
  | (true, c) => setEscape c
  | (false, c) => return .one c.toNat

/-- A closing bracket counts as a member in the first place. -/
def setItems : (fuel : Nat) → List SetItem → Reader (List SetItem)
  | 0, _ => fail
  | fuel + 1, done => do
    let next ← peek
    if !done.isEmpty && next == some ']' then
      drop 1
      return done.reverse
    let item ← setItem
    if ← accept '-' then
      if ← accept ']' then return (SetItem.one 45 :: item :: done).reverse
      match item, ← setItem with
      | .one first, .one last =>
          if last < first then fail else setItems fuel (.range first last :: done)
      | _, _ => fail
    else setItems fuel (item :: done)

def ofItems (negated : Bool) (items : List SetItem) : Reader Pat :=
  return .set ⟨(← get).flags.folding, negated, items⟩

def readSet : Reader Pat := do
  let negated ← accept '^'
  ofItems negated (← setItems ((← get).rest.length + 1) [])

/-- A group can be referred to once it is closed, inside a look-behind only if it was closed before
that. -/
def checkClosed (index : Nat) : Reader (Nat × Nat) := do
  match (← get).closed.lookup index with
  | none => fail
  | some widths => return widths

def checkLookbehind (index : Nat) : Reader Unit := do
  match (← get).lookbehind with
  | none => return
  | some limit =>
    let _ ← checkClosed index
    if limit ≤ index then fail

def groupRef (index : Nat) : Reader Pat := do
  if (← get).opened < index then fail
  let widths ← checkClosed index
  checkLookbehind index
  return .backref index (← get).flags.folding widths

/-- Three octal digits are a character, any other number is that of a group. -/
def digitEscape (c : Char) : Reader Pat := do
  match (← get).rest with
  | d :: e :: _ =>
    if isOctal c && isOctal d && isOctal e then
      drop 2
      let n := inBase 8 [c, d, e]
      if n ≤ 0o377 then ofItems false [.one n] else fail
    else if Text.isAsciiDigit d then do drop 1; groupRef (inBase 10 [c, d])
    else groupRef (inBase 10 [c])
  | [d] => if Text.isAsciiDigit d then do drop 1; groupRef (inBase 10 [c, d]) else groupRef (inBase 10 [c])
  | [] => groupRef (inBase 10 [c])

def readEscape (c : Char) : Reader Pat := do
  let ascii := (← get).flags.ascii
  match c with
  | 'A' => return .anchor .textStart
  | 'Z' => return .anchor .textEnd
  | 'b' => return .anchor (.wordEdge ascii false)
  | 'B' => return .anchor (.wordEdge ascii true)
  | '0' => ofItems false [.one (inBase 8 (← takeWhile 2 isOctal))]
  | _ =>
    match categoryEscape? ascii c, controlEscape? c, numberEscape? c with
    | some item, _, _ => return .set ⟨.exact, false, [item]⟩
    | none, some n, _ => ofItems false [.one n]
    | none, none, some read => ofItems false [.one (← read)]
    | none, none, none =>
        if Text.isAsciiDigit c then digitEscape c else ofItems false [.one (← plainEscape c)]

def maxRepeat : Nat := 4294967295

def repeatBound (digits : List Char) : Reader (Option Nat) :=
  if digits.isEmpty then return none
  else if inBase 10 digits < maxRepeat then return some (inBase 10 digits)
  else throw .tooLarge

/-- The bounds between braces; none if the brace stands for itself. -/
def braceBounds : Reader (Option (Nat × Option Nat)) := do
  let before ← get
  let low ← takeAll Text.isAsciiDigit
  let comma ← accept ','
  let high ← if comma then takeAll Text.isAsciiDigit else pure low
  let ended ← accept (Char.ofNat 125)
  if !ended || (!comma && low.isEmpty) then
    set before
    return none
  else
    let least := (← repeatBound low).getD 0
    let most ← repeatBound high
    if most.any (· < least) then fail
    return some (least, most)

def bounds (c : Char) : Reader (Option (Nat × Option Nat)) :=
  match c with
  | '?' => return some (0, some 1)
  | '*' => return some (0, none)
  | '+' => return some (1, none)
  | _ => braceBounds

def readGreed : Reader Greed := do
  if ← accept '?' then return .lazy
  if ← accept '+' then return .possessive
  return .greedy

def repeatLast (least : Nat) (most : Option Nat) : List Pat → Reader (List Pat)
  | [] | .anchor _ :: _ | .repeated .. :: _ => fail
  | p :: done => do
    modify fun s => { s with repeats := true }
    return .repeated (← readGreed) least most p :: done

def isNameStart (c : Char) : Bool := Text.isLetter c || c == '_'

def isName : List Char → Bool
  | [] => false
  | c :: cs => isNameStart c && cs.all fun d => isNameStart d || Text.isDecimal d

def readName (terminator : Char) : Reader String := do
  let cs ← Reader.upTo terminator
  if isName cs then return String.ofList cs else fail

/-- A group's index is fixed when it is opened. -/
def openGroup (name : Option String) : Reader Nat := do
  let index := (← get).opened + 1
  if let some name := name then
    if ((← get).names.lookup name).isSome then fail
    modify fun s => { s with names := (name, index) :: s.names }
  modify fun s => { s with opened := index }
  return index

def isFlag (c : Char) : Bool := "iLmsxatu".toList.contains c

def setFlag (on : Bool) (f : Flags) (c : Char) : Flags :=
  match c with
  | 'i' => { f with ignoreCase := on }
  | 'm' => { f with multiline := on }
  | 's' => { f with dotAll := on }
  | 'x' => { f with verbose := on }
  | 'a' => { f with ascii := on }
  | 'u' => { f with ascii := !on }
  | 't' => { f with template := on }
  | _ => f

def flagLetters : Reader (List Char) := takeAll isFlag

def checkOn (letters : List Char) : Reader Unit :=
  if letters.contains 'L' || (letters.contains 'a' && letters.contains 'u') then fail else return

def checkOff (on off : List Char) : Reader Unit :=
  let kept (c : Char) := c == 'L' || c == 'a' || c == 'u' || c == 't' || on.contains c
  if off.isEmpty || off.any kept || on.contains 't' then fail
  else return

inductive GroupHead where
  | capture (name : Option String)
  | plain
  | scoped (flags : Flags)
  | atomic
  | look (behind negated : Bool)
  | reference (p : Pat)
  | condition (index : Nat)
  | nothing

/-- Flags for the whole pattern must stand at its start. -/
def globalFlags (atStart : Bool) (letters : List Char) : Reader GroupHead := do
  modify fun s => { s with
    flags := letters.foldl (setFlag true) s.flags
    asciiAsked := s.asciiAsked || letters.contains 'a'
    unicodeAsked := s.unicodeAsked || letters.contains 'u' }
  if atStart then return .nothing else fail

def flagGroup (atStart : Bool) : Reader GroupHead := do
  let on ← flagLetters
  checkOn on
  let flags := on.foldl (setFlag true) (← get).flags
  match ← sign with
  | (false, ')') => if on.isEmpty then fail else globalFlags atStart on
  | (false, ':') => if on.isEmpty || on.contains 't' then fail else return .scoped flags
  | (false, '-') =>
    let off ← flagLetters
    checkOff on off
    if ← accept ':' then return .scoped (off.foldl (setFlag false) flags) else fail
  | _ => fail

def conditionHead : Reader GroupHead := do
  let cs ← Reader.upTo ')'
  if isName cs then
    match (← get).names.lookup (String.ofList cs) with
    | none => fail
    | some index => checkLookbehind index; return .condition index
  else
    match Numeral.int? (String.ofList cs) with
    | none => fail
    | some n =>
      if n ≤ 0 || 1073741824 ≤ n then fail
      modify fun s => { s with conditions := n.toNat :: s.conditions }
      checkLookbehind n.toNat
      return .condition n.toNat

def namedHead : Reader GroupHead := do
  if ← accept '<' then return .capture (some (← readName '>'))
  else if ← accept '=' then
    match (← get).names.lookup (← readName ')') with
    | none => fail
    | some index => return .reference (← groupRef index)
  else fail

def groupHead (atStart : Bool) : Reader GroupHead := do
  if !(← accept '?') then return .capture none
  if ← accept 'P' then namedHead
  else if ← accept ':' then return .plain
  else if ← accept '#' then skipPast ')' false; return .nothing
  else if ← accept '=' then return .look false false
  else if ← accept '!' then return .look false true
  else if ← accept '<' then
    if ← accept '=' then return .look true false
    else if ← accept '!' then return .look true true
    else fail
  else if ← accept '(' then conditionHead
  else if ← accept '>' then return .atomic
  else flagGroup atStart

def close : Reader Unit := do if ← accept ')' then return else fail

def closeGroup (index : Nat) (body : Pat) : Reader Pat := do
  close
  modify fun s => { s with closed := (index, body.widths) :: s.closed }
  return .group index body

/-- A look-behind needs a body of fixed width. -/
def lookPat (behind negated : Bool) (body : Pat) : Reader Pat := do
  let (low, high) := body.widths
  if behind && low != high then modify fun s => { s with looseLookbehind := true }
  return .look (if behind then some low else none) negated body

def isPatternSpace (c : Char) : Bool := c == ' ' || inAscii c.toNat 9 13

def lineStart : Reader Pat :=
  return .anchor (if (← get).flags.multiline then .lineStart else .textStart)

def lineEnd : Reader Pat :=
  return .anchor (if (← get).flags.multiline then .lineEnd else .lastLineEnd)

def readPlain (escaped : Bool) (c : Char) : Reader Pat :=
  if escaped then readEscape c
  else match c with
    | '[' => readSet
    | '.' => return .anyChar (← get).flags.dotAll
    | '^' => lineStart
    | '$' => lineEnd
    | _ => ofItems false [.one c.toNat]

def isRepeat (c : Char) : Bool := c == '*' || c == '+' || c == '?' || c == Char.ofNat 123

/-- Whatever `read` does to the flags ends with it. -/
def withFlags (flags : Flags) (read : Reader Pat) : Reader Pat := do
  let outer := (← get).flags
  modify fun s => { s with flags := flags }
  let p ← read
  modify fun s => { s with flags := outer }
  return p

/-- Each call takes at least one character, so the length of the pattern bounds the depth. -/
def readAlternatives : (fuel : Nat) → (top : Bool) → Reader Pat
  | 0, _ => fail
  | fuel + 1, top => do
    let first ← readSequence fuel top []
    if ← accept '|' then
      match ← readAlternatives fuel false with
      | .alt items => return .alt (first :: items)
      | p => return .alt [first, p]
    else return first
where
  readSequence : (fuel : Nat) → (top : Bool) → List Pat → Reader Pat
    | 0, _, _ => fail
    | fuel + 1, top, done => do
      match ← peek with
      | none | some '|' | some ')' => return .seq done.reverse
      | some _ =>
        let (escaped, c) ← sign
        let verbose := (← get).flags.verbose && !escaped
        if verbose && isPatternSpace c then readSequence fuel top done
        else if verbose && c = '#' then
          skipPast '\n' true
          readSequence fuel top done
        else if !escaped && c = '(' then
          match ← groupHead (top && done.isEmpty) with
          | .nothing => readSequence fuel top done
          | .reference p => readSequence fuel top (p :: done)
          | head => do
            let p ← readGroup fuel head
            readSequence fuel top (p :: done)
        else if !escaped && isRepeat c then
          match ← bounds c with
          | none => do
            let p ← ofItems false [.one c.toNat]
            readSequence fuel top (p :: done)
          | some (least, most) => readSequence fuel top (← repeatLast least most done)
        else
          let p ← readPlain escaped c
          readSequence fuel top (p :: done)
  readGroup : (fuel : Nat) → GroupHead → Reader Pat
    | 0, _ => fail
    | fuel + 1, head => do
      match head with
      | .capture name =>
        let index ← openGroup name
        let flags := (← get).flags
        let body ← withFlags flags (readAlternatives fuel false)
        closeGroup index body
      | .plain =>
        let body ← withFlags (← get).flags (readAlternatives fuel false)
        close
        return .seq [body]
      | .scoped flags =>
        let body ← withFlags flags (readAlternatives fuel false)
        close
        return .seq [body]
      | .atomic =>
        let body ← readAlternatives fuel false
        close
        return .atomic body
      | .look behind negated =>
        let outer := (← get).lookbehind
        if behind && outer.isNone then modify fun s => { s with lookbehind := some (s.opened + 1) }
        let body ← readAlternatives fuel false
        if behind then modify fun s => { s with lookbehind := outer }
        close
        lookPat behind negated body
      | .condition index =>
        let yes ← readSequence fuel false []
        let no ← if ← accept '|' then readSequence fuel false [] else pure Pat.empty
        close
        return .conditional index yes no
      | .reference p => return p
      | .nothing => fail

/-- Faults of the whole pattern come after those of its parts. -/
def checked (p : Pat) (s : ReaderState) : Except Fault Pat :=
  if s.asciiAsked && s.unicodeAsked then .error .conflictingFlags
  else if !s.rest.isEmpty || s.conditions.any (s.opened < ·) then .error .badPattern
  else if s.looseLookbehind || (s.flags.template && s.repeats) then .error .badPattern
  else .ok p

def read (flags : Flags) (cs : List Char) : Except Fault Pat := do
  let (p, s) ← (readAlternatives (3 * cs.length + 3) true).run { rest := cs, flags := flags }
  checked p s

end TabularAudit.Pattern
