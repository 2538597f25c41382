import TabularAudit.Pattern.Matcher
import TabularAudit.Value.Text

/-! Methods on the text of a value. -/

namespace TabularAudit.Expr

def ignoresCase (options : List Value) : Bool :=
  options.any fun
    | .enum _ member => "IgnoreCase".toList.isSuffixOf member.toList
    | .bool b => b
    | _ => false

def place (found : Option Nat) : Value := .int (match found with | some i => i | none => -1)

def searchMethod? : String → Option (List Char → List Char → Value)
  | "StartsWith" => some fun needle cs => .bool (needle.isPrefixOf cs)
  | "EndsWith" => some fun needle cs => .bool (needle.isSuffixOf cs)
  | "Contains" => some fun needle cs => .bool (Text.contains needle cs)
  | "Equals" => some fun needle cs => .bool (cs == needle)
  | "IndexOf" => some fun needle cs => place (Text.indexOf? needle cs)
  | "LastIndexOf" => some fun needle cs => place (Text.lastIndexOf? needle cs)
  | _ => none

def plainMethod? : String → Option (String → String)
  | "ToUpper" | "ToUpperInvariant" => some Text.upper
  | "ToLower" | "ToLowerInvariant" => some Text.lower
  | "Trim" => some Text.trim
  | "TrimStart" => some Text.trimStart
  | "TrimEnd" => some Text.trimEnd
  | "ToString" => some id
  | _ => none

/-- Whole numbers given as arguments lose what stands behind the point. -/
def wholeArgument (v : Value) : Except Fault Int := do v.toNumber >>= Value.wholePart

def substring (text : String) (args : List Value) : Except Fault Value := do
  let cs := text.toList
  let start ← match args with
    | [] => pure 0
    | v :: _ => wholeArgument v
  let length ← match args with
    | _ :: v :: _ => wholeArgument v
    | _ => pure ((cs.length : Int) - start)
  if start < 0 ∨ length < 0 ∨ (cs.length : Int) < start + length then
    .error (.unsupported .substringRange)
  else return .text (String.ofList ((cs.drop start.toNat).take length.toNat))

def search (method : List Char → List Char → Value) (text needle : String) (options : List Value) :
    Value :=
  if ignoresCase options then method (Text.lower needle).toList (Text.lower text).toList
  else method needle.toList text.toList

def callMethod (value : Value) (name : String) (args : List Value) : Except Fault Value :=
  let text := value.plainText
  match plainMethod? name, searchMethod? name with
  | some f, _ => .ok (.text (f text))
  | none, some method =>
    match args with
    | [] => .error (.unsupported (.missingArgument name))
    | needle :: options => .ok (search method text needle.plainText options)
  | none, none =>
    match name, args with
    | "Substring", _ => substring text args
    | "Replace", [needle, image] =>
      .ok (.text (String.ofList (Text.replaceAll needle.plainText.toList image.plainText.toList text.toList)))
    | _, _ => .error (.unsupported (.method name))

/-- A pattern that cannot be read is reported before the text is looked at. -/
def matchesPattern : List Value → Except Fault Bool
  | subject :: .text pattern :: options => do
    let p ← Pattern.compile pattern (ignoresCase options)
    return Pattern.occursIn p subject.plainText
  | _ => .error (.unsupported .patternNotText)

end TabularAudit.Expr
