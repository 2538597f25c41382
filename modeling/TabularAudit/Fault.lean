import TabularAudit.Text.Quoted
import TabularAudit.Text.Search

/-! What can go wrong, by cause, and the wording of what is reported to the user. -/

namespace TabularAudit

inductive Unsupported where
  | operand (text : String)
  | currentOutsidePredicate
  | ownerUnknown
  | collection (path : List String)
  | count (name : String)
  | arguments (path : List String) (call : String)
  | function (name : String)
  | arity (name : String)
  | member (name : String)
  | method (name : String)
  | missingArgument (name : String)
  | substringRange
  | patternNotText
  | operator (symbol : String)
  | enumOrder
  | boolOrder
  deriving DecidableEq, Repr

def Unsupported.message : Unsupported → String
  | operand text => "unreadable operand " ++ Text.quoted text
  | currentOutsidePredicate => "'current' outside a relationship predicate"
  | ownerUnknown => "owning table not found"
  | collection path => "collection " ++ Text.join "." path
  | count name => "no count for " ++ name
  | arguments path call => Text.join "." path ++ "." ++ call ++ " with arguments"
  | function name => "function " ++ name
  | arity name => "string." ++ name ++ " arity"
  | member name => "member " ++ name
  | method name => "method " ++ name
  | missingArgument name => name ++ " without argument"
  | substringRange => "Substring out of range"
  | patternNotText => "RegEx.IsMatch needs a string pattern"
  | operator symbol => "operator " ++ symbol
  | enumOrder => "ordering on enum values"
  | boolOrder => "ordering on booleans"

inductive CatalogFault where
  | unreadable (path : String)
  | notJson (path : String)
  | notRules
  | withoutId (name : String)
  | malformedField (id : String)
  | duplicateIds (ids : List String)
  deriving DecidableEq, Repr

/-- The text up to the cause: what the operating system or the reader of JSON says about it may follow a colon, and is
left out. -/
def CatalogFault.message : CatalogFault → String
  | unreadable path => "cannot read rule catalog " ++ path
  | notJson path => "rule catalog " ++ path ++ " is not valid JSON"
  | notRules => "rule catalog must be a list of rules or an object with a 'Rules' list"
  | withoutId name => "rule without ID: " ++ name
  | malformedField id => "rule " ++ id ++ " has a malformed field"
  | duplicateIds ids => "duplicate rule ids: " ++ Text.join ", " ids

inductive SnapshotFault where
  | unreadable (path : String)
  | notJson (path : String)
  | notObject (path : String)
  | noRecords (path : String)
  | notFound (path : String)
  | notFindings (path : String)
  deriving DecidableEq, Repr

/-- The text up to the cause, as for a catalog. -/
def SnapshotFault.message : SnapshotFault → String
  | unreadable path => "cannot read " ++ path
  | notJson path => path ++ " is not valid JSON"
  | notObject path => path ++ ": snapshot must be a JSON object"
  | noRecords path => path ++ ": no tables/columns/measures/relationships JSON files found"
  | notFound path => "metadata path not found: " ++ path
  | notFindings path => path ++ ": expected a list of findings"

inductive Fault where
  | unexpected (symbol : String) (position : Nat)
  | unsupported (construct : Unsupported)
  | scopeNotText (kind : String)
  | catalog (cause : CatalogFault)
  | snapshot (cause : SnapshotFault)
  | setting (name raw : String)
  | notJson
  | foreignCharacter
  | notRecord
  | wrongKind
  | notPair
  | badNumeral
  | tooLarge
  | missingKey
  | badEncoding
  | badPattern
  | conflictingFlags
  | pathTaken
  | notDirectory
  | isDirectory
  | notFound
  deriving DecidableEq, Repr

/-- The text shown to the user; faults that are not reported have none. -/
def Fault.message : Fault → String
  | unexpected symbol position => "unexpected " ++ Text.quoted symbol ++ " at " ++ toString position
  | unsupported construct => construct.message
  | scopeNotText kind => "rule scope must be a string, got " ++ kind
  | catalog cause => cause.message
  | snapshot cause => cause.message
  | setting name raw => name ++ " must be an integer, got " ++ Text.quoted raw
  | _ => ""

end TabularAudit
