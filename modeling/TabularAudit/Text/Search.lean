/-! Searching, replacing and cutting in lists of characters. -/

namespace TabularAudit.Text

def indexOf? (needle : List Char) : List Char → Option Nat
  | [] => if needle.isEmpty then some 0 else none
  | c :: cs => if needle.isPrefixOf (c :: cs) then some 0 else (indexOf? needle cs).map (· + 1)

def lastIndexOf? (needle : List Char) : List Char → Option Nat
  | [] => if needle.isEmpty then some 0 else none
  | c :: cs =>
    match lastIndexOf? needle cs with
    | some i => some (i + 1)
    | none => if needle.isPrefixOf (c :: cs) then some 0 else none

def contains (needle cs : List Char) : Bool := (indexOf? needle cs).isSome

/-- `skip` counts the characters of a match that are still to be passed over. -/
def replaceFrom (needle image : List Char) : Nat → List Char → List Char
  | _, [] => []
  | skip + 1, _ :: cs => replaceFrom needle image skip cs
  | 0, c :: cs =>
    if needle.isPrefixOf (c :: cs) then image ++ replaceFrom needle image (needle.length - 1) cs
    else c :: replaceFrom needle image 0 cs

/-- An empty needle stands before every character and at the end. -/
def replaceAll (needle image cs : List Char) : List Char :=
  if needle.isEmpty then cs.flatMap (fun c => image ++ [c]) ++ image
  else replaceFrom needle image 0 cs

def splitOn (separator : Char) : List Char → List (List Char)
  | [] => [[]]
  | c :: cs =>
    if c = separator then [] :: splitOn separator cs
    else match splitOn separator cs with
      | [] => [[c]]
      | piece :: pieces => (c :: piece) :: pieces

theorem splitOn_ne_nil (separator : Char) (cs : List Char) : splitOn separator cs ≠ [] := by
  cases cs with
  | nil => simp [splitOn]
  | cons c cs =>
      simp only [splitOn]
      split
      · simp
      · split <;> simp

def join (separator : String) : List String → String
  | [] => ""
  | [s] => s
  | s :: rest => s ++ separator ++ join separator rest

end TabularAudit.Text
