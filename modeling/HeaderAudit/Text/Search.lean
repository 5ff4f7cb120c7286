/-!
Searching and cutting texts: prefixes, suffixes, the first occurrence of a separator, splitting at
every occurrence, and replacing.
-/
namespace HeaderAudit.Text

def cutList {α : Type} [BEq α] (sep : List α) : List α → Option (List α × List α)
  | [] => if sep = [] then some ([], []) else none
  | c :: cs =>
    if sep.isPrefixOf (c :: cs) then some ([], (c :: cs).drop sep.length)
    else (cutList sep cs).map fun p => (c :: p.1, p.2)

def cut (s sep : String) : Option (String × String) :=
  (cutList sep.toList s.toList).map fun p => (String.ofList p.1, String.ofList p.2)

def cutOr (s sep : String) : String × String × Bool :=
  match cut s sep with
  | some (a, b) => (a, b, true)
  | none => (s, "", false)

def containsList {α : Type} [BEq α] (sub : List α) : List α → Bool
  | [] => sub = []
  | c :: cs => sub.isPrefixOf (c :: cs) || containsList sub cs

def contains (s sub : String) : Bool := containsList sub.toList s.toList

def hasPrefix (s p : String) : Bool := p.toList.isPrefixOf s.toList

def hasSuffix (s p : String) : Bool := p.toList.reverse.isPrefixOf s.toList.reverse

def trimPrefix (s p : String) : String :=
  if hasPrefix s p then String.ofList (s.toList.drop p.length) else s

def trimSuffix (s p : String) : String :=
  if hasSuffix s p then String.ofList (s.toList.take (s.length - p.length)) else s

/-- Pieces between occurrences of `sep`; `cur` holds the current piece reversed and `skip`
the code points of a separator still to pass. -/
def splitFrom (sep : List Char) (cur : List Char) : Nat → List Char → List (List Char)
  | _, [] => [cur.reverse]
  | skip + 1, _ :: cs => splitFrom sep cur skip cs
  | 0, c :: cs =>
    if sep ≠ [] ∧ sep.isPrefixOf (c :: cs) then cur.reverse :: splitFrom sep [] (sep.length - 1) cs
    else splitFrom sep (c :: cur) 0 cs

def splitList (s sep : List Char) : List (List Char) := splitFrom sep [] 0 s

def split (s sep : String) : List String := (splitList s.toList sep.toList).map String.ofList

def replaceAll (s old new : String) : String := String.intercalate new (split s old)

def indexOfList (sub : List Char) : List Char → Option Nat
  | [] => if sub = [] then some 0 else none
  | c :: cs => if sub.isPrefixOf (c :: cs) then some 0 else (indexOfList sub cs).map (· + 1)

def trimStartOf (s : String) (set : List Char) : String :=
  String.ofList (s.toList.dropWhile (· ∈ set))

def trimEndOf (s : String) (set : List Char) : String :=
  String.ofList (s.toList.reverse.dropWhile (· ∈ set)).reverse

end HeaderAudit.Text
