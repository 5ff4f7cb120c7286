import HeaderAudit.Message.Header
/-!
Header maps as HTTP clients keep them: each canonical name with its values in order.
-/
namespace HeaderAudit

/-- Header values by name, names in first-added order. -/
structure HeaderMap where
  entries : List (String × List String)
  deriving Repr, BEq, Inhabited

namespace HeaderMap

def isTokenChar (c : Char) : Bool :=
  (c.isAlphanum ∧ c.toNat < 128) ∨ c ∈ ['!', '#', '$', '%', '&', '\'', '*', '+', '-', '.', '^', '_',
    '`', '|', '~']

def canonicalCase (upper : Bool) : List Char → List Char
  | [] => []
  | c :: cs =>
    let d := if upper ∧ 'a' ≤ c ∧ c ≤ 'z' then Char.ofNat (c.toNat - 32)
      else if !upper ∧ 'A' ≤ c ∧ c ≤ 'Z' then Char.ofNat (c.toNat + 32) else c
    d :: canonicalCase (d = '-') cs

def canonicalName (name : String) : String :=
  if name.toList.all isTokenChar then String.ofList (canonicalCase true name.toList) else name

def empty : HeaderMap := ⟨[]⟩

def add (m : HeaderMap) (name value : String) : HeaderMap :=
  let k := canonicalName name
  if m.entries.any (·.1 == k) then
    ⟨m.entries.map fun e => if e.1 == k then (k, e.2 ++ [value]) else e⟩
  else ⟨m.entries ++ [(k, [value])]⟩

def set (m : HeaderMap) (name value : String) : HeaderMap :=
  let k := canonicalName name
  if m.entries.any (·.1 == k) then
    ⟨m.entries.map fun e => if e.1 == k then (k, [value]) else e⟩
  else ⟨m.entries ++ [(k, [value])]⟩

def get? (m : HeaderMap) (name : String) : Option String :=
  (m.entries.find? (·.1 == canonicalName name)).bind (·.2.head?)

def ofPairs (ps : List (String × String)) : HeaderMap := ps.foldl (fun m (n, v) => m.add n v) empty

def toHeader (m : HeaderMap) : Header := Header.ofMap m.entries

def lines (m : HeaderMap) : List String := (toHeader m).lines

end HeaderMap

end HeaderAudit
