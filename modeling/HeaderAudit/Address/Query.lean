import HeaderAudit.Address.Escape
/-!
Query strings as key and value lists. Reading splits at `&`, skips empty pairs and pairs with a `;`,
splits each pair at its first `=`, and decodes both sides (skipping pairs that do not decode); a key
keeps its values in order.
-/
namespace HeaderAudit

/-- Query values: each key with its values, keys in first-seen order. -/
structure Query where
  entries : List (Bytes × List Bytes)
  deriving Repr, BEq, Inhabited

namespace Query

def add (q : Query) (k v : Bytes) : Query :=
  if q.entries.any (·.1 == k) then
    ⟨q.entries.map fun e => if e.1 == k then (k, e.2 ++ [v]) else e⟩
  else ⟨q.entries ++ [(k, [v])]⟩

def addPair (q : Query) (pair : Bytes) : Query :=
  if pair = [] ∨ pair.contains (Bytes.ascii ';') then q
  else
    let (k, v) := match Bytes.cutAt (Bytes.ascii '=') pair with
      | some (k, v) => (k, v)
      | none => (pair, [])
    match Bytes.unescape .queryComponent k, Bytes.unescape .queryComponent v with
    | .ok k, .ok v => q.add k v
    | _, _ => q

def pairs (raw : Bytes) : List Bytes := raw.splitOn (Bytes.ascii '&')

def parse (raw : String) : Query :=
  let bs := Bytes.ofString raw
  if bs = [] then ⟨[]⟩ else (pairs bs).foldl addPair ⟨[]⟩

def values (q : Query) (key : String) : List String :=
  ((q.entries.find? (·.1 == Bytes.ofString key)).map fun e => e.2.map Bytes.toStringLossy).getD []

def first (q : Query) (key : String) : String := (q.values key).headD ""

def bytesLe (a b : Bytes) : Bool := decide (List.le (a.map UInt8.toNat) (b.map UInt8.toNat))

def encode (q : Query) : String :=
  let sorted := q.entries.mergeSort fun a b => bytesLe a.1 b.1
  "&".intercalate (sorted.flatMap fun (k, vs) =>
    vs.map fun v => Bytes.escape .queryComponent k ++ "=" ++ Bytes.escape .queryComponent v)

end Query

end HeaderAudit
