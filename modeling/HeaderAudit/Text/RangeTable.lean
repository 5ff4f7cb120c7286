import HeaderAudit.Text.Hex
/-!
Packed tables of character ranges. A table is written as text, one entry per `;`, its fields split
by `,`, numbers in hexadecimal; it is read once into an array sorted by first code point, and a
look-up finds the last entry that starts at or below a code point by halving.
-/
namespace HeaderAudit.Text

def signedHex? : List Char → Option Int
  | '-' :: cs => (hexValue? cs).map fun n => -(n : Int)
  | cs => (hexValue? cs).map fun n => (n : Int)

def packedFields (text : String) : List (List (List Char)) :=
  (text.toList.splitOn ';').filter (· ≠ []) |>.map (·.splitOn ',')

def lastAtMostIn {α : Type} (a : Array α) (key : α → Nat) (c lo hi : Nat) : Option α :=
  if lo + 1 < hi then
    let mid := (lo + hi) / 2
    match a[mid]? with
    | some x => if key x ≤ c then lastAtMostIn a key c mid hi else lastAtMostIn a key c lo mid
    | none => none
  else
    match a[lo]? with
    | some x => if key x ≤ c then some x else none
    | none => none
termination_by hi - lo

def lastAtMost {α : Type} (a : Array α) (key : α → Nat) (c : Nat) : Option α :=
  lastAtMostIn a key c 0 a.size

/-- A closed range of code points. -/
structure CodeRange where
  lo : Nat
  hi : Nat
  deriving Repr, BEq

def CodeRange.table (text : String) : Array CodeRange :=
  ((packedFields text).filterMap fun
    | [a, b] => match hexValue? a, hexValue? b with
      | some lo, some hi => some ⟨lo, hi⟩
      | _, _ => none
    | _ => none).toArray

def CodeRange.memTable (t : Array CodeRange) (c : Nat) : Bool :=
  match lastAtMost t CodeRange.lo c with
  | some r => c ≤ r.hi
  | none => false

end HeaderAudit.Text
