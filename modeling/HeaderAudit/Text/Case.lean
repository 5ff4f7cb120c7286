import HeaderAudit.Text.RangeTable
import HeaderAudit.Text.CaseData
/-!
Case mapping one code point at a time, and comparison of texts under simple case folding.
-/
namespace HeaderAudit.Text

/-- An entry of a case table: the code points of `lo..hi` at steps of `stride` move by `delta`. -/
structure CaseRange where
  lo : Nat
  hi : Nat
  stride : Nat
  delta : Int
  deriving Repr

def CaseRange.table (text : String) : Array CaseRange :=
  ((packedFields text).filterMap fun
    | [a, b, s, d] => match hexValue? a, hexValue? b, hexValue? s, signedHex? d with
      | some lo, some hi, some stride, some delta => some ⟨lo, hi, stride, delta⟩
      | _, _, _, _ => none
    | _ => none).toArray

def CaseRange.image (t : Array CaseRange) (c : Char) : Char :=
  match lastAtMost t CaseRange.lo c.toNat with
  | some r =>
    if c.toNat ≤ r.hi ∧ (c.toNat - r.lo) % r.stride = 0 then
      Char.ofNat ((c.toNat : Int) + r.delta).toNat
    else c
  | none => c

def lowerTable : Array CaseRange := CaseRange.table lowerText
def upperTable : Array CaseRange := CaseRange.table upperText
def foldTable : Array CaseRange := CaseRange.table foldText

def lowerChar (c : Char) : Char :=
  if c.toNat < 128 then (if 'A' ≤ c ∧ c ≤ 'Z' then Char.ofNat (c.toNat + 32) else c)
  else CaseRange.image lowerTable c

def upperChar (c : Char) : Char :=
  if c.toNat < 128 then (if 'a' ≤ c ∧ c ≤ 'z' then Char.ofNat (c.toNat - 32) else c)
  else CaseRange.image upperTable c

def foldChar (c : Char) : Char :=
  if c.toNat < 128 then (if 'A' ≤ c ∧ c ≤ 'Z' then Char.ofNat (c.toNat + 32) else c)
  else CaseRange.image foldTable c

def lower (s : String) : String := String.ofList (s.toList.map lowerChar)

def upper (s : String) : String := String.ofList (s.toList.map upperChar)

def equalFoldList : List Char → List Char → Bool
  | [], [] => true
  | c :: cs, d :: ds => foldChar c == foldChar d && equalFoldList cs ds
  | _, _ => false

def equalFold (a b : String) : Bool := equalFoldList a.toList b.toList

theorem length_lower (s : String) : (lower s).length = s.length := by
  simp [lower, String.length_ofList, String.length_toList]

theorem equalFoldList_refl (cs : List Char) : equalFoldList cs cs = true := by
  induction cs with
  | nil => rfl
  | cons c cs ih => simp [equalFoldList, ih]

theorem equalFold_refl (s : String) : equalFold s s = true := equalFoldList_refl _

end HeaderAudit.Text
