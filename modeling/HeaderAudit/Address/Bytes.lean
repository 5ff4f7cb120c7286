import HeaderAudit.Text.Hex
import HeaderAudit.Text.Quoted
/-!
Byte strings, for the parts of an address that percent-decoding may leave as arbitrary bytes.
-/
namespace HeaderAudit

abbrev Bytes := List UInt8

namespace Bytes

def ofString (s : String) : Bytes := s.toUTF8.toList

def ascii (c : Char) : UInt8 := c.toNat.toUInt8

def inRange (b lo hi : UInt8) : Bool := lo ≤ b ∧ b ≤ hi

def isCont (b : UInt8) : Bool := inRange b 0x80 0xBF

/-- Whether the bytes after a lead byte complete a sequence: the first within `lo..hi`, the
others continuation bytes. -/
def completes (lo hi : UInt8) (n : Nat) (rest : Bytes) : Bool :=
  match rest.take n with
  | c :: ds => rest.length ≥ n ∧ inRange c lo hi ∧ ds.all isCont
  | [] => false

def seqValue (lead : Nat) (conts : Bytes) : Nat :=
  conts.foldl (fun acc c => acc * 64 + (c.toNat - 0x80)) lead

/-- Decodes the sequence led by a byte: a code point or the stray byte, and how many of the
following bytes it takes. -/
def decodeLead (b : UInt8) (rest : Bytes) : (Char ⊕ UInt8) × Nat :=
  if b < 0x80 then (.inl (Char.ofNat b.toNat), 0)
  else if inRange b 0xC2 0xDF ∧ completes 0x80 0xBF 1 rest then
    (.inl (Char.ofNat (seqValue (b.toNat - 0xC0) (rest.take 1))), 1)
  else if inRange b 0xE0 0xEF ∧ completes (if b = 0xE0 then 0xA0 else 0x80)
      (if b = 0xED then 0x9F else 0xBF) 2 rest then
    (.inl (Char.ofNat (seqValue (b.toNat - 0xE0) (rest.take 2))), 2)
  else if inRange b 0xF0 0xF4 ∧ completes (if b = 0xF0 then 0x90 else 0x80)
      (if b = 0xF4 then 0x8F else 0xBF) 3 rest then
    (.inl (Char.ofNat (seqValue (b.toNat - 0xF0) (rest.take 3))), 3)
  else (.inr b, 0)

def decode : Bytes → List (Char ⊕ UInt8)
  | [] => []
  | b :: rest =>
    let (x, k) := decodeLead b rest
    x :: decode (rest.drop k)
termination_by bs => bs.length
decreasing_by simp <;> omega

def toStringLossy (bs : Bytes) : String :=
  String.ofList ((decode bs).map fun
    | .inl c => c
    | .inr _ => '�')

def quote (bs : Bytes) : String :=
  String.ofList ('"' :: ((decode bs).flatMap (fun
    | .inl c => Text.quoteChar c
    | .inr b => '\\' :: 'x' :: Text.hexPadded false 2 b.toNat) ++ ['"']))

def cutAt (sep : UInt8) (bs : Bytes) : Option (Bytes × Bytes) :=
  match bs.idxOf? sep with
  | some i => some (bs.take i, bs.drop (i + 1))
  | none => none

def lastIndexOf? (sep : UInt8) (bs : Bytes) : Option Nat :=
  (bs.zipIdx.filter (·.1 == sep)).getLast?.map (·.2)

def startsWith (bs : Bytes) (p : String) : Bool := (ofString p).isPrefixOf bs

def indexOfSub? (sub : Bytes) : Bytes → Option Nat
  | [] => if sub = [] then some 0 else none
  | b :: bs => if sub.isPrefixOf (b :: bs) then some 0 else (indexOfSub? sub bs).map (· + 1)

end Bytes

end HeaderAudit
