/-!
Decimal integers in text: an optional sign and at least one ASCII digit, nothing else.
-/
namespace HeaderAudit.Text

def digitsValue? : List Char → Option Nat
  | [] => none
  | cs => cs.foldl (fun acc c => acc.bind fun n =>
      if c.isDigit then some (n * 10 + (c.toNat - '0'.toNat)) else none) (some 0)

def parseInt? (s : String) : Option Int :=
  match s.toList with
  | '+' :: ds => (digitsValue? ds).map fun n => (n : Int)
  | '-' :: ds => (digitsValue? ds).map fun n => -(n : Int)
  | ds => (digitsValue? ds).map fun n => (n : Int)

def parseInt64? (s : String) : Option Int :=
  match parseInt? s with
  | some n => if -0x8000000000000000 ≤ n ∧ n < 0x8000000000000000 then some n else none
  | none => none

def isDecimal (s : String) : Bool := (parseInt? s).isSome

end HeaderAudit.Text
