/-!
Hexadecimal digits: reading one, reading a run of them, and writing a number with a fixed least
width.
-/
namespace HeaderAudit.Text

def hexDigitValue? (c : Char) : Option Nat :=
  if '0' ≤ c ∧ c ≤ '9' then some (c.toNat - '0'.toNat)
  else if 'a' ≤ c ∧ c ≤ 'f' then some (c.toNat - 'a'.toNat + 10)
  else if 'A' ≤ c ∧ c ≤ 'F' then some (c.toNat - 'A'.toNat + 10)
  else none

def isHexDigit (c : Char) : Bool := (hexDigitValue? c).isSome

def hexValueFrom (acc : Nat) : List Char → Option Nat
  | [] => some acc
  | c :: cs => match hexDigitValue? c with
    | some d => hexValueFrom (acc * 16 + d) cs
    | none => none

def hexValue? : List Char → Option Nat
  | [] => none
  | cs => hexValueFrom 0 cs

def hexDigit (upper : Bool) (d : Nat) : Char :=
  if d < 10 then Char.ofNat ('0'.toNat + d)
  else if upper then Char.ofNat ('A'.toNat + d - 10)
  else Char.ofNat ('a'.toNat + d - 10)

def hexDigits (upper : Bool) (n : Nat) : List Char :=
  if n < 16 then [hexDigit upper n] else hexDigits upper (n / 16) ++ [hexDigit upper (n % 16)]
termination_by n
decreasing_by omega

def hexPadded (upper : Bool) (width n : Nat) : List Char :=
  let ds := hexDigits upper n
  List.replicate (width - ds.length) '0' ++ ds

theorem hexDigits_ne_nil (upper : Bool) (n : Nat) : hexDigits upper n ≠ [] := by
  unfold hexDigits
  split <;> simp

end HeaderAudit.Text
