/-!
What the text of a plain YAML scalar stands for: null, a boolean, an integer, a float, a date, or
else text.
-/
namespace HeaderAudit.Yaml

/-- The value a plain scalar stands for. A float keeps its exact decimal value as a mantissa
and a power of ten; a decimal too large for a 64-bit float is text. -/
inductive Resolved where
  | null
  | bool (b : Bool)
  | int (n : Int)
  | float (mantissa : Int) (exponent : Int)
  | nan
  | infinity (negative : Bool)
  | timestamp
  | text
  deriving Inhabited, BEq, Repr

def Resolved.tag : Resolved → String
  | null => "!!null"
  | bool _ => "!!bool"
  | int _ => "!!int"
  | float _ _ => "!!float"
  | nan => "!!float"
  | infinity _ => "!!float"
  | timestamp => "!!timestamp"
  | text => "!!str"

def digitsIn (base : Nat) (cs : List Char) : Option Nat :=
  if cs.isEmpty then none else
  cs.foldl (fun acc c => acc.bind fun n =>
    let d := if c.isDigit then c.toNat - '0'.toNat
      else if 'a' ≤ c ∧ c ≤ 'z' then c.toNat - 'a'.toNat + 10
      else if 'A' ≤ c ∧ c ≤ 'Z' then c.toNat - 'A'.toNat + 10
      else 99
    if d < base then some (base * n + d) else none) (some 0)

/-- An unsigned integer with its base given by a prefix: `0x`, `0o`, `0b`, or a leading `0`
for octal. -/
def prefixedValue (cs : List Char) : Option Nat :=
  match cs with
  | '0' :: x :: ds =>
    if x = 'x' ∨ x = 'X' then digitsIn 16 ds
    else if x = 'o' ∨ x = 'O' then digitsIn 8 ds
    else if x = 'b' ∨ x = 'B' then digitsIn 2 ds
    else digitsIn 8 (x :: ds)
  | ds => digitsIn 10 ds

def signedValue (cs : List Char) : Option Int :=
  let (neg, body) := match cs with
    | '-' :: r => (true, r)
    | '+' :: r => (false, r)
    | r => (false, r)
  (prefixedValue body).bind fun n =>
    let v : Int := if neg then -(n : Int) else n
    if -0x8000000000000000 ≤ v ∧ v < 0x8000000000000000 then some v else none

def unsignedValue (cs : List Char) : Option Int :=
  (prefixedValue cs).bind fun n => if n < 0x10000000000000000 then some (n : Int) else none

def floatValue (cs : List Char) : Option (Int × Int) :=
  let (neg, body) := match cs with
    | '-' :: r => (true, r)
    | '+' :: r => (false, r)
    | r => (false, r)
  let mant := body.takeWhile (fun c => c ≠ 'e' ∧ c ≠ 'E')
  let expo := body.drop mant.length
  let intPart := mant.takeWhile Char.isDigit
  let rest := mant.drop intPart.length
  let frac : Option (List Char) := match rest with
    | [] => if intPart.isEmpty then none else some []
    | '.' :: f => if f.all Char.isDigit ∧ (!intPart.isEmpty ∨ !f.isEmpty) then some f else none
    | _ => none
  let e : Option Int := match expo with
    | [] => some 0
    | _ :: r =>
      let (eneg, ds) := match r with
        | '+' :: q => (false, q)
        | '-' :: q => (true, q)
        | q => (false, q)
      (digitsIn 10 ds).map fun n => if eneg then -(n : Int) else n
  match frac, e with
  | some f, some ex =>
    let m := (digitsIn 10 (intPart ++ f)).getD 0
    some (if neg then -(m : Int) else m, ex - f.length)
  | _, _ => none

def splitDigits (cs : List Char) : List Char × List Char :=
  (cs.takeWhile Char.isDigit, cs.dropWhile Char.isDigit)

def daysIn (month year : Nat) : Nat :=
  if month = 2 then
    if year % 4 = 0 ∧ (year % 100 ≠ 0 ∨ year % 400 = 0) then 29 else 28
  else if month = 4 ∨ month = 6 ∨ month = 9 ∨ month = 11 then 30
  else 31

def shortNumber (bound : Nat) (cs : List Char) : Option (Nat × List Char) :=
  let (ds, rest) := splitDigits cs
  let ds' := ds.take 2
  let rest := ds.drop 2 ++ rest
  match digitsIn 10 ds' with
  | some n => if n < bound then some (n, rest) else none
  | none => none

/-- Whether what follows the seconds of a time is a zone: `Z`, or a sign with two-digit hours
and minutes, and nothing more. -/
def isZone : List Char → Bool
  | ['Z'] => true
  | [s, h1, h2, ':', m1, m2] =>
    (s = '+' || s = '-') &&
      (match digitsIn 10 [h1, h2], digitsIn 10 [m1, m2] with
       | some h, some m => h ≤ 24 && m ≤ 60
       | _, _ => false)
  | _ => false

/-- Whether a text is a time of day `h:m:s` with an optional fraction of a second, followed by
a zone when one is wanted and by nothing else. -/
def isClock (zoned : Bool) (cs : List Char) : Bool :=
  match shortNumber 24 cs with
  | some (_, ':' :: r) => match shortNumber 60 r with
    | some (_, ':' :: r) => match shortNumber 60 r with
      | some (_, r) =>
        let r := match r with
          | c :: d :: more => if (c = '.' ∨ c = ',') ∧ d.isDigit then more.dropWhile Char.isDigit else r
          | _ => r
        if zoned then isZone r else r.isEmpty
      | none => false
    | _ => false
  | _ => false

/-- Whether a text is a date `YYYY-M-D` of the calendar, alone or followed by a time: after `T`
or `t` with a zone, or after a space without one. -/
def isTimestamp (cs : List Char) : Bool :=
  let (year, rest) := splitDigits cs
  if year.length ≠ 4 then false
  else match rest with
    | '-' :: r => match shortNumber 13 r with
      | some (month, '-' :: r) =>
        if month = 0 then false
        else match shortNumber 100 r with
          | some (day, r) =>
            if day = 0 ∨ day > daysIn month ((digitsIn 10 year).getD 0) then false
            else match r with
              | [] => true
              | c :: time =>
                if c = 'T' ∨ c = 't' then isClock true time
                else if c = ' ' then isClock false time
                else false
          | none => false
      | _ => false
    | _ => false

/-- Whether a decimal value is too large in magnitude for a 64-bit float: at least halfway
between the largest float and the next power of two. -/
def floatOverflows (m e : Int) : Bool :=
  let digits := (toString m.natAbs).length
  if m = 0 then false
  else if (digits : Int) + e - 1 ≥ 309 then true
  else if (digits : Int) + e - 1 ≤ 307 then false
  else
    let bound : Nat := Nat.pow 2 1024 - Nat.pow 2 970
    if e ≥ 0 then m.natAbs * Nat.pow 10 e.toNat ≥ bound
    else m.natAbs ≥ bound * Nat.pow 10 (-e).toNat

def resolveWith (dates : Bool) (t : String) : Resolved :=
  if t = "" ∨ t = "~" ∨ t = "null" ∨ t = "Null" ∨ t = "NULL" then .null
  else if t = "true" ∨ t = "True" ∨ t = "TRUE" then .bool true
  else if t = "false" ∨ t = "False" ∨ t = "FALSE" then .bool false
  else if t = ".nan" ∨ t = ".NaN" ∨ t = ".NAN" then .nan
  else if [".inf", ".Inf", ".INF", "+.inf", "+.Inf", "+.INF"].contains t then .infinity false
  else if t = "-.inf" ∨ t = "-.Inf" ∨ t = "-.INF" then .infinity true
  else
    let cs := t.toList
    let asFloat (xs : List Char) : Resolved := match floatValue xs with
      | some (m, e) => if floatOverflows m e then .text else .float m e
      | none => .text
    match cs.head? with
    | some c =>
      if c.isDigit ∨ c = '+' ∨ c = '-' then
        if dates ∧ isTimestamp cs then .timestamp
        else
          let plain := cs.filter (· ≠ '_')
          match signedValue plain with
          | some n => .int n
          | none => match unsignedValue plain with
            | some n => .int n
            | none => asFloat plain
      else if c = '.' then asFloat cs
      else .text
    | none => .null

def resolve (t : String) : Resolved := resolveWith true t

end HeaderAudit.Yaml
