import HeaderAudit.Markup.ReferenceData
import HeaderAudit.Text.Hex
/-!
Character references in HTML text. A numeric reference `&#n;` or `&#xh;` stands for its code point,
with the C1 controls read as their Windows-1252 characters and invalid code points read as U+FFFD;
the number is taken modulo 2^32 as a signed value, as a 32-bit reader keeps it.
-/
namespace HeaderAudit.Markup

def referenceTable : Array (String × List Char) :=
  ((referenceText.splitOn " ").filterMap fun entry =>
    match entry.splitOn "=" with
    | [name, codes] =>
      if name = "" then none
      else some (name, (codes.splitOn ",").map fun h => Char.ofNat ((Text.hexValue? h.toList).getD 0xFFFD))
    | _ => none).toArray

def lookupIn (name : String) (lo hi : Nat) : Nat → Option (List Char)
  | 0 => none
  | fuel + 1 =>
    if lo ≥ hi then none
    else
      let mid := (lo + hi) / 2
      match referenceTable[mid]? with
      | none => none
      | some (k, v) =>
        if k = name then some v
        else if k < name then lookupIn name (mid + 1) hi fuel
        else lookupIn name lo mid fuel

def lookupReference (name : String) : Option (List Char) :=
  lookupIn name 0 referenceTable.size 32

def windows1252 : List Nat :=
  [0x20AC, 0x0081, 0x201A, 0x0192, 0x201E, 0x2026, 0x2020, 0x2021, 0x02C6, 0x2030, 0x0160, 0x2039,
   0x0152, 0x008D, 0x017D, 0x008F, 0x0090, 0x2018, 0x2019, 0x201C, 0x201D, 0x2022, 0x2013, 0x2014,
   0x02DC, 0x2122, 0x0161, 0x203A, 0x0153, 0x009D, 0x017E, 0x0178]

def digitValue (hex : Bool) (c : Char) : Option Nat :=
  if '0' ≤ c ∧ c ≤ '9' then some (c.toNat - '0'.toNat)
  else if hex ∧ 'a' ≤ c ∧ c ≤ 'f' then some (c.toNat - 'a'.toNat + 10)
  else if hex ∧ 'A' ≤ c ∧ c ≤ 'F' then some (c.toNat - 'A'.toNat + 10)
  else none

/-- Reads digits into a 32-bit value: the value, how many characters were read (a closing `;`
counts), and what follows. -/
def readDigits (hex : Bool) : List Char → Nat → Nat → Nat × Nat × List Char
  | [], x, n => (x, n, [])
  | c :: rest, x, n =>
    match digitValue hex c with
    | some d => readDigits hex rest (((if hex then 16 else 10) * x + d) % 0x100000000) (n + 1)
    | none => if c = ';' then (x, n + 1, rest) else (x, n, c :: rest)

def numericChar (x : Nat) : Char :=
  let signed : Int := if x ≥ 0x80000000 then (x : Int) - 0x100000000 else x
  if 0x80 ≤ signed ∧ signed ≤ 0x9F then Char.ofNat (windows1252.getD (x - 0x80) 0xFFFD)
  else if signed ≤ 0 ∨ (0xD800 ≤ signed ∧ signed ≤ 0xDFFF) ∨ signed > 0x10FFFF then '�'
  else Char.ofNat x

def isNameChar (c : Char) : Bool :=
  ('a' ≤ c ∧ c ≤ 'z') ∨ ('A' ≤ c ∧ c ≤ 'Z') ∨ ('0' ≤ c ∧ c ≤ '9')

/-- Reads the reference after an `&`: the characters it stands for, and what follows it; or
nothing when the `&` stands for itself. -/
def readReference (inValue : Bool) (cs : List Char) : Option (List Char × List Char) :=
  match cs with
  | [] => none
  | '#' :: rest =>
    if rest.length < 2 then none
    else
      let (hex, digits, skipped) := match rest with
        | 'x' :: more => (true, more, 1)
        | 'X' :: more => (true, more, 1)
        | more => (false, more, 0)
      let (x, n, after) := readDigits hex digits 0 0
      if 2 + skipped + n ≤ 3 then none
      else some ([numericChar x], after)
  | _ =>
    let word := cs.takeWhile isNameChar
    let after := cs.drop word.length
    let (name, after) := match after with
      | ';' :: more => (word ++ [';'], more)
      | more => (word, more)
    if name.isEmpty then none
    else if inValue ∧ name.getLast? ≠ some ';' ∧ after.head? = some '=' then none
    else match lookupReference (String.ofList name) with
      | some v => some (v, after)
      | none =>
        if inValue then none
        else
          let longest := min (name.length - 1) 6
          let found := ((List.range (longest + 1)).reverse.filter (· ≥ 2)).findSome? fun j =>
            (lookupReference (String.ofList (name.take j))).map fun v => (v, cs.drop j)
          found

def unescapeChars (inValue : Bool) : Nat → List Char → List Char
  | 0, cs => cs
  | _, [] => []
  | fuel + 1, c :: rest =>
    if c = '&' then
      match readReference inValue rest with
      | some (v, after) => v ++ unescapeChars inValue fuel after
      | none => '&' :: unescapeChars inValue fuel rest
    else c :: unescapeChars inValue fuel rest

def unescape (inValue : Bool) (s : String) : String :=
  String.ofList (unescapeChars inValue (s.length + 1) s.toList)

end HeaderAudit.Markup
