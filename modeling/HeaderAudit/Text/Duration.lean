import HeaderAudit.Text.Hex
/-!
Durations written as text, such as `1h30m` or `-1.5s`: an optional sign, then one or more decimal
numbers each followed by a unit (`ns`, `us`, `µs`, `μs`, `ms`, `s`, `m`, `h`).
-/
namespace HeaderAudit.Text

/-- A text in double quotes as duration messages show it: a quote or backslash gets a
backslash, and a control or non-ASCII character is written as the `\x` escapes of its bytes. -/
def durationQuote (s : String) : String :=
  let body := s.toList.flatMap fun c =>
    if c.toNat ≥ 0x80 ∨ c.toNat < 0x20 then
      (String.singleton c).toUTF8.toList.flatMap fun b => '\\' :: 'x' :: hexPadded false 2 b.toNat
    else if c = '"' ∨ c = '\\' then ['\\', c]
    else [c]
  String.ofList ('"' :: body ++ ['"'])

def unitNanos : String → Option Nat
  | "ns" => some 1
  | "us" => some 1000
  | "µs" => some 1000
  | "μs" => some 1000
  | "ms" => some 1000000
  | "s" => some 1000000000
  | "m" => some 60000000000
  | "h" => some 3600000000000
  | _ => none

def durationLimit : Nat := 0x8000000000000000

/-- Reads a run of decimal digits: their value, how many there were, and what follows. The
value stops growing once it passes the limit, which is then reported as an overflow. -/
def leadingDigits : List Char → Nat → Nat → Nat × Nat × List Char
  | c :: rest, v, k =>
    if c.isDigit then leadingDigits rest (10 * v + (c.toNat - '0'.toNat)) (k + 1) else (v, k, c :: rest)
  | [], v, k => (v, k, [])

/-- Reads a fraction's digits: its value and scale (a power of ten), and what follows. Digits
past the precision that fits in 64 bits are read but ignored. -/
def leadingFraction : List Char → Nat → Nat → Bool → Nat × Nat × List Char
  | c :: rest, f, scale, full =>
    if c.isDigit then
      if full then leadingFraction rest f scale true
      else
        let f' := 10 * f + (c.toNat - '0'.toNat)
        if f' > durationLimit then leadingFraction rest f scale true
        else leadingFraction rest f' (scale * 10) false
    else (f, scale, c :: rest)
  | [], f, scale, _ => (f, scale, [])

def isUnitChar (c : Char) : Bool := c != '.' && !c.isDigit

/-- Reads the numbers and units of a duration after its sign, adding to a running total.
Each step reads at least one character, so the text's length bounds the steps. -/
def durationTerms (orig : String) : Nat → List Char → Nat → Except String Nat
  | 0, _, total => .ok total
  | _, [], total => .ok total
  | fuel + 1, s, total => do
    let invalid := "time: invalid duration " ++ durationQuote orig
    match s with
    | c :: _ => if !(c = '.' ∨ c.isDigit) then throw invalid
    | [] => pure ()
    let (v, pre, s) := leadingDigits s 0 0
    if v > durationLimit then throw invalid
    let (f, scale, post, s) := match s with
      | '.' :: r =>
        let (f, scale, r') := leadingFraction r 0 1 false
        (f, scale, r.length - r'.length, r')
      | r => (0, 1, 0, r)
    if pre = 0 ∧ post = 0 then throw invalid
    let u := s.takeWhile isUnitChar
    let s := s.drop u.length
    if u.isEmpty then throw ("time: missing unit in duration " ++ durationQuote orig)
    let name := String.ofList u
    match unitNanos name with
    | none => throw ("time: unknown unit " ++ durationQuote name ++ " in duration " ++ durationQuote orig)
    | some unit =>
      if v > durationLimit / unit then throw invalid
      let v := v * unit + (if f > 0 then f * unit / scale else 0)
      if v > durationLimit then throw invalid
      let total := total + v
      if total > durationLimit then throw invalid
      durationTerms orig fuel s total

def parseDuration (orig : String) : Except String Int := do
  let (neg, s) := match orig.toList with
    | '-' :: r => (true, r)
    | '+' :: r => (false, r)
    | r => (false, r)
  if s = ['0'] then return 0
  if s.isEmpty then throw ("time: invalid duration " ++ durationQuote orig)
  let d ← durationTerms orig (s.length + 1) s 0
  if neg then return -(d : Int)
  if d > durationLimit - 1 then throw ("time: invalid duration " ++ durationQuote orig)
  return d

end HeaderAudit.Text
