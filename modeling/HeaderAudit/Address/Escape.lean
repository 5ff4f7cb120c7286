import HeaderAudit.Address.Bytes
/-!
Percent-encoding of address parts. Each part has its own set of bytes that stand for themselves;
every other byte is written `%` and two upper-case hex digits (a space in a query component is
written `+`).
-/
namespace HeaderAudit

/-- The part of an address that a text is encoded for. -/
inductive Part where
  | path
  | pathSegment
  | host
  | zone
  | userPassword
  | queryComponent
  | fragment
  deriving Repr, BEq, DecidableEq, Inhabited

namespace Part

def mustEscape (p : Part) (c : UInt8) : Bool :=
  let ch := Char.ofNat c.toNat
  if ch.isAlphanum ∧ c < 0x80 then false
  else if (p = host ∨ p = zone) ∧ ch ∈ ['!', '$', '&', '\'', '(', ')', '*', '+', ',', ';', '=', ':',
      '[', ']', '<', '>', '"'] ∧ c < 0x80 then false
  else if ch ∈ ['-', '_', '.', '~'] ∧ c < 0x80 then false
  else if ch ∈ ['$', '&', '+', ',', '/', ':', ';', '=', '?', '@'] ∧ c < 0x80 then
    match p with
    | path => ch = '?'
    | pathSegment => ch = '/' ∨ ch = ';' ∨ ch = ',' ∨ ch = '?'
    | userPassword => ch = '@' ∨ ch = '/' ∨ ch = '?' ∨ ch = ':'
    | queryComponent => true
    | fragment => false
    | _ => true
  else if p = fragment ∧ ch ∈ ['!', '(', ')', '*'] ∧ c < 0x80 then false
  else true

end Part

namespace Bytes

def percent (c : UInt8) : List Char := '%' :: Text.hexPadded true 2 c.toNat

def escape (p : Part) (bs : Bytes) : String :=
  String.ofList (bs.flatMap fun c =>
    if p.mustEscape c then
      (if c = ascii ' ' ∧ p = .queryComponent then ['+'] else percent c)
    else [Char.ofNat c.toNat])

def hexValue? (c : UInt8) : Option Nat := Text.hexDigitValue? (Char.ofNat c.toNat)

def isHex (c : UInt8) : Bool := (hexValue? c).isSome

def escapeErrorText (bs : Bytes) : String := "invalid URL escape " ++ quote (bs.take 3)

def unescape (p : Part) : Bytes → Except String Bytes
  | [] => .ok []
  | c :: rest =>
    if c = ascii '%' then
      match rest with
      | h1 :: h2 :: more =>
        match hexValue? h1, hexValue? h2 with
        | some v1, some v2 =>
          let v := v1 * 16 + v2
          if p = .host ∧ v1 < 8 ∧ !(h1 = ascii '2' ∧ h2 = ascii '5') then
            .error (escapeErrorText (c :: rest))
          else if p = .zone ∧ !(h1 = ascii '2' ∧ h2 = ascii '5') ∧ v ≠ 32 ∧
              Part.host.mustEscape v.toUInt8 then
            .error (escapeErrorText (c :: rest))
          else (unescape p more).map (v.toUInt8 :: ·)
        | _, _ => .error (escapeErrorText (c :: rest))
      | _ => .error (escapeErrorText (c :: rest))
    else if c = ascii '+' then
      (unescape p rest).map ((if p = .queryComponent then ascii ' ' else c) :: ·)
    else if (p = .host ∨ p = .zone) ∧ c < 0x80 ∧ p.mustEscape c then
      .error ("invalid character " ++ quote [c] ++ " in host name")
    else (unescape p rest).map (c :: ·)

/-- Whether a text is already a valid encoding for a part: sub-delimiters, `:`, `@`, brackets
and `%` may stand, and otherwise only bytes the part does not escape. -/
def validEncoded (p : Part) (bs : Bytes) : Bool :=
  bs.all fun c =>
    (Char.ofNat c.toNat ∈ ['!', '$', '&', '\'', '(', ')', '*', '+', ',', ';', '=', ':', '@', '[',
      ']', '%'] ∧ c < 0x80) ∨ !p.mustEscape c

end Bytes

end HeaderAudit
