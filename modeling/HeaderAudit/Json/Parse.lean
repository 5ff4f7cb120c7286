import HeaderAudit.Json.Value
import HeaderAudit.Text.Hex
import HeaderAudit.Text.Quoted
/-!
Reading JSON text. The reader goes left to right and stops at the first character that cannot
continue the text, naming that character (by the first byte of its encoding) and what was expected
there; text that ends too soon is "unexpected end of JSON input".
-/
namespace HeaderAudit

namespace Json

def leadByte (c : Char) : Nat :=
  let n := c.toNat
  if n < 0x80 then n
  else if n < 0x800 then 0xC0 + n / 0x40
  else if n < 0x10000 then 0xE0 + n / 0x1000
  else 0xF0 + n / 0x40000

def quoteByte (c : Char) : String :=
  if c = '\'' then "'\\''"
  else if c = '"' then "'\"'"
  else
    let q := (Text.quote (String.singleton (Char.ofNat (leadByte c)))).toList
    "'" ++ String.ofList ((q.drop 1).take (q.length - 2)) ++ "'"

def invalid (c : Char) (context : String) : String :=
  "invalid character " ++ quoteByte c ++ " " ++ context

def endFault : String := "unexpected end of JSON input"

def isSpace (c : Char) : Bool := c = ' ' ∨ c = '\t' ∨ c = '\n' ∨ c = '\r'

def skipSpace : List Char → List Char
  | c :: cs => if isSpace c then skipSpace cs else c :: cs
  | [] => []

def literal (word : String) : List Char → List Char → Except String (List Char)
  | [], rest => .ok rest
  | w :: ws, c :: cs =>
    if c = w then literal word ws cs
    else .error (invalid c ("in literal " ++ word ++ " (expecting " ++ quoteByte w ++ ")"))
  | _ :: _, [] => .error endFault

def hex4 : List Char → Except String (Nat × List Char)
  | a :: b :: c :: d :: rest =>
    let digits := [a, b, c, d]
    match digits.find? (fun x => !Text.isHexDigit x) with
    | some x => .error (invalid x "in \\u hexadecimal character escape")
    | none => .ok ((Text.hexValueFrom 0 digits).getD 0, rest)
  | cs => match cs.find? (fun x => !Text.isHexDigit x) with
    | some x => .error (invalid x "in \\u hexadecimal character escape")
    | none => .error endFault

def isHigh (n : Nat) : Bool := 0xD800 ≤ n ∧ n < 0xDC00

def isLow (n : Nat) : Bool := 0xDC00 ≤ n ∧ n < 0xE000

def unitChar (n : Nat) : Char := if isHigh n ∨ isLow n then '�' else Char.ofNat n

/-- Reads the rest of a string after its opening quote, collecting code points in reverse; each
step reads at least one character, so the length of the text bounds the steps. -/
def stringFor : Nat → List Char → List Char → Except String (String × List Char)
  | 0, _, _ => .error endFault
  | fuel + 1, acc, '"' :: rest => .ok (String.ofList acc.reverse, rest)
  | fuel + 1, acc, '\\' :: rest =>
    match rest with
    | 'u' :: more =>
      match hex4 more with
      | .error e => .error e
      | .ok (n, after) =>
        if isHigh n then
          match after with
          | '\\' :: 'u' :: more2 =>
            match hex4 more2 with
            | .ok (m, after2) =>
              if isLow m then stringFor fuel (Char.ofNat (0x10000 + (n - 0xD800) * 0x400 + (m - 0xDC00)) :: acc) after2
              else stringFor fuel ('�' :: acc) after
            | .error _ => stringFor fuel ('�' :: acc) after
          | _ => stringFor fuel ('�' :: acc) after
        else stringFor fuel (unitChar n :: acc) after
    | e :: more =>
      let plain := if e = 'b' then some '\x08' else if e = 'f' then some '\x0c'
        else if e = 'n' then some '\n' else if e = 'r' then some '\r' else if e = 't' then some '\t'
        else if e = '\\' then some '\\' else if e = '/' then some '/' else if e = '"' then some '"'
        else none
      match plain with
      | some c => stringFor fuel (c :: acc) more
      | none => .error (invalid e "in string escape code")
    | [] => .error endFault
  | fuel + 1, acc, c :: rest =>
    if c.toNat < 0x20 then .error (invalid c "in string literal") else stringFor fuel (c :: acc) rest
  | _ + 1, _, [] => .error endFault

def stringRest (cs : List Char) : Except String (String × List Char) := stringFor (cs.length + 1) [] cs

def digitsOf (cs : List Char) : List Char × List Char := (cs.takeWhile Char.isDigit, cs.dropWhile Char.isDigit)

def decimalValue (ds : List Char) : Nat := ds.foldl (fun n d => 10 * n + (d.toNat - '0'.toNat)) 0

def number (cs : List Char) : Except String (Json × List Char) :=
  let (sign, body) := match cs with
    | '-' :: rest => (['-'], rest)
    | _ => ([], cs)
  let intPart : Except String (List Char × List Char) := match body with
    | '0' :: rest => .ok (['0'], rest)
    | c :: _ => if c.isDigit then .ok (digitsOf body) else .error (invalid c "in numeric literal")
    | [] => .error endFault
  match intPart with
  | .error e => .error e
  | .ok (ds, rest) =>
    let frac : Except String (List Char × List Char) := match rest with
      | '.' :: more => match more with
        | c :: _ => if c.isDigit then .ok ('.' :: (digitsOf more).1, (digitsOf more).2)
          else .error (invalid c "after decimal point in numeric literal")
        | [] => .error endFault
      | _ => .ok ([], rest)
    match frac with
    | .error e => .error e
    | .ok (fs, rest) =>
      let expo : Except String (List Char × List Char) := match rest with
        | e :: more => if e = 'e' ∨ e = 'E' then
            let (sg, more) := match more with
              | '+' :: m => (['+'], m)
              | '-' :: m => (['-'], m)
              | m => ([], m)
            match more with
            | c :: _ => if c.isDigit then .ok (e :: sg ++ (digitsOf more).1, (digitsOf more).2)
              else .error (invalid c "in exponent of numeric literal")
            | [] => .error endFault
          else .ok ([], rest)
        | [] => .ok ([], rest)
      match expo with
      | .error e => .error e
      | .ok (es, rest) =>
        if fs.isEmpty ∧ es.isEmpty then
          let n : Int := decimalValue ds
          .ok (num (if sign.isEmpty then n else -n), rest)
        else .ok (real (String.ofList (sign ++ ds ++ fs ++ es)), rest)

mutual
def value : Nat → List Char → Except String (Json × List Char)
  | 0, _ => .error "exceeded max depth"
  | fuel + 1, cs =>
    match skipSpace cs with
    | [] => .error endFault
    | c :: rest =>
      if c = '{' then
        match skipSpace rest with
        | '}' :: after => .ok (obj [], after)
        | _ => members fuel [] rest
      else if c = '[' then
        match skipSpace rest with
        | ']' :: after => .ok (arr [], after)
        | _ => items fuel [] rest
      else if c = '"' then (stringRest rest).map fun (s, r) => (str s, r)
      else if c = '-' ∨ c.isDigit then number (c :: rest)
      else if c = 't' then (literal "true" ['r', 'u', 'e'] rest).map fun r => (bool true, r)
      else if c = 'f' then (literal "false" ['a', 'l', 's', 'e'] rest).map fun r => (bool false, r)
      else if c = 'n' then (literal "null" ['u', 'l', 'l'] rest).map fun r => (null, r)
      else .error (invalid c "looking for beginning of value")

def members : Nat → List (String × Json) → List Char → Except String (Json × List Char)
  | 0, _, _ => .error "exceeded max depth"
  | fuel + 1, acc, cs =>
    match skipSpace cs with
    | [] => .error endFault
    | '"' :: rest =>
      match stringRest rest with
      | .error e => .error e
      | .ok (k, after) =>
        match skipSpace after with
        | ':' :: more =>
          match value fuel more with
          | .error e => .error e
          | .ok (v, after2) =>
            match skipSpace after2 with
            | ',' :: more2 => members fuel ((k, v) :: acc) more2
            | '}' :: more2 => .ok (obj ((k, v) :: acc).reverse, more2)
            | c :: _ => .error (invalid c "after object key:value pair")
            | [] => .error endFault
        | c :: _ => .error (invalid c "after object key")
        | [] => .error endFault
    | c :: _ => .error (invalid c "looking for beginning of object key string")

def items : Nat → List Json → List Char → Except String (Json × List Char)
  | 0, _, _ => .error "exceeded max depth"
  | fuel + 1, acc, cs =>
    match value fuel cs with
    | .error e => .error e
    | .ok (v, after) =>
      match skipSpace after with
      | ',' :: more => items fuel (v :: acc) more
      | ']' :: more => .ok (arr (v :: acc).reverse, more)
      | c :: _ => .error (invalid c "after array element")
      | [] => .error endFault
end

def parse (s : String) : Except String Json :=
  let cs := s.toList
  match value (2 * cs.length + 2) cs with
  | .error e => .error e
  | .ok (v, rest) =>
    match skipSpace rest with
    | [] => .ok v
    | c :: _ => .error (invalid c "after top-level value")

end Json

end HeaderAudit
