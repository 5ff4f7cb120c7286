import HeaderAudit.Address.Basic
import HeaderAudit.Error
import HeaderAudit.Text.Case
/-!
Reading an address. The fragment is cut off at the first `#`; a scheme is letters, digits, `+`, `-`
and `.` before the first `:` (starting with a letter); the query follows the first `?`.
-/
namespace HeaderAudit

namespace Address

def splitScheme (bs : Bytes) : Except String (Bytes × Bytes) :=
  let rec go (i : Nat) : Bytes → Except String (Bytes × Bytes)
    | [] => .ok ([], bs)
    | c :: cs =>
      let ch := Char.ofNat c.toNat
      if c < 0x80 ∧ ch.isAlpha then go (i + 1) cs
      else if c < 0x80 ∧ (ch.isDigit ∨ ch = '+' ∨ ch = '-' ∨ ch = '.') then
        (if i = 0 then .ok ([], bs) else go (i + 1) cs)
      else if ch = ':' then
        (if i = 0 then .error "missing protocol scheme" else .ok (bs.take i, bs.drop (i + 1)))
      else .ok ([], bs)
  go 0 bs

def validUserinfo (s : String) : Bool :=
  s.toList.all fun r => (r.isAlphanum ∧ r.toNat < 0x80) ∨
    r ∈ ['-', '.', '_', ':', '~', '!', '$', '&', '\'', '(', ')', '*', '+', ',', ';', '=', '%', '@']

def parseHost (host : Bytes) : Except String Bytes :=
  if host.head? = some (Bytes.ascii '[') then
    match Bytes.lastIndexOf? (Bytes.ascii ']') host with
    | none => .error "missing ']' in host"
    | some i =>
      let colonPort := host.drop (i + 1)
      if !validOptionalPort colonPort then
        .error ("invalid port " ++ Bytes.quote colonPort ++ " after host")
      else
        match Bytes.indexOfSub? (Bytes.ofString "%25") (host.take i) with
        | some z => do
          let h1 ← Bytes.unescape .host (host.take z)
          let h2 ← Bytes.unescape .zone ((host.take i).drop z)
          let h3 ← Bytes.unescape .host (host.drop i)
          pure (h1 ++ h2 ++ h3)
        | none => Bytes.unescape .host host
  else
    match Bytes.lastIndexOf? (Bytes.ascii ':') host with
    | some i =>
      let colonPort := host.drop i
      if !validOptionalPort colonPort then
        .error ("invalid port " ++ Bytes.quote colonPort ++ " after host")
      else Bytes.unescape .host host
    | none => Bytes.unescape .host host

def parseAuthority (authority : Bytes) : Except String (Option Userinfo × Bytes) :=
  match Bytes.lastIndexOf? (Bytes.ascii '@') authority with
  | none => do
    let host ← parseHost authority
    pure (none, host)
  | some i => do
    let host ← parseHost (authority.drop (i + 1))
    let info := authority.take i
    if !validUserinfo (Bytes.toStringLossy info) then throw "net/url: invalid userinfo"
    match Bytes.cutAt (Bytes.ascii ':') info with
    | none =>
      let name ← Bytes.unescape .userPassword info
      pure (some ⟨name, none⟩, host)
    | some (name, pass) =>
      let name ← Bytes.unescape .userPassword name
      let pass ← Bytes.unescape .userPassword pass
      pure (some ⟨name, some pass⟩, host)

def withPath (u : Address) (p : Bytes) : Except String Address := do
  let path ← Bytes.unescape .path p
  let raw := Bytes.toStringLossy p
  pure { u with path := path, rawPath := if Bytes.escape .path path = raw then "" else raw }

def withFragment (u : Address) (f : Bytes) : Except String Address := do
  let frag ← Bytes.unescape .fragment f
  let raw := Bytes.toStringLossy f
  pure { u with fragment := frag, rawFragment := if Bytes.escape .fragment frag = raw then "" else raw }

/-- The part before the query, whether the address ends in a lone `?`, and the raw query: the
query follows the first `?`, and a single `?` at the very end forces an empty query. -/
def splitQuery (rest : Bytes) : Bytes × Bool × String :=
  if rest.getLast? = some (Bytes.ascii '?') ∧ rest.count (Bytes.ascii '?') = 1 then
    (rest.dropLast, true, "")
  else match Bytes.cutAt (Bytes.ascii '?') rest with
    | some (a, q) => (a, false, Bytes.toStringLossy q)
    | none => (rest, false, "")

def splitAuthority (afterSlashes : Bytes) : Bytes × Bytes :=
  match afterSlashes.idxOf? (Bytes.ascii '/') with
  | some i => (afterSlashes.take i, afterSlashes.drop i)
  | none => (afterSlashes, [])

def hasControl (bs : Bytes) : Bool := bs.any fun c => c < 0x20 ∨ c = 0x7F

/-- Reads the rest of an address that is not opaque: an authority after `//` and the path after
it, or a path alone (rooted after a scheme, the host then omitted). -/
def parseHierarchy (scheme : String) (rest : Bytes) (u : Address) : Except String Address :=
  if (scheme ≠ "" ∨ !Bytes.startsWith rest "///") ∧ Bytes.startsWith rest "//" then do
    let (authority, rest) := splitAuthority (rest.drop 2)
    let (user, host) ← parseAuthority authority
    withPath { u with user := user, host := host } rest
  else if scheme ≠ "" ∧ Bytes.startsWith rest "/" then
    withPath { u with omitHost := true } rest
  else withPath u rest

def parseBody (raw : Bytes) : Except String Address := do
  if hasControl raw then throw "net/url: invalid control character in URL"
  if raw = Bytes.ofString "*" then return { empty with path := raw }
  let (scheme, rest) ← splitScheme raw
  let scheme := Text.lower (Bytes.toStringLossy scheme)
  let (rest, forceQuery, rawQuery) := splitQuery rest
  let u : Address := { empty with scheme := scheme, forceQuery := forceQuery, rawQuery := rawQuery }
  if rest.head? ≠ some (Bytes.ascii '/') then
    if scheme ≠ "" then return { u with opaquePart := Bytes.toStringLossy rest }
    let segment := match Bytes.cutAt (Bytes.ascii '/') rest with
      | some (s, _) => s
      | none => rest
    if segment.contains (Bytes.ascii ':') then
      throw "first path segment in URL cannot contain colon"
  parseHierarchy scheme rest u

def parseError (shown : Bytes) (msg : String) : Error :=
  ⟨[.address], "parse " ++ Bytes.quote shown ++ ": " ++ msg⟩

def parse (raw : String) : Outcome Address :=
  let bs := Bytes.ofString raw
  let (body, frag) := match Bytes.cutAt (Bytes.ascii '#') bs with
    | some (a, f) => (a, f)
    | none => (bs, [])
  match parseBody body with
  | .error msg => .error (parseError body msg)
  | .ok u =>
    if frag = [] then .ok u
    else match withFragment u frag with
      | .ok u => .ok u
      | .error msg => .error (parseError bs msg)

end Address

end HeaderAudit
