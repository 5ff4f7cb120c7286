import HeaderAudit.Address.Escape
import HeaderAudit.Text.Search
/-!
Addresses (URLs) as their parts: scheme, opaque text, user information, host (with port), path,
query and fragment.
-/
namespace HeaderAudit

/-- A user name with an optional password. -/
structure Userinfo where
  username : Bytes
  password : Option Bytes
  deriving Repr, BEq, Inhabited

namespace Userinfo

def render (u : Userinfo) : String :=
  Bytes.escape .userPassword u.username ++
    (match u.password with
     | some p => ":" ++ Bytes.escape .userPassword p
     | none => "")

end Userinfo

/-- An address in parts. -/
structure Address where
  scheme : String
  opaquePart : String
  user : Option Userinfo
  host : Bytes
  path : Bytes
  rawPath : String
  omitHost : Bool
  forceQuery : Bool
  rawQuery : String
  fragment : Bytes
  rawFragment : String
  deriving Repr, BEq, Inhabited

namespace Address

def empty : Address := ⟨"", "", none, [], [], "", false, false, "", [], ""⟩

def validOptionalPort (p : Bytes) : Bool :=
  match p with
  | [] => true
  | c :: ds => c = Bytes.ascii ':' ∧ ds.all fun d => Bytes.ascii '0' ≤ d ∧ d ≤ Bytes.ascii '9'

def splitHostPort (hp : Bytes) : Bytes × Bytes :=
  let (host, port) := match Bytes.lastIndexOf? (Bytes.ascii ':') hp with
    | some i => if validOptionalPort (hp.drop i) then (hp.take i, hp.drop (i + 1)) else (hp, [])
    | none => (hp, [])
  if host.head? = some (Bytes.ascii '[') ∧ host.getLast? = some (Bytes.ascii ']') ∧ host.length ≥ 2 then
    ((host.drop 1).take (host.length - 2), port)
  else (host, port)

def hostname (u : Address) : Bytes := (splitHostPort u.host).1

def port (u : Address) : Bytes := (splitHostPort u.host).2

/-- The encoded path: the raw path when it is a valid encoding of the path, else the path
encoded. -/
def escapedPath (u : Address) : String :=
  let raw := Bytes.ofString u.rawPath
  let keepRaw : Bool := u.rawPath ≠ "" && Bytes.validEncoded .path raw &&
    (match Bytes.unescape .path raw with
     | .ok p => p == u.path
     | .error _ => false)
  if keepRaw then u.rawPath
  else if u.path = Bytes.ofString "*" then "*"
  else Bytes.escape .path u.path

def escapedFragment (u : Address) : String :=
  let raw := Bytes.ofString u.rawFragment
  let keepRaw : Bool := u.rawFragment ≠ "" && Bytes.validEncoded .fragment raw &&
    (match Bytes.unescape .fragment raw with
     | .ok f => f == u.fragment
     | .error _ => false)
  if keepRaw then u.rawFragment else Bytes.escape .fragment u.fragment

def render (u : Address) : String :=
  let schemePart := if u.scheme = "" then "" else u.scheme ++ ":"
  let body :=
    if u.opaquePart ≠ "" then u.opaquePart
    else
      let authority :=
        if u.scheme ≠ "" ∨ u.host ≠ [] ∨ u.user.isSome then
          if u.omitHost ∧ u.host = [] ∧ u.user.isNone then ""
          else
            (if u.host ≠ [] ∨ u.path ≠ [] ∨ u.user.isSome then "//" else "") ++
            (match u.user with
             | some ui => ui.render ++ "@"
             | none => "") ++
            Bytes.escape .host u.host
        else ""
      let path := u.escapedPath
      let slash := if path ≠ "" ∧ path.front ≠ '/' ∧ u.host ≠ [] then "/" else ""
      let soFar := schemePart ++ authority ++ slash
      let dotSlash :=
        if soFar = "" ∧ Text.contains ((Text.cutOr path "/").1) ":" then "./" else ""
      authority ++ slash ++ dotSlash ++ path
  let query := if u.forceQuery ∨ u.rawQuery ≠ "" then "?" ++ u.rawQuery else ""
  let frag := if u.fragment = [] then "" else "#" ++ u.escapedFragment
  schemePart ++ body ++ query ++ frag

def requestUri (u : Address) : String :=
  let base :=
    if u.opaquePart = "" then (let p := u.escapedPath; if p = "" then "/" else p)
    else if Text.hasPrefix u.opaquePart "//" then u.scheme ++ ":" ++ u.opaquePart
    else u.opaquePart
  base ++ (if u.forceQuery ∨ u.rawQuery ≠ "" then "?" ++ u.rawQuery else "")

end Address

end HeaderAudit
