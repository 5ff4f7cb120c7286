import HeaderAudit.Address.Resolve
import HeaderAudit.Address.Query
import HeaderAudit.Address.Clean
import HeaderAudit.Text.Case
import HeaderAudit.Text.Blank
/-!
Canonical target addresses. A target is trimmed, given a default scheme when it has none, and must
be an `http` or `https` address with a host.
-/
namespace HeaderAudit

/-- An IDNA look-up: the ASCII form of a host name, or none when the name has none. -/
structure IdnaLookup where
  toAscii : String → Option String

namespace Address

def joinHostPort (host port : String) : String :=
  if Text.contains host ":" then "[" ++ host ++ "]:" ++ port else host ++ ":" ++ port

def canonicalPath (p : Bytes) : Bytes :=
  if p = [] then [Bytes.ascii '/']
  else
    let clean := Bytes.cleanPath p
    if p.getLast? = some (Bytes.ascii '/') ∧ clean ≠ [Bytes.ascii '/'] then clean ++ [Bytes.ascii '/']
    else clean

def target (idna : IdnaLookup) (raw defaultScheme : String) : Outcome Address := do
  let raw := Text.trim raw
  if raw = "" then throw (Error.ofFault .emptyUrl)
  let raw := if defaultScheme ≠ "" ∧ !Text.contains raw "://" then defaultScheme ++ "://" ++ raw else raw
  let u ← (parse raw).mapError (Error.wrap ("parse " ++ Text.quote raw ++ ": "))
  let scheme := Text.lower u.scheme
  if scheme ≠ "http" ∧ scheme ≠ "https" then throw (Error.withDetail .badScheme (Text.quote raw))
  if u.hostname = [] then throw (Error.withDetail .missingHost (Text.quote raw))
  let host := Text.lower (Bytes.toStringLossy u.hostname)
  let host := (idna.toAscii host).getD host
  let port := Bytes.toStringLossy u.port
  let hostPort :=
    if port = "" ∨ (scheme = "http" ∧ port = "80") ∨ (scheme = "https" ∧ port = "443") then host
    else joinHostPort host port
  pure { u with scheme := scheme, host := Bytes.ofString hostPort, user := none, fragment := []
                rawFragment := "", path := canonicalPath u.path, rawPath := ""
                rawQuery := (Query.parse u.rawQuery).encode }

def canonicalize (idna : IdnaLookup) (raw defaultScheme : String) : Outcome String :=
  (target idna raw defaultScheme).map render

def resolveText (idna : IdnaLookup) (base : Address) (ref : String) : Outcome String := do
  let r ← (parse (Text.trim ref)).mapError (Error.wrap ("parse reference " ++ Text.quote ref ++ ": "))
  canonicalize idna (resolveReference base r).render ""

def sameHost (a b : Address) : Bool :=
  Text.equalFold (Bytes.toStringLossy a.hostname) (Bytes.toStringLossy b.hostname)

/-- A code point of a host name as an address may spell it: an ASCII letter of either case, a
digit, `-` or `.`. -/
def nameChar (c : Char) : Bool := c.isAlphanum || c == '-' || c == '.'

/-- A host name as an address may spell it: not empty, of name code points. -/
structure HostName (name : String) : Prop where
  full : name ≠ ""
  chars : ∀ c ∈ name.toList, nameChar c = true

def Unencoded (name : String) : Prop :=
  ∀ label ∈ (Text.lower name).toList.splitOn '.', ['x', 'n', '-', '-'].isPrefixOf label = false

instance (name : String) : Decidable (HostName name) :=
  have : Decidable (∀ c ∈ name.toList, nameChar c = true) := List.decidableBAll _ _
  decidable_of_iff (name ≠ "" ∧ ∀ c ∈ name.toList, nameChar c = true)
    ⟨fun ⟨full, chars⟩ => ⟨full, chars⟩, fun named => ⟨named.full, named.chars⟩⟩

instance (name : String) : Decidable (Unencoded name) :=
  List.decidableBAll _ _

end Address

/-- What the program relies on of its IDNA look-up: an ASCII host name with no label in the
`xn--` form has its lower case as its ASCII form, or has none. -/
structure IdnaLookup.Lawful (idna : IdnaLookup) : Prop where
  ascii : ∀ name, Address.HostName name → Address.Unencoded name →
    idna.toAscii name = none ∨ idna.toAscii name = some (Text.lower name)

end HeaderAudit
