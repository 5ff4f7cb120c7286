import HeaderAudit.Json.Value
/-!
The evaluation context: values that checks leave for one another while a header is judged, such as
the policy text or the cookies seen, and the request's origin.
-/
namespace HeaderAudit

/-- A value kept in the context. -/
inductive ContextValue where
  | text (s : String)
  | texts (xs : List String)
  | other (j : Json)
  deriving Repr, BEq, Inhabited

/-- The evaluation context, one value per key. -/
structure Context where
  entries : List (String × ContextValue)
  deriving Repr, BEq, Inhabited

namespace Context

def cspKey : String := "csp"
def cookiesKey : String := "cookies"
def originKey : String := "requestOrigin"

def empty : Context := ⟨[]⟩

def get? (c : Context) (key : String) : Option ContextValue :=
  (c.entries.find? (·.1 == key)).map (·.2)

def set (c : Context) (key : String) (v : ContextValue) : Context :=
  if c.entries.any (·.1 == key) then
    ⟨c.entries.map fun e => if e.1 == key then (key, v) else e⟩
  else ⟨c.entries ++ [(key, v)]⟩

def text? (c : Context) (key : String) : Option String :=
  match c.get? key with
  | some (.text s) => some s
  | _ => none

def size (c : Context) : Nat := c.entries.length

def withOrigin (origin : String) : Context := empty.set originKey (.text origin)

def setIn (c : Option Context) (key : String) (v : ContextValue) : Option Context :=
  c.map (·.set key v)

end Context

end HeaderAudit
