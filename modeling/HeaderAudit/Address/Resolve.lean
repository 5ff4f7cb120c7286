import HeaderAudit.Address.Parse
/-!
Resolving a reference against a base address (RFC 3986, section 5.2). A reference with a scheme,
host or user information stands alone; otherwise it takes the base's authority, and its path is
merged with the base path and its dot segments removed.
-/
namespace HeaderAudit

namespace Address

/-- The segments of a path with dot segments removed, written with a leading slash. `acc` holds
the kept segments, last first; `first` tells whether no segment was written yet. -/
def removeDots (acc : List String) : List String → List String
  | [] => acc
  | "." :: rest => removeDots acc rest
  | ".." :: rest => removeDots acc.tail rest
  | seg :: rest => removeDots (seg :: acc) rest

def resolvePath (base ref : String) : String :=
  let full :=
    if ref = "" then base
    else if ref.front ≠ '/' then
      (match Text.indexOfList ['/'] base.toList.reverse with
       | some j => String.ofList (base.toList.take (base.length - j))
       | none => "") ++ ref
    else ref
  if full = "" then ""
  else
    let segs := Text.split full "/"
    let kept := (removeDots [] segs).reverse
    let last := segs.getLast?.getD ""
    let body := "/".intercalate kept
    let trailing := if last = "." ∨ last = ".." then "/" else ""
    let r := "/" ++ body ++ trailing
    if Text.hasPrefix r "//" then String.ofList (r.toList.drop 1) else r

def withPathText (u : Address) (p : String) : Address :=
  match withPath u (Bytes.ofString p) with
  | .ok v => v
  | .error _ => u

def resolveReference (base ref : Address) : Address :=
  let url := if ref.scheme = "" then { ref with scheme := base.scheme } else ref
  if ref.scheme ≠ "" ∨ ref.host ≠ [] ∨ ref.user.isSome then
    withPathText url (resolvePath ref.escapedPath "")
  else if ref.opaquePart ≠ "" then
    { url with user := none, host := [], path := [] }
  else
    let url :=
      if ref.path = [] ∧ !ref.forceQuery ∧ ref.rawQuery = "" then
        let url := { url with rawQuery := base.rawQuery }
        if ref.fragment = [] then { url with fragment := base.fragment, rawFragment := base.rawFragment }
        else url
      else url
    if ref.path = [] ∧ base.opaquePart ≠ "" then
      { url with opaquePart := base.opaquePart, user := none, host := [], path := [] }
    else
      withPathText { url with host := base.host, user := base.user }
        (resolvePath base.escapedPath ref.escapedPath)

end Address

end HeaderAudit
