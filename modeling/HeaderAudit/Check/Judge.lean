import HeaderAudit.Check.Basic
import HeaderAudit.Text.Case
import HeaderAudit.Text.Search
/-!
How each check judges a header. A check reads field values (an absent header reads as empty) and may
leave values in the context for later checks: the framing check leaves the policy text and the
cookie check the list of cookies.
-/
namespace HeaderAudit

namespace Check

def fieldValue (h : Option Header) (name : String) : String :=
  match h with
  | some h => h.valueD name
  | none => ""

def truncate (limit : Nat) (s : String) : String :=
  if s.length ≤ limit then s else String.ofList (s.toList.take limit) ++ "..."

def hasSecureAttribute (cookie : String) : Bool := Text.contains (Text.lower cookie) " secure"

def judgeFraming (csp xfo : String) : Verdict :=
  if Text.contains csp "frame-ancestors 'none'" then Verdict.pass "frame-ancestors 'none'" csp
  else if Text.contains csp "frame-ancestors 'self'" then Verdict.pass "frame-ancestors 'self'" csp
  else if xfo ≠ "" then Verdict.pass ("X-Frame-Options:" ++ xfo) ("X-Frame-Options: " ++ xfo)
  else if csp = "" then Verdict.failure "(none)" ""
  else Verdict.failure csp csp

def judgeSniffing (value : String) : Verdict :=
  let v := Text.trim value
  if Text.equalFold v "nosniff" then Verdict.pass "nosniff" v else Verdict.failure "(none)" v

def judgeTransport (value : String) : Verdict :=
  let v := Text.trim value
  if v = "" then Verdict.failure "(none)" "" else Verdict.pass ("Strict-Transport-Security: " ++ v) v

def judgeContentType (ct : String) : Verdict :=
  let l := Text.lower ct
  if Text.contains l "text/html" ∧ !Text.contains l "charset=" then Verdict.failure "No charset" ct
  else Verdict.pass ct ct

def cacheDirectives : List String := ["private", "no-store", "no-cache", "must-revalidate"]

def judgeCaching (cache pragma : String) : Verdict :=
  if Text.contains pragma "no-cache" ∧ cacheDirectives.all (Text.contains cache ·) then
    Verdict.pass cache cache
  else if cache = "" ∧ pragma = "" then Verdict.pass "No Cache-Control or Pragma" ""
  else Verdict.caution cache cache

def judgeCookies (cookies : List String) : Verdict :=
  if cookies = [] then Verdict.pass "No cookies" ""
  else
    let display := "; ".intercalate (cookies.map (truncate 100))
    let raw := "; ".intercalate cookies
    if cookies.all hasSecureAttribute then Verdict.pass display raw else Verdict.failure display raw

def judgeCors (acao : String) (origin : Option String) : Verdict :=
  if acao = "" then Verdict.pass "No CORS" ""
  else if acao = "*" then ⟨.fail, acao, acao, wildcardMessage⟩
  else match origin with
    | some o => if o ≠ "" ∧ o = acao then ⟨.warn, acao, acao, reflectionMessage⟩
      else Verdict.pass acao acao
    | none => Verdict.pass acao acao

def echoVerdict : Option ContextValue → Verdict
  | some (.text t) => Verdict.pass ("string:" ++ t) t
  | some (.texts xs) => Verdict.pass ("strings:" ++ "|".intercalate xs) ""
  | some (.other _) => Verdict.caution "other" ""
  | none => Verdict.failure "absent" ""

def specVerdict : Option VerdictSpec → Verdict
  | some s => match Verdict.make s.status s.display (s.raw.getD "") (s.message.getD "") with
    | .ok v => v
    | .error _ => Verdict.empty
  | none => ⟨.ok, "", "", ""⟩

def judge (c : Check) (h : Option Header) (ctx : Option Context) : Verdict × Option Context :=
  match c with
  | framing =>
    let csp := fieldValue h "Content-Security-Policy"
    (judgeFraming csp (fieldValue h "X-Frame-Options"), Context.setIn ctx Context.cspKey (.text csp))
  | sniffing => (judgeSniffing (fieldValue h "X-Content-Type-Options"), ctx)
  | transport => (judgeTransport (fieldValue h "Strict-Transport-Security"), ctx)
  | contentType => (judgeContentType (fieldValue h "Content-Type"), ctx)
  | caching => (judgeCaching (fieldValue h "Cache-Control") (fieldValue h "Pragma"), ctx)
  | cookies =>
    let cs := match h with
      | some h => h.values "Set-Cookie"
      | none => []
    (judgeCookies cs, Context.setIn ctx Context.cookiesKey (.texts cs))
  | cors =>
    (judgeCors (fieldValue h "Access-Control-Allow-Origin") (ctx.bind (·.text? Context.originKey)), ctx)
  | custom s =>
    let ctx := match s.setsContext with
      | some (k, v) => Context.setIn ctx k v
      | none => ctx
    match s.echoKey with
    | some key => (echoVerdict (ctx.bind (·.get? key)), ctx)
    | none => (specVerdict s.verdict, ctx)

end Check

end HeaderAudit
