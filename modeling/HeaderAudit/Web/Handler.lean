import HeaderAudit.Web.HeaderMap
import HeaderAudit.Address.Parse
import HeaderAudit.Address.Query
import HeaderAudit.Address.Clean
/-!
Requests as a server receives them and the replies it writes. A request has a method, its target
address (path and query), its header fields and body.
-/
namespace HeaderAudit

/-- A request received by a server. -/
structure Incoming where
  method : String
  url : Address
  headers : HeaderMap
  body : String
  deriving Repr, Inhabited

/-- A reply written by a server. -/
structure Reply where
  status : Int
  headers : HeaderMap
  body : String
  deriving Repr, Inhabited

def statusText : Int → String
  | 100 => "Continue" | 101 => "Switching Protocols" | 102 => "Processing" | 103 => "Early Hints"
  | 200 => "OK" | 201 => "Created" | 202 => "Accepted" | 203 => "Non-Authoritative Information"
  | 204 => "No Content" | 205 => "Reset Content" | 206 => "Partial Content" | 207 => "Multi-Status"
  | 208 => "Already Reported" | 226 => "IM Used"
  | 300 => "Multiple Choices" | 301 => "Moved Permanently" | 302 => "Found" | 303 => "See Other"
  | 304 => "Not Modified" | 305 => "Use Proxy" | 307 => "Temporary Redirect"
  | 308 => "Permanent Redirect"
  | 400 => "Bad Request" | 401 => "Unauthorized" | 402 => "Payment Required" | 403 => "Forbidden"
  | 404 => "Not Found" | 405 => "Method Not Allowed" | 406 => "Not Acceptable"
  | 407 => "Proxy Authentication Required" | 408 => "Request Timeout" | 409 => "Conflict"
  | 410 => "Gone" | 411 => "Length Required" | 412 => "Precondition Failed"
  | 413 => "Request Entity Too Large" | 414 => "Request URI Too Long"
  | 415 => "Unsupported Media Type" | 416 => "Requested Range Not Satisfiable"
  | 417 => "Expectation Failed" | 418 => "I'm a teapot" | 421 => "Misdirected Request"
  | 422 => "Unprocessable Entity" | 423 => "Locked" | 424 => "Failed Dependency"
  | 425 => "Too Early" | 426 => "Upgrade Required" | 428 => "Precondition Required"
  | 429 => "Too Many Requests" | 431 => "Request Header Fields Too Large"
  | 451 => "Unavailable For Legal Reasons"
  | 500 => "Internal Server Error" | 501 => "Not Implemented" | 502 => "Bad Gateway"
  | 503 => "Service Unavailable" | 504 => "Gateway Timeout" | 505 => "HTTP Version Not Supported"
  | 506 => "Variant Also Negotiates" | 507 => "Insufficient Storage" | 508 => "Loop Detected"
  | 510 => "Not Extended" | 511 => "Network Authentication Required"
  | _ => ""

def statusLine (code : Int) : String :=
  let digits := toString code.natAbs
  let digits := if code ≥ 0 ∧ digits.length < 3 then String.ofList (List.replicate (3 - digits.length) '0') ++ digits
    else if code < 0 then "-" ++ digits else digits
  digits ++ " " ++ statusText code

namespace Reply

def error (headers : HeaderMap) (msg : String) (code : Int) : Reply :=
  let headers := { entries := headers.entries.filter (·.1 != "Content-Length") : HeaderMap }
  ⟨code, (headers.set "Content-Type" "text/plain; charset=utf-8").set "X-Content-Type-Options" "nosniff",
    msg ++ "\n"⟩

def notFound (headers : HeaderMap) : Reply := error headers "404 page not found" 404

def htmlEscape (s : String) : String :=
  String.join (s.toList.map fun c =>
    if c = '<' then "&lt;" else if c = '>' then "&gt;" else if c = '&' then "&amp;"
    else if c = '\'' then "&#39;" else if c = '"' then "&#34;" else String.singleton c)

def escapeNonAscii (s : String) : String :=
  String.join ((Bytes.ofString s).map fun b =>
    if b < 0x80 then String.singleton (Char.ofNat b.toNat) else String.ofList (Bytes.percent b))

def directoryOf (p : String) : String :=
  let cs := p.toList
  let n := cs.length - (cs.reverse.takeWhile (· ≠ '/')).length
  String.ofList (cs.take n)

/-- A redirect to an address. A relative target is made absolute against the request's path
and cleaned, keeping a trailing slash and the query. -/
def redirect (req : Incoming) (headers : HeaderMap) (target : String) (code : Int) : Reply :=
  let target := match Address.parse target with
    | .ok u =>
      if u.scheme = "" ∧ u.host = [] then
        let old := Bytes.toStringLossy req.url.path
        let old := if old = "" then "/" else old
        let t := if target.startsWith "/" then target else directoryOf old ++ target
        let (t, query) := match Text.cut t "?" with
          | some (a, b) => (a, "?" ++ b)
          | none => (t, "")
        let trailing := t.endsWith "/"
        let clean := Bytes.toStringLossy (Bytes.cleanPath (Bytes.ofString t))
        let clean := if trailing ∧ !clean.endsWith "/" then clean ++ "/" else clean
        clean ++ query
      else target
    | .error _ => target
  let hadType := headers.entries.any (·.1 == "Content-Type")
  let headers := headers.set "Location" (escapeNonAscii target)
  let headers := if !hadType ∧ (req.method = "GET" ∨ req.method = "HEAD") then
    headers.set "Content-Type" "text/html; charset=utf-8" else headers
  let body := if !hadType ∧ req.method = "GET" then
    "<a href=\"" ++ htmlEscape target ++ "\">" ++ statusText code ++ "</a>.\n\n" else ""
  ⟨code, headers, body⟩

end Reply

namespace Incoming

/-- The media type of the request body: the `Content-Type` before any parameter, in lower
case. -/
def mediaType (req : Incoming) : String :=
  let ct := (req.headers.get? "Content-Type").getD ""
  Text.lower (Text.trim ((Text.cutOr ct ";").1))

/-- The form values of a request: those of a URL-encoded body (for `POST`, `PUT` and `PATCH`)
first, then those of the query. -/
def form (req : Incoming) : Query :=
  let posted :=
    if (req.method = "POST" ∨ req.method = "PUT" ∨ req.method = "PATCH") ∧
        req.mediaType = "application/x-www-form-urlencoded" then Query.parse req.body
    else ⟨[]⟩
  (Query.parse req.url.rawQuery).entries.foldl (fun q (k, vs) => vs.foldl (fun q v => q.add k v) q) posted

def formValue (req : Incoming) (key : String) : String :=
  match req.form.entries.find? (·.1 == Bytes.ofString key) with
  | some (_, v :: _) => Bytes.toStringLossy v
  | _ => ""

end Incoming

end HeaderAudit
