import HeaderAudit.Web.Exchange
import HeaderAudit.Settings.Basic
import HeaderAudit.Address.Resolve
/-!
The web client. A request is checked and completed (method in upper case, `GET` when none, the
configured user agent when the request names none), then sent over a *transport*: whatever carries
one request on the wire and brings back one response, keeping its own state.
-/
namespace HeaderAudit

/-- A request as a transport carries it. -/
structure WireRequest where
  method : String
  url : Address
  headers : HeaderMap
  body : String
  deriving Repr, Inhabited

/-- A response as a transport brings it: its protocol, code, status text (`200 OK`), header
fields and body. -/
structure WireResponse where
  proto : String
  statusCode : Int
  status : String
  headers : HeaderMap
  body : Bytes
  deriving Repr, Inhabited

/-- A transport over a network with state `σ`: it carries a request and brings a response, or
fails with a message. -/
structure Transport (σ : Type) where
  roundTrip : WireRequest → σ → Except String WireResponse × σ

namespace WebClient

def isMethodChar (c : Char) : Bool := c.toNat < 127 ∧ HeaderMap.isTokenChar c

def methodOf (m : String) : String :=
  let m := Text.upper m
  if m = "" then "GET" else m

def dropEmptyPort (host : Bytes) : Bytes :=
  let colon := Bytes.lastIndexOf? (Bytes.ascii ':') host
  let bracket := Bytes.lastIndexOf? (Bytes.ascii ']') host
  let hasPort := match colon, bracket with
    | some c, some b => c > b
    | some _, none => true
    | none, _ => false
  if hasPort && host.getLast? == some (Bytes.ascii ':') then host.dropLast else host

def build (settings : ClientSettings) (req : WebRequest) : Outcome WireRequest := do
  let method := methodOf req.method
  if !method.toList.all isMethodChar then
    throw (Error.plain ("create request: net/http: invalid method " ++ Text.quote method))
  let u ← (Address.parse req.url).mapError (Error.wrap "create request: ")
  let u := { u with host := dropEmptyPort u.host }
  let headers := (req.headers.getD HeaderMap.empty).entries.foldl
    (fun m (k, vs) => vs.foldl (fun m v => m.add k v) m) HeaderMap.empty
  let headers :=
    if (headers.get? "User-Agent").getD "" = "" ∧ settings.userAgent ≠ "" then
      headers.set "User-Agent" settings.userAgent
    else headers
  pure ⟨method, u, headers, req.body⟩

def operationName (method : String) : String :=
  match method.toList with
  | c :: cs => String.ofList (c :: (Text.lower (String.ofList cs)).toList)
  | [] => ""

def shownAddress (u : Address) : String :=
  match u.user with
  | some ui => match ui.password with
    | some _ =>
      let text := u.render
      match Text.cut text (ui.render ++ "@") with
      | some (before, after) =>
        before ++ Bytes.toStringLossy ui.username ++ ":***@" ++ after
      | none => text
    | none => u.render
  | none => u.render

def exchangeError (method : String) (shown : String) (msg : String) : Error :=
  ⟨[.address], operationName method ++ " " ++ Text.quote shown ++ ": " ++ msg⟩

def base64 (bs : List UInt8) : String :=
  let alphabet := "ABCDEFGHIJKLMNOPQRSTUVWXYZabcdefghijklmnopqrstuvwxyz0123456789+/".toList
  let digit (n : Nat) : Char := alphabet.getD n 'A'
  let rec go : List UInt8 → List Char
    | a :: b :: c :: rest =>
      let n := a.toNat * 65536 + b.toNat * 256 + c.toNat
      digit (n / 262144) :: digit (n / 4096 % 64) :: digit (n / 64 % 64) :: digit (n % 64) :: go rest
    | [a, b] =>
      let n := a.toNat * 65536 + b.toNat * 256
      [digit (n / 262144), digit (n / 4096 % 64), digit (n / 64 % 64), '=']
    | [a] =>
      let n := a.toNat * 65536
      [digit (n / 262144), digit (n / 4096 % 64), '=', '=']
    | [] => []
  String.ofList (go bs)

/-- The header fields a request goes out with: basic credentials from the address when the
request names none. -/
def withCredentials (req : WireRequest) : WireRequest :=
  match req.url.user with
  | some ui =>
    if (req.headers.get? "Authorization").getD "" = "" then
      let pass := ui.password.getD []
      let token := "Basic " ++ base64 (ui.username ++ [Bytes.ascii ':'] ++ pass)
      { req with headers := req.headers.set "Authorization" token }
    else req
  | none => req

def withinDomain (sub parent : String) : Bool :=
  if sub = parent then true
  else if Text.contains sub ":" ∨ Text.contains sub "%" then false
  else Text.hasSuffix sub ("." ++ parent)

def asciiHost (idna : IdnaLookup) (u : Address) : String :=
  let h := Bytes.toStringLossy u.hostname
  if h.toList.all (·.toNat < 128) then h else (idna.toAscii h).getD h

def isSensitive (name : String) : Bool :=
  let k := HeaderMap.canonicalName name
  k = "Authorization" ∨ k = "Www-Authenticate" ∨ k = "Cookie" ∨ k = "Cookie2"

def refererFor (last next : Address) (explicit : String) : String :=
  if last.scheme = "https" ∧ next.scheme = "http" then ""
  else if explicit ≠ "" then explicit
  else
    let text := last.render
    match last.user with
    | some ui => match Text.cut text (ui.render ++ "@") with
      | some (before, after) => before ++ after
      | none => text
    | none => text

/-- How a response asks to be followed: the method of the next request and whether its body
goes along, or nothing when it is no redirect. -/
def redirectStep (method : String) (code : Int) : Option (String × Bool) :=
  if code = 301 ∨ code = 302 ∨ code = 303 then
    some (if method = "GET" ∨ method = "HEAD" then method else "GET", false)
  else if code = 307 ∨ code = 308 then some (method, true)
  else none

/-- What one hop of a chain of requests ends in. -/
inductive Hop where
  | done (resp : WireResponse)
  | next (req : WireRequest) (strip : Bool)
  | failed (e : Error)

/-- Sends requests along a chain of redirects, at most `fuel` of them. `first` is the chain's
first request, `sent` the number of requests sent so far. -/
def follow {σ : Type} (idna : IdnaLookup) (t : Transport σ) (followRedirects : Bool) (first : WireRequest) :
    Nat → Nat → WireRequest → Bool → σ → Outcome WireResponse × σ
  | 0, _, _, _, net => (.error (Error.plain "redirect chain too long"), net)
  | fuel + 1, sent, req, strip, net =>
    let (answer, net) := t.roundTrip (withCredentials req) net
    let shown := shownAddress req.url
    match answer with
    | .error msg => (.error (exchangeError first.method shown msg), net)
    | .ok resp =>
      let hop : Hop := match redirectStep req.method resp.statusCode with
        | none => .done resp
        | some (method, keepBody) =>
          let loc := (resp.headers.get? "Location").getD ""
          if loc = "" then .done resp
          else match Address.parse loc with
            | .error e =>
              .failed (exchangeError first.method shown
                ("failed to parse Location header " ++ Text.quote loc ++ ": " ++ e.message))
            | .ok ref =>
              let target := Address.resolveReference req.url ref
              let strip := strip ||
                (first.url.host != target.host && !withinDomain (asciiHost idna target) (asciiHost idna first.url))
              let headers := first.headers.entries.foldl (fun m (k, vs) =>
                if isSensitive k ∧ strip then m else { entries := m.entries ++ [(k, vs)] }) HeaderMap.empty
              let referer := refererFor req.url target ((headers.get? "Referer").getD "")
              let headers := if referer = "" then headers else headers.set "Referer" referer
              let next : WireRequest := ⟨method, target, headers, if keepBody then first.body else ""⟩
              if !followRedirects then .done resp
              else if sent + 1 ≥ 10 then
                .failed (exchangeError first.method loc "stopped after 10 redirects")
              else .next next strip
      match hop with
      | .done resp => (.ok resp, net)
      | .failed e => (.error e, net)
      | .next next strip => follow idna t followRedirects first fuel (sent + 1) next strip net

def reasonOf (status : String) : String :=
  match Text.cut status " " with
  | some (_, reason) => reason
  | none => ""

def limitBody (limit : Int) (body : Bytes) : Bytes :=
  if limit > 0 then body.take limit.toNat else body

def fetch {σ : Type} (idna : IdnaLookup) (settings : ClientSettings) (t : Transport σ) (req : Option WebRequest)
    (net : σ) :
    Outcome WebResponse × σ :=
  match req with
  | none => (.error (Error.plain "nil request"), net)
  | some req =>
    match build settings req with
    | .error e => (.error e, net)
    | .ok wire =>
      match follow idna t settings.followRedirects wire 12 0 wire false net with
      | (.error e, net) => (.error (Error.wrap "http do: " e), net)
      | (.ok resp, net) =>
        let sent : WebRequest := { req with method := wire.method, headers := some wire.headers }
        (.ok ⟨some sent, resp.proto, resp.statusCode, reasonOf resp.status, resp.headers,
          limitBody settings.maxBodyBytes resp.body⟩, net)

def get {σ : Type} (idna : IdnaLookup) (settings : ClientSettings) (t : Transport σ) (url : String) (net : σ) :
    Outcome WebResponse × σ :=
  fetch idna settings t (some ⟨"GET", url, none, ""⟩) net

end WebClient

end HeaderAudit
