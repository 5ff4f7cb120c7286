import HeaderAudit.Web.HeaderMap
import HeaderAudit.Message.Record
import HeaderAudit.Address.Parse
/-!
Fetched exchanges: a request sent by the web client and the response it got.
-/
namespace HeaderAudit

/-- A request for the web client. -/
structure WebRequest where
  method : String
  url : String
  headers : Option HeaderMap
  body : String
  deriving Repr, Inhabited

/-- A response from the web client, with the request that asked for it. -/
structure WebResponse where
  request : Option WebRequest
  proto : String
  statusCode : Int
  reason : String
  headers : HeaderMap
  body : Bytes
  deriving Repr, Inhabited

namespace WebResponse

def record (r : WebResponse) : Outcome Record := do
  let some req := r.request | throw (Error.plain "webclient: response without request")
  let u ← (Address.parse req.url).mapError (Error.wrap "parse request url: ")
  let host := Bytes.toStringLossy u.host
  let headers := (req.headers.getD HeaderMap.empty).set "Host" host
  let request : Request := ⟨req.method, u.requestUri, "HTTP/1.1", headers.toHeader, []⟩
  let response : Response := ⟨r.proto, r.statusCode, r.reason, r.headers.toHeader, r.body⟩
  match Record.ofExchange request response (u.scheme = "https") host with
  | some rec => pure rec
  | none => throw (Error.ofFault .incompleteRecord)

end WebResponse

end HeaderAudit
