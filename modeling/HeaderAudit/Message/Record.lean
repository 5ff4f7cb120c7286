import HeaderAudit.Message.Request
import HeaderAudit.Message.Response
/-!
An exchange record: one request and its response, reduced to what the scanner reports.
-/
namespace HeaderAudit

/-- One request and its response, as the scanner keeps them. -/
structure Record where
  requestHeader : Header
  responseHeader : Header
  method : String
  url : String
  statusCode : Int
  statusLine : String
  deriving Repr, BEq, Inhabited

def endpointKey (method url : String) (status : Int) : String :=
  method ++ " " ++ url ++ " " ++ toString status

namespace Record

def key (r : Record) : String := endpointKey r.method r.url r.statusCode

def targetPath (target : String) : String :=
  match Text.cut target "://" with
  | some (_, rest) => match Text.indexOfList ['/'] rest.toList with
    | some j => String.ofList (rest.toList.drop j)
    | none => "/"
  | none => target

def ofExchange (req : Request) (resp : Response) (useTls : Bool) (serverName : String) :
    Option Record :=
  let host := match req.header.value? "Host" with
    | some h => if h = "" then serverName else h
    | none => serverName
  let path := targetPath req.target
  if req.method = "" ∨ host = "" ∨ path = "" ∨ resp.statusCode = 0 then none
  else some { requestHeader := req.header, responseHeader := resp.header, method := req.method
              url := (if useTls then "https://" else "http://") ++ host ++ path
              statusCode := resp.statusCode, statusLine := resp.statusLine }

/-- Builds a record from an exchange whose request or response may be missing: a record needs
both. -/
def ofParts (req : Option Request) (resp : Option Response) (useTls : Bool) (serverName : String) :
    Option Record :=
  match req, resp with
  | some q, some p => ofExchange q p useTls serverName
  | _, _ => none

def parse (rawRequest rawResponse : Bytes) (useTls : Bool) (serverName : String) :
    Outcome Record := do
  let req ← (Request.parse rawRequest).mapError (Error.wrap "parse request: ")
  let resp ← (Response.parse rawResponse).mapError (Error.wrap "parse response: ")
  match ofExchange req resp useTls serverName with
  | some r => .ok r
  | none => .error (Error.ofFault .incompleteRecord)

end Record

end HeaderAudit
