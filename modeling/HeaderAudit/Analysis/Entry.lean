import HeaderAudit.Check.Registry
import HeaderAudit.Message.Record
/-!
The stored analysis of one endpoint: its key, the request and status it stands for, the verdicts of
the checks and the response's header lines.
-/
namespace HeaderAudit

/-- The analysis of one endpoint, kept under its key (by default its endpoint key). -/
structure Entry where
  key : String
  method : String
  url : String
  statusCode : Int
  statusLine : String
  results : Option Results
  headerLines : Option (List String)
  deriving Inhabited

namespace Entry

/-- The entry of a response's header lines judged by the standard checks, the request coming
from `origin`. -/
def analyse (key method url : String) (statusCode : Int) (statusLine : String)
    (lines : Option (List String)) (origin : String) : Entry :=
  let header := Header.ofLines (lines.getD [])
  let (rs, _) := Registry.standard.evaluate (some header) (some (Context.withOrigin origin))
  ⟨key, method, url, statusCode, statusLine, some rs, lines⟩

/-- The entry of a record judged by a registry, the request's `Origin` field (if any) naming
where the request came from. A response without header lines keeps no list of them. -/
def ofRecord (reg : Registry) (r : Record) : Entry :=
  let origin := (r.requestHeader.value? "Origin").getD ""
  let (rs, _) := reg.evaluate (some r.responseHeader) (some (Context.withOrigin origin))
  let lines := r.responseHeader.lines
  ⟨r.key, r.method, r.url, r.statusCode, r.statusLine, some rs, if lines = [] then none else some lines⟩

def lines (e : Entry) : List String := e.headerLines.getD []

def toJson (e : Entry) : Json :=
  .obj ([("key", .str e.key), ("method", .str e.method), ("url", .str e.url),
      ("status_code", .num e.statusCode)] ++
    (if e.statusLine = "" then [] else [("status_line", .str e.statusLine)]) ++
    [("results", match e.results with
        | some rs => rs.toJson
        | none => .null),
      ("header_lines", match e.headerLines with
        | some ls => .strs ls
        | none => .null)])

end Entry

end HeaderAudit
