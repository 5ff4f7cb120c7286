import HeaderAudit.Message.Header
import HeaderAudit.Message.Split
import HeaderAudit.Text.Quoted
import HeaderAudit.Text.Decimal
/-!
HTTP responses read from raw bytes. The status line is a protocol starting with `HTTP/` (any case),
one space, a status code between 100 and 999 (a sign and leading zeros are accepted), and an
optional reason.
-/
namespace HeaderAudit

/-- A response: protocol, status code, reason phrase, header block and body. -/
structure Response where
  proto : String
  statusCode : Int
  reason : String
  header : Header
  body : Bytes
  deriving Repr, BEq, Inhabited

namespace Response

def statusLine (r : Response) : String :=
  r.proto ++ " " ++ toString r.statusCode ++ (if r.reason = "" then "" else " " ++ r.reason)

def code? (codeText : String) : Option Int :=
  match Text.parseInt64? codeText with
  | some c => if 100 ≤ c ∧ c ≤ 999 then some c else none
  | none => none

def parse (raw : Bytes) : Outcome Response := do
  let m ← RawMessage.split raw
  let bad : Outcome Response := .error (Error.withDetail .badStatusLine (Text.quote m.start))
  match Text.cut m.start " " with
  | none => bad
  | some (proto, rest) =>
    if !Text.hasPrefix (Text.upper proto) "HTTP/" then bad
    else
      let (codeText, reason, _) := Text.cutOr (Text.trim rest) " "
      match code? codeText with
      | some c => .ok { proto := proto, statusCode := c, reason := Text.trim reason
                        header := Header.ofLines m.lines, body := m.body }
      | none => bad

end Response

end HeaderAudit
