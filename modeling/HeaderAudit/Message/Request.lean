import HeaderAudit.Message.Header
import HeaderAudit.Message.Split
import HeaderAudit.Text.Quoted
/-!
HTTP requests read from raw bytes. The request line must have a method and a target, separated by
blanks; the protocol is optional.
-/
namespace HeaderAudit

/-- A request: method, target, protocol, header block and body. -/
structure Request where
  method : String
  target : String
  proto : String
  header : Header
  body : Bytes
  deriving Repr, BEq, Inhabited

namespace Request

def parse (raw : Bytes) : Outcome Request := do
  let m ← RawMessage.split raw
  match Text.fields m.start with
  | method :: target :: more =>
    .ok { method := Text.upper method, target := target, proto := (more.head?).getD ""
          header := Header.ofLines m.lines, body := m.body }
  | _ => .error (Error.withDetail .badRequestLine (Text.quote m.start))

end Request

end HeaderAudit
