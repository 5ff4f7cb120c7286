import HeaderAudit.Check.Verdict
import HeaderAudit.Check.Context
import HeaderAudit.Message.Header
/-!
Checks and what they declare about themselves: name, column, message, the lines they own, whether
they count towards the overall status, and what they highlight.
-/
namespace HeaderAudit

/-- The texts a check highlights for each status. -/
structure Patterns where
  red : List String
  yellow : List String
  green : List String
  deriving Repr, BEq, Inhabited

namespace Patterns

def none : Patterns := ⟨[], [], []⟩

def isEmpty (p : Patterns) : Bool := p.red.isEmpty && p.yellow.isEmpty && p.green.isEmpty

def forStatus (p : Patterns) : Status → List String
  | .fail => p.red
  | .warn => p.yellow
  | .ok => p.green
  | .none => []

end Patterns

/-- The verdict a custom check gives when it does not echo the context. -/
structure VerdictSpec where
  status : Status
  display : Option String
  raw : Option String
  message : Option String
  deriving Repr, BEq, Inhabited

/-- A check described by data. -/
structure CustomCheck where
  name : String
  column : String
  missing : String
  affectsOverall : Bool
  prefixes : List String
  patterns : Patterns
  /-- Prefixes of the lines it colours whole, when it colours whole lines at all. -/
  wholeLinePrefixes : Option (List String)
  verdict : Option VerdictSpec
  /-- A context key whose value decides the verdict. -/
  echoKey : Option String
  /-- A context value to set before judging. -/
  setsContext : Option (String × ContextValue)
  deriving Repr, BEq, Inhabited

/-- A check of a response header. -/
inductive Check where
  /-- Framing: a content security policy with `frame-ancestors`, or `X-Frame-Options`. -/
  | framing
  /-- `X-Content-Type-Options: nosniff`. -/
  | sniffing
  /-- `Strict-Transport-Security`. -/
  | transport
  /-- A charset for HTML content. -/
  | contentType
  /-- Cache directives for sensitive data. -/
  | caching
  /-- The `Secure` attribute on every cookie. -/
  | cookies
  /-- Cross-origin access. -/
  | cors
  | custom (spec : CustomCheck)
  deriving Repr, BEq, Inhabited

namespace Check

def wildcardMessage : String := "Access-Control-Allow-Origin is set to '*' (wildcard)"

def reflectionMessage : String :=
  "Access-Control-Allow-Origin may be reflecting the Origin header (potential misconfiguration)"

def name : Check → String
  | framing => "Content-Security-Policy"
  | sniffing => "XSS Protection"
  | transport => "HSTS"
  | contentType => "Content-Type"
  | caching => "Cache-Control"
  | cookies => "Cookies"
  | cors => "CORS"
  | custom s => s.name

def column : Check → String
  | framing => "CSP"
  | sniffing => "XSS"
  | transport => "HSTS"
  | contentType => "Content-Type"
  | caching => "Cache-Control"
  | cookies => "Cookies"
  | cors => "CORS"
  | custom s => s.column

def missing : Check → String
  | framing => "Content-Security-Policy with frame-ancestors or X-Frame-Options is missing"
  | sniffing => "X-Content-Type-Options: nosniff is missing"
  | transport => "Strict-Transport-Security header is missing"
  | contentType => "Content-Type for text/html does not declare a charset"
  | caching => "Cache-Control is not configured for sensitive data protection"
  | cookies => "Set-Cookie is missing 'Secure' flag"
  | cors => wildcardMessage
  | custom s => s.missing

def prefixes : Check → List String
  | framing => ["content-security-policy:", "x-frame-options:"]
  | sniffing => ["x-content-type-options:"]
  | transport => ["strict-transport-security:"]
  | contentType => ["content-type:"]
  | caching => ["cache-control:"]
  | cookies => ["set-cookie:"]
  | cors => ["access-control-allow-origin:"]
  | custom s => s.prefixes

def owns (c : Check) (lowerLine : String) : Bool :=
  c.prefixes.any (Text.hasPrefix lowerLine ·)

def affectsOverall : Check → Bool
  | caching => false
  | custom s => s.affectsOverall
  | _ => true

def patterns : Check → Patterns
  | framing => ⟨["content-security-policy:"], [], ["frame-ancestors 'none'", "frame-ancestors 'self'"]⟩
  | contentType => ⟨["text/html"], [], ["charset="]⟩
  | caching => ⟨[], ["cache-control:"], []⟩
  | cookies => ⟨[], [], ["set-cookie:", "secure"]⟩
  | cors => ⟨["access-control-allow-origin: *"], ["access-control-allow-origin"],
      ["access-control-allow-origin"]⟩
  | custom s => s.patterns
  | _ => Patterns.none

def wholeLine? : Check → Option (String → Bool)
  | framing => some fun l => Text.hasPrefix l "x-frame-options:"
  | custom s => s.wholeLinePrefixes.map fun ps l => ps.any (Text.hasPrefix l ·)
  | _ => Option.none

def messageFor (c : Check) (v : Verdict) : String :=
  if v.message = "" then c.missing else v.message

end Check

end HeaderAudit
