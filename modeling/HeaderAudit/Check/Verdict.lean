import HeaderAudit.Error
import HeaderAudit.Json.Value
import HeaderAudit.Text.Quoted
/-!
Statuses and verdicts. A check's verdict has a status (OK, WARN or FAIL), a text to display, the raw
header value it judged, and an optional message.
-/
namespace HeaderAudit

/-- The status of a verdict; `none` is the absent or invalid status. -/
inductive Status where
  | none
  | ok
  | warn
  | fail
  deriving Repr, BEq, DecidableEq, Inhabited

namespace Status

def ofCode (n : Int) : Status :=
  if n = 1 then ok else if n = 2 then warn else if n = 3 then fail else none

def code : Status → Int
  | none => 0
  | ok => 1
  | warn => 2
  | fail => 3

def name : Status → String
  | none => "NONE"
  | ok => "OK"
  | warn => "WARN"
  | fail => "FAIL"

def isValid (s : Status) : Bool := s != none

def parse (text : String) : Outcome Status :=
  if text = "OK" then .ok ok
  else if text = "WARN" then .ok warn
  else if text = "FAIL" then .ok fail
  else .error (Error.withDetail .missingStatus ("unknown status " ++ Text.quote text))

def ofText (text : String) : Outcome Status :=
  if text = "NONE" then .ok none else parse text

theorem parse_name (s : Status) (h : s.isValid) : parse s.name = .ok s := by
  cases s with
  | none => exact absurd h (by decide)
  | ok => simp [parse, name]
  | warn => simp [parse, name]
  | fail => simp [parse, name]

end Status

/-- A check's verdict. -/
structure Verdict where
  status : Status
  display : String
  raw : String
  message : String
  deriving Repr, BEq, Inhabited

namespace Verdict

def empty : Verdict := ⟨.none, "", "", ""⟩

/-- Makes a verdict; the display defaults to the status name, the raw value and message to empty
text. A verdict needs one of the three statuses. -/
def make (status : Status) (display : Option String) (raw message : String) : Outcome Verdict :=
  if status.isValid then .ok ⟨status, display.getD status.name, raw, message⟩
  else .error (Error.ofFault .missingStatus)

def pass (display raw : String) : Verdict := ⟨.ok, display, raw, ""⟩

def caution (display raw : String) : Verdict := ⟨.warn, display, raw, ""⟩

def failure (display raw : String) : Verdict := ⟨.fail, display, raw, ""⟩

def isValid (v : Verdict) : Bool := v.status.isValid

def toJson (v : Verdict) : Json :=
  .obj ([("status", .str v.status.name), ("display", .str v.display), ("raw", .str v.raw)] ++
    (if v.message = "" then [] else [("message", .str v.message)]))

theorem make_valid (s : Status) (h : s.isValid) (d : Option String) (r m : String) :
    make s d r m = .ok ⟨s, d.getD s.name, r, m⟩ := by
  simp [make, h]

end Verdict

end HeaderAudit
