import HeaderAudit.Check.Registry
import HeaderAudit.Json.Decode
/-!
Reading verdicts and results back from their JSON form. A verdict's status is read by name and must
be one of OK, WARN and FAIL; its texts default to empty.
-/
namespace HeaderAudit

namespace Verdict

/-- Reads the status member of a stored verdict: a status name as stored text. A name that is
no status stops decoding; a value that is not text is a noted fault. -/
def statusField (j : Json) (cur : Verdict) : Json.Step Verdict :=
  match j with
  | .str s => match Status.ofText s with
    | .ok st => .ok { cur with status := st }
    | .error e => .stop e
  | .null => .ok cur
  | other => .noted (Json.mismatch (Json.kindWord other) "checks.Status" (some ("resultJSON", "status")) ++
      ": JSON value must be string type")

def setMember (f : String) (j : Json) (cur : Verdict) : Json.Step Verdict :=
  if f = "status" then statusField j cur
  else if f = "display" then Json.textField "resultJSON" "display" j cur fun t => { cur with display := t }
  else if f = "raw" then Json.textField "resultJSON" "raw" j cur fun t => { cur with raw := t }
  else Json.textField "resultJSON" "message" j cur fun t => { cur with message := t }

def ofJson (j : Json) : Outcome Verdict := do
  let v ← Json.record "checks.resultJSON" ["status", "display", "raw", "message"] setMember empty j
  if v.status.isValid then pure v else throw (Error.ofFault .missingStatus)

end Verdict

namespace Results

def setMember (f : String) (j : Json) (cur : String × Verdict) : Json.Step (String × Verdict) :=
  if f = "check" then Json.textField "NamedResult" "check" j cur fun t => (t, cur.2)
  else match Verdict.ofJson j with
    | .ok v => .ok (cur.1, v)
    | .error e => .stop e

def ofJson (j : Json) : Outcome Results :=
  match j with
  | .arr items => do
    let step (acc : Option String × List (String × Verdict)) (item : Json) :
        Outcome (Option String × List (String × Verdict)) :=
      match item with
      | .obj members => do
        let r ← Json.fill ["check", "result"] setMember ("", Verdict.empty) members
        pure (acc.1.orElse fun _ => r.noted, acc.2 ++ [r.value])
      | .null => pure (acc.1, acc.2 ++ [("", Verdict.empty)])
      | other => pure (acc.1.orElse fun _ =>
          some (Json.mismatch (Json.kindWord other) "checks.NamedResult" none), acc.2)
    let (noted, entries) ← items.foldlM step (none, [])
    match noted with
    | some msg => throw (Error.plain msg)
    | none => pure (ofList entries)
  | .null => pure empty
  | other => throw (Error.plain (Json.mismatch (Json.kindWord other) "[]checks.NamedResult" none))

end Results

end HeaderAudit
