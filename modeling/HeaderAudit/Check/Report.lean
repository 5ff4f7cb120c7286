import HeaderAudit.Check.Registry
/-!
Issues and the text report. There is one issue per registered check that has a verdict, in registry
order; a verdict that is not OK carries the corrective message.
-/
namespace HeaderAudit

/-- One line of the report: a check's status, message and current value. -/
structure Issue where
  check : String
  status : Status
  message : String
  current : String
  deriving Repr, BEq, Inhabited

namespace Issue

def ofResults (r : Registry) (rs : Results) : List Issue :=
  r.checks.filterMap fun c => (rs.get? c.name).map fun v =>
    ⟨c.name, v.status, (if v.status = .ok then "" else c.messageFor v), v.display⟩

def text (i : Issue) : String :=
  match i.status with
  | .ok => i.check ++ ": OK\n  " ++ i.current ++ "\n\n"
  | .warn => i.check ++ ": WARNING\n  " ++ i.message ++ "\n  Current: " ++ i.current ++ "\n\n"
  | _ => i.check ++ ": FAIL\n  " ++ i.message ++ "\n  Current: " ++ i.current ++ "\n\n"

def toJson (i : Issue) : Json :=
  .obj ([("check", .str i.check), ("status", .str i.status.name)] ++
    (if i.message = "" then [] else [("message", .str i.message)]) ++ [("current", .str i.current)])

end Issue

def report (r : Registry) (rs : Results) : String :=
  "Security Check Results\n" ++ String.ofList (List.replicate 40 '=') ++ "\n\n" ++
    String.join ((Issue.ofResults r rs).map Issue.text)

end HeaderAudit
