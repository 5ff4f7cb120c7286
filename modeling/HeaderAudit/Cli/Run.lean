import HeaderAudit.Cli.Args
import HeaderAudit.Scan.Application
import HeaderAudit.Settings.Load
/-!
One invocation of the command line, from its arguments to its exit code and what it printed.
-/
namespace HeaderAudit.Cli

/-- The settings of an invocation: the defaults or the given file, with the listen address of
the arguments when one is given. -/
def loadSettings (rt : Runtime) (w : Workspace) (a : CliArgs) : Outcome Settings := do
  let s ← if a.configPath = "" then pure Settings.defaults
    else Settings.load rt.yaml.settings rt.ids w a.configPath
  pure (if a.listenAddr = "" then s else { s with listenAddr := a.listenAddr })

/-- The captured exchanges an `analyze` invocation names: those of the file of exchanges (YAML
or JSON), or the one exchange of the request and response files. -/
def loadCaptures (rt : Runtime) (w : Workspace) (a : CliArgs) : Outcome (List Capture) := do
  if a.pairsFile ≠ "" then
    let text ← w.readFile a.pairsFile
    match rt.yaml.captures text with
    | .ok cs => pure (cs.getD [])
    | .error m => throw (Error.plain ("parse " ++ a.pairsFile ++ ": " ++ m))
  else
    let req ← w.readFile a.requestFile
    let resp ← w.readFile a.responseFile
    pure [⟨req, resp, a.useTls, a.serverName⟩]

def filterOf (a : CliArgs) : Outcome Filter := do
  let classes ← (a.status.getD []).mapM statusClass
  pure ⟨a.methods, classes, a.filter⟩

def writeAnalysis (reg : Registry) (an : Analysis) (color : Bool) : String :=
  let row := Row.build reg an.entry
  let rs := an.entry.results.getD Results.empty
  let lines := String.join (an.entry.lines.map fun line =>
    let runs := Highlight.paint line reg rs
    "  " ++ (if color then Highlight.ansi runs else Highlight.plain runs ++ "\n"))
  row.method ++ " " ++ row.url ++ " [" ++ row.status ++ "] " ++ row.overall.name ++ "\n" ++ lines ++ "\n" ++
    (match an.entry.results with
      | some rs => report reg rs
      | none => "")

def reportResults (app : App) (a : CliArgs) : Outcome (String × Bool) := do
  let f ← filterOf a
  let rows := app.rows f
  let analyses ← rows.mapM fun r => app.entry r.key
  let failing := rows.any fun r => r.overall = .warn ∨ r.overall = .fail
  if a.json then
    pure ((Json.arr (analyses.map (Analysis.toStampedJson app.registry))).pretty 0 ++ "\n", failing)
  else pure (String.join (analyses.map fun an => writeAnalysis app.registry an !a.noColor), failing)

/-- The fault of listening on an address, if it cannot be listened on: it needs a port, and a
numeric port must be at most 65535. -/
def listenFault (addr : String) : Option String :=
  match (addr.splitOn ":").reverse with
  | [] | [_] => some ("listen tcp: address " ++ addr ++ ": missing port in address")
  | port :: _ =>
    if port.all Char.isDigit then
      if port.toNat?.getD 0 > 65535 then some ("listen tcp: address " ++ port ++ ": invalid port") else none
    else some ("listen tcp: lookup tcp/" ++ port ++ ": unknown port")

/-- Runs one invocation; `cancel` says that it was interrupted before it began. A server that
could listen serves until it is interrupted, and then ends with code 0. -/
def run {σ : Type} (w : Workspace) (rt : Runtime) (t : Transport σ) (cancel : Bool) (args : List String)
    (net : σ) : Completion × σ :=
  match parseArgs args with
  | .error e => (.failure e, net)
  | .ok a =>
    match loadSettings rt w a with
    | .error e => (.failure e, net)
    | .ok s =>
      match App.make rt w s none with
      | .error e => (.failure e, net)
      | .ok app =>
        if a.command = "serve" then
          match listenFault s.listenAddr with
          | some m => (.failure (Error.plain m), net)
          | none => (⟨0, "", ""⟩, net)
        else
          let (work, app, net) : Outcome String × App × σ :=
            if a.command = "scan" then
              let req : ScanRequest := ⟨a.targets.getD [], a.crawl, "", a.origin⟩
              match app.scan rt t cancel req net with
              | ((.error e, _), app, net) => (.error e, app, net)
              | ((.ok r, _), app, net) =>
                (.ok ("scanned " ++ toString r.urls.length ++ " urls: " ++ toString r.summary.analyzed ++
                  " analyzed, " ++ toString r.summary.excluded ++ " excluded, " ++
                  toString r.summary.skipped ++ " skipped\n"), app, net)
            else
              match loadCaptures rt w a with
              | .error e => (.error e, app, net)
              | .ok cs =>
                let (report, app) := app.analyzeBatch rt cancel cs
                match report.failure with
                | some e => (.error e, app, net)
                | none => (.ok "", app, net)
          match work with
          | .error e => (.failure e, net)
          | .ok note =>
            match reportResults app a with
            | .error e => (⟨2, "", note ++ e.message ++ "\n"⟩, net)
            | .ok (out, failing) => (⟨if failing then 1 else 0, out, note⟩, net)

end HeaderAudit.Cli
