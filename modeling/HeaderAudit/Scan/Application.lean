import HeaderAudit.Scan.Job
import HeaderAudit.Runtime
import HeaderAudit.Check.Report
import HeaderAudit.Highlight.Run
import HeaderAudit.Analysis.Row
/-!
The application: the settings, the exclusion rules, the results store, the analyzer and the job
board, with the operations the command line and the web server offer, run on the libraries of a
runtime.
-/
namespace HeaderAudit

/-- A live scan: the targets, whether to crawl from them, the method to fetch with, and the
origin to send (the configured one when empty). -/
structure ScanRequest where
  targets : List String
  crawl : Bool
  method : String
  origin : String
  deriving Repr, Inhabited

def ScanRequest.ofJson (j : Json) : Outcome ScanRequest :=
  Json.record "app.ScanRequest" ["targets", "crawl", "method", "origin"] (fun f v r =>
    if f = "targets" then Json.textsField "ScanRequest" f v r fun ts => { r with targets := ts.getD [] }
    else if f = "crawl" then Json.flagField "ScanRequest" f v r fun b => { r with crawl := b }
    else if f = "method" then Json.textField "ScanRequest" f v r fun t => { r with method := t }
    else Json.textField "ScanRequest" f v r fun t => { r with origin := t }) ⟨[], false, "", ""⟩ j

/-- What a scan reported on the way: crawl progress (pages read, addresses listed) and the
progress of the analysis. -/
structure ScanTrace where
  enumerated : List (Nat × Nat)
  analyzed : List Progress
  deriving Repr, Inhabited

/-- The detail view of one analysis: the entry, and whether its endpoint is excluded. -/
structure Analysis where
  entry : Entry
  excluded : Bool
  deriving Inhabited

/-- The JSON form of the detail view: the entry, the table columns and row, the issues (none
when the entry has no verdicts), and each header line with its segments and coloured runs. -/
def Analysis.toJson (reg : Registry) (a : Analysis) : Json :=
  let e := a.entry
  let rs := e.results.getD Results.empty
  .obj [("entry", e.toJson), ("columns", .strs (Row.columns reg)), ("row", (Row.build reg e).toJson),
    ("issues", match e.results with
      | some rs => .arr ((Issue.ofResults reg rs).map Issue.toJson)
      | none => .null),
    ("lines", .arr (e.lines.map fun line =>
      .obj [("text", .str line), ("segments", .arr ((Highlight.lineSegments line reg rs).map Segment.toJson)),
        ("runs", .arr ((Highlight.paint line reg rs).map Run.toJson))])),
    ("excluded", .bool a.excluded)]

/-- The JSON form of the detail view with the time of the analysis, as the command line
prints it. The model keeps no clock, so the time is the zero time. -/
def Analysis.toStampedJson (reg : Registry) (a : Analysis) : Json :=
  match a.toJson reg with
  | .obj (("entry", .obj fields) :: rest) =>
    .obj (("entry", .obj (fields ++ [("analyzed_at", .str "0001-01-01T00:00:00Z")])) :: rest)
  | j => j

/-- The application state. -/
structure App where
  settings : Settings
  registry : Registry
  rules : RuleStore
  store : ResultStore
  analyzer : Analyzer
  board : JobBoard

namespace App

def openStore (db : Database) (w : Workspace) (s : Settings) : Outcome ResultStore :=
  if Text.lower s.store.kind = "sqlite" then
    match s.databasePath? with
    | none => .error (Error.plain "resolve sqlite path: $HOME is not defined")
    | some path => (ResultStore.openTable db w path).mapError (Error.wrap "open results store: ")
  else .ok (.memory [])

/-- Builds the application from checked settings, with the results store given or else the
configured one. -/
def make (rt : Runtime) (w : Workspace) (s : Settings) (store : Option ResultStore) : Outcome App := do
  s.validate rt.ids
  let rules ← match (RuleStore.empty rt.ids).load (s.exclusions.getD []) with
    | ⟨.ok _, rules, _⟩ => pure rules
    | ⟨.error e, _, _⟩ => throw (Error.wrap "load exclusions: " e)
  let store ← match store with
    | some st => pure st
    | none => openStore rt.database w s
  let analyzer ← (Analyzer.make s.analyzer (some Registry.standard) (some store)).mapError
    (Error.wrap "new analyzer: ")
  pure ⟨s, Registry.standard, rules, store, analyzer, JobBoard.empty rt.ids s.jobRetention⟩

def analyzeCapture (a : App) (rt : Runtime) (c : Capture) : Outcome Analysis × App :=
  match c.record with
  | .error e => (.error (Error.wrap "parse pair: " e), a)
  | .ok r =>
    match a.analyzer.analyzeOne rt.idna (some a.rules) r a.store with
    | (.error e, store) => (.error e, { a with store := store })
    | (.ok (e, excluded), store) => (.ok ⟨e, excluded⟩, { a with store := store })

def analyzeBatch (a : App) (rt : Runtime) (cancel : Bool) (cs : List Capture) : BatchReport × App :=
  let items : List (WorkItem Unit) := WorkItem.ofCaptures cs
  let (report, store, _) := a.analyzer.run rt.sched rt.idna (some a.rules) cancel items a.store ()
  (report, { a with store := store })

def entry (a : App) (key : String) : Outcome Analysis :=
  (a.store.entry key).map fun e => ⟨e, false⟩

def rows (a : App) (f : Filter) : List Row :=
  (a.store.entries.map (Row.build a.registry)).filter f.accepts

def diff (a : App) (rt : Runtime) (baseKey headKey : String) : Outcome HeaderDiff := do
  let base ← (a.store.entry baseKey).mapError (Error.wrap ("base " ++ Text.quote baseKey ++ ": "))
  let head ← (a.store.entry headKey).mapError (Error.wrap ("head " ++ Text.quote headKey ++ ": "))
  pure (HeaderDiff.compare rt.differ base head)

def clearResults (a : App) : App := { a with store := a.store.clear }

def addNew (urls : List String) (u : String) : List String :=
  if urls.contains u then urls else urls ++ [u]

/-- The addresses a scan looks at: each target's canonical form, or everything a crawl from it
finds; with the crawl progress so far, also when a target fails. A cancelled crawl fails at
once. -/
def scanUrls {σ : Type} (a : App) (rt : Runtime) (t : Transport σ) (cancel : Bool) (req : ScanRequest)
    (net : σ) :
    (Outcome (List String) × List (Nat × Nat)) × σ :=
  let step := fun (acc : (Outcome (List String) × List (Nat × Nat)) × σ) (raw : String) =>
    match acc with
    | ((.error e, seen), net) => ((.error e, seen), net)
    | ((.ok urls, seen), net) =>
      match Address.canonicalize rt.idna raw "https" with
      | .error e => ((.error (Error.wrap ("target " ++ Text.quote raw ++ ": ") e), seen), net)
      | .ok target =>
        if !req.crawl then ((.ok (addNew urls target), seen), net)
        else if cancel then ((.error (Error.wrap ("crawl " ++ target ++ ": ") cancelled), seen), net)
        else match Crawl.enumerate rt.links rt.idna a.settings.client t a.settings.crawl target net with
          | (.error e, net) => ((.error (Error.wrap ("crawl " ++ target ++ ": ") e), seen), net)
          | (.ok (found, progress), net) =>
            ((.ok (found.foldl addNew urls), seen ++ progress), net)
  match req.targets.foldl step ((.ok [], []), net) with
  | ((.ok [], seen), net) => ((.error (Error.ofFault .noTargets), seen), net)
  | other => other

def scan {σ : Type} (a : App) (rt : Runtime) (t : Transport σ) (cancel : Bool) (req : ScanRequest)
    (net : σ) :
    (Outcome ScanResult × ScanTrace) × App × σ :=
  match a.scanUrls rt t cancel req net with
  | ((.error e, seen), net) => ((.error e, ⟨seen, []⟩), a, net)
  | ((.ok urls, seen), net) =>
    let origin := if req.origin = "" then a.settings.origin else req.origin
    let items := urls.map (WorkItem.fetch rt.idna a.settings.client t req.method origin)
    let (report, store, net) := a.analyzer.run rt.sched rt.idna (some a.rules) cancel items a.store net
    let a := { a with store := store }
    match report.failure with
    | some e => ((.error e, ⟨seen, report.progress⟩), a, net)
    | none => ((.ok ⟨urls, report.summary⟩, ⟨seen, report.progress⟩), a, net)

/-- Starts a scan job and runs it to its end, with nobody cancelling it or reading its events
meanwhile: the job as it ended, or the refusal of a closed board. The progress the scan reports is
announced as it was reported: the crawl's, then the analysis's. -/
def startScanJob {σ : Type} (a : App) (rt : Runtime) (t : Transport σ) (req : ScanRequest) (net : σ) :
    Outcome Job × App × σ :=
  match a.board.start req.targets false with
  | .error e => (.error e, a, net)
  | .ok (job, board) =>
    let ((res, trace), a, net) := { a with board := board }.scan rt t false req net
    let progress := trace.enumerated.map (fun (d, n) => JobStep.progress "crawl" d n) ++
      trace.analyzed.map fun p => JobStep.progress "analyze" p.done 0
    let steps := [JobStep.begin] ++ progress ++ [.returns res, .settle, .finish]
    let board := steps.foldl (fun b s => b.stepJob job.id s) a.board
    (.ok (job.run steps), { a with board := board.prune }, net)

def takeEvents (a : App) (id : String) : List JobEvent × App :=
  let (evs, board) := a.board.takeEvents id
  (evs, { a with board := board })

def jobs (a : App) : List Job := a.board.listed

def closeJobs (a : App) : App := { a with board := a.board.close }

def close : Option App → Outcome App
  | none => .error (Error.plain "application is nil")
  | some a => .ok a.closeJobs

end App

end HeaderAudit
