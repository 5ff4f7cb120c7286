import HeaderAudit.Scan.Application
import HeaderAudit.Web.Handler
import HeaderAudit.Json.Parse
/-!
The web service: a JSON interface to the application. The runtime's router picks the route of a
request.
-/
namespace HeaderAudit.Service

def baseHeaders : HeaderMap :=
  ((HeaderMap.empty.set "Access-Control-Allow-Origin" "*").set "Access-Control-Allow-Headers"
    "Content-Type, Authorization").set "Access-Control-Max-Age" "86400"

def jsonReply (status : Int) (j : Json) : Reply :=
  ⟨status, baseHeaders.set "Content-Type" "application/json", j.render ++ "\n"⟩

def emptyReply : Reply := ⟨204, baseHeaders.set "Content-Type" "application/json", ""⟩

def failureReply (status : Int) (msg : String) : Reply := jsonReply status (.obj [("error", .str msg)])

def invalidBody : Reply := failureReply 400 "invalid JSON"

/-- The status of a failure: missing things are `404`, a taken id `409`, a malformed rule or a
scan without targets `400`, anything else `500`. -/
def statusFor (e : Error) : Int :=
  if e.faults.contains .notFound ∨ e.faults.contains .ruleNotFound then 404
  else if e.faults.contains .duplicateRule then 409
  else if [Fault.blankId, .blankPattern, .unknownRuleType, .noTargets].any e.faults.contains then 400
  else 500

def errorReply (e : Error) : Reply := failureReply (statusFor e) e.message

def decodeBody {α : Type} (decode : Json → Outcome α) (body : String) : Option α :=
  let cs := body.toList
  match Json.value (2 * cs.length + 2) cs with
  | .ok (j, _) => (decode j).toOption
  | .error _ => none

/-- An endpoint to test against the exclusion rules. -/
structure Probe where
  method : String
  url : String
  deriving Repr, Inhabited

def Probe.ofJson (j : Json) : Outcome Probe :=
  Json.record "server.ExcludeCheckRequest" ["method", "url"] (fun f v p =>
    if f = "method" then Json.textField "ExcludeCheckRequest" f v p fun t => { p with method := t }
    else Json.textField "ExcludeCheckRequest" f v p fun t => { p with url := t }) ⟨"", ""⟩ j

def filterOf (q : Query) : Outcome Filter := do
  let classes ← (q.values "status").mapM statusClass
  pure ⟨q.values "method", classes, q.first "q"⟩

end Service

def Job.accepted (j : Job) : Job := { j with status := .pending, error := "", result := none }

/-- A web service over an application, with the address it listens on and every list of
exclusion rules its changes have published, in order. -/
structure Server where
  app : App
  listenAddr : String
  published : List (List Rule)

namespace Server

open Service

def make (app : App) (listenAddr : String) : Server :=
  ⟨app, if listenAddr = "" then app.settings.listenAddr else listenAddr, []⟩

/-- The result of a change to the exclusion rules: its reply, and the server with the rules
after it. -/
def ruleChange {α : Type} (s : Server) (c : Change α) (status : Int) (render : α → Json) : Reply × Server :=
  let s := { s with app := { s.app with rules := c.store }, published := s.published ++ c.published }
  match c.answer with
  | .ok a => (if status = 204 then emptyReply else jsonReply status (render a), s)
  | .error e => (errorReply e, s)

/-- The reply of a route to a request whose method it takes; scans reach the network over a
transport with state `σ`. -/
def serve {σ : Type} (s : Server) (rt : Runtime) (t : Transport σ) (req : Incoming) (route : Route)
    (net : σ) :
    Reply × Server × σ :=
  let app := s.app
  let q := Query.parse req.url.rawQuery
  let columns := Json.strs (Row.columns app.registry)
  if req.method = "OPTIONS" then
    (⟨204, baseHeaders.set "Access-Control-Allow-Methods" route.allowed, ""⟩, s, net)
  else
    match route, req.method with
    | .health, _ => (jsonReply 200 (.obj [("status", .str "ok")]), s, net)
    | .columns, _ => (jsonReply 200 columns, s, net)
    | .analyze, _ =>
      match decodeBody Capture.ofJson req.body with
      | none => (invalidBody, s, net)
      | some c =>
        match app.analyzeCapture rt c with
        | (.error e, app) => (failureReply 422 e.message, { s with app := app }, net)
        | (.ok an, app) => (jsonReply 200 (an.toJson app.registry), { s with app := app }, net)
    | .results, "DELETE" => (emptyReply, { s with app := app.clearResults }, net)
    | .results, _ =>
      match filterOf q with
      | .error e => (failureReply 400 e.message, s, net)
      | .ok f => (jsonReply 200 (.obj [("columns", columns),
          ("rows", .arr ((app.rows f).map Row.toJson))]), s, net)
    | .resultDetail, _ =>
      let key := q.first "key"
      if key = "" then (failureReply 400 "missing key query parameter", s, net)
      else match app.entry key with
        | .error e => (errorReply e, s, net)
        | .ok an => (jsonReply 200 (an.toJson app.registry), s, net)
    | .resultDiff, _ =>
      let base := q.first "base"
      let head := q.first "head"
      if base = "" ∨ head = "" then (failureReply 400 "missing base or head query parameter", s, net)
      else match app.diff rt base head with
        | .error e => (errorReply e, s, net)
        | .ok d => (jsonReply 200 d.toJson, s, net)
    | .rules, "POST" =>
      match decodeBody RuleSpec.ofJson req.body with
      | none => (invalidBody, s, net)
      | some spec =>
        match spec.toRule app.rules.ids with
        | .error e => (errorReply e, s, net)
        | .ok (r, ids) =>
          let (reply, s) := s.ruleChange ({ app.rules with ids := ids }.add r) 201 fun _ => r.toJson
          (reply, s, net)
    | .rules, "DELETE" =>
      let (reply, s) := s.ruleChange app.rules.clear 204 fun _ => .null
      (reply, s, net)
    | .rules, _ => (jsonReply 200 (.arr (app.rules.rules.map Rule.toJson)), s, net)
    | .ruleCheck, _ =>
      match decodeBody Probe.ofJson req.body with
      | none => (invalidBody, s, net)
      | some p => (jsonReply 200 (.obj [("excluded", .bool (app.rules.excludes rt.idna p.method p.url))]), s, net)
    | .rule id, "PUT" =>
      match decodeBody RuleSpec.ofJson req.body with
      | none => (invalidBody, s, net)
      | some spec =>
        match RuleKind.parse spec.kind with
        | .error e => (errorReply e, s, net)
        | .ok k =>
          let (reply, s) := s.ruleChange (app.rules.update id k.code spec.pattern) 200 Rule.toJson
          (reply, s, net)
    | .rule id, "DELETE" =>
      let (reply, s) := s.ruleChange (app.rules.remove id) 204 fun _ => .null
      (reply, s, net)
    | .rule id, _ =>
      match app.rules.get? id with
      | some r => (jsonReply 200 r.toJson, s, net)
      | none => (failureReply 404 (Fault.text .ruleNotFound), s, net)
    | .jobs, _ => (jsonReply 200 (.arr (app.jobs.map Job.toJson)), s, net)
    | .jobScan, _ =>
      match decodeBody ScanRequest.ofJson req.body with
      | none => (invalidBody, s, net)
      | some r =>
        if r.targets.isEmpty then (failureReply 400 (Fault.text .noTargets), s, net)
        else match app.startScanJob rt t r net with
          | (.error e, app, net) => (failureReply 503 e.message, { s with app := app }, net)
          | (.ok job, app, net) => (jsonReply 202 job.accepted.toJson, { s with app := app }, net)
    | .job id, "DELETE" => (emptyReply, { s with app := { app with board := app.board.stepJob id .cancel } }, net)
    | .job id, _ =>
      match app.board.get? id with
      | some job => (jsonReply 200 job.toJson, s, net)
      | none => (failureReply 404 "job not found", s, net)
    | .rulesFeed, _ => (Reply.error (baseHeaders.set "Sec-Websocket-Version" "13") "Bad Request" 400, s, net)
    | .jobFeed id, _ =>
      if (app.board.get? id).isNone then (failureReply 404 "job not found", s, net)
      else (Reply.error (baseHeaders.set "Sec-Websocket-Version" "13") "Bad Request" 400, s, net)

def handle {σ : Type} (s : Server) (rt : Runtime) (t : Transport σ) (req : Incoming) (net : σ) :
    Reply × Server × σ :=
  match rt.router.dispatch req with
  | .serve route => s.serve rt t req route net
  | .missing => (Reply.notFound baseHeaders, s, net)
  | .refuse allow => (⟨405, allow.foldl (fun m v => m.add "Allow" v) baseHeaders, ""⟩, s, net)

def rulesMessage (rules : List Rule) : Json := .obj [("rules", .arr (rules.map Rule.toJson))]

def rulesSince (s : Server) (place : Nat) : List Json := (s.published.drop place).map rulesMessage

end Server

/-- What a websocket handshake gets: the rules feed, open with its first message; the messages
of a job's feed, which closes after them; or the plain reply of a refused handshake. -/
inductive Dial where
  | rules (first : Json)
  | job (messages : List Json)
  | refused (reply : Reply)

namespace Server

open Service

/-- A websocket handshake on a path. The rules feed starts with the current rules and then
sends every list a later change publishes. A job's feed sends the job as it stands and then the
events no reader has taken, which it takes; an unknown job is refused as `404`. Any other path
answers as a plain `GET` would, which refuses the handshake. -/
def dial {σ : Type} (s : Server) (rt : Runtime) (t : Transport σ) (req : Incoming) (net : σ) :
    Dial × Server × σ :=
  let get := { req with method := "GET" }
  match rt.router.dispatch get with
  | .serve .rulesFeed => (.rules (rulesMessage s.app.rules.rules), s, net)
  | .serve (.jobFeed id) =>
    match s.app.board.get? id with
    | some job =>
      let (evs, app) := s.app.takeEvents id
      (.job (job.toJson :: evs.map (JobEvent.toJson id)), { s with app := app }, net)
    | none => (.refused (failureReply 404 "job not found"), s, net)
  | _ =>
    let (r, s, net) := s.handle rt t get net
    (.refused r, s, net)

end Server

end HeaderAudit
