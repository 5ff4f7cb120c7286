import HeaderAudit.Web.Handler
/-!
The routes of the web service and the router that picks one for a request.
-/
namespace HeaderAudit.Service

/-- What a route serves. -/
inductive Route where
  | health
  | columns
  | analyze
  | results
  | resultDetail
  | resultDiff
  | rules
  | ruleCheck
  | rule (id : String)
  | jobs
  | jobScan
  | job (id : String)
  | rulesFeed
  | jobFeed (id : String)
  deriving Repr, BEq, Inhabited

/-- The routes of the segments of a path, fixed routes before those with a parameter; a
parameter is never empty. -/
def routesOf : List String → List Route
  | ["healthz"] => [.health]
  | ["columns"] => [.columns]
  | ["analyze"] => [.analyze]
  | ["results"] => [.results]
  | ["results", "detail"] => [.resultDetail]
  | ["results", "diff"] => [.resultDiff]
  | ["exclusions"] => [.rules]
  | ["exclusions", id] =>
    (if id = "check" then [.ruleCheck] else []) ++ (if id = "" then [] else [.rule id])
  | ["jobs"] => [.jobs]
  | ["jobs", id] => (if id = "scan" then [.jobScan] else []) ++ (if id = "" then [] else [.job id])
  | ["ws", "exclusions"] => [.rulesFeed]
  | ["ws", "jobs", id] => if id = "" then [] else [.jobFeed id]
  | _ => []

def routesOfPath (path : String) : List Route :=
  match Text.split path "/" with
  | "" :: segs => routesOf segs
  | _ => []

namespace Route

def methods : Route → List String
  | .health | .columns | .rulesFeed | .jobFeed _ => ["GET"]
  | .analyze | .ruleCheck | .jobScan => ["POST", "OPTIONS"]
  | .results => ["GET", "DELETE", "OPTIONS"]
  | .resultDetail | .resultDiff | .jobs => ["GET", "OPTIONS"]
  | .rules => ["GET", "POST", "DELETE", "OPTIONS"]
  | .rule _ => ["GET", "PUT", "DELETE", "OPTIONS"]
  | .job _ => ["GET", "DELETE", "OPTIONS"]

def allowed (r : Route) : String := ", ".intercalate (r.methods.filter (· != "OPTIONS"))

end Route

def knownMethods : List String :=
  ["CONNECT", "DELETE", "GET", "HEAD", "OPTIONS", "PATCH", "POST", "PUT", "TRACE"]

/-- The routes of a request: those of its encoded path when that is not the standard spelling,
else of its path. -/
def routesOfRequest (req : Incoming) : List Route :=
  let path := if req.url.rawPath ≠ "" then req.url.rawPath else Bytes.toStringLossy req.url.path
  routesOfPath (if path = "" then "/" else path)


/-- What a router makes of a request: the route that serves it, no route for its path, or a
refusal naming the methods the path takes. -/
inductive Routing where
  | serve (route : Route)
  | missing
  | refuse (allow : List String)

/-- A router over the route table. -/
structure Router where
  dispatch : Incoming → Routing

namespace Router

/-- What the router promises of the route table. -/
structure Lawful (router : Router) : Prop where
  serves : ∀ req route, knownMethods.contains req.method = true →
    (routesOfRequest req).find? (·.methods.contains req.method) = some route →
    router.dispatch req = .serve route
  missing : ∀ req, knownMethods.contains req.method = true → routesOfRequest req = [] →
    router.dispatch req = .missing
  refuses : ∀ req, knownMethods.contains req.method = true → routesOfRequest req ≠ [] →
    (routesOfRequest req).find? (·.methods.contains req.method) = none →
    ∃ allow, router.dispatch req = .refuse allow ∧ allow.Perm ((routesOfRequest req).flatMap Route.methods)
  unknown : ∀ req, knownMethods.contains req.method = false → router.dispatch req = .refuse []

def inOrder : Router := ⟨fun req =>
  let routes := routesOfRequest req
  if !knownMethods.contains req.method then .refuse []
  else match routes.find? (·.methods.contains req.method) with
    | some route => .serve route
    | none => if routes.isEmpty then .missing else .refuse (routes.flatMap Route.methods)⟩

end Router

end HeaderAudit.Service
