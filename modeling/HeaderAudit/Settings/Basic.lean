import HeaderAudit.Exclusion.Rule
import HeaderAudit.Address.Clean
/-!
The settings shared by the command line and the server: where to listen, where state lives on disk,
which results store to use, how analysis, fetching and crawling are bounded, the origin sent with
live requests, the exclusion rules loaded at start, and how long finished jobs are kept.
-/
namespace HeaderAudit

/-- Which results store to use: `memory`, or `sqlite` with a database path that, when relative,
lives under the storage root. -/
structure StoreSettings where
  kind : String
  path : String
  deriving Repr, BEq, Inhabited

/-- How analysis runs: how many items are handled at once, and whether stored results are
cleared before each batch. -/
structure AnalyzerSettings where
  workers : Int
  resetBeforeRun : Bool
  deriving Repr, BEq, Inhabited

/-- How pages are fetched: the time limit, the user agent, whether redirects are followed, and
how much of a body is kept (zero keeps all). -/
structure ClientSettings where
  timeout : Int
  userAgent : String
  followRedirects : Bool
  maxBodyBytes : Int
  deriving Repr, BEq, Inhabited

/-- How far crawling goes: the link hops followed from the target, and the most pages listed
(zero lists all). -/
structure CrawlLimits where
  maxDepth : Int
  maxPages : Int
  deriving Repr, BEq, Inhabited

/-- The settings of a run. The exclusion list is absent when none was given. -/
structure Settings where
  listenAddr : String
  storageRoot : String
  store : StoreSettings
  analyzer : AnalyzerSettings
  client : ClientSettings
  crawl : CrawlLimits
  origin : String
  exclusions : Option (List RuleSpec)
  jobRetention : Int
  deriving Repr, BEq, Inhabited

def AnalyzerSettings.defaults : AnalyzerSettings := ⟨8, true⟩

def ClientSettings.defaults : ClientSettings := ⟨30000000000, "hdrscan/1.0", false, 4194304⟩

def CrawlLimits.defaults : CrawlLimits := ⟨1, 200⟩

namespace Settings

def defaults : Settings where
  listenAddr := "127.0.0.1:8080"
  storageRoot := "~/.config/hdrscan"
  store := ⟨"memory", "results.db"⟩
  analyzer := AnalyzerSettings.defaults
  client := ClientSettings.defaults
  crawl := CrawlLimits.defaults
  origin := "https://hdrscan.invalid"
  exclusions := none
  jobRetention := 1800000000000

def invalid (detail : String) : Error := Error.withDetail .invalidConfig detail

/-- Checks the store kind (in any case), the worker count, the crawl limits and each seed
exclusion rule, built as it would be with ids drawn from a source. -/
def validate (s : Settings) (source : IdSource) : Outcome Unit := do
  let kind := Text.lower s.store.kind
  if kind = "memory" then pure ()
  else if kind = "sqlite" then
    if Text.trim s.store.path = "" then throw (invalid "sqlite store needs a path")
  else throw (invalid ("unknown store kind " ++ Text.quote s.store.kind))
  if s.analyzer.workers < 1 then throw (invalid "analyzer.workers must be at least 1")
  if s.crawl.maxDepth < 0 ∨ s.crawl.maxPages < 0 then throw (invalid "spider limits must not be negative")
  for (spec, i) in (s.exclusions.getD []).zipIdx do
    match spec.toRule (IdSupply.start source) with
    | .ok _ => pure ()
    | .error e => throw (Error.withCause .invalidConfig ("exclusions[" ++ toString i ++ "]: ") e)

def joinPath (a b : String) : String :=
  let whole := if a = "" then b else if b = "" then a else a ++ "/" ++ b
  if whole = "" then "" else Bytes.toStringLossy (Bytes.cleanPath (Bytes.ofString whole))

/-- The database path when it does not depend on the home directory: an absolute store path
as it is, or a relative one under a storage root that does not start with `~`. -/
def databasePath? (s : Settings) : Option String :=
  if s.store.path.startsWith "/" then some s.store.path
  else if s.storageRoot.startsWith "~" then none
  else some (joinPath s.storageRoot s.store.path)

def toJson (s : Settings) : Json :=
  .obj [("listen_addr", .str s.listenAddr), ("storage_root", .str s.storageRoot),
    ("store", .obj [("kind", .str s.store.kind), ("path", .str s.store.path)]),
    ("analyzer", .obj [("workers", .num s.analyzer.workers),
      ("reset_before_run", .bool s.analyzer.resetBeforeRun)]),
    ("webclient", .obj [("timeout", .num s.client.timeout), ("user_agent", .str s.client.userAgent),
      ("follow_redirects", .bool s.client.followRedirects), ("max_body_bytes", .num s.client.maxBodyBytes)]),
    ("spider", .obj [("max_depth", .num s.crawl.maxDepth), ("max_pages", .num s.crawl.maxPages)]),
    ("origin", .str s.origin),
    ("exclusions", Json.opt (fun xs => .arr (xs.map Rule.specJson)) s.exclusions),
    ("job_retention_time", .num s.jobRetention)]

end Settings

end HeaderAudit
