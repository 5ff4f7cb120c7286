import HeaderAudit.Scan.Batch
import HeaderAudit.Crawl.Spider
import HeaderAudit.Analysis.HeaderDiff
import HeaderAudit.Service.Route
/-!
The libraries the program runs on, handed in as one bundle, each with the laws the program relies
on.
-/
namespace HeaderAudit

/-- A YAML decoder at the two types the program reads: settings, decoded over the settings they
start from, and a file of captured exchanges. -/
structure YamlDecoder where
  settings : String → Settings → Except String Settings
  captures : String → Except String (Option (List Capture))

structure Runtime where
  sched : Scheduler
  idna : IdnaLookup
  links : Crawl.LinkReader
  differ : LineDiffer
  ids : IdSource
  yaml : YamlDecoder
  router : Service.Router
  database : Database

end HeaderAudit
