import HeaderAudit.Web.Client
import HeaderAudit.Address.Canonical
/-!
Finding the pages of a site to scan, breadth first, by the links of each HTML page on the target's
host.
-/
namespace HeaderAudit.Crawl

/-- An HTML reader: for the bytes of a document, the values of an attribute on the elements of a
name that carry it, in document order. -/
structure LinkReader where
  values : Bytes → String → String → List String

def linkSources : List (String × String) :=
  [("a", "href"), ("link", "href"), ("area", "href"), ("form", "action"), ("iframe", "src"),
   ("script", "src")]

def otherScheme (raw : String) : Bool :=
  let lower := Text.lower raw
  ["mailto:", "javascript:", "tel:", "data:"].any (Text.hasPrefix lower ·)

/-- The address links of a page are resolved against: the page's own address, or its first
`base` element's address resolved against it. -/
def linkBase (page : String) (bases : List String) : Address :=
  let base := (Address.parse page).toOption.getD Address.empty
  match bases.head? with
  | some href =>
    match Address.parse href with
    | .ok r => Address.resolveReference base r
    | .error _ => base
  | none => base

/-- The canonical addresses an HTML page at an address links to, in the order of
`linkSources` and then of the document. Empty links, links to a fragment of the page and links
with another scheme are skipped, and so are links that do not resolve. -/
def pageLinks (reader : LinkReader) (idna : IdnaLookup) (page : String) (html : Bytes) : List String :=
  let find := reader.values html
  let base := linkBase page (find "base" "href")
  linkSources.flatMap fun (name, key) =>
    (find name key).filterMap fun raw =>
      let raw := Text.trim raw
      if raw = "" ∨ Text.hasPrefix raw "#" ∨ otherScheme raw then none
      else (Address.resolveText idna base raw).toOption

def fetchLinks {σ : Type} (reader : LinkReader) (idna : IdnaLookup) (settings : ClientSettings)
    (t : Transport σ) (page : String) (net : σ) : List String × σ :=
  match WebClient.get idna settings t page net with
  | (.error _, net) => ([], net)
  | (.ok resp, net) =>
    if resp.statusCode ≥ 400 then ([], net)
    else if !Text.hasPrefix (Text.lower ((resp.headers.get? "Content-Type").getD "")) "text/html" then
      ([], net)
    else (pageLinks reader idna page resp.body, net)

/-- The state of a crawl: the target, the addresses listed so far with the distance each was
found at, and the progress reported after each page read (pages read, addresses listed). -/
structure Frontier where
  root : Address
  found : Array String
  depths : List (String × Nat)
  progress : Array (Nat × Nat)
  deriving Repr, Inhabited

namespace Frontier

def start (root : Address) : Frontier :=
  let first := root.render
  ⟨root, #[first], [(first, 0)], #[]⟩

def full (limits : CrawlLimits) (c : Frontier) : Bool :=
  limits.maxPages > 0 ∧ (c.found.size : Int) ≥ limits.maxPages

def depthOf (c : Frontier) (page : String) : Nat :=
  ((c.depths.find? (·.1 == page)).map (·.2)).getD 0

def add (limits : CrawlLimits) (depth : Nat) (c : Frontier) : List String → Frontier
  | [] => c
  | link :: rest =>
    if c.full limits then c
    else match Address.parse link with
      | .error _ => c.add limits depth rest
      | .ok u =>
        if !Address.sameHost c.root u ∨ c.depths.any (·.1 == link) then c.add limits depth rest
        else { c with found := c.found.push link, depths := (link, depth) :: c.depths }.add limits depth rest

/-- Reads pages found at distance `d`, in order, the first of them being the `i`-th listed: the new
links of each page are listed one step further, and the progress is reported after each page. -/
def readPages {σ : Type} (fetch : String → σ → List String × σ) (limits : CrawlLimits) (d : Nat) :
    List String → Nat → Frontier → σ → Frontier × σ
  | [], _, c, net => (c, net)
  | page :: rest, i, c, net =>
    let (links, net) := fetch page net
    let c := c.add limits (d + 1) links
    readPages fetch limits d rest (i + 1) { c with progress := c.progress.push (i + 1, c.found.size) } net

/-- Reads the listed pages breadth first, from the `i`-th on, for `levels` more distances from
`d` on: the pages at a distance are those listed before that distance is read, as every page
listed meanwhile is one step further. -/
def readLevels {σ : Type} (fetch : String → σ → List String × σ) (limits : CrawlLimits) :
    Nat → Nat → Nat → Frontier → σ → Frontier × σ
  | 0, _, _, c, net => (c, net)
  | levels + 1, d, i, c, net =>
    let frontier := c.found.toList.drop i
    let (c, net) := readPages fetch limits d frontier i c net
    readLevels fetch limits levels (d + 1) (i + frontier.length) c net

end Frontier

/-- Crawls from a target address (`https` when it names no scheme), fetching a page's links with
`fetch`: the addresses found, in order, starting with the target's canonical form, and the
progress after each page read. The pages read are those within the depth limit. -/
def enumerateWith {σ : Type} (idna : IdnaLookup) (fetch : String → σ → List String × σ)
    (limits : CrawlLimits) (target : String) (net : σ) : Outcome (List String × List (Nat × Nat)) × σ :=
  match Address.target idna target "https" with
  | .error e => (.error (Error.wrap "spider target: " e), net)
  | .ok root =>
    let (c, net) := Frontier.readLevels fetch limits (limits.maxDepth + 1).toNat 0 0 (Frontier.start root) net
    (.ok (c.found.toList, c.progress.toList), net)

def enumerate {σ : Type} (reader : LinkReader) (idna : IdnaLookup) (settings : ClientSettings)
    (t : Transport σ) (limits : CrawlLimits) (target : String) (net : σ) :
    Outcome (List String × List (Nat × Nat)) × σ :=
  enumerateWith idna (fetchLinks reader idna settings t) limits target net

end HeaderAudit.Crawl
