import HeaderAudit.Analysis.Entry
import HeaderAudit.Storage.ResultStore
import HeaderAudit.Exclusion.Store
import HeaderAudit.Web.Client
import HeaderAudit.Web.Exchange
import HeaderAudit.Json.Decode
/-!
Batch analysis. A batch is a list of work items, each naming where its record comes from: a captured
exchange in wire form, a record already read, or a live fetch.
-/
namespace HeaderAudit

/-- A captured request and response in wire form, with whether the exchange ran over TLS and
the server name to fall back on for the host. -/
structure Capture where
  request : String
  response : String
  useTls : Bool
  serverName : String
  deriving Repr, Inhabited

def Capture.ofJson (j : Json) : Outcome Capture :=
  Json.record "analyzer.RawPair" ["request", "response", "use_tls", "server_name"] (fun f v c =>
    if f = "request" then Json.textField "RawPair" f v c fun t => { c with request := t }
    else if f = "response" then Json.textField "RawPair" f v c fun t => { c with response := t }
    else if f = "use_tls" then Json.flagField "RawPair" f v c fun b => { c with useTls := b }
    else Json.textField "RawPair" f v c fun t => { c with serverName := t }) ⟨"", "", false, ""⟩ j

def Capture.record (c : Capture) : Outcome Record :=
  Record.parse (Bytes.ofString c.request) (Bytes.ofString c.response) c.useTls c.serverName

/-- One unit of work: a reference to show in progress, and how to get its record over a network
with state `σ`, if there is a way. -/
structure WorkItem (σ : Type) where
  ref : String
  load : Option (σ → Outcome Record × σ)

namespace WorkItem

def ofRecord {σ : Type} (r : Record) : WorkItem σ := ⟨r.key, some fun net => (.ok r, net)⟩

def ofCaptures {σ : Type} (cs : List Capture) : List (WorkItem σ) :=
  cs.zipIdx.map fun (c, i) => ⟨"pair " ++ toString i, some fun net => (c.record, net)⟩

/-- The item of a live fetch of an address with a method, sending an `Origin` field when one is
given; referred to by the address. -/
def fetch {σ : Type} (idna : IdnaLookup) (settings : ClientSettings) (t : Transport σ)
    (method origin url : String) : WorkItem σ :=
  ⟨url, some fun net =>
    let headers := if origin = "" then HeaderMap.empty else HeaderMap.empty.set "Origin" origin
    match WebClient.fetch idna settings t (some ⟨method, url, some headers, ""⟩) net with
    | (.error e, net) => (.error (Error.wrap ("fetch " ++ url ++ ": ") e), net)
    | (.ok resp, net) => (resp.record, net)⟩

end WorkItem

/-- The counts of a batch after some items, and the last item's reference. -/
structure Progress where
  done : Nat
  analyzed : Nat
  excluded : Nat
  skipped : Nat
  failed : Nat
  last : String
  deriving Repr, BEq, Inhabited

/-- What became of one item. -/
inductive Fate where
  | analyzed
  | excluded
  | skipped
  | failed
  deriving Repr, BEq, DecidableEq, Inhabited

def Progress.zero : Progress := ⟨0, 0, 0, 0, 0, ""⟩

def Progress.step (p : Progress) (ref : String) : Fate → Progress
  | .analyzed => { p with done := p.done + 1, last := ref, analyzed := p.analyzed + 1 }
  | .excluded => { p with done := p.done + 1, last := ref, excluded := p.excluded + 1 }
  | .skipped => { p with done := p.done + 1, last := ref, skipped := p.skipped + 1 }
  | .failed => { p with done := p.done + 1, last := ref, failed := p.failed + 1 }

def Progress.toJson (p : Progress) : Json :=
  .obj ([("done", .nat p.done), ("analyzed", .nat p.analyzed), ("excluded", .nat p.excluded),
    ("skipped", .nat p.skipped), ("failed", .nat p.failed)] ++
    (if p.last = "" then [] else [("last", .str p.last)]))

/-- The counts of a finished batch. -/
structure Summary where
  analyzed : Nat
  excluded : Nat
  skipped : Nat
  failed : Nat
  deriving Repr, BEq, Inhabited

def Progress.summary (p : Progress) : Summary := ⟨p.analyzed, p.excluded, p.skipped, p.failed⟩

def Summary.toJson (s : Summary) : Json :=
  .obj [("analyzed", .nat s.analyzed), ("excluded", .nat s.excluded), ("skipped", .nat s.skipped),
    ("failed", .nat s.failed)]

def cancelled : Error := Error.plain "context canceled"

/-- A finished batch: its summary, the progress after each item, and the fault that cut it short,
if any. -/
structure BatchReport where
  summary : Summary
  progress : List Progress
  failure : Option Error

/-- An order in which a pool of `workers` may finish a batch of `n` items, as the items'
positions. Every item finishes once; the pool starts an item, so it finishes, only once all but
`workers - 1` of the items before it have finished, so the item finishing `p`-th comes less than
`p + workers` into the batch. -/
structure AllowedOrder (workers n : Nat) (order : List Nat) : Prop where
  perm : order.Perm (List.range n)
  started : ∀ p k, order[p]? = some k → k < p + workers

theorem AllowedOrder.range {w : Nat} (n : Nat) (one : 1 ≤ w) : AllowedOrder w n (List.range n) := by
  refine ⟨List.Perm.refl _, fun p k at_p => ?_⟩
  have inside : p < n := by
    cases Nat.lt_or_ge p n with
    | inl inside => exact inside
    | inr outside =>
      rw [List.getElem?_eq_none (by simpa using outside)] at at_p
      cases at_p
  rw [List.getElem?_range inside, Option.some.injEq] at at_p
  omega

/-- The order in which the runtime lets a batch's items finish: for each number of workers, at
least one, and of items, an order the pool allows. -/
structure Scheduler where
  finish : Nat → Nat → List Nat
  allowed : ∀ w n, 1 ≤ w → AllowedOrder w n (finish w n)

namespace Scheduler

def inOrder : Scheduler := ⟨fun _ n => List.range n, fun _ n one => AllowedOrder.range n one⟩

def arrange {α : Type} (sched : Scheduler) (w : Nat) (xs : List α) : List α :=
  (sched.finish w xs.length).filterMap (xs[·]?)

end Scheduler

/-- An analyzer: the registry it judges with, whether it empties the store before a batch, and
how many workers it runs, at least one. -/
structure Analyzer where
  registry : Registry
  resetBeforeRun : Bool
  workers : Nat
  positive : 1 ≤ workers

namespace Analyzer

def make (settings : AnalyzerSettings) (registry : Option Registry) (store : Option ResultStore) :
    Outcome Analyzer :=
  match registry, store with
  | none, _ => .error (Error.plain "analyzer: registry is nil")
  | _, none => .error (Error.plain "analyzer: results store is nil")
  | some reg, some _ =>
    .ok ⟨reg, settings.resetBeforeRun, if settings.workers ≤ 0 then 1 else settings.workers.toNat,
      by split <;> omega⟩

def excluded (idna : IdnaLookup) (rules : Option RuleStore) (method url : String) : Bool :=
  (rules.map fun s => s.excludes idna method url).getD false

/-- Judges one record and stores the entry unless its endpoint is excluded; the entry comes back
in both cases, with whether it was excluded. -/
def analyzeOne (a : Analyzer) (idna : IdnaLookup) (rules : Option RuleStore) (r : Record)
    (store : ResultStore) : Outcome (Entry × Bool) × ResultStore :=
  let e := Entry.ofRecord a.registry r
  if excluded idna rules r.method r.url then (.ok (e, true), store)
  else match store.put (some e.stored) with
    | .ok store => (.ok (e, false), store)
    | .error err => (.error (Error.wrap "store result: " err), store)

def process {σ : Type} (a : Analyzer) (idna : IdnaLookup) (rules : Option RuleStore) (it : WorkItem σ)
    (store : ResultStore) (net : σ) : Fate × ResultStore × σ :=
  match it.load with
  | none => (.skipped, store, net)
  | some load =>
    match load net with
    | (.error _, net) => (.skipped, store, net)
    | (.ok r, net) =>
      if excluded idna rules r.method r.url then (.excluded, store, net)
      else match store.put (some (Entry.ofRecord a.registry r).stored) with
        | .ok store => (.analyzed, store, net)
        | .error _ => (.failed, store, net)

def runItems {σ : Type} (a : Analyzer) (idna : IdnaLookup) (rules : Option RuleStore) :
    List (WorkItem σ) → Progress × List Progress → ResultStore → σ →
      (Progress × List Progress) × ResultStore × σ
  | [], acc, store, net => (acc, store, net)
  | it :: rest, (p, seen), store, net =>
    let (fate, store, net) := a.process idna rules it store net
    let p := p.step it.ref fate
    a.runItems idna rules rest (p, p :: seen) store net

/-- Runs a batch, its items taking effect in the order the scheduler lets them finish. The
store is emptied first when the analyzer is set to; a cancelled batch takes no item and reports
the cancellation, and a table store cannot even be emptied then. -/
def run {σ : Type} (a : Analyzer) (sched : Scheduler) (idna : IdnaLookup) (rules : Option RuleStore)
    (cancel : Bool) (items : List (WorkItem σ)) (store : ResultStore) (net : σ) :
    BatchReport × ResultStore × σ :=
  let empty : BatchReport := ⟨Progress.zero.summary, [], none⟩
  match cancel, a.resetBeforeRun, store with
  | true, true, .table _ _ =>
    ({ empty with failure := some (Error.wrap "reset results: clear results: " cancelled) }, store, net)
  | true, reset, _ => ({ empty with failure := some cancelled }, if reset then store.clear else store, net)
  | false, reset, _ =>
    let store := if reset then store.clear else store
    let ((p, seen), store, net) :=
      a.runItems idna rules (sched.arrange a.workers items) (Progress.zero, []) store net
    (⟨p.summary, seen.reverse, none⟩, store, net)

end Analyzer

end HeaderAudit
