import HeaderAudit.Address.Bytes
import HeaderAudit.Analysis.Entry
import HeaderAudit.Check.Decode
import HeaderAudit.Json.Parse
import HeaderAudit.Storage.Workspace
import HeaderAudit.Text.Quoted
/-!
Stores of analyses, one entry per key, listed in the order their keys were first stored; storing
under a known key replaces the entry in place.
-/
namespace HeaderAudit

/-- A verdict as a store is handed it, its texts byte strings. -/
structure StoredVerdict where
  status : Status
  display : Bytes
  raw : Bytes
  message : Bytes
  deriving DecidableEq, Inhabited

/-- An analysis as a store is handed it: the names and texts of its verdicts and its header lines
are byte strings. -/
structure StoredEntry where
  key : String
  method : String
  url : String
  statusCode : Int
  statusLine : String
  results : Option (List (Bytes × StoredVerdict))
  headerLines : Option (List Bytes)
  deriving DecidableEq, Inhabited

def Verdict.stored (v : Verdict) : StoredVerdict :=
  ⟨v.status, Bytes.ofString v.display, Bytes.ofString v.raw, Bytes.ofString v.message⟩

def StoredVerdict.text (v : StoredVerdict) : Verdict :=
  ⟨v.status, Bytes.toStringLossy v.display, Bytes.toStringLossy v.raw, Bytes.toStringLossy v.message⟩

def Entry.stored (e : Entry) : StoredEntry :=
  ⟨e.key, e.method, e.url, e.statusCode, e.statusLine,
    e.results.map fun rs => rs.entries.map fun nv => (Bytes.ofString nv.1, nv.2.stored),
    e.headerLines.map (·.map Bytes.ofString)⟩

def StoredEntry.text (e : StoredEntry) : Entry :=
  ⟨e.key, e.method, e.url, e.statusCode, e.statusLine,
    e.results.map fun rs => ⟨rs.map fun nv => (Bytes.toStringLossy nv.1, nv.2.text)⟩,
    e.headerLines.map (·.map Bytes.toStringLossy)⟩

/-- An analysis as a table row keeps it. -/
structure StoredRow where
  key : String
  method : String
  url : String
  statusCode : Int
  statusLine : String
  resultsText : String
  linesText : String

namespace StoredRow

def ofEntry (e : StoredEntry) : StoredRow :=
  ⟨e.key, e.method, e.url, e.statusCode, e.statusLine,
    (match e.text.results with
      | some rs => rs.toJson.render
      | none => "null"),
    (match e.text.headerLines with
      | some ls => (Json.strs ls).render
      | none => "null")⟩

def decodeLines (j : Json) : Outcome (Option (List String)) :=
  match j with
  | .null => .ok none
  | .arr items =>
    match items.find? (fun x => match x with | .str _ | .null => false | _ => true) with
    | some bad => .error (Error.plain (Json.mismatch (Json.kindWord bad) "string" none))
    | none => .ok (some (items.map fun x => match x with | .str s => s | _ => ""))
  | other => .error (Error.plain (Json.mismatch (Json.kindWord other) "[]string" none))

def parseText (t : String) : Outcome Json := (Json.parse t).mapError Error.plain

def toEntry (r : StoredRow) : Outcome StoredEntry := do
  let rs ← (parseText r.resultsText >>= Results.ofJson).mapError
    (Error.wrap ("decode results for " ++ r.key ++ ": "))
  let ls ← (parseText r.linesText >>= decodeLines).mapError
    (Error.wrap ("decode header lines for " ++ r.key ++ ": "))
  pure (Entry.stored ⟨r.key, r.method, r.url, r.statusCode, r.statusLine, some rs, ls⟩)

end StoredRow

def ResultStore.upsert {α : Type} (key : α → String) (x : α) (xs : List α) : List α :=
  if xs.any (key · == key x) then xs.map fun y => if key y == key x then x else y else xs ++ [x]

/-- A statement that changes the results table: an insert that updates the row of its key when
there is one, or a delete of every row. -/
inductive Write where
  | upsert (row : StoredRow)
  | wipe

/-- A database engine, as the results table is queried: the rows after a sequence of writes in
the order of their ids, and the row with a key. -/
structure Database where
  scan : List Write → List StoredRow
  select : List Write → String → Option StoredRow

/-- What the table's schema and the engine promise: a row keeps its id when its key is written
again and a new key gets an id above every earlier one, so rows come in the order their keys
were first written; the key is unique; and a delete leaves no row. -/
structure Database.Lawful (db : Database) : Prop where
  scan_nil : db.scan [] = []
  scan_upsert : ∀ ws r, db.scan (ws ++ [.upsert r]) = ResultStore.upsert StoredRow.key r (db.scan ws)
  scan_wipe : ∀ ws, db.scan (ws ++ [.wipe]) = []
  select_eq : ∀ ws key, db.select ws key = (db.scan ws).find? (·.key == key)

namespace Database

def replay (ws : List Write) : List StoredRow :=
  ws.foldl (fun rows w => match w with
    | .upsert r => ResultStore.upsert StoredRow.key r rows
    | .wipe => []) []

def inMemory : Database := ⟨replay, fun ws key => (replay ws).find? (·.key == key)⟩

end Database

/-- A store of analyses. -/
inductive ResultStore where
  | memory (entries : List StoredEntry)
  | table (db : Database) (writes : List Write)

namespace ResultStore

def keyRequired : Error := Error.plain "results: entry key is required"

def put (s : ResultStore) (e : Option StoredEntry) : Outcome ResultStore :=
  match e with
  | none => .error keyRequired
  | some e =>
    if e.key = "" then .error keyRequired
    else match s with
      | memory es =>
        let kept := { e with headerLines := match e.headerLines with
          | some [] => none
          | ls => ls }
        .ok (memory (upsert StoredEntry.key kept es))
      | table db ws => .ok (table db (ws ++ [.upsert (StoredRow.ofEntry e)]))

def get (s : ResultStore) (key : String) : Outcome StoredEntry :=
  let missing := Error.withDetail .notFound key
  match s with
  | memory es => match es.find? (·.key == key) with
    | some e => .ok e
    | none => .error missing
  | table db ws => match db.select ws key with
    | some r => r.toEntry
    | none => .error missing

def list (s : ResultStore) : List StoredEntry :=
  match s with
  | memory es => es
  | table db ws => (db.scan ws).filterMap fun r => match r.toEntry with
    | .ok e => some e
    | .error _ => none

def entry (s : ResultStore) (key : String) : Outcome Entry := (s.get key).map StoredEntry.text

def entries (s : ResultStore) : List Entry := s.list.map StoredEntry.text

def clear (s : ResultStore) : ResultStore :=
  match s with
  | memory _ => memory []
  | table db ws => table db (ws ++ [.wipe])

def missingDatabase : Error := Error.plain "results: db is nil"

def header : String := "SQLite format 3\x00"

/-- Opens a table store kept in a file of a working directory, making the directories above it.
An existing file must be empty or a database. -/
def openTable (db : Database) (w : Workspace) (path : String) : Outcome ResultStore := do
  (w.makeDirs (Workspace.dirOf path)).mapError (Error.wrap "create results directory: ")
  match w.read? path with
  | some text =>
    if text = "" ∨ Text.hasPrefix text header then pure (table db [])
    else throw (Error.plain ("failed to set pragma " ++ Text.quote "PRAGMA journal_mode=WAL" ++
      ": file is not a database (26)"))
  | none => pure (table db [])

end ResultStore

end HeaderAudit
