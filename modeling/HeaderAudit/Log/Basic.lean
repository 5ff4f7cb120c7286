import HeaderAudit.Json.Value
/-!
Structured logging. A call has a level, a message and fields, each a key with a value; a logger puts
its own fields before those of the call, and of two fields with one key the later wins.
-/
namespace HeaderAudit.Log

/-- How serious a call is. -/
inductive Level where
  | debug
  | info
  | warn
  | error
  deriving Repr, BEq, DecidableEq, Inhabited

namespace Level

def name : Level → String
  | .debug => "debug"
  | .info => "info"
  | .warn => "warn"
  | .error => "error"

def parse? (s : String) : Option Level :=
  [Level.debug, .info, .warn, .error].find? (·.name == s)

end Level

/-- A field value: data, or a failure known by its text. -/
inductive Value where
  | data (j : Json)
  | failure (text : String)
  deriving Repr, BEq, Inhabited

/-- A field of a call. -/
structure Field where
  key : String
  value : Value
  deriving Repr, BEq, Inhabited

/-- Fields as a JSON map, each value written by `render`: keys in ascending order, the last of
equal keys kept. -/
def fieldMap (render : Value → Json) (fs : List Field) : Json :=
  Json.sortedObj (fs.map fun f => (f.key, render f.value))

/-- One recorded call, with the fields of its logger and its own. -/
structure Entry where
  level : Level
  msg : String
  fields : List Field
  deriving Repr, BEq, Inhabited

/-- The JSON form of a recorded call: `Level`, `Msg` and the `Fields` map, where an error has no
visible members. -/
def Entry.toJson (e : Entry) : Json :=
  .obj [("Level", .str e.level.name), ("Msg", .str e.msg), ("Fields", fieldMap (fun
    | .data j => j
    | .failure _ => .obj []) e.fields)]

/-- The JSON form of a lookup's result: the entry found, or else the zero entry, with an empty
level and message and a null field map, so that a miss reads as no call at all. -/
def Entry.foundJson : Option Entry → Json
  | some e => e.toJson
  | none => .obj [("Level", .str ""), ("Msg", .str ""), ("Fields", .null)]

/-- Where a logger's calls go. -/
inductive Sink where
  | discard
  | journal
  | lines (component : String)
  deriving Repr, BEq, Inhabited

/-- A logger: its sink and the fields it adds to every call. -/
structure Logger where
  sink : Sink
  fields : List Field
  deriving Repr, BEq, Inhabited

/-- What loggers have left behind: the journal's entries and the lines written, in order. -/
structure Logbook where
  entries : List Entry
  lines : List String
  deriving Repr, BEq, Inhabited

def Logbook.empty : Logbook := ⟨[], []⟩

def Logbook.find? (b : Logbook) (level : Level) (msg : String) : Option Entry :=
  b.entries.find? fun e => e.level == level && e.msg == msg

namespace Logger

def discard : Logger := ⟨.discard, []⟩

def journal : Logger := ⟨.journal, []⟩

def lines (component : String) : Logger := ⟨.lines component, []⟩

def child (l : Logger) (fs : List Field) : Logger :=
  match l.sink with
  | .discard => l
  | .journal => { l with fields := l.fields ++ fs }
  | .lines _ =>
    fs.foldl (fun l f => match l.sink, f with
      | .lines _, ⟨"component", .data (.str c)⟩ => { l with sink := .lines c }
      | _, f => { l with fields := l.fields ++ [f] }) l

/-- The JSON line of a call, stamped with a time: `level`, `msg`, the component unless empty,
`time`, and the fields unless there are none, errors written as their text. -/
def line (component stamp : String) (level : Level) (msg : String) (fs : List Field) : String :=
  let m := fieldMap (fun
    | .data j => j
    | .failure t => .str t) fs
  let hasFields := match m with
    | .obj [] => false
    | _ => true
  (Json.obj ([("level", .str level.name), ("msg", .str msg)] ++
    (if component = "" then [] else [("component", .str component)]) ++
    [("time", .str stamp)] ++ (if hasFields then [("fields", m)] else []))).render

def log (l : Logger) (b : Logbook) (stamp : String) (level : Level) (msg : String) (fs : List Field) :
    Logbook :=
  match l.sink with
  | .discard => b
  | .journal => { b with entries := b.entries ++ [⟨level, msg, l.fields ++ fs⟩] }
  | .lines c => { b with lines := b.lines ++ [line c stamp level msg (l.fields ++ fs)] }

end Logger

end HeaderAudit.Log
