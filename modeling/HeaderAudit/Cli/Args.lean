import HeaderAudit.Cli.Flags
import HeaderAudit.Text.Blank
import HeaderAudit.Text.Case
import HeaderAudit.Error
import HeaderAudit.Json.Value
/-!
The arguments of one invocation: the command, its positional arguments and its flags.
-/
namespace HeaderAudit.Cli

/-- The arguments of one invocation. Targets are none unless the command is `scan`, and the
status classes none unless one was given. -/
structure CliArgs where
  command : String
  configPath : String
  targets : Option (List String)
  crawl : Bool
  origin : String
  requestFile : String
  responseFile : String
  pairsFile : String
  useTls : Bool
  serverName : String
  listenAddr : String
  json : Bool
  noColor : Bool
  methods : List String
  status : Option (List String)
  filter : String
  rawArgs : List String
  deriving Repr, Inhabited

/-- The JSON form of the arguments, one member per field, named in upper camel case; absent
targets or status classes are `null`. -/
def CliArgs.toJson (a : CliArgs) : Json :=
  .obj [("Command", .str a.command), ("ConfigPath", .str a.configPath),
    ("Targets", Json.opt Json.strs a.targets), ("Crawl", .bool a.crawl), ("Origin", .str a.origin),
    ("RequestFile", .str a.requestFile), ("ResponseFile", .str a.responseFile),
    ("PairsFile", .str a.pairsFile), ("UseTLS", .bool a.useTls), ("ServerName", .str a.serverName),
    ("ListenAddr", .str a.listenAddr), ("JSON", .bool a.json), ("NoColor", .bool a.noColor),
    ("Methods", .strs a.methods), ("Status", Json.opt Json.strs a.status), ("Filter", .str a.filter),
    ("RawArgs", .strs a.rawArgs)]

/-- What an invocation printed, and its exit code. -/
structure Completion where
  code : Nat
  stdout : String
  stderr : String
  deriving Repr, Inhabited

def Completion.failure (e : Error) : Completion := ⟨2, "", e.message ++ "\n"⟩

def commonFlags : List (String × FlagKind) := [("config", .value)]

def outputFlags : List (String × FlagKind) :=
  [("json", .switch), ("no-color", .switch), ("method", .value), ("status", .value), ("filter", .value)]

def commandFlags : String → Option (List (String × FlagKind))
  | "scan" => some (commonFlags ++ outputFlags ++ [("crawl", .switch), ("origin", .value)])
  | "analyze" => some (commonFlags ++ outputFlags ++ [("request", .value), ("response", .value),
      ("pairs", .value), ("tls", .switch), ("server-name", .value)])
  | "serve" => some (commonFlags ++ [("listen", .value)])
  | _ => none

def listParts (v : String) : List String :=
  ((v.splitOn ",").map Text.trim).filter (· ≠ "")

def CliArgs.set (a : CliArgs) : String × String → CliArgs
  | ("config", v) => { a with configPath := v }
  | ("json", v) => { a with json := v = "true" }
  | ("no-color", v) => { a with noColor := v = "true" }
  | ("method", v) => { a with methods := a.methods ++ listParts v }
  | ("status", v) => { a with status := some ((a.status.getD []) ++ listParts v) }
  | ("filter", v) => { a with filter := v }
  | ("crawl", v) => { a with crawl := v = "true" }
  | ("origin", v) => { a with origin := v }
  | ("request", v) => { a with requestFile := v }
  | ("response", v) => { a with responseFile := v }
  | ("pairs", v) => { a with pairsFile := v }
  | ("tls", v) => { a with useTls := v = "true" }
  | ("server-name", v) => { a with serverName := v }
  | ("listen", v) => { a with listenAddr := v }
  | _ => a

def CliArgs.bare (command : String) (raw : List String) : CliArgs :=
  ⟨command, "", none, false, "", "", "", "", false, "", "", false, false, [], none, "", raw⟩

def parseArgs (args : List String) : Outcome CliArgs :=
  match args with
  | [] => .error (Error.ofFault .usage)
  | command :: rest =>
    match commandFlags command with
    | none => .error (Error.withDetail .usage ("unknown command " ++ Text.quote command))
    | some known =>
      match readFlags known rest [] with
      | .error e => .error (Error.plain e)
      | .ok (set, positional) =>
        let a := set.foldl CliArgs.set (CliArgs.bare command args)
        let a := { a with methods := a.methods.map Text.upper }
        if command = "scan" then
          if positional.isEmpty then .error (Error.plain "scan: at least one target URL is required")
          else .ok { a with targets := some positional }
        else if command = "analyze" then
          let single := a.requestFile != "" || a.responseFile != ""
          if single == (a.pairsFile != "") then
            .error (Error.plain "analyze: pass either -request and -response or -pairs")
          else if single ∧ (a.requestFile = "" ∨ a.responseFile = "") then
            .error (Error.plain "analyze: -request and -response go together")
          else .ok a
        else .ok a

end HeaderAudit.Cli
