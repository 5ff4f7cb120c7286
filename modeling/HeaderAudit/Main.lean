import HeaderAudit.Cli.Run
import HeaderAudit.Runtime.Standard
/-!
The command line: reads the files an invocation names, runs it on the standard runtime, prints what
it printed and ends with its code.
-/
namespace HeaderAudit.Cli

def namedFiles (args : List String) : List String :=
  match parseArgs args with
  | .ok a => [a.configPath, a.requestFile, a.responseFile, a.pairsFile].filter (· ≠ "")
  | .error _ => []

def unreachable : Transport Unit := ⟨fun _ u => (.error "connection refused", u)⟩

end HeaderAudit.Cli

def main (args : List String) : IO UInt32 := do
  let mut files : List (String × String) := []
  for path in HeaderAudit.Cli.namedFiles args do
    try
      let text ← IO.FS.readFile path
      files := files ++ [(path, text)]
    catch _ => pure ()
  let (c, _) := HeaderAudit.Cli.run ⟨files⟩ HeaderAudit.Runtime.standard HeaderAudit.Cli.unreachable false args ()
  IO.print c.stdout
  IO.eprint c.stderr
  return c.code.toUInt32
