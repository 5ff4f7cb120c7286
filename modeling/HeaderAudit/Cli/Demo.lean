import HeaderAudit.Cli.Args
import HeaderAudit.Demo.Pages
/-!
Starting the demo shop from the command line. The first argument is the port (1 to 65535, default
9999) and the second the profile every page starts with (default `insecure`).
-/
namespace HeaderAudit.Cli

def parseWhole (s : String) : Option Int :=
  let (negative, digits) := match s.toList with
    | '-' :: rest => (true, rest)
    | '+' :: rest => (false, rest)
    | cs => (false, cs)
  if digits.isEmpty ∨ !digits.all Char.isDigit then none
  else
    let n : Int := (String.ofList digits).toNat?.getD 0
    if n ≥ 0x8000000000000000 then none else some (if negative then -n else n)

def padRight (width : Nat) (s : String) : String :=
  s ++ String.ofList (List.replicate (width - s.length) ' ')

def demoBanner (addr : String) : String :=
  let rule := "===========================================\n"
  rule ++ "   hdrscan demo server\n" ++ rule ++ "\n" ++
    "Every page can be switched between header profiles:\n" ++
    String.join (Demo.profiles.map fun p => "  - " ++ p ++ "\n") ++ "\nPages:\n" ++
    String.join (Demo.allPages.map fun p => "  " ++ padRight 10 p.path ++ " " ++ p.description ++ "\n") ++
    "\nControl panel: http://" ++ addr ++ "/demo/control\n\n"

/-- Starts the demo shop with its arguments; `taken` says which ports another program holds.
A shop that can listen serves until it is stopped, which ends with code 0. -/
def startDemo (taken : Int → Bool) (args : List String) : Completion :=
  let port : Option Int := match args with
    | [] => some 9999
    | p :: _ => (parseWhole p).filter fun n => 1 ≤ n ∧ n ≤ 65535
  match port with
  | none => ⟨1, "", "Invalid port: " ++ (args.head?.getD "") ++ "\n"⟩
  | some port =>
    let profile := (args.drop 1).head?.getD "insecure"
    if !Demo.profiles.contains profile then
      ⟨1, "", "Unknown profile " ++ Text.quote profile ++ " (want one of " ++ ", ".intercalate Demo.profiles ++ ")\n"⟩
    else
      let addr := "localhost:" ++ toString port
      let out := demoBanner addr ++ "Demo server starting on http://" ++ addr ++ " (profile " ++ profile ++ ")\n"
      if taken port then
        ⟨1, out, "Server error: listen tcp 127.0.0.1:" ++ toString port ++ ": bind: address already in use\n"⟩
      else ⟨0, out, ""⟩

end HeaderAudit.Cli
