import HeaderAudit.Text.Quoted
/-!
Command-line flags. A flag is written `-name` or `--name`, with its value after `=` or, for a flag
that is not a switch, as the next argument.
-/
namespace HeaderAudit.Cli

/-- Whether a flag takes a value or is a switch. -/
inductive FlagKind where
  | value
  | switch
  deriving Repr, BEq, DecidableEq, Inhabited

def parseTruth (s : String) : Option Bool :=
  if ["1", "t", "T", "TRUE", "true", "True"].contains s then some true
  else if ["0", "f", "F", "FALSE", "false", "False"].contains s then some false
  else none

def helpRequested : String := "flag: help requested"

/-- Reads flags from arguments: the flags set, each with its value in order (a switch's value is
`true` or `false`), and the positional arguments left. -/
def readFlags (known : List (String × FlagKind)) :
    List String → List (String × String) → Except String (List (String × String) × List String)
  | [], acc => .ok (acc.reverse, [])
  | arg :: rest, acc =>
    let cs := arg.toList
    if cs.length < 2 ∨ cs.head? ≠ some '-' then .ok (acc.reverse, arg :: rest)
    else if arg = "--" then .ok (acc.reverse, rest)
    else
      let body := if cs[1]? = some '-' then cs.drop 2 else cs.drop 1
      match body with
      | [] => .error ("bad flag syntax: " ++ arg)
      | c :: more =>
        if c = '-' ∨ c = '=' then .error ("bad flag syntax: " ++ arg)
        else
          let nameChars := c :: more.takeWhile (· ≠ '=')
          let name := String.ofList nameChars
          let given : Option String :=
            if (more.dropWhile (· ≠ '=')).isEmpty then none
            else some (String.ofList ((more.dropWhile (· ≠ '=')).drop 1))
          match known.find? (·.1 == name) with
          | none =>
            if name = "help" ∨ name = "h" then .error helpRequested
            else .error ("flag provided but not defined: -" ++ name)
          | some (_, .switch) =>
            match given with
            | none => readFlags known rest ((name, "true") :: acc)
            | some v =>
              match parseTruth v with
              | some b => readFlags known rest ((name, toString b) :: acc)
              | none => .error ("invalid boolean value " ++ Text.quote v ++ " for -" ++ name ++ ": parse error")
          | some (_, .value) =>
            match given with
            | some v => readFlags known rest ((name, v) :: acc)
            | none =>
              match rest with
              | v :: rest' => readFlags known rest' ((name, v) :: acc)
              | [] => .error ("flag needs an argument: -" ++ name)
termination_by args => args.length

end HeaderAudit.Cli
