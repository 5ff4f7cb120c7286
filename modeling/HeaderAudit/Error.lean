/-!
Failures. Every failure carries its message text and the list of *faults* it stands for: the
well-known causes that a caller can test for, such as an empty message or a blank rule id.
-/
namespace HeaderAudit

/-- The causes of failure that callers tell apart, in the order in which they are asked for. -/
inductive Fault where
  | emptyMessage
  | badRequestLine
  | badStatusLine
  | incompleteRecord
  | missingStatus
  | blankId
  | blankPattern
  | unknownRuleType
  | ruleNotFound
  | duplicateRule
  | emptyUrl
  | missingHost
  | badScheme
  | notFound
  | invalidConfig
  | noTargets
  | closed
  | usage
  /-- An address that does not parse, or a request on one that fails. -/
  | address
  deriving Repr, BEq, DecidableEq, Inhabited

namespace Fault

def text : Fault → String
  | emptyMessage => "empty http message"
  | badRequestLine => "malformed request line"
  | badStatusLine => "malformed status line"
  | incompleteRecord => "record lacks method, host, path or status"
  | missingStatus => "checks: result status is required"
  | blankId => "exclusion: rule id must not be blank"
  | blankPattern => "exclusion: rule pattern must not be blank"
  | unknownRuleType => "exclusion: unknown rule type"
  | ruleNotFound => "exclusion: rule not found"
  | duplicateRule => "exclusion: rule id already exists"
  | emptyUrl => "urlutil: empty url"
  | missingHost => "urlutil: missing host"
  | badScheme => "urlutil: scheme must be http or https"
  | notFound => "results: entry not found"
  | invalidConfig => "invalid config"
  | noTargets => "scan: no targets"
  | closed => "orchestrator is closed"
  | usage => "usage: hdrscan <scan|analyze|serve> [flags]"
  | address => "invalid address"

def rank : Fault → Nat
  | emptyMessage => 0
  | badRequestLine => 1
  | badStatusLine => 2
  | incompleteRecord => 3
  | missingStatus => 4
  | blankId => 5
  | blankPattern => 6
  | unknownRuleType => 7
  | ruleNotFound => 8
  | duplicateRule => 9
  | emptyUrl => 10
  | missingHost => 11
  | badScheme => 12
  | notFound => 13
  | invalidConfig => 14
  | noTargets => 15
  | closed => 16
  | usage => 17
  | address => 18

end Fault

/-- A failure: its message, and the faults that it stands for. -/
structure Error where
  faults : List Fault
  message : String
  deriving Repr, BEq, Inhabited

namespace Error

def plain (message : String) : Error := ⟨[], message⟩

def ofFault (f : Fault) : Error := ⟨[f], f.text⟩

def withDetail (f : Fault) (detail : String) : Error := ⟨[f], f.text ++ ": " ++ detail⟩

def wrap (context : String) (e : Error) : Error := ⟨e.faults, context ++ e.message⟩

def withCause (f : Fault) (detail : String) (e : Error) : Error :=
  ⟨f :: e.faults, f.text ++ ": " ++ detail ++ e.message⟩

def mainFault? (e : Error) : Option Fault :=
  e.faults.foldl (fun best f => match best with
    | some b => if f.rank < b.rank then some f else some b
    | none => some f) none

theorem wrap_faults (context : String) (e : Error) : (wrap context e).faults = e.faults := rfl

end Error

abbrev Outcome (α : Type) := Except Error α

end HeaderAudit
