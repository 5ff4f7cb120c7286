/-!
The tokens of YAML text, with the positions they cover, and the problems met while reading it.
-/
namespace HeaderAudit.Yaml

/-- A position in the text, counted from zero. -/
structure Mark where
  index : Nat
  line : Nat
  column : Nat
  deriving Inhabited, BEq, Repr

/-- How a scalar was written. -/
inductive ScalarStyle where
  | plain
  | single
  | double
  | literal
  | folded
  deriving Inhabited, BEq, Repr, DecidableEq

/-- The kinds of token. -/
inductive TokenKind where
  | streamStart
  | streamEnd
  | versionDirective
  | tagDirective
  | documentStart
  | documentEnd
  | blockSequenceStart
  | blockMappingStart
  | blockEnd
  | flowSequenceStart
  | flowSequenceEnd
  | flowMappingStart
  | flowMappingEnd
  | blockEntry
  | flowEntry
  | key
  | value
  | reference
  | anchor
  | tag
  | scalar
  deriving Inhabited, BEq, Repr, DecidableEq

/-- A token: its kind, where it starts and ends, and its text (a scalar's value, an anchor's
name, or a tag's handle with `suffix` its suffix). -/
structure Token where
  kind : TokenKind
  start : Mark
  stop : Mark
  text : String
  suffix : String
  style : ScalarStyle
  deriving Inhabited, Repr

def Token.bare (kind : TokenKind) (start stop : Mark) : Token := ⟨kind, start, stop, "", "", .plain⟩

/-- Which stage of reading met a problem. -/
inductive Stage where
  | reading
  | scanning
  | parsing
  deriving Inhabited, BEq, Repr, DecidableEq

/-- A problem met while reading YAML text. -/
structure Problem where
  stage : Stage
  context : String
  contextMark : Mark
  problem : String
  problemMark : Mark
  deriving Inhabited, Repr

/-- The message of a problem: the problem, after the line it is reported at. The reported line
is the context's line when that is not the first, else the problem's line; a scanning problem
counts lines from one, the others from zero, and a problem reported at line zero names none. -/
def Problem.message (p : Problem) : String :=
  let pick := if p.contextMark.line ≠ 0 then p.contextMark.line else p.problemMark.line
  let line := if pick ≠ 0 ∧ p.stage = .scanning then pick + 1 else pick
  (if line ≠ 0 then "line " ++ toString line ++ ": " else "") ++
    (if p.problem = "" then "unknown problem parsing YAML content" else p.problem)

end HeaderAudit.Yaml
