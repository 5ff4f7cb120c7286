import HeaderAudit.Analysis.Entry
import HeaderAudit.Compare.Span
import HeaderAudit.Text.Blank
import HeaderAudit.Text.Search
/-!
The difference between two stored analyses: the header lines removed and added, from the line edit
script of the two header blocks that a differ handed in writes, and the checks whose status changed.
-/
namespace HeaderAudit

/-- A line differ: an edit script from one list of lines to another. -/
structure LineDiffer where
  diff : List String → List String → List (Compare.Span String)

/-- What a differ promises: its script reads the first list on its source side and the second
on its target side, and keeps a list compared with itself whole. -/
structure LineDiffer.Lawful (differ : LineDiffer) : Prop where
  source : ∀ a b, Compare.Span.source (differ.diff a b) = a
  target : ∀ a b, Compare.Span.target (differ.diff a b) = b
  keeps : ∀ a, ∀ s ∈ differ.diff a a, s.change = .same

/-- A header line that one side has and the other lacks. -/
structure LineChange where
  added : Bool
  content : String

/-- A check whose status differs between the two sides. -/
structure StatusChange where
  check : String
  base : Status
  head : Status

/-- The difference between a base analysis and a head analysis. -/
structure HeaderDiff where
  baseKey : String
  headKey : String
  lines : List LineChange
  statuses : List StatusChange

namespace HeaderDiff

def blockLines (lines : List String) : List String := lines.flatMap fun l => Text.split l "\n"

def lineChanges (spans : List (Compare.Span String)) : List LineChange :=
  spans.flatMap fun s =>
    match s.change with
    | .same => []
    | .added => (s.items.filter fun l => Text.trim l ≠ "").map (LineChange.mk true)
    | .removed => (s.items.filter fun l => Text.trim l ≠ "").map (LineChange.mk false)

def statusOf (rs : Option Results) (check : String) : Status :=
  match rs.bind (·.get? check) with
  | some v => v.status
  | none => .none

def statusChanges (base head : Option Results) : List StatusChange :=
  let baseEntries := (base.map (·.entries)).getD []
  let headEntries := (head.map (·.entries)).getD []
  (baseEntries.filterMap fun (c, v) =>
    let h := statusOf head c
    if h ≠ v.status then some ⟨c, v.status, h⟩ else none) ++
  (headEntries.filterMap fun (c, v) =>
    if baseEntries.any (·.1 == c) then none else some ⟨c, .none, v.status⟩)

def compare (differ : LineDiffer) (base head : Entry) : HeaderDiff :=
  ⟨base.key, head.key,
    lineChanges (differ.diff (blockLines base.lines) (blockLines head.lines)),
    statusChanges base.results head.results⟩

def toJson (d : HeaderDiff) : Json :=
  .obj [("base_key", .str d.baseKey), ("head_key", .str d.headKey),
    ("chunks", .arr (d.lines.map fun l =>
      .obj [("type", .str (if l.added then "added" else "removed")), ("content", .str l.content)])),
    ("statuses", .arr (d.statuses.map fun s =>
      .obj [("check", .str s.check), ("base", .str s.base.name), ("head", .str s.head.name)]))]

end HeaderDiff

end HeaderAudit
