import HeaderAudit.Check.Verdict
/-!
Shades and segments of a header line. A segment marks the code points from `start` up to `stop` with
a shade; green outranks yellow, yellow outranks red, and every shade outranks none.
-/
namespace HeaderAudit

/-- The colour of a stretch of text. -/
inductive Shade where
  | none
  | red
  | yellow
  | green
  deriving Repr, BEq, DecidableEq, Inhabited

namespace Shade

def rank : Shade → Nat
  | none => 0
  | red => 1
  | yellow => 2
  | green => 3

def name : Shade → String
  | none => "none"
  | red => "red"
  | yellow => "yellow"
  | green => "green"

def parse (text : String) : Outcome Shade :=
  if text = "none" ∨ text = "" then .ok none
  else if text = "red" then .ok red
  else if text = "yellow" then .ok yellow
  else if text = "green" then .ok green
  else .error (Error.plain ("highlight: unknown type " ++ Text.quote text))

def ofStatus : Status → Shade
  | .ok => green
  | .warn => yellow
  | .fail => red
  | .none => none

end Shade

/-- A shaded stretch of a line, in code points from `start` up to `stop`. -/
structure Segment where
  start : Int
  stop : Int
  shade : Shade
  deriving Repr, BEq, DecidableEq, Inhabited

namespace Segment

def meets (s : Segment) (start stop : Int) : Bool := start < s.stop ∧ stop > s.start

def toJson (s : Segment) : Json :=
  .obj [("start", .num s.start), ("end", .num s.stop), ("type", .str s.shade.name)]

def place (segs : List Segment) (c : Segment) : List Segment :=
  if segs.any fun s => s.shade.rank > c.shade.rank ∧ s.meets c.start c.stop then segs
  else segs.filter (fun s => !s.meets c.start c.stop) ++ [c]

theorem place_blocked (segs : List Segment) (c : Segment)
    (h : segs.any fun s => s.shade.rank > c.shade.rank ∧ s.meets c.start c.stop) :
    place segs c = segs := by
  simp only [place]
  rw [if_pos h]

theorem mem_place_self (segs : List Segment) (c : Segment)
    (h : ¬ (segs.any fun s => s.shade.rank > c.shade.rank ∧ s.meets c.start c.stop)) :
    c ∈ place segs c := by
  simp only [place]
  rw [if_neg h]
  simp

end Segment

end HeaderAudit
