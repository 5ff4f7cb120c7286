import HeaderAudit.Highlight.Line
/-!
Runs: a line cut into consecutive stretches, each with one shade. Segments are taken in order of
their start (ties keep their order); a segment out of the line's bounds, reversed, or starting
before the end of the previous one is skipped, gaps become unshaded runs, and empty segments make no
run.
-/
namespace HeaderAudit

/-- A stretch of a line with one shade. -/
structure Run where
  text : String
  shade : Shade
  deriving Repr, BEq, Inhabited

def Run.toJson (r : Run) : Json := .obj [("text", .str r.text), ("type", .str r.shade.name)]

namespace Highlight

def slice (cs : List Char) (a b : Nat) : String := String.ofList ((cs.drop a).take (b - a))

def runsFrom (cs : List Char) : Nat → List Segment → List Run
  | pos, [] => if pos < cs.length then [⟨slice cs pos cs.length, .none⟩] else []
  | pos, s :: rest =>
    if s.start < 0 ∨ s.stop > cs.length ∨ s.start > s.stop ∨ s.start < pos then runsFrom cs pos rest
    else
      let a := s.start.toNat
      let b := s.stop.toNat
      (if a > pos then [⟨slice cs pos a, .none⟩] else []) ++
        (if b > a then [⟨slice cs a b, s.shade⟩] else []) ++ runsFrom cs b rest

def runs (line : String) (segs : List Segment) : List Run :=
  runsFrom line.toList 0 (segs.mergeSort fun a b => decide (a.start ≤ b.start))

def paint (line : String) (r : Registry) (rs : Results) : List Run :=
  match lineSegments line r rs with
  | [] => [⟨line, fallback line r rs⟩]
  | segs => runs line segs

def colourCode : Shade → Option String
  | .red => some "\x1b[31m"
  | .yellow => some "\x1b[33m"
  | .green => some "\x1b[32m"
  | .none => none

def ansi (rs : List Run) : String :=
  String.join (rs.map fun r => match colourCode r.shade with
    | some code => code ++ r.text ++ "\x1b[0m"
    | none => r.text) ++ "\n"

def plain (rs : List Run) : String := String.join (rs.map (·.text))

end Highlight

end HeaderAudit
