import HeaderAudit.Highlight.Segment
import HeaderAudit.Check.Registry
/-!
Shading the header lines that checks own. A check shades, in a line it owns, every occurrence of the
texts it highlights for its verdict's status, matching the lower-cased line against the trimmed,
lower-cased texts and moving past each occurrence.
-/
namespace HeaderAudit

namespace Highlight

/-- Places a segment for every occurrence of a nonempty needle in a lower-cased line. The scan
is at position `pos`; `skip` code points of the last occurrence are still to pass. -/
def occurrences (needle : List Char) (shade : Shade) :
    List Segment → Nat → Nat → List Char → List Segment
  | segs, _, _, [] => segs
  | segs, pos, skip + 1, _ :: cs => occurrences needle shade segs (pos + 1) skip cs
  | segs, pos, 0, c :: cs =>
    if needle ≠ [] ∧ needle.isPrefixOf (c :: cs) then
      occurrences needle shade (Segment.place segs ⟨pos, pos + needle.length, shade⟩) (pos + 1)
        (needle.length - 1) cs
    else occurrences needle shade segs (pos + 1) 0 cs

def segments (line : String) (c : Check) (v : Verdict) : List Segment :=
  let lower := line.toList.map Text.lowerChar
  if !c.owns (String.ofList lower) then []
  else
    let p := c.patterns
    if p.isEmpty then []
    else (p.forStatus v.status).foldl (fun segs pattern =>
      occurrences ((Text.trim pattern).toList.map Text.lowerChar) (Shade.ofStatus v.status)
        segs 0 0 lower) []

def lineSegments (line : String) (r : Registry) (rs : Results) : List Segment :=
  let lower := Text.lower line
  r.checks.flatMap fun c =>
    if c.owns lower then segments line c ((rs.get? c.name).getD Verdict.empty) else []

/-- The shade a check gives a whole line: its status's shade when it owns the line and, if it
colours whole lines, colours this one. -/
def lineShade (line : String) (c : Check) (v : Verdict) : Shade :=
  let lower := Text.lower line
  if !c.owns lower then .none
  else match c.wholeLine? with
    | some f => if f lower then Shade.ofStatus v.status else .none
    | none => Shade.ofStatus v.status

def firstShade (line : String) (rs : Results) : List Check → Shade
  | [] => .none
  | c :: cs =>
    match lineShade line c ((rs.get? c.name).getD Verdict.empty) with
    | .none => firstShade line rs cs
    | s => s

def fallback (line : String) (r : Registry) (rs : Results) : Shade :=
  match firstShade line rs r.checks with
  | .none =>
    let lower := Text.lower line
    if Text.hasPrefix lower "set-cookie:" then
      (if Text.contains lower "secure" then .green else .red)
    else .none
  | s => s

end Highlight

end HeaderAudit
