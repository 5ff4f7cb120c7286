import HeaderAudit.Compare.Span
/-!
Finding an edit script between two sequences: common ends first, then the cheapest rule that settles
the middle, else the search along diagonals from both ends.
-/
namespace HeaderAudit.Compare

def occurrences {α : Type} [BEq α] (seed s : List α) : List Nat :=
  (List.range s.length).filter fun j => seed.isPrefixOf (s.drop j)

/-- A long common run splitting both sequences: the parts of the first sequence before and after
it, those of the second, and the run itself. -/
structure Cut (α : Type) where
  firstBefore : List α
  firstAfter : List α
  secondBefore : List α
  secondAfter : List α
  common : List α

/-- The cut of a long sequence `l` and a short one `s` grown from the quarter-length seed of `l`
at position `i`: of all places where the seed occurs in `s`, the first with the longest common
run around it. It counts only when the run covers at least half of `l`. -/
def cutAt {α : Type} [BEq α] (l s : List α) (i : Nat) : Option (Cut α) :=
  let seed := (l.drop i).take (l.length / 4)
  let best := (occurrences seed s).foldl (fun (best : Nat × Option (Cut α)) j =>
    let p := prefixLength (l.drop i) (s.drop j)
    let q := suffixLength (l.take i) (s.take j)
    if best.1 < q + p then
      (q + p, some ⟨l.take (i - q), l.drop (i + p), s.take (j - q), s.drop (j + p),
        (s.drop (j - q)).take (q + p)⟩)
    else best) (0, none)
  if best.1 * 2 < l.length then none else best.2

/-- A cut of two sequences through a common run at least half as long as the longer one, tried
from seeds at the second and third quarters; the longer run wins and ties go to the later seed. -/
def halfCut {α : Type} [BEq α] (a b : List α) : Option (Cut α) :=
  let (l, s) := if a.length > b.length then (a, b) else (b, a)
  if l.length < 4 ∨ s.length * 2 < l.length then none
  else
    let found := match cutAt l s ((l.length + 3) / 4), cutAt l s ((l.length + 1) / 2) with
      | none, none => none
      | some c, none => some c
      | none, some c => some c
      | some c1, some c2 => if c1.common.length > c2.common.length then some c1 else some c2
    found.map fun c =>
      if a.length > b.length then c
      else ⟨c.secondBefore, c.secondAfter, c.firstBefore, c.firstAfter, c.common⟩

/-- The furthest points reached on each diagonal from the front (`fwd`) and from the back
(`bwd`), and the diagonals trimmed off each end of the range because their paths left the grid. -/
structure Frontier where
  fwd : Array Int
  bwd : Array Int
  fwdLow : Int
  fwdHigh : Int
  bwdLow : Int
  bwdHigh : Int

def reach (v : Array Int) (i : Int) : Int := if i < 0 then -1 else v.getD i.toNat (-1)

/-- The two sequences of a search, with their reversals for walking from the back. -/
structure Grid (α : Type) where
  first : List α
  second : List α
  firstRev : List α
  secondRev : List α

namespace Grid

def n {α : Type} (g : Grid α) : Int := g.first.length
def m {α : Type} (g : Grid α) : Int := g.second.length

def depth {α : Type} (g : Grid α) : Int := (g.n + g.m + 1) / 2

/-- Whether the two paths meet when the front path is checked; this is so when the total length
is odd. -/
def frontMeets {α : Type} (g : Grid α) : Bool := (g.n - g.m) % 2 != 0

def stepFwd {α : Type} [BEq α] (g : Grid α) (fr : Frontier) (d k : Int) : Int :=
  let ko := g.depth + k
  let x0 := if k = -d ∨ (k ≠ d ∧ reach fr.fwd (ko - 1) < reach fr.fwd (ko + 1)) then reach fr.fwd (ko + 1)
    else reach fr.fwd (ko - 1) + 1
  x0 + prefixLength (g.first.drop x0.toNat) (g.second.drop (x0 - k).toNat)

def stepBwd {α : Type} [BEq α] (g : Grid α) (fr : Frontier) (d k : Int) : Int :=
  let ko := g.depth + k
  let x0 := if k = -d ∨ (k ≠ d ∧ reach fr.bwd (ko - 1) < reach fr.bwd (ko + 1)) then reach fr.bwd (ko + 1)
    else reach fr.bwd (ko - 1) + 1
  x0 + prefixLength (g.firstRev.drop x0.toNat) (g.secondRev.drop (x0 - k).toNat)

/-- Walks the front path over the diagonals of step `d`, from `k` up; ends at the point where it
overlaps the back path, or with the updated frontier. -/
def sweepFwd {α : Type} [BEq α] (g : Grid α) (d : Int) : Nat → Int → Frontier → Frontier ⊕ (Int × Int)
  | 0, _, fr => .inl fr
  | fuel + 1, k, fr =>
    if k > d - fr.fwdHigh then .inl fr
    else
      let x := g.stepFwd fr d k
      let y := x - k
      let fr := { fr with fwd := fr.fwd.setIfInBounds (g.depth + k).toNat x }
      if x > g.n then sweepFwd g d fuel (k + 2) { fr with fwdHigh := fr.fwdHigh + 2 }
      else if y > g.m then sweepFwd g d fuel (k + 2) { fr with fwdLow := fr.fwdLow + 2 }
      else
        let ko := g.depth + (g.n - g.m) - k
        if g.frontMeets ∧ 0 ≤ ko ∧ ko < 2 * g.depth ∧ reach fr.bwd ko ≠ -1 ∧ x ≥ g.n - reach fr.bwd ko then
          .inr (x, y)
        else sweepFwd g d fuel (k + 2) fr

/-- Walks the back path over the diagonals of step `d`, from `k` up; ends at the point where the
front path overlaps it, or with the updated frontier. -/
def sweepBwd {α : Type} [BEq α] (g : Grid α) (d : Int) : Nat → Int → Frontier → Frontier ⊕ (Int × Int)
  | 0, _, fr => .inl fr
  | fuel + 1, k, fr =>
    if k > d - fr.bwdHigh then .inl fr
    else
      let x := g.stepBwd fr d k
      let y := x - k
      let fr := { fr with bwd := fr.bwd.setIfInBounds (g.depth + k).toNat x }
      if x > g.n then sweepBwd g d fuel (k + 2) { fr with bwdHigh := fr.bwdHigh + 2 }
      else if y > g.m then sweepBwd g d fuel (k + 2) { fr with bwdLow := fr.bwdLow + 2 }
      else
        let ko := g.depth + (g.n - g.m) - k
        let x1 := reach fr.fwd ko
        if !g.frontMeets ∧ 0 ≤ ko ∧ ko < 2 * g.depth ∧ x1 ≠ -1 ∧ x1 ≥ g.n - x then
          .inr (x1, g.depth + x1 - ko)
        else sweepBwd g d fuel (k + 2) fr

def meet {α : Type} [BEq α] (g : Grid α) : Nat → Int → Frontier → Option (Int × Int)
  | 0, _, _ => none
  | steps + 1, d, fr =>
    match g.sweepFwd d (d.toNat + 1) (-d + fr.fwdLow) fr with
    | .inr p => some p
    | .inl fr =>
      match g.sweepBwd d (d.toNat + 1) (-d + fr.bwdLow) fr with
      | .inr p => some p
      | .inl fr => g.meet steps (d + 1) fr

def middle {α : Type} [BEq α] (g : Grid α) : Option (Int × Int) :=
  let row := (Array.replicate (2 * g.depth).toNat (-1 : Int)).setIfInBounds (g.depth + 1).toNat 0
  g.meet g.depth.toNat 0 ⟨row, row, 0, 0, 0, 0⟩

end Grid

/-- The script for two sequences that share no leading or trailing item, given how to solve
smaller problems. -/
def settle {α : Type} [BEq α] (recur : List α → List α → List (Span α)) (a b : List α) : List (Span α) :=
  if a.isEmpty then [⟨.added, b⟩]
  else if b.isEmpty then [⟨.removed, a⟩]
  else
    let (l, s) := if a.length > b.length then (a, b) else (b, a)
    let change : Change := if a.length > b.length then .removed else .added
    match (occurrences s l).head? with
    | some i => [⟨change, l.take i⟩, ⟨.same, s⟩, ⟨change, l.drop (i + s.length)⟩]
    | none =>
      if s.length = 1 then [⟨.removed, a⟩, ⟨.added, b⟩]
      else match halfCut a b with
        | some c => recur c.firstBefore c.secondBefore ++ [⟨.same, c.common⟩] ++ recur c.firstAfter c.secondAfter
        | none =>
          match (Grid.mk a b a.reverse b.reverse).middle with
          | some (x, y) => recur (a.take x.toNat) (b.take y.toNat) ++ recur (a.drop x.toNat) (b.drop y.toNat)
          | none => [⟨.removed, a⟩, ⟨.added, b⟩]

def diffFor {α : Type} [BEq α] : Nat → List α → List α → List (Span α)
  | 0, a, b => [⟨.removed, a⟩, ⟨.added, b⟩]
  | fuel + 1, a, b =>
    if a == b then (if a.isEmpty then [] else [⟨.same, a⟩])
    else
      let n := prefixLength a b
      let a1 := a.drop n
      let b1 := b.drop n
      let k := suffixLength a1 b1
      let mid := settle (diffFor fuel) (a1.take (a1.length - k)) (b1.take (b1.length - k))
      tidy ((if n = 0 then [] else [⟨.same, a.take n⟩]) ++ mid ++
        (if k = 0 then [] else [⟨.same, a1.drop (a1.length - k)⟩]))

/-- The edit script from `a` to `b`. Each split makes both halves smaller, so the total length
bounds how deep splits nest. -/
def diff {α : Type} [BEq α] (a b : List α) : List (Span α) := diffFor (a.length + b.length + 1) a b

end HeaderAudit.Compare
