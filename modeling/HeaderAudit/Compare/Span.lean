/-!
Edit scripts between two sequences, as a list of spans: each span keeps, removes or adds a run of
items.
-/
namespace HeaderAudit.Compare

/-- What a span does to its items. -/
inductive Change where
  | same
  | removed
  | added
  deriving DecidableEq, Repr, Inhabited

/-- A run of items that an edit script keeps, removes or adds. -/
structure Span (α : Type) where
  change : Change
  items : List α
  deriving Repr, Inhabited

def Span.source {α : Type} (spans : List (Span α)) : List α :=
  spans.flatMap fun s => if s.change = .added then [] else s.items

def Span.target {α : Type} (spans : List (Span α)) : List α :=
  spans.flatMap fun s => if s.change = .removed then [] else s.items

def prefixLength {α : Type} [BEq α] : List α → List α → Nat
  | a :: as, b :: bs => if a == b then prefixLength as bs + 1 else 0
  | _, _ => 0

def suffixLength {α : Type} [BEq α] (a b : List α) : Nat := prefixLength a.reverse b.reverse

theorem prefixLength_le_left {α : Type} [BEq α] (a b : List α) : prefixLength a b ≤ a.length := by
  induction a generalizing b with
  | nil => simp [prefixLength]
  | cons x xs ih =>
    cases b with
    | nil => simp [prefixLength]
    | cons y ys =>
      simp only [prefixLength, List.length_cons]
      split
      · have := ih ys; omega
      · omega

/-- Changes met since the last kept span: their items of each kind and how many spans. -/
structure Pending (α : Type) where
  removed : List α
  added : List α
  removes : Nat
  adds : Nat

def Pending.empty {α : Type} : Pending α := ⟨[], [], 0, 0⟩

/-- Adds items to the kept span at the end of `out`, or starts `out` with a kept span when it
ends otherwise. -/
def keepAtEnd {α : Type} (out : Array (Span α)) (xs : List α) : Array (Span α) :=
  match out.back? with
  | some ⟨.same, ys⟩ => out.pop.push ⟨.same, ys ++ xs⟩
  | _ => #[⟨.same, xs⟩] ++ out

/-- Closes the pending changes at a kept span with items `e`. Two or more pending spans become
one removal and one addition; when both kinds are present their common leading items join the
kept span before them and their common trailing items join `e`. -/
def close {α : Type} [BEq α] (out : Array (Span α)) (p : Pending α) (e : List α) : Array (Span α) :=
  if p.removes + p.adds > 1 then
    let (out, rem, add, e) :=
      if p.removes ≠ 0 ∧ p.adds ≠ 0 then
        let n := prefixLength p.added p.removed
        let out := if n = 0 then out else keepAtEnd out (p.added.take n)
        let add := p.added.drop n
        let rem := p.removed.drop n
        let m := suffixLength add rem
        (out, rem.take (rem.length - m), add.take (add.length - m), add.drop (add.length - m) ++ e)
      else (out, p.removed, p.added, e)
    let edits : Array (Span α) :=
      if p.removes = 0 then #[⟨.added, add⟩]
      else if p.adds = 0 then #[⟨.removed, rem⟩]
      else #[⟨.removed, rem⟩, ⟨.added, add⟩]
    (out ++ edits).push ⟨.same, e⟩
  else if p.removes + p.adds = 1 then
    (out.push (if p.adds = 1 then ⟨.added, p.added⟩ else ⟨.removed, p.removed⟩)).push ⟨.same, e⟩
  else match out.back? with
    | some ⟨.same, ys⟩ => out.pop.push ⟨.same, ys ++ e⟩
    | _ => out.push ⟨.same, e⟩

def gatherStep {α : Type} [BEq α] (acc : Array (Span α) × Pending α) (s : Span α) :
    Array (Span α) × Pending α :=
  match s.change with
  | .added => (acc.1, { acc.2 with added := acc.2.added ++ s.items, adds := acc.2.adds + 1 })
  | .removed => (acc.1, { acc.2 with removed := acc.2.removed ++ s.items, removes := acc.2.removes + 1 })
  | .same => (close acc.1 acc.2 s.items, Pending.empty)

/-- Joins neighbouring spans of one kind, closing the script with an empty kept span that is
dropped again when nothing joined it. -/
def gather {α : Type} [BEq α] (spans : List (Span α)) : Array (Span α) :=
  let out := ((spans ++ [(⟨.same, []⟩ : Span α)]).foldl gatherStep (#[], Pending.empty)).1
  match out.back? with
  | some s => if s.items.isEmpty then out.pop else out
  | none => out

/-- Slides single changes between kept spans, from left to right, starting at position `i`;
also says whether anything moved. -/
def slide {α : Type} [BEq α] : Nat → Array (Span α) → Nat → Bool → Array (Span α) × Bool
  | 0, a, _, moved => (a, moved)
  | fuel + 1, a, i, moved =>
    if i + 1 < a.size ∧ 0 < i then
      let prev := a.getD (i - 1) default
      let cur := a.getD i default
      let next := a.getD (i + 1) default
      if prev.change = .same ∧ next.change = .same then
        if prev.items.reverse.isPrefixOf cur.items.reverse then
          let moved' := prev.items ++ cur.items.take (cur.items.length - prev.items.length)
          let a := ((a.setIfInBounds i { cur with items := moved' }).setIfInBounds (i + 1)
            { next with items := prev.items ++ next.items }).eraseIdxIfInBounds (i - 1)
          slide fuel a (i + 1) true
        else if next.items.isPrefixOf cur.items then
          let a := ((a.setIfInBounds (i - 1) { prev with items := prev.items ++ next.items }).setIfInBounds i
            { cur with items := cur.items.drop next.items.length ++ next.items }).eraseIdxIfInBounds (i + 1)
          slide fuel a (i + 1) true
        else slide fuel a (i + 1) moved
      else slide fuel a (i + 1) moved
    else (a, moved)

def tidyFor {α : Type} [BEq α] : Nat → List (Span α) → List (Span α)
  | 0, spans => spans
  | fuel + 1, spans =>
    let a := gather spans
    let (a, moved) := slide a.size a 1 false
    if moved then tidyFor fuel a.toList else a.toList

/-- The merged form of a script. Every round that slides a change joins two kept spans, so the
number of rounds is bounded by the size of the script. -/
def tidy {α : Type} [BEq α] (spans : List (Span α)) : List (Span α) :=
  tidyFor (spans.length + (spans.flatMap (·.items)).length + 1) spans

end HeaderAudit.Compare
