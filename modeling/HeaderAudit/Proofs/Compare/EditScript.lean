import Mathlib
import HeaderAudit.Compare.Search
/-!
The scripts that `diff` finds edit the first sequence into the second, and a sequence compared with
itself is kept whole.
-/

namespace HeaderAudit.Compare

variable {α : Type}

@[simp] theorem Span.source_nil : Span.source ([] : List (Span α)) = [] := rfl
@[simp] theorem Span.target_nil : Span.target ([] : List (Span α)) = [] := rfl

@[simp] theorem Span.source_cons (s : Span α) (spans : List (Span α)) :
    Span.source (s :: spans) = (if s.change = .added then [] else s.items) ++ Span.source spans :=
  List.flatMap_cons

@[simp] theorem Span.target_cons (s : Span α) (spans : List (Span α)) :
    Span.target (s :: spans) = (if s.change = .removed then [] else s.items) ++ Span.target spans :=
  List.flatMap_cons

@[simp] theorem Span.source_append (s t : List (Span α)) :
    Span.source (s ++ t) = Span.source s ++ Span.source t := List.flatMap_append

@[simp] theorem Span.target_append (s t : List (Span α)) :
    Span.target (s ++ t) = Span.target s ++ Span.target t := List.flatMap_append

/-- A script edits `a` into `b`: its kept and removed items read `a`, its kept and added items
read `b`. -/
structure Edits (a b : List α) (spans : List (Span α)) : Prop where
  source : Span.source spans = a
  target : Span.target spans = b

/-- Two scripts read the same two sequences. -/
structure ReadsAlike (s t : List (Span α)) : Prop where
  source : Span.source s = Span.source t
  target : Span.target s = Span.target t

namespace ReadsAlike

@[refl] theorem refl (s : List (Span α)) : ReadsAlike s s := ⟨rfl, rfl⟩

theorem symm {s t : List (Span α)} (st : ReadsAlike s t) : ReadsAlike t s :=
  ⟨st.source.symm, st.target.symm⟩

theorem trans {s t u : List (Span α)} (st : ReadsAlike s t) (tu : ReadsAlike t u) :
    ReadsAlike s u := ⟨st.source.trans tu.source, st.target.trans tu.target⟩

theorem append {s t s' t' : List (Span α)} (front : ReadsAlike s t) (back : ReadsAlike s' t') :
    ReadsAlike (s ++ s') (t ++ t') := ⟨by simp [front.source, back.source], by simp [front.target, back.target]⟩

theorem edits {a b : List α} {s t : List (Span α)} (alike : ReadsAlike s t) (edits : Edits a b t) :
    Edits a b s := ⟨alike.source.trans edits.source, alike.target.trans edits.target⟩

end ReadsAlike

theorem Edits.append {a b a' b' : List α} {s t : List (Span α)} (front : Edits a b s)
    (back : Edits a' b' t) : Edits (a ++ a') (b ++ b') (s ++ t) :=
  ⟨by simp [front.source, back.source], by simp [front.target, back.target]⟩

theorem alike_drop_empty (s : Span α) (empty : s.items = []) (spans : List (Span α)) :
    ReadsAlike (spans ++ [s]) spans := ⟨by simp [empty], by simp [empty]⟩

/-! ### Common ends of two sequences -/

section Ends

variable [BEq α]

theorem take_prefixLength [LawfulBEq α] (a b : List α) : a.take (prefixLength a b) = b.take (prefixLength a b) := by
  induction a generalizing b with
  | nil => simp [prefixLength]
  | cons x xs ih =>
    cases b with
    | nil => simp [prefixLength]
    | cons y ys =>
      simp only [prefixLength]
      split
      · rename_i same
        rw [beq_iff_eq.mp same, List.take_succ_cons, List.take_succ_cons, ih ys]
      · simp

theorem prefixLength_le_right (a b : List α) : prefixLength a b ≤ b.length := by
  induction a generalizing b with
  | nil => simp [prefixLength]
  | cons x xs ih =>
    cases b with
    | nil => simp [prefixLength]
    | cons y ys =>
      simp only [prefixLength, List.length_cons]
      split
      · have := ih ys; omega
      · omega

theorem drop_suffixLength [LawfulBEq α] (a b : List α) :
    a.drop (a.length - suffixLength a b) = b.drop (b.length - suffixLength a b) := by
  have ends := congrArg List.reverse (take_prefixLength a.reverse b.reverse)
  rwa [List.reverse_take, List.reverse_take, List.reverse_reverse, List.reverse_reverse,
    List.length_reverse, List.length_reverse] at ends

theorem suffixLength_le_left (a b : List α) : suffixLength a b ≤ a.length := by
  simpa [suffixLength] using prefixLength_le_left a.reverse b.reverse

theorem suffixLength_le_right (a b : List α) : suffixLength a b ≤ b.length := by
  simpa [suffixLength] using prefixLength_le_right a.reverse b.reverse

end Ends

/-! ### Gathering neighbouring spans -/

def EndsKept (out : Array (Span α)) : Prop := ∀ s ∈ out.back?, s.change = .same

theorem endsKept_push (out : Array (Span α)) (xs : List α) : EndsKept (out.push ⟨.same, xs⟩) := by
  intro s held
  rw [Array.back?_push, Option.mem_some_iff] at held
  rw [← held]

theorem alike_extend_last {out : Array (Span α)} {ys : List α}
    (last : out.back? = some ⟨.same, ys⟩) (xs : List α) :
    ReadsAlike (out.pop.push ⟨.same, ys ++ xs⟩).toList (out.toList ++ [⟨.same, xs⟩]) := by
  obtain ⟨init, split⟩ := List.getLast?_eq_some_iff.mp (by rw [Array.getLast?_toList]; exact last)
  rw [Array.toList_push, Array.toList_pop, split, List.dropLast_concat]
  constructor <;> simp

theorem keepAtEnd_alike {out : Array (Span α)} (ends : EndsKept out) (xs : List α) :
    ReadsAlike (keepAtEnd out xs).toList (out.toList ++ [⟨.same, xs⟩]) ∧
      EndsKept (keepAtEnd out xs) := by
  unfold keepAtEnd
  split
  · rename_i ys last
    exact ⟨alike_extend_last last xs, endsKept_push _ _⟩
  · rename_i other
    -- a last span that keeps its items is the first case, so there is none
    obtain ⟨spans⟩ := out
    have empty : spans = [] := by
      cases last : spans.getLast? with
      | none => exact List.getLast?_eq_none_iff.mp last
      | some s =>
        obtain ⟨change, ys⟩ := s
        have kept : change = .same := ends _ (by rw [← Array.getLast?_toList]; exact last)
        subst kept
        exact absurd (by rw [← Array.getLast?_toList]; exact last) (other ys)
    subst empty
    refine ⟨ReadsAlike.refl _, ?_⟩
    intro s held
    simp at held
    rw [← held]

/-- Pending changes of a kind that was not met hold no items. -/
structure Pending.Fits (p : Pending α) : Prop where
  removed : p.removes = 0 → p.removed = []
  added : p.adds = 0 → p.added = []

theorem alike_common_ends [BEq α] [LawfulBEq α] (pre : List (Span α)) (removed added e : List α) :
    let n := prefixLength added removed
    let add := added.drop n
    let rem := removed.drop n
    let m := suffixLength add rem
    ReadsAlike (pre ++ [⟨.same, added.take n⟩, ⟨.removed, rem.take (rem.length - m)⟩,
        ⟨.added, add.take (add.length - m)⟩, ⟨.same, add.drop (add.length - m) ++ e⟩])
      (pre ++ [⟨.removed, removed⟩, ⟨.added, added⟩, ⟨.same, e⟩]) := by
  intro n add rem m
  have readsRemoved : added.take n ++ rem.take (rem.length - m) ++ add.drop (add.length - m) =
      removed := by
    rw [drop_suffixLength add rem, List.append_assoc, List.take_append_drop,
      take_prefixLength added removed, List.take_append_drop]
  constructor
  · simp only [Span.source_append, Span.source_cons, Span.source_nil, reduceCtorEq, if_false,
      if_true, List.nil_append, List.append_nil]
    rw [← readsRemoved]
    simp only [List.append_assoc]
  · simp only [Span.target_append, Span.target_cons, Span.target_nil, reduceCtorEq, if_false,
      if_true, List.nil_append, List.append_nil]
    have readsAdded : added.take n ++ add = added := List.take_append_drop n added
    rw [← List.append_assoc (add.take _), List.take_append_drop,
      ← List.append_assoc (added.take n), readsAdded]

theorem keepFront_alike {out : Array (Span α)} (ends : EndsKept out) (xs : List α) (n : Nat) :
    ReadsAlike (if n = 0 then out else keepAtEnd out (xs.take n)).toList
        (out.toList ++ [⟨.same, xs.take n⟩]) ∧
      EndsKept (if n = 0 then out else keepAtEnd out (xs.take n)) := by
  split
  · rename_i none
    subst none
    exact ⟨(alike_drop_empty ⟨.same, xs.take 0⟩ (@List.take_zero _ xs) _).symm, ends⟩
  · exact keepAtEnd_alike ends _

theorem close_alike [BEq α] [LawfulBEq α] {out : Array (Span α)} (ends : EndsKept out)
    {p : Pending α} (fits : p.Fits) (e : List α) :
    ReadsAlike (close out p e).toList
        (out.toList ++ [⟨.removed, p.removed⟩, ⟨.added, p.added⟩, ⟨.same, e⟩]) ∧
      EndsKept (close out p e) := by
  unfold close
  split
  · rename_i many
    by_cases both : p.removes ≠ 0 ∧ p.adds ≠ 0
    · -- a removal and an addition: their common ends move into the kept spans around them
      rw [if_pos both]
      dsimp only
      rw [if_neg both.1, if_neg both.2]
      obtain ⟨front, frontEnds⟩ := keepFront_alike ends p.added (prefixLength p.added p.removed)
      refine ⟨?_, endsKept_push _ _⟩
      rw [Array.toList_push, Array.toList_append, List.append_assoc]
      exact (front.append (.refl _)).trans
        (by simpa using alike_common_ends out.toList p.removed p.added e)
    · rw [if_neg both]
      dsimp only
      refine ⟨?_, endsKept_push _ _⟩
      rw [Array.toList_push, Array.toList_append]
      split
      · rename_i noRemoves
        rw [fits.removed noRemoves]
        constructor <;> simp
      · rename_i someRemoves
        have noAdds : p.adds = 0 := by omega
        rw [if_pos noAdds, fits.added noAdds]
        constructor <;> simp
  · split
    · -- a single change stays as it is
      rename_i few one
      refine ⟨?_, endsKept_push _ _⟩
      rw [Array.toList_push, Array.toList_push]
      split
      · rename_i oneAdd
        rw [fits.removed (by omega)]
        constructor <;> simp
      · rename_i noAdd
        rw [fits.added (by omega)]
        constructor <;> simp
    · -- nothing pending: the kept items join the last kept span
      rename_i few none
      rw [fits.removed (by omega), fits.added (by omega)]
      have quiet : ReadsAlike (out.toList ++ [⟨.removed, []⟩, ⟨.added, []⟩, ⟨.same, e⟩])
          (out.toList ++ [⟨.same, e⟩]) := by
        constructor <;> simp
      split
      · rename_i ys last
        exact ⟨(alike_extend_last last e).trans quiet.symm, endsKept_push _ _⟩
      · rw [Array.toList_push]
        exact ⟨quiet.symm, endsKept_push _ _⟩

/-- What gathering has made of the spans met so far: the spans closed, then the pending
changes, read as the spans met. -/
structure Gathered (acc : Array (Span α) × Pending α) (met : List (Span α)) : Prop where
  alike : ReadsAlike (acc.1.toList ++ [⟨.removed, acc.2.removed⟩, ⟨.added, acc.2.added⟩]) met
  fits : acc.2.Fits
  ends : EndsKept acc.1

theorem gathered_start : Gathered ((#[], Pending.empty) : Array (Span α) × Pending α) [] where
  alike := by constructor <;> simp [Pending.empty]
  fits := ⟨fun _ => rfl, fun _ => rfl⟩
  ends := by intro s held; simp at held

section Gather

variable [BEq α] [LawfulBEq α]

theorem gatherStep_gathered {acc : Array (Span α) × Pending α} {met : List (Span α)}
    (g : Gathered acc met) (s : Span α) : Gathered (gatherStep acc s) (met ++ [s]) := by
  have source := g.alike.source
  have target := g.alike.target
  simp only [Span.source_append, Span.source_cons, Span.source_nil, Span.target_append,
    Span.target_cons, Span.target_nil, reduceCtorEq, if_false, if_true, List.nil_append,
    List.append_nil] at source target
  obtain ⟨change, xs⟩ := s
  cases change with
  | added =>
    refine ⟨⟨?_, ?_⟩, ⟨g.fits.removed, fun none => by simp [gatherStep] at none⟩, g.ends⟩ <;>
      simp [gatherStep, ← source, ← target]
  | removed =>
    refine ⟨⟨?_, ?_⟩, ⟨fun none => by simp [gatherStep] at none, g.fits.added⟩, g.ends⟩ <;>
      simp [gatherStep, ← source, ← target]
  | same =>
    -- a kept span closes the pending changes
    obtain ⟨closed, ends⟩ := close_alike g.ends g.fits xs
    refine ⟨?_, ⟨fun _ => rfl, fun _ => rfl⟩, ends⟩
    have quiet : ReadsAlike ((close acc.1 acc.2 xs).toList ++ [⟨.removed, []⟩, ⟨.added, []⟩])
        (close acc.1 acc.2 xs).toList := by
      constructor <;> simp
    refine quiet.trans (closed.trans ?_)
    constructor <;> simp [← source, ← target]

theorem foldl_gathered (spans : List (Span α)) {acc : Array (Span α) × Pending α}
    {met : List (Span α)} (g : Gathered acc met) :
    Gathered (spans.foldl gatherStep acc) (met ++ spans) := by
  induction spans generalizing acc met with
  | nil => simpa using g
  | cons s spans ih =>
    simpa using ih (gatherStep_gathered g s)

theorem gather_alike (spans : List (Span α)) : ReadsAlike (gather spans).toList spans := by
  have g := foldl_gathered spans gathered_start
  rw [List.nil_append] at g
  -- the closing empty kept span closes the last pending changes
  have closed : ReadsAlike
      ((spans ++ [(⟨.same, []⟩ : Span α)]).foldl gatherStep (#[], Pending.empty)).1.toList spans := by
    rw [List.foldl_append, List.foldl_cons, List.foldl_nil]
    obtain ⟨alike, -⟩ := close_alike g.ends g.fits []
    refine alike.trans (ReadsAlike.trans ?_ g.alike)
    constructor <;> simp
  unfold gather
  dsimp only
  split
  · rename_i last held
    split
    · rename_i empty
      refine ReadsAlike.trans ?_ closed
      obtain ⟨init, split⟩ := List.getLast?_eq_some_iff.mp (by rw [Array.getLast?_toList]; exact held)
      rw [Array.toList_pop, split, List.dropLast_concat]
      exact (alike_drop_empty last (List.isEmpty_iff.mp empty) init).symm
    · exact closed
  · exact closed

end Gather

/-! ### Sliding single changes -/

theorem toList_window {a : Array (Span α)} {i : Nat} (inside : i + 1 < a.size) (after : 0 < i) :
    ∃ pre post, a.toList = pre ++ a.getD (i - 1) default :: a.getD i default ::
      a.getD (i + 1) default :: post ∧ pre.length + 1 = i := by
  have first : i - 1 < a.size := by omega
  have middle : i < a.size := by omega
  refine ⟨a.toList.take (i - 1), a.toList.drop (i + 2), ?_, by simp; omega⟩
  conv => lhs; rw [← List.take_append_drop (i - 1) a.toList]
  rw [List.drop_eq_getElem_cons (by simpa using first), show i - 1 + 1 = i by omega,
    List.drop_eq_getElem_cons (by simpa using middle), List.drop_eq_getElem_cons (by simpa using inside)]
  simp [first, middle, inside]

theorem window_left {β : Type} (pre post : List β) (x y z y' z' : β) {i : Nat}
    (place : pre.length + 1 = i) :
    (((pre ++ x :: y :: z :: post).set i y').set (i + 1) z').eraseIdx (i - 1) =
      pre ++ y' :: z' :: post := by
  subst place
  simp (disch := omega) only [List.set_append_right, List.eraseIdx_append_of_length_le]
  simp [Nat.add_assoc]

theorem window_right {β : Type} (pre post : List β) (x y z x' y' : β) {i : Nat}
    (place : pre.length + 1 = i) :
    (((pre ++ x :: y :: z :: post).set (i - 1) x').set i y').eraseIdx (i + 1) =
      pre ++ x' :: y' :: post := by
  subst place
  simp (disch := omega) only [List.set_append_right, List.eraseIdx_append_of_length_le]
  simp [Nat.add_assoc]

section Slide

variable [BEq α] [LawfulBEq α]

theorem slide_left_window (c : Change) (P C N : List α)
    (suffix : P.reverse.isPrefixOf C.reverse = true) :
    ReadsAlike [⟨c, P ++ C.take (C.length - P.length)⟩, ⟨.same, P ++ N⟩]
      [⟨.same, P⟩, ⟨c, C⟩, ⟨.same, N⟩] := by
  have split : C.take (C.length - P.length) ++ P = C :=
    List.suffix_iff_eq_append.mp (List.reverse_prefix.mp (List.isPrefixOf_iff_prefix.mp suffix))
  generalize C.take (C.length - P.length) = t at split ⊢
  subst split
  cases c <;> constructor <;> simp

theorem slide_right_window (c : Change) (P C N : List α) (start : N.isPrefixOf C = true) :
    ReadsAlike [⟨.same, P ++ N⟩, ⟨c, C.drop N.length ++ N⟩] [⟨.same, P⟩, ⟨c, C⟩, ⟨.same, N⟩] := by
  obtain ⟨t, rfl⟩ := List.isPrefixOf_iff_prefix.mp start
  cases c <;> constructor <;> simp

theorem slide_alike (fuel : Nat) (a : Array (Span α)) (i : Nat) (moved : Bool) :
    ReadsAlike (slide fuel a i moved).1.toList a.toList := by
  induction fuel generalizing a i moved with
  | zero => exact ReadsAlike.refl _
  | succ fuel ih =>
    unfold slide
    split
    · rename_i bounds
      obtain ⟨pre, post, window, place⟩ := toList_window bounds.1 bounds.2
      dsimp only
      generalize a.getD (i - 1) default = prev at window ⊢
      generalize a.getD i default = cur at window ⊢
      generalize a.getD (i + 1) default = next at window ⊢
      obtain ⟨pc, P⟩ := prev
      obtain ⟨c, C⟩ := cur
      obtain ⟨nc, N⟩ := next
      split
      · rename_i kept
        obtain ⟨rfl, rfl⟩ : pc = .same ∧ nc = .same := kept
        split
        · rename_i suffix
          refine (ih _ _ _).trans ?_
          rw [Array.toList_eraseIdxIfInBounds, Array.toList_setIfInBounds,
            Array.toList_setIfInBounds, window, window_left _ _ _ _ _ _ _ place]
          exact (ReadsAlike.refl pre).append ((slide_left_window c P C N suffix).append (.refl post))
        · split
          · rename_i start
            refine (ih _ _ _).trans ?_
            rw [Array.toList_eraseIdxIfInBounds, Array.toList_setIfInBounds,
              Array.toList_setIfInBounds, window, window_right _ _ _ _ _ _ _ place]
            exact (ReadsAlike.refl pre).append ((slide_right_window c P C N start).append (.refl post))
          · exact ih _ _ _
      · exact ih _ _ _
    · exact ReadsAlike.refl _

theorem tidyFor_alike (fuel : Nat) (spans : List (Span α)) : ReadsAlike (tidyFor fuel spans) spans := by
  induction fuel generalizing spans with
  | zero => exact ReadsAlike.refl _
  | succ fuel ih =>
    have slid := (slide_alike (gather spans).size (gather spans) 1 false).trans (gather_alike spans)
    unfold tidyFor
    dsimp only
    generalize slide (gather spans).size (gather spans) 1 false = result at slid ⊢
    obtain ⟨a, moved⟩ := result
    split
    · exact (ih _).trans slid
    · exact slid

theorem tidy_alike (spans : List (Span α)) : ReadsAlike (tidy spans) spans := tidyFor_alike _ _

end Slide

/-! ### Splitting at a long common run -/

/-- A cut splits two sequences around one common run. -/
structure Cut.Splits (c : Cut α) (a b : List α) : Prop where
  first : c.firstBefore ++ c.common ++ c.firstAfter = a
  second : c.secondBefore ++ c.common ++ c.secondAfter = b

theorem take_drop_around (xs : List α) {k q : Nat} (p : Nat) (before : q ≤ k) :
    (xs.drop (k - q)).take (q + p) = (xs.take k).drop (k - q) ++ (xs.drop k).take p := by
  rw [List.take_add, List.drop_take, show k - (k - q) = q by omega, List.drop_drop,
    show k - q + q = k by omega]

theorem Cut.Splits.swap {c : Cut α} {a b : List α} (splits : c.Splits a b) :
    Cut.Splits ⟨c.secondBefore, c.secondAfter, c.firstBefore, c.firstAfter, c.common⟩ b a :=
  ⟨splits.second, splits.first⟩

theorem better_cut {x y : Option (Cut α)} {c : Cut α}
    (picked : (match x, y with
      | none, none => none
      | some c, none => some c
      | none, some c => some c
      | some c1, some c2 => if c1.common.length > c2.common.length then some c1 else some c2) = some c) :
    x = some c ∨ y = some c := by
  split at picked
  · cases picked
  · exact .inl picked
  · exact .inr picked
  · split at picked
    · exact .inl picked
    · exact .inr picked

section Cuts

variable [BEq α] [LawfulBEq α]

theorem cut_splits (l s : List α) {i j : Nat} (hi : i ≤ l.length) (hj : j ≤ s.length) :
    let p := prefixLength (l.drop i) (s.drop j)
    let q := suffixLength (l.take i) (s.take j)
    Cut.Splits ⟨l.take (i - q), l.drop (i + p), s.take (j - q), s.drop (j + p),
      (s.drop (j - q)).take (q + p)⟩ l s := by
  intro p q
  have qi : q ≤ i := by
    have := suffixLength_le_left (l.take i) (s.take j)
    simp only [List.length_take] at this
    omega
  have qj : q ≤ j := by
    have := suffixLength_le_right (l.take i) (s.take j)
    simp only [List.length_take] at this
    omega
  have back : (l.take i).drop (i - q) = (s.take j).drop (j - q) := by
    have ends := drop_suffixLength (l.take i) (s.take j)
    rwa [List.length_take, List.length_take, Nat.min_eq_left hi, Nat.min_eq_left hj] at ends
  have run : (s.drop (j - q)).take (q + p) = (l.drop (i - q)).take (q + p) := by
    rw [take_drop_around s p qj, take_drop_around l p qi, back, take_prefixLength]
  have whole (xs : List α) (k : Nat) (qk : q ≤ k) :
      xs.take (k - q) ++ (xs.drop (k - q)).take (q + p) ++ xs.drop (k + p) = xs := by
    rw [List.append_assoc, show k + p = (k - q) + (q + p) by omega, ← List.drop_drop,
      List.take_append_drop, List.take_append_drop]
  exact ⟨by rw [run]; exact whole l i qi, whole s j qj⟩

theorem cutAt_splits {l s : List α} {i : Nat} (hi : i ≤ l.length) {c : Cut α}
    (found : cutAt l s i = some c) : c.Splits l s := by
  unfold cutAt at found
  dsimp only at found
  split at found
  · cases found
  · refine List.foldlRecOn (motive := fun best : Nat × Option (Cut α) => ∀ c, best.2 = some c → c.Splits l s)
      _ _ ?start ?step c found
    case start => intro c none; cases none
    intro best kept j seen
    have hj : j ≤ s.length := by
      simp only [occurrences, List.mem_filter, List.mem_range] at seen
      omega
    split
    · intro c found
      cases found
      exact cut_splits l s hi hj
    · exact kept

theorem quarter_cuts_split {l s : List α} (enough : ¬(l.length < 4 ∨ s.length * 2 < l.length))
    {c : Cut α} (found : cutAt l s ((l.length + 3) / 4) = some c ∨ cutAt l s ((l.length + 1) / 2) = some c) :
    c.Splits l s := by
  rcases found with found | found
  · exact cutAt_splits (by omega) found
  · exact cutAt_splits (by omega) found

theorem halfCut_splits {a b : List α} {c : Cut α} (found : halfCut a b = some c) : c.Splits a b := by
  unfold halfCut at found
  by_cases longer : a.length > b.length
  · rw [if_pos longer] at found
    dsimp only at found
    split at found
    · cases found
    · rename_i enough
      obtain ⟨c, picked, rfl⟩ := Option.map_eq_some_iff.mp found
      exact quarter_cuts_split enough (better_cut picked)
  · rw [if_neg longer] at found
    dsimp only at found
    split at found
    · cases found
    · rename_i enough
      obtain ⟨c, picked, rfl⟩ := Option.map_eq_some_iff.mp found
      exact (quarter_cuts_split enough (better_cut picked)).swap

end Cuts

/-! ### Settling the middle and the whole search -/

theorem inside_edits_removed {a b : List α} {i : Nat} (inside : b <+: a.drop i) :
    Edits a b [⟨.removed, a.take i⟩, ⟨.same, b⟩, ⟨.removed, a.drop (i + b.length)⟩] := by
  obtain ⟨t, split⟩ := inside
  have rest : t = a.drop (i + b.length) := by
    rw [← List.drop_drop, ← split, List.drop_left]
  subst rest
  constructor
  · simp only [Span.source_cons, Span.source_nil, reduceCtorEq, if_false, List.append_nil]
    rw [split, List.take_append_drop]
  · simp

theorem inside_edits_added {a b : List α} {i : Nat} (inside : a <+: b.drop i) :
    Edits a b [⟨.added, b.take i⟩, ⟨.same, a⟩, ⟨.added, b.drop (i + a.length)⟩] := by
  obtain ⟨t, split⟩ := inside
  have rest : t = b.drop (i + a.length) := by
    rw [← List.drop_drop, ← split, List.drop_left]
  subst rest
  constructor
  · simp
  · simp only [Span.target_cons, Span.target_nil, reduceCtorEq, if_false, List.append_nil]
    rw [split, List.take_append_drop]

section Settle

variable [BEq α] [LawfulBEq α]

theorem mem_occurrences {seed s : List α} {j : Nat} (found : j ∈ occurrences seed s) :
    seed <+: s.drop j := by
  simp only [occurrences, List.mem_filter] at found
  exact List.isPrefixOf_iff_prefix.mp found.2

theorem settle_split_edits {recur : List α → List α → List (Span α)}
    (solves : ∀ x y, Edits x y (recur x y)) (a b : List α) :
    Edits a b (match halfCut a b with
      | some c => recur c.firstBefore c.secondBefore ++ [⟨.same, c.common⟩] ++ recur c.firstAfter c.secondAfter
      | none =>
        match (Grid.mk a b a.reverse b.reverse).middle with
        | some (x, y) => recur (a.take x.toNat) (b.take y.toNat) ++ recur (a.drop x.toNat) (b.drop y.toNat)
        | none => [⟨.removed, a⟩, ⟨.added, b⟩]) := by
  split
  · rename_i c cut
    have splits := halfCut_splits cut
    rw [← splits.first, ← splits.second]
    exact ((solves _ _).append ⟨by simp, by simp⟩).append (solves _ _)
  · split
    · rename_i x y _
      have halves := (solves (a.take x.toNat) (b.take y.toNat)).append
        (solves (a.drop x.toNat) (b.drop y.toNat))
      rwa [List.take_append_drop, List.take_append_drop] at halves
    · constructor <;> simp

theorem settle_edits {recur : List α → List α → List (Span α)}
    (solves : ∀ x y, Edits x y (recur x y)) (a b : List α) : Edits a b (settle recur a b) := by
  unfold settle
  split
  · rename_i empty
    rw [List.isEmpty_iff.mp empty]
    constructor <;> simp
  · split
    · rename_i empty
      rw [List.isEmpty_iff.mp empty]
      constructor <;> simp
    · by_cases longer : a.length > b.length
      · rw [if_pos longer, if_pos longer]
        dsimp only
        split
        · rename_i i first
          exact inside_edits_removed (mem_occurrences (List.mem_of_mem_head? first))
        · split
          · constructor <;> simp
          · exact settle_split_edits solves a b
      · rw [if_neg longer, if_neg longer]
        dsimp only
        split
        · rename_i i first
          exact inside_edits_added (mem_occurrences (List.mem_of_mem_head? first))
        · split
          · constructor <;> simp
          · exact settle_split_edits solves a b

/-- Every script that the search finds edits its first sequence into its second, whatever the
budget of nested splits: the common ends are kept, the middle is settled, and tidying keeps what
the script reads. -/
theorem diffFor_edits (fuel : Nat) (a b : List α) : Edits a b (diffFor fuel a b) := by
  induction fuel generalizing a b with
  | zero => constructor <;> simp [diffFor]
  | succ fuel ih =>
    rw [diffFor]
    split
    · rename_i same
      obtain rfl := beq_iff_eq.mp same
      split
      · rename_i empty
        rw [List.isEmpty_iff.mp empty]
        constructor <;> rfl
      · constructor <;> simp
    · dsimp only
      refine (tidy_alike _).edits ?_
      -- the common leading items, the settled middle and the common trailing items
      have front : Edits (a.take (prefixLength a b)) (b.take (prefixLength a b))
          (if prefixLength a b = 0 then [] else [⟨.same, a.take (prefixLength a b)⟩]) := by
        split
        · rename_i none
          rw [none]
          constructor <;> simp
        · constructor
          · simp
          · simp only [Span.target_cons, Span.target_nil, reduceCtorEq, if_false, List.append_nil]
            exact take_prefixLength a b
      generalize prefixLength a b = n at front
      have back : Edits ((a.drop n).drop ((a.drop n).length - suffixLength (a.drop n) (b.drop n)))
          ((b.drop n).drop ((b.drop n).length - suffixLength (a.drop n) (b.drop n)))
          (if suffixLength (a.drop n) (b.drop n) = 0 then []
            else [⟨.same, (a.drop n).drop ((a.drop n).length - suffixLength (a.drop n) (b.drop n))⟩]) := by
        split
        · rename_i none
          rw [none]
          constructor <;> simp only [Nat.sub_zero, List.drop_length, Span.source_nil, Span.target_nil]
        · constructor
          · simp
          · simp only [Span.target_cons, Span.target_nil, reduceCtorEq, if_false, List.append_nil]
            exact drop_suffixLength _ _
      generalize suffixLength (a.drop n) (b.drop n) = k at back ⊢
      have whole := (front.append (settle_edits ih ((a.drop n).take ((a.drop n).length - k))
        ((b.drop n).take ((b.drop n).length - k)))).append back
      rwa [List.append_assoc, List.take_append_drop, List.take_append_drop, List.append_assoc,
        List.take_append_drop, List.take_append_drop] at whole

theorem diff_edits (a b : List α) : Edits a b (diff a b) := diffFor_edits _ a b

theorem diff_self (a : List α) : diff a a = if a.isEmpty then [] else [⟨.same, a⟩] := by
  rw [diff, diffFor, if_pos (beq_self_eq_true a)]

end Settle

end HeaderAudit.Compare
