import Mathlib
import HeaderAudit.Highlight.Segment
/-!
Placing candidates one after another keeps segments apart and in order, and keeps the last candidate
of the highest rank.
-/

namespace HeaderAudit.Segment

def placeAll (cands : List Segment) : List Segment := cands.foldl place []

def Apart (a b : Segment) : Prop := a.meets b.start b.stop = false

instance (a b : Segment) : Decidable (Apart a b) := inferInstanceAs (Decidable (_ = false))

theorem meets_comm (a b : Segment) : a.meets b.start b.stop = b.meets a.start a.stop := by
  simp only [meets, decide_eq_decide]
  exact and_comm

/-- What one placement does: a candidate that meets a segment of higher rank is refused and the
segments stay; otherwise every segment it meets goes, none of them of higher rank, and the
candidate goes last. -/
theorem place_cases (segs : List Segment) (c : Segment) :
    ((∃ s ∈ segs, c.shade.rank < s.shade.rank ∧ s.meets c.start c.stop = true) ∧
        place segs c = segs) ∨
      ((∀ s ∈ segs, s.meets c.start c.stop = true → s.shade.rank ≤ c.shade.rank) ∧
        place segs c = segs.filter (fun s => !s.meets c.start c.stop) ++ [c]) := by
  by_cases blocked : segs.any fun s => s.shade.rank > c.shade.rank ∧ s.meets c.start c.stop
  · left
    obtain ⟨s, member, higher⟩ := List.any_eq_true.mp blocked
    rw [decide_eq_true_eq] at higher
    exact ⟨⟨s, member, higher⟩, place_blocked segs c blocked⟩
  · right
    constructor
    · intro s member meets
      have free := List.any_eq_false.mp (Bool.eq_false_iff.mpr blocked) s member
      rw [decide_eq_true_eq] at free
      by_contra higher
      exact free ⟨Nat.lt_of_not_le higher, meets⟩
    · simp only [place]
      rw [if_neg blocked]

theorem place_of_rank_le {segs : List Segment} (c : Segment)
    (atMost : ∀ s ∈ segs, s.shade.rank ≤ c.shade.rank) :
    place segs c = segs.filter (fun s => !s.meets c.start c.stop) ++ [c] := by
  rcases place_cases segs c with ⟨⟨s, member, higher, -⟩, -⟩ | ⟨-, placed⟩
  · have := atMost s member
    omega
  · exact placed

theorem place_apart {segs : List Segment} (c : Segment) (apart : segs.Pairwise Apart) :
    (place segs c).Pairwise Apart := by
  rcases place_cases segs c with ⟨-, kept⟩ | ⟨-, placed⟩
  · rw [kept]
    exact apart
  · rw [placed, List.pairwise_append]
    refine ⟨apart.sublist List.filter_sublist, List.pairwise_singleton _ _, ?_⟩
    intro s member d single
    rw [List.mem_singleton] at single
    subst single
    have missed := (List.mem_filter.mp member).2
    rw [Bool.not_eq_true'] at missed
    exact missed

theorem place_sublist {segs done : List Segment} (c : Segment) (sub : segs.Sublist done) :
    (place segs c).Sublist (done ++ [c]) := by
  rcases place_cases segs c with ⟨-, kept⟩ | ⟨-, placed⟩
  · rw [kept]
    exact sub.trans (List.sublist_append_left done [c])
  · rw [placed]
    exact (List.filter_sublist.trans sub).append (List.Sublist.refl [c])

theorem mem_place_of_lt {segs : List Segment} {s : Segment} (c : Segment) (member : s ∈ segs)
    (lower : c.shade.rank < s.shade.rank) : s ∈ place segs c := by
  rcases place_cases segs c with ⟨-, kept⟩ | ⟨atMost, placed⟩
  · rw [kept]
    exact member
  · have missed : s.meets c.start c.stop = false := by
      by_contra meets
      have := atMost s member (Bool.not_eq_false _ ▸ meets)
      omega
    rw [placed]
    apply List.mem_append_left
    exact List.mem_filter.mpr ⟨member, by rw [missed]; rfl⟩

theorem placeAll_append_singleton (cands : List Segment) (c : Segment) :
    placeAll (cands ++ [c]) = place (placeAll cands) c := by
  simp only [placeAll, List.foldl_append, List.foldl_cons, List.foldl_nil]

theorem placeAll_apart (cands : List Segment) : (placeAll cands).Pairwise Apart := by
  induction cands using List.reverseRecOn with
  | nil => exact List.Pairwise.nil
  | append_singleton cands c ih =>
    rw [placeAll_append_singleton]
    exact place_apart c ih

theorem placeAll_sublist (cands : List Segment) : (placeAll cands).Sublist cands := by
  induction cands using List.reverseRecOn with
  | nil => exact List.Sublist.slnil
  | append_singleton cands c ih =>
    rw [placeAll_append_singleton]
    exact place_sublist c ih

theorem mem_foldl_place {segs : List Segment} {s : Segment} (later : List Segment)
    (member : s ∈ segs) (lower : ∀ d ∈ later, d.shade.rank < s.shade.rank) :
    s ∈ later.foldl place segs := by
  induction later generalizing segs with
  | nil => exact member
  | cons d later ih =>
    apply ih (mem_place_of_lt d member (lower d List.mem_cons_self))
    intro e inLater
    exact lower e (List.mem_cons_of_mem d inLater)

theorem mem_placeAll_of_top (pre post : List Segment) (c : Segment)
    (atMost : ∀ d ∈ pre, d.shade.rank ≤ c.shade.rank)
    (below : ∀ d ∈ post, d.shade.rank < c.shade.rank) : c ∈ placeAll (pre ++ c :: post) := by
  have placed : c ∈ placeAll (pre ++ [c]) := by
    rw [placeAll_append_singleton, place_of_rank_le c]
    · exact List.mem_append_right _ (List.mem_singleton_self c)
    · intro s member
      exact atMost s ((placeAll_sublist pre).subset member)
  have split : placeAll (pre ++ c :: post) = post.foldl place (placeAll (pre ++ [c])) := by
    simp only [placeAll, List.foldl_append, List.foldl_cons, List.foldl_nil]
  rw [split]
  exact mem_foldl_place post placed below

/-- Placement from no segments leaves segments that are pairwise apart, in the order of their
candidates, holding the last candidate of the highest rank; and each placement either refuses a
candidate that meets a segment of higher rank, or drops exactly the segments the candidate
meets, none of higher rank, and puts the candidate last. -/
theorem placeAll_apart_sublist_mem_top :
    (∀ cands : List Segment,
      (placeAll cands).Pairwise Apart ∧ (placeAll cands).Sublist cands ∧
        ∀ pre c post, cands = pre ++ c :: post →
          (∀ d ∈ pre, d.shade.rank ≤ c.shade.rank) →
          (∀ d ∈ post, d.shade.rank < c.shade.rank) → c ∈ placeAll cands) ∧
    ∀ (segs : List Segment) (c : Segment),
      ((∃ s ∈ segs, c.shade.rank < s.shade.rank ∧ s.meets c.start c.stop = true) ∧
          place segs c = segs) ∨
        ((∀ s ∈ segs, s.meets c.start c.stop = true → s.shade.rank ≤ c.shade.rank) ∧
          place segs c = segs.filter (fun s => !s.meets c.start c.stop) ++ [c]) := by
  refine ⟨fun cands => ⟨placeAll_apart cands, placeAll_sublist cands, ?_⟩, place_cases⟩
  intro pre c post split atMost below
  rw [split]
  exact mem_placeAll_of_top pre post c atMost below

/-- Candidates that come in order of rank are never refused, so nothing they leave lies under a
candidate of higher rank: the higher one came later, was placed, and dropped what it met. -/
theorem placeAll_apart_of_higher (cands : List Segment)
    (ranked : cands.Pairwise fun a b => a.shade.rank ≤ b.shade.rank) :
    ∀ s ∈ placeAll cands, ∀ d ∈ cands, s.shade.rank < d.shade.rank → Apart s d := by
  induction cands using List.reverseRecOn with
  | nil =>
    intro s survivor
    simp [placeAll] at survivor
  | append_singleton cands c ih =>
    obtain ⟨rankedBefore, -, upTo⟩ := List.pairwise_append.mp ranked
    have atMost : ∀ d ∈ cands, d.shade.rank ≤ c.shade.rank :=
      fun d member => upTo d member c (List.mem_singleton_self c)
    have present : ∀ s ∈ placeAll cands, s.shade.rank ≤ c.shade.rank :=
      fun s member => atMost s ((placeAll_sublist cands).subset member)
    rw [placeAll_append_singleton, place_of_rank_le c present]
    intro s survivor d candidate higher
    rcases List.mem_append.mp survivor with kept | last
    · obtain ⟨before, missed⟩ := List.mem_filter.mp kept
      rcases List.mem_append.mp candidate with earlier | latest
      · exact ih rankedBefore s before d earlier higher
      · rw [List.mem_singleton] at latest
        subst latest
        rw [Bool.not_eq_true'] at missed
        exact missed
    · rw [List.mem_singleton] at last
      subst last
      rcases List.mem_append.mp candidate with earlier | latest
      · have := atMost d earlier
        omega
      · rw [List.mem_singleton] at latest
        subst latest
        exact absurd higher (Nat.lt_irrefl _)

theorem placeAll_apart_of_higher_ranked :
    ([⟨0, 2, .red⟩, ⟨4, 6, .red⟩, ⟨1, 5, .yellow⟩, ⟨5, 8, .green⟩] : List Segment).Pairwise
        (fun a b => a.shade.rank ≤ b.shade.rank) ∧
      ∀ s ∈ placeAll [⟨0, 2, .red⟩, ⟨4, 6, .red⟩, ⟨1, 5, .yellow⟩, ⟨5, 8, .green⟩],
        ∀ d ∈ ([⟨0, 2, .red⟩, ⟨4, 6, .red⟩, ⟨1, 5, .yellow⟩, ⟨5, 8, .green⟩] : List Segment),
          s.shade.rank < d.shade.rank → Apart s d :=
  ⟨by decide, placeAll_apart_of_higher _ (by decide)⟩

/-- Out of order of rank a lower segment can outlive a higher candidate that met it: yellow meets
red but is refused by green, which does not meet red, so red stays under yellow's stretch. -/
theorem placeAll_lower_under_refused :
    ¬ ∀ s ∈ placeAll [⟨0, 2, .red⟩, ⟨2, 5, .green⟩, ⟨1, 3, .yellow⟩],
      ∀ d ∈ ([⟨0, 2, .red⟩, ⟨2, 5, .green⟩, ⟨1, 3, .yellow⟩] : List Segment),
        s.shade.rank < d.shade.rank → Apart s d := by
  decide

end HeaderAudit.Segment
