import HeaderAudit.Highlight.Run
import HeaderAudit.Proofs.Highlight.Placement
/-!
The runs of a line are nonempty, spell the line, and each is unshaded or the stretch of a segment.
-/

namespace HeaderAudit.Highlight

open Segment (Apart)

def placed : Nat → List Run → List (Nat × Run)
  | _, [] => []
  | o, r :: rs => (o, r) :: placed (o + r.text.length) rs

def segmentRun (cs : List Char) (s : Segment) : Run :=
  ⟨slice cs s.start.toNat s.stop.toNat, s.shade⟩

/-- A segment fits a line of `n` code points: it starts at 0 or later, is not reversed, and ends
within the line. -/
def Fits (n : Nat) (s : Segment) : Prop := 0 ≤ s.start ∧ s.start ≤ s.stop ∧ s.stop ≤ n

instance (n : Nat) (s : Segment) : Decidable (Fits n s) := inferInstanceAs (Decidable (_ ∧ _))

/-! ### Stretches of a line -/

theorem toList_slice (cs : List Char) (a b : Nat) :
    (slice cs a b).toList = (cs.drop a).take (b - a) := by
  simp only [slice, String.toList_ofList]

theorem length_slice {cs : List Char} {a b : Nat} (within : b ≤ cs.length) :
    (slice cs a b).length = b - a := by
  rw [← String.length_toList, toList_slice, List.length_take, List.length_drop]
  omega

theorem slice_ne_empty {cs : List Char} {a b : Nat} (ordered : a < b) (within : b ≤ cs.length) :
    slice cs a b ≠ "" := by
  intro empty
  have := length_slice (a := a) within
  rw [empty, String.length_empty] at this
  omega

theorem slice_append_drop (cs : List Char) {a b : Nat} (ordered : a ≤ b) :
    (slice cs a b).toList ++ cs.drop b = cs.drop a := by
  have later : cs.drop b = (cs.drop a).drop (b - a) := by
    rw [List.drop_drop]
    congr 1
    omega
  rw [toList_slice, later, List.take_append_drop]

theorem flatMap_piece (cs : List Char) (a b : Nat) (shade : Shade) :
    (if b > a then [(⟨slice cs a b, shade⟩ : Run)] else []).flatMap (·.text.toList) =
      (slice cs a b).toList := by
  split
  · simp
  · have nothing : b - a = 0 := by omega
    simp [toList_slice, nothing]

theorem kept_bounds {cs : List Char} {pos : Nat} {s : Segment}
    (kept : ¬(s.start < 0 ∨ s.stop > cs.length ∨ s.start > s.stop ∨ s.start < pos)) :
    pos ≤ s.start.toNat ∧ s.start.toNat ≤ s.stop.toNat ∧ s.stop.toNat ≤ cs.length ∧
      Fits cs.length s := by
  simp only [Fits]
  omega

/-! ### The runs spell the line -/

theorem flatMap_runsFrom (cs : List Char) (segs : List Segment) {pos : Nat}
    (within : pos ≤ cs.length) : (runsFrom cs pos segs).flatMap (·.text.toList) = cs.drop pos := by
  induction segs generalizing pos with
  | nil =>
    simp only [runsFrom]
    split
    · have rest : (cs.drop pos).take (cs.length - pos) = cs.drop pos :=
        List.take_of_length_le (by simp)
      simp [toList_slice, rest]
    · have ended : cs.length ≤ pos := by omega
      simp [List.drop_of_length_le ended]
  | cons s rest ih =>
    simp only [runsFrom]
    split
    · exact ih within
    · rename_i kept
      obtain ⟨after, ordered, inside, -⟩ := kept_bounds kept
      simp only [List.flatMap_append, flatMap_piece, ih inside, List.append_assoc]
      rw [slice_append_drop cs ordered, slice_append_drop cs after]

theorem text_ne_of_mem_runsFrom {cs : List Char} {pos : Nat} {segs : List Segment} {r : Run}
    (member : r ∈ runsFrom cs pos segs) : r.text ≠ "" := by
  induction segs generalizing pos with
  | nil =>
    simp only [runsFrom] at member
    split at member
    · rw [List.mem_singleton.mp member]
      exact slice_ne_empty (by omega) (Nat.le_refl _)
    · exact absurd member List.not_mem_nil
  | cons s rest ih =>
    simp only [runsFrom] at member
    split at member
    · exact ih member
    · rename_i kept
      obtain ⟨-, -, inside, -⟩ := kept_bounds kept
      simp only [List.mem_append] at member
      rcases member with (gap | drawn) | later
      · split at gap
        · rw [List.mem_singleton.mp gap]
          exact slice_ne_empty (by omega) (by omega)
        · exact absurd gap List.not_mem_nil
      · split at drawn
        · rw [List.mem_singleton.mp drawn]
          exact slice_ne_empty (by omega) inside
        · exact absurd drawn List.not_mem_nil
      · exact ih later

/-! ### Where the runs stand -/

theorem placed_append (o : Nat) (xs ys : List Run) :
    placed o (xs ++ ys) = placed o xs ++ placed (o + (xs.flatMap (·.text.toList)).length) ys := by
  induction xs generalizing o with
  | nil => simp [placed]
  | cons x xs ih =>
    simp only [List.cons_append, placed, ih, List.flatMap_cons, List.length_append,
      String.length_toList, Nat.add_assoc]

theorem le_of_mem_placed {o : Nat} {rs : List Run} {p : Nat × Run} (member : p ∈ placed o rs) :
    o ≤ p.1 := by
  induction rs generalizing o with
  | nil => exact absurd member List.not_mem_nil
  | cons r rs ih =>
    rcases List.mem_cons.mp member with rfl | later
    · exact Nat.le_refl _
    · have := ih later
      omega

theorem placed_ascending (o : Nat) {rs : List Run} (nonempty : ∀ r ∈ rs, r.text ≠ "") :
    (placed o rs).Pairwise fun p q => p.1 < q.1 := by
  induction rs generalizing o with
  | nil => exact List.Pairwise.nil
  | cons r rs ih =>
    refine List.Pairwise.cons (fun q member => ?_) (ih _ fun r' m => nonempty r' (.tail r m))
    have longer : 0 < r.text.length := by
      rw [← String.length_toList, List.length_pos_iff]
      exact fun empty => nonempty r List.mem_cons_self (String.toList_eq_nil_iff.mp empty)
    have := le_of_mem_placed member
    simp only at this ⊢
    omega

theorem mem_placed_piece {cs : List Char} {o a b : Nat} {shade : Shade} {p : Nat × Run}
    (member : p ∈ placed o (if b > a then [(⟨slice cs a b, shade⟩ : Run)] else [])) :
    a < b ∧ p = (o, ⟨slice cs a b, shade⟩) := by
  split at member
  · rename_i longer
    simp only [placed, List.mem_singleton] at member
    exact ⟨longer, member⟩
  · exact absurd member List.not_mem_nil

theorem placed_drawn {cs : List Char} {pos : Nat} {s : Segment} (rest : List Segment)
    (kept : ¬(s.start < 0 ∨ s.stop > cs.length ∨ s.start > s.stop ∨ s.start < pos)) :
    placed pos (runsFrom cs pos (s :: rest)) =
      placed pos (if s.start.toNat > pos then [⟨slice cs pos s.start.toNat, .none⟩] else []) ++
        placed s.start.toNat (if s.stop.toNat > s.start.toNat then
          [⟨slice cs s.start.toNat s.stop.toNat, s.shade⟩] else []) ++
        placed s.stop.toNat (runsFrom cs s.stop.toNat rest) := by
  obtain ⟨after, ordered, inside, -⟩ := kept_bounds kept
  have gapLength : (slice cs pos s.start.toNat).toList.length = s.start.toNat - pos := by
    rw [String.length_toList, length_slice (by omega)]
  have segLength : (slice cs s.start.toNat s.stop.toNat).toList.length =
      s.stop.toNat - s.start.toNat := by
    rw [String.length_toList, length_slice inside]
  have atStart : pos + (s.start.toNat - pos) = s.start.toNat := by omega
  have atStop : pos + (s.start.toNat - pos + (s.stop.toNat - s.start.toNat)) = s.stop.toNat := by
    omega
  simp only [runsFrom, if_neg kept, placed_append, List.flatMap_append, flatMap_piece,
    List.length_append, gapLength, segLength, atStart, atStop]

theorem mem_placed_runsFrom {cs : List Char} {pos : Nat} {segs : List Segment} {p : Nat × Run}
    (member : p ∈ placed pos (runsFrom cs pos segs)) :
    p.2.shade = .none ∨
      ∃ s ∈ segs, Fits cs.length s ∧ s.start < s.stop ∧ p = (s.start.toNat, segmentRun cs s) := by
  induction segs generalizing pos with
  | nil =>
    simp only [runsFrom] at member
    split at member
    · simp only [placed, List.mem_singleton] at member
      exact .inl (by rw [member])
    · exact absurd member List.not_mem_nil
  | cons s rest ih =>
    by_cases skipped : s.start < 0 ∨ s.stop > cs.length ∨ s.start > s.stop ∨ s.start < pos
    · simp only [runsFrom, if_pos skipped] at member
      rcases ih member with unshaded | ⟨t, held, drawn⟩
      · exact .inl unshaded
      · exact .inr ⟨t, .tail s held, drawn⟩
    · obtain ⟨-, ordered, -, fits⟩ := kept_bounds skipped
      rw [placed_drawn rest skipped] at member
      rcases List.mem_append.mp member with gapOrDrawn | later
      rcases List.mem_append.mp gapOrDrawn with gap | drawn
      · obtain ⟨-, rfl⟩ := mem_placed_piece gap
        exact .inl rfl
      · obtain ⟨longer, rfl⟩ := mem_placed_piece drawn
        exact .inr ⟨s, List.mem_cons_self, fits, by omega, rfl⟩
      · rcases ih later with unshaded | ⟨t, held, drawn⟩
        · exact .inl unshaded
        · exact .inr ⟨t, .tail s held, drawn⟩

theorem unshaded_of_uncovered {cs : List Char} {pos : Nat} {segs : List Segment} {p : Nat × Run}
    (member : p ∈ placed pos (runsFrom cs pos segs)) {k : Nat} (from_ : p.1 ≤ k)
    (below : k < p.1 + p.2.text.length) (uncovered : ∀ s ∈ segs, ¬(s.start ≤ k ∧ k < s.stop)) :
    p.2.shade = .none := by
  rcases mem_placed_runsFrom member with unshaded | ⟨s, held, fits, -, rfl⟩
  · exact unshaded
  · have stretch : (segmentRun cs s).text.length = s.stop.toNat - s.start.toNat :=
      length_slice (by obtain ⟨-, -, _⟩ := fits; omega)
    rw [stretch] at below
    obtain ⟨nonneg, ordered, -⟩ := fits
    exact absurd ⟨by simp only at from_; omega, by simp only at below; omega⟩ (uncovered s held)

/-- Segments sorted by start, fitting the line and apart, with every nonempty one starting at or
after `pos`: none is skipped, so each nonempty one is drawn at its start. After a drawn segment the
next nonempty one starts at or after its end, since it starts no earlier and does not meet it. -/
theorem segment_mem_placed_runsFrom {cs : List Char} {pos : Nat} {segs : List Segment}
    (sorted : segs.Pairwise fun a b => a.start ≤ b.start) (apart : segs.Pairwise Apart)
    (fits : ∀ s ∈ segs, Fits cs.length s) (after : ∀ s ∈ segs, s.start < s.stop → pos ≤ s.start)
    {s : Segment} (member : s ∈ segs) (nonempty : s.start < s.stop) :
    (s.start.toNat, segmentRun cs s) ∈ placed pos (runsFrom cs pos segs) := by
  induction segs generalizing pos with
  | nil => exact absurd member List.not_mem_nil
  | cons t rest ih =>
    obtain ⟨startsBefore, sortedRest⟩ := List.pairwise_cons.mp sorted
    obtain ⟨apartFrom, apartRest⟩ := List.pairwise_cons.mp apart
    have fitsRest : ∀ u ∈ rest, Fits cs.length u := fun u m => fits u (.tail t m)
    by_cases skipped : t.start < 0 ∨ t.stop > cs.length ∨ t.start > t.stop ∨ t.start < pos
    · simp only [runsFrom, if_pos skipped]
      obtain ⟨nonneg, ordered, inside⟩ := fits t List.mem_cons_self
      -- only a segment starting before `pos` is skipped, and that one is empty
      have empty : ¬t.start < t.stop := fun longer =>
        absurd (after t List.mem_cons_self longer) (by omega)
      rcases List.mem_cons.mp member with rfl | inRest
      · exact absurd nonempty empty
      · exact ih sortedRest apartRest fitsRest (fun u m => after u (.tail t m)) inRest
    · rw [placed_drawn rest skipped]
      rcases List.mem_cons.mp member with rfl | inRest
      · have longer : s.stop.toNat > s.start.toNat := by omega
        simp only [longer, if_true, placed, List.mem_append, List.mem_singleton]
        exact .inl (.inr rfl)
      · refine List.mem_append_right _ ?_
        refine ih sortedRest apartRest fitsRest (fun u m longer => ?_) inRest
        -- a later segment starts no earlier than `t` and does not meet it, so it starts at its end
        have noEarlier := startsBefore u m
        have missed : ¬(u.start < t.stop ∧ u.stop > t.start) := by
          have := apartFrom u m
          simpa [Apart, Segment.meets] using this
        obtain ⟨nonneg, -, -⟩ := fits t List.mem_cons_self
        omega

/-! ### The runs of a line -/

theorem sorted_by_start (segs : List Segment) :
    (segs.mergeSort fun a b => decide (a.start ≤ b.start)).Pairwise fun a b => a.start ≤ b.start := by
  have sorted : (segs.mergeSort fun a b => decide (a.start ≤ b.start)).Pairwise
      fun a b => decide (a.start ≤ b.start) = true := List.pairwise_mergeSort
    (fun a b c first second => by
      simp only [decide_eq_true_eq] at first second ⊢
      exact Int.le_trans first second)
    (fun a b => by
      simp only [Bool.or_eq_true, decide_eq_true_eq]
      exact Int.le_total a.start b.start) segs
  exact sorted.imp fun ordered => by simpa using ordered

theorem plain_runs (line : String) (segs : List Segment) : plain (runs line segs) = line := by
  apply String.toList_inj.mp
  simp only [plain, runs, String.toList_join, List.flatMap_map]
  rw [flatMap_runsFrom _ _ (Nat.zero_le _), List.drop_zero]

theorem plain_paint (line : String) (reg : Registry) (rs : Results) :
    plain (paint line reg rs) = line := by
  unfold paint
  split
  · simp [plain]
  · exact plain_runs line _

/-- Runs of a line under any segments are nonempty and spell the line; each is unshaded or a
nonempty fitting segment's stretch drawn at its start, and their offsets rise. When the segments
are apart and fit the line, every nonempty segment is drawn at its start and every code point
under no segment lies in an unshaded run. Painting a header line also spells it. -/
theorem runs_spell_line_with_segments_at_start (line : String) (segs : List Segment) :
    (∀ r ∈ runs line segs, r.text ≠ "") ∧ plain (runs line segs) = line ∧
    (∀ p ∈ placed 0 (runs line segs), p.2.shade = .none ∨
      ∃ s ∈ segs, Fits line.length s ∧ s.start < s.stop ∧
        p = (s.start.toNat, segmentRun line.toList s)) ∧
    (placed 0 (runs line segs)).Pairwise (fun p q => p.1 < q.1) ∧
    (segs.Pairwise Apart → (∀ s ∈ segs, Fits line.length s) →
      (∀ s ∈ segs, s.start < s.stop →
        (s.start.toNat, segmentRun line.toList s) ∈ placed 0 (runs line segs)) ∧
      ∀ p ∈ placed 0 (runs line segs), ∀ k, p.1 ≤ k → k < p.1 + p.2.text.length →
        (∀ s ∈ segs, ¬(s.start ≤ k ∧ k < s.stop)) → p.2.shade = .none) ∧
    ∀ (reg : Registry) (rs : Results), plain (paint line reg rs) = line := by
  have sorted := List.mergeSort_perm segs fun a b => decide (a.start ≤ b.start)
  have nonempty : ∀ r ∈ runs line segs, r.text ≠ "" := fun _ member =>
    text_ne_of_mem_runsFrom member
  refine ⟨nonempty, plain_runs line segs, fun p member => ?_, placed_ascending 0 nonempty,
    fun apart fits => ⟨fun s member longer => ?_, fun p member k => ?_⟩, plain_paint line⟩
  · rcases mem_placed_runsFrom member with unshaded | ⟨s, held, rest⟩
    · exact .inl unshaded
    · exact .inr ⟨s, sorted.mem_iff.mp held, by simpa [String.length_toList] using rest⟩
  · apply segment_mem_placed_runsFrom (sorted_by_start segs)
      ((sorted.pairwise_iff fun {a b} (h : Apart a b) => ?_).mpr apart)
      (fun u m => by simpa [String.length_toList] using fits u (sorted.mem_iff.mp m))
      (fun u _ _ => by simpa using (fits u (sorted.mem_iff.mp ‹_›)).1)
      (sorted.mem_iff.mpr member) longer
    simpa [Apart, Segment.meets_comm] using h
  · intro from_ below uncovered
    exact unshaded_of_uncovered member from_ below fun s held =>
      uncovered s (sorted.mem_iff.mp held)

end HeaderAudit.Highlight
