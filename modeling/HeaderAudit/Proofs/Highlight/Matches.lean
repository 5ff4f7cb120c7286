import HeaderAudit.Highlight.Run
import HeaderAudit.Proofs.Highlight.Placement
/-!
The segments a check gives a header line, in closed form.
-/

namespace HeaderAudit.Highlight

open Segment

/-- The starts of the occurrences of a needle in a text whose first code point is at `pos`,
found left to right with the scan resuming at the end of each occurrence. -/
def greedyStarts (needle : List Char) (pos : Nat) : List Char → List Nat
  | [] => []
  | c :: cs =>
    if found : needle ≠ [] ∧ needle.isPrefixOf (c :: cs) then
      pos :: greedyStarts needle (pos + needle.length) ((c :: cs).drop needle.length)
    else greedyStarts needle (pos + 1) cs
termination_by text => text.length
decreasing_by
  · have := List.length_pos_iff.mpr found.1
    simp only [List.length_drop, List.length_cons]
    omega
  · simp only [List.length_cons]
    omega

def occurrenceAt (needle : List Char) (shade : Shade) (p : Nat) : Segment :=
  ⟨p, p + needle.length, shade⟩

/-- The candidates of patterns in a lower-cased line: for each pattern in turn whose trimmed
form is not empty, every occurrence of that form lower-cased. -/
def candidates (lower : List Char) (shade : Shade) (patterns : List String) : List Segment :=
  patterns.flatMap fun q =>
    if Text.trim q = "" then []
    else
      let needle := (Text.trim q).toList.map Text.lowerChar
      (greedyStarts needle 0 lower).map (occurrenceAt needle shade)

def survivors : List Segment → List Segment
  | [] => []
  | s :: later =>
    if later.any (fun d => s.meets d.start d.stop) then survivors later else s :: survivors later

theorem occurrences_skip (needle : List Char) (shade : Shade) (segs : List Segment)
    (pos k : Nat) (text : List Char) :
    occurrences needle shade segs pos k text =
      occurrences needle shade segs (pos + k) 0 (text.drop k) := by
  induction text generalizing pos k with
  | nil => simp [occurrences]
  | cons c cs ih =>
    cases k with
    | zero => rfl
    | succ k =>
      rw [occurrences, ih, List.drop_succ_cons]
      congr 1
      omega

theorem occurrences_empty (shade : Shade) (segs : List Segment) (pos : Nat) (text : List Char) :
    occurrences [] shade segs pos 0 text = segs := by
  induction text generalizing pos with
  | nil => rfl
  | cons c cs ih => simp [occurrences, ih]

theorem occurrences_eq_foldl (needle : List Char) (shade : Shade) (nonempty : needle ≠ [])
    (segs : List Segment) (pos : Nat) (text : List Char) :
    occurrences needle shade segs pos 0 text =
      ((greedyStarts needle pos text).map (occurrenceAt needle shade)).foldl place segs := by
  fun_induction greedyStarts needle pos text generalizing segs with
  | case1 pos => rfl
  | case2 pos c cs found ih =>
    obtain ⟨rest, long⟩ : ∃ rest, needle.length = rest + 1 :=
      Nat.exists_eq_add_one.mpr (List.length_pos_iff.mpr nonempty)
    -- the scanner moves one place and skips the rest of the occurrence
    have moved : pos + 1 + (needle.length - 1) = pos + needle.length := by omega
    have skipped : cs.drop (needle.length - 1) = (c :: cs).drop needle.length := by
      rw [long, List.drop_succ_cons, Nat.add_sub_cancel]
    rw [occurrences, if_pos found, occurrences_skip, moved, skipped, ih]
    rfl
  | case3 pos c cs missed ih =>
    rw [occurrences, if_neg missed, ih]

theorem prefix_drop_of_mem_greedyStarts {needle : List Char} {pos p : Nat} {text : List Char}
    (found : p ∈ greedyStarts needle pos text) :
    pos ≤ p ∧ needle <+: text.drop (p - pos) := by
  fun_induction greedyStarts needle pos text with
  | case1 pos => simp at found
  | case2 pos c cs hit ih =>
    rw [List.mem_cons] at found
    rcases found with here | later
    · subst here
      exact ⟨Nat.le_refl _, by simpa using List.isPrefixOf_iff_prefix.mp hit.2⟩
    · obtain ⟨after, occurs⟩ := ih later
      refine ⟨by omega, ?_⟩
      have shift : p - pos = needle.length + (p - (pos + needle.length)) := by omega
      rwa [shift, ← List.drop_drop]
  | case3 pos c cs _ ih =>
    obtain ⟨after, occurs⟩ := ih found
    refine ⟨by omega, ?_⟩
    have shift : p - pos = (p - (pos + 1)) + 1 := by omega
    rwa [shift, List.drop_succ_cons]

theorem candidates_cons (lower : List Char) (shade : Shade) (q : String) (qs : List String) :
    candidates lower shade (q :: qs) = candidates lower shade [q] ++ candidates lower shade qs := by
  simp only [candidates, List.flatMap_cons, List.flatMap_nil, List.append_nil]

theorem occurrences_pattern (lower : List Char) (shade : Shade) (q : String)
    (segs : List Segment) :
    occurrences ((Text.trim q).toList.map Text.lowerChar) shade segs 0 0 lower =
      (candidates lower shade [q]).foldl place segs := by
  by_cases blank : Text.trim q = ""
  · simp only [candidates, List.flatMap_cons, List.flatMap_nil, List.append_nil, blank]
    exact occurrences_empty shade segs 0 lower
  · simp only [candidates, List.flatMap_cons, List.flatMap_nil, List.append_nil, if_neg blank]
    apply occurrences_eq_foldl
    simpa [String.toList_eq_nil_iff] using blank

theorem foldl_occurrences (lower : List Char) (shade : Shade) (patterns : List String)
    (segs : List Segment) :
    patterns.foldl (fun segs q =>
        occurrences ((Text.trim q).toList.map Text.lowerChar) shade segs 0 0 lower) segs =
      (candidates lower shade patterns).foldl place segs := by
  induction patterns generalizing segs with
  | nil => rfl
  | cons q qs ih =>
    rw [List.foldl_cons, ih, candidates_cons, List.foldl_append, occurrences_pattern]

theorem segments_eq_placeAll (line : String) (c : Check) (v : Verdict) :
    segments line c v =
      if c.owns (Text.lower line) && !c.patterns.isEmpty then
        placeAll (candidates (line.toList.map Text.lowerChar) (Shade.ofStatus v.status)
          (c.patterns.forStatus v.status))
      else [] := by
  simp only [segments, placeAll, ← foldl_occurrences]
  by_cases owned : c.owns (Text.lower line) <;> by_cases empty : c.patterns.isEmpty <;>
    simp_all [Text.lower]

theorem survivors_append_singleton (xs : List Segment) (c : Segment) :
    survivors (xs ++ [c]) = (survivors xs).filter (fun s => !s.meets c.start c.stop) ++ [c] := by
  induction xs with
  | nil => rfl
  | cons s xs ih =>
    simp only [List.cons_append, survivors, List.any_append, List.any_cons, List.any_nil,
      Bool.or_false]
    by_cases met : xs.any (fun d => s.meets d.start d.stop) <;>
      by_cases last : s.meets c.start c.stop <;> simp [met, last, ih]

theorem placeAll_eq_survivors (cands : List Segment) (shade : Shade)
    (same : ∀ d ∈ cands, d.shade = shade) : placeAll cands = survivors cands := by
  induction cands using List.reverseRecOn with
  | nil => rfl
  | append_singleton cands c ih =>
    have before : ∀ d ∈ cands, d.shade = shade := fun d member => same d (by simp [member])
    have last : c.shade = shade := same c (by simp)
    have atMost : ∀ s ∈ placeAll cands, s.shade.rank ≤ c.shade.rank := by
      intro s member
      exact Nat.le_of_eq (by rw [before s ((placeAll_sublist cands).subset member), last])
    rw [placeAll_append_singleton, place_of_rank_le c atMost, ih before,
      survivors_append_singleton]

theorem shade_of_mem_candidates {lower : List Char} {shade : Shade} {patterns : List String}
    {d : Segment} (member : d ∈ candidates lower shade patterns) : d.shade = shade := by
  simp only [candidates, List.mem_flatMap] at member
  obtain ⟨q, -, found⟩ := member
  split at found
  · simp at found
  · obtain ⟨p, -, rfl⟩ := List.mem_map.mp found
    rfl

theorem occurrenceAt_covers {line : String} {needle : List Char} {p : Nat} (shade : Shade)
    (nonempty : needle ≠ []) (occurs : needle <+: (line.toList.map Text.lowerChar).drop p) :
    let s := occurrenceAt needle shade p
    0 ≤ s.start ∧ s.start < s.stop ∧ s.stop ≤ line.length ∧
      Text.lower (slice line.toList s.start.toNat s.stop.toNat) = String.ofList needle := by
  intro s
  have long : 0 < needle.length := List.length_pos_iff.mpr nonempty
  have fits := occurs.length_le
  rw [List.length_drop, List.length_map, String.length_toList] at fits
  have taken : ((line.toList.drop p).take needle.length).map Text.lowerChar = needle := by
    rw [List.map_take, List.map_drop]
    exact (List.prefix_iff_eq_take.mp occurs).symm
  refine ⟨by simp [s, occurrenceAt], by simp [s, occurrenceAt]; omega,
    by simp [s, occurrenceAt]; omega, ?_⟩
  have stop : ((p : Int) + needle.length).toNat = p + needle.length := by omega
  simp only [s, occurrenceAt, slice, Text.lower, String.toList_ofList, Int.toNat_natCast, stop,
    Nat.add_sub_cancel_left, taken]

theorem covers_of_mem_candidates {line : String} {shade : Shade} {patterns : List String}
    {d : Segment} (member : d ∈ candidates (line.toList.map Text.lowerChar) shade patterns) :
    0 ≤ d.start ∧ d.start < d.stop ∧ d.stop ≤ line.length ∧
      ∃ q ∈ patterns, Text.trim q ≠ "" ∧
        Text.lower (slice line.toList d.start.toNat d.stop.toNat) = Text.lower (Text.trim q) := by
  simp only [candidates, List.mem_flatMap] at member
  obtain ⟨q, listed, found⟩ := member
  split at found
  · simp at found
  · next kept =>
    obtain ⟨p, start, rfl⟩ := List.mem_map.mp found
    have nonempty : (Text.trim q).toList.map Text.lowerChar ≠ [] := by
      simpa [String.toList_eq_nil_iff] using kept
    have occurs := (prefix_drop_of_mem_greedyStarts start).2
    rw [Nat.sub_zero] at occurs
    obtain ⟨low, short, fits, covered⟩ := occurrenceAt_covers shade nonempty occurs
    exact ⟨low, short, fits, q, listed, kept, covered⟩

/-- The segments a check gives a line are those of its candidates that no later candidate meets,
in order, or none when the check does not own the line or highlights nothing; each lies inside
the line, is not empty, has the shade of the verdict and covers a trimmed pattern for the
verdict's status up to case, and no two meet. -/
theorem segments_are_unmet_matches (line : String) (c : Check) (v : Verdict) :
    segments line c v =
        (if c.owns (Text.lower line) && !c.patterns.isEmpty then
          survivors (candidates (line.toList.map Text.lowerChar) (Shade.ofStatus v.status)
            (c.patterns.forStatus v.status))
        else []) ∧
      (segments line c v).Pairwise Apart ∧
      ∀ s ∈ segments line c v, s.shade = Shade.ofStatus v.status ∧
        0 ≤ s.start ∧ s.start < s.stop ∧ s.stop ≤ line.length ∧
        ∃ q ∈ c.patterns.forStatus v.status, Text.trim q ≠ "" ∧
          Text.lower (slice line.toList s.start.toNat s.stop.toNat) = Text.lower (Text.trim q) := by
  rw [segments_eq_placeAll]
  split
  · refine ⟨placeAll_eq_survivors _ _ fun d => shade_of_mem_candidates, placeAll_apart _, ?_⟩
    intro s member
    have candidate := (placeAll_sublist _).subset member
    exact ⟨shade_of_mem_candidates candidate, covers_of_mem_candidates candidate⟩
  · exact ⟨rfl, List.Pairwise.nil, fun s member => absurd member List.not_mem_nil⟩

example : segments "Set-Cookie: a=1; Secure" .cookies (Verdict.pass "" "") =
    [⟨0, 11, .green⟩, ⟨17, 23, .green⟩] := by
  decide

end HeaderAudit.Highlight
