import HeaderAudit.Proofs.Highlight.Matches
import HeaderAudit.Proofs.Highlight.Runs
/-!
Where the colours of a painted header line come from.
-/
namespace HeaderAudit.Highlight

def OwnerShade (line : String) (r : Registry) (rs : Results) (t : Shade) : Prop :=
  ∃ c ∈ r.checks, c.owns (Text.lower line) = true ∧ ∃ v, rs.get? c.name = some v ∧ t = Shade.ofStatus v.status

def wholeShades (line : String) (r : Registry) (rs : Results) : List Shade :=
  r.checks.map fun c => lineShade line c ((rs.get? c.name).getD Verdict.empty)

/-- A cookie line that no check shades: no segments, no whole-line shade, and a lower-cased text
starting with `set-cookie:`. -/
def UnclaimedCookie (line : String) (r : Registry) (rs : Results) : Prop :=
  lineSegments line r rs = [] ∧ (∀ t ∈ wholeShades line r rs, t = .none) ∧
    Text.hasPrefix (Text.lower line) "set-cookie:" = true

/-! ### Shades of the checks -/

theorem ownerShade_of_owns {line : String} {r : Registry} {rs : Results} {c : Check}
    (listed : c ∈ r.checks) (owned : c.owns (Text.lower line) = true) :
    Shade.ofStatus ((rs.get? c.name).getD Verdict.empty).status = .none ∨
      OwnerShade line r rs (Shade.ofStatus ((rs.get? c.name).getD Verdict.empty).status) := by
  cases verdict : rs.get? c.name with
  | none => exact .inl rfl
  | some v => exact .inr ⟨c, listed, owned, v, verdict, rfl⟩

theorem lineShade_cases (line : String) (c : Check) (v : Verdict) :
    lineShade line c v = .none ∨
      (c.owns (Text.lower line) = true ∧ lineShade line c v = Shade.ofStatus v.status) := by
  unfold lineShade
  by_cases owned : c.owns (Text.lower line) = true
  · rw [if_neg (by simp [owned])]
    split
    · split
      · exact .inr ⟨owned, rfl⟩
      · exact .inl rfl
    · exact .inr ⟨owned, rfl⟩
  · simp [owned]

theorem firstShade_eq_find? (line : String) (rs : Results) (cs : List Check) :
    firstShade line rs cs =
      ((cs.map fun c => lineShade line c ((rs.get? c.name).getD Verdict.empty)).find? (· ≠ .none)).getD .none := by
  induction cs with
  | nil => rfl
  | cons c cs ih =>
    unfold firstShade
    split
    · rename_i unshaded
      simp [unshaded, ih]
    · rename_i shaded
      rw [List.map_cons, List.find?_cons_of_pos (by simpa using shaded)]
      rfl

theorem wholeShades_find?_none {line : String} {r : Registry} {rs : Results}
    (first : firstShade line rs r.checks = .none) : ∀ t ∈ wholeShades line r rs, t = .none := by
  rw [firstShade_eq_find?] at first
  intro t listed
  by_contra shaded
  cases found : (wholeShades line r rs).find? (· ≠ .none) with
  | none => exact absurd (List.find?_eq_none.mp found t listed) (by simpa using shaded)
  | some u =>
    have := List.find?_some found
    simp only [wholeShades] at found
    rw [found] at first
    simp_all

/-! ### Segments and runs -/

theorem shade_of_mem_segments {line : String} {c : Check} {v : Verdict} {s : Segment}
    (member : s ∈ segments line c v) : s.shade = Shade.ofStatus v.status := by
  rw [segments_eq_placeAll] at member
  split at member
  · exact shade_of_mem_candidates ((Segment.placeAll_sublist _).subset member)
  · exact absurd member List.not_mem_nil

theorem mem_lineSegments {line : String} {r : Registry} {rs : Results} {s : Segment}
    (member : s ∈ lineSegments line r rs) :
    ∃ c ∈ r.checks, c.owns (Text.lower line) = true ∧
      s.shade = Shade.ofStatus ((rs.get? c.name).getD Verdict.empty).status := by
  simp only [lineSegments, List.mem_flatMap] at member
  obtain ⟨c, listed, drawn⟩ := member
  split at drawn
  · rename_i owned
    exact ⟨c, listed, owned, shade_of_mem_segments drawn⟩
  · exact absurd drawn List.not_mem_nil

theorem exists_mem_placed {r : Run} : ∀ {rs : List Run} (o : Nat), r ∈ rs → ∃ p, (p, r) ∈ placed o rs
  | [], _, member => absurd member List.not_mem_nil
  | x :: xs, o, member => by
    rcases List.mem_cons.mp member with rfl | later
    · exact ⟨o, List.mem_cons_self⟩
    · obtain ⟨p, held⟩ := exists_mem_placed (o + x.text.length) later
      exact ⟨p, List.mem_cons_of_mem _ held⟩

theorem shade_of_mem_runs {line : String} {segs : List Segment} {r : Run} (member : r ∈ runs line segs) :
    r.shade = .none ∨ ∃ s ∈ segs, r.shade = s.shade := by
  obtain ⟨p, held⟩ := exists_mem_placed 0 member
  rcases mem_placed_runsFrom held with unshaded | ⟨s, sorted, -, -, drawn⟩
  · exact .inl unshaded
  · have same : r = segmentRun line.toList s := congrArg Prod.snd drawn
    exact .inr ⟨s, (List.mergeSort_perm segs _).mem_iff.mp sorted, by rw [same]; rfl⟩

/-! ### Painting -/

theorem paint_eq (line : String) (r : Registry) (rs : Results) :
    paint line r rs =
      if lineSegments line r rs = [] then [⟨line, fallback line r rs⟩] else runs line (lineSegments line r rs) := by
  unfold paint
  split
  · rename_i bare
    rw [if_pos bare]
  · rename_i drawn
    rw [if_neg drawn]

theorem fallback_eq (line : String) (r : Registry) (rs : Results) :
    fallback line r rs =
      if firstShade line rs r.checks = .none then
        (if Text.hasPrefix (Text.lower line) "set-cookie:" then
          (if Text.contains (Text.lower line) "secure" then .green else .red)
        else .none)
      else firstShade line rs r.checks := by
  unfold fallback
  split
  · rename_i unshaded
    rw [if_pos unshaded]
  · rename_i shaded
    rw [if_neg shaded]

theorem firstShade_owner (line : String) (r : Registry) (rs : Results) :
    firstShade line rs r.checks = .none ∨ OwnerShade line r rs (firstShade line rs r.checks) := by
  rw [firstShade_eq_find?]
  cases found : (r.checks.map fun c => lineShade line c ((rs.get? c.name).getD Verdict.empty)).find? (· ≠ .none) with
  | none => exact .inl rfl
  | some t =>
    obtain ⟨c, listed, shaded⟩ := List.mem_map.mp (List.mem_of_find?_eq_some found)
    have whole : t ≠ .none := by simpa using List.find?_some found
    rcases lineShade_cases line c ((rs.get? c.name).getD Verdict.empty) with unshaded | ⟨owned, drawn⟩
    · exact absurd (shaded ▸ unshaded) whole
    · rw [Option.getD_some, ← shaded, drawn]
      exact ownerShade_of_owns listed owned

/-- Every run of a painted line is unshaded or in the shade of the verdict of a check owning the
line, unless the line is a cookie line no check shades; such a line is drawn whole, green when it
mentions `secure` and red otherwise; and a line with no segments is drawn whole in the first
whole-line shade that a check gives it, in registry order. -/
theorem paint_shades_come_from_owners (line : String) (r : Registry) (rs : Results) :
    (¬ UnclaimedCookie line r rs → ∀ run ∈ paint line r rs, run.shade = .none ∨ OwnerShade line r rs run.shade) ∧
      (UnclaimedCookie line r rs → paint line r rs =
        [⟨line, if Text.contains (Text.lower line) "secure" then .green else .red⟩]) ∧
      (lineSegments line r rs = [] → ∀ t, (wholeShades line r rs).find? (· ≠ .none) = some t →
        paint line r rs = [⟨line, t⟩]) := by
  refine ⟨fun claimed run member => ?_, fun ⟨bare, unshaded, cookie⟩ => ?_, fun bare t first => ?_⟩
  · rw [paint_eq] at member
    split at member
    · rename_i bare
      rw [List.mem_singleton.mp member, fallback_eq]
      split
      · -- no check shades the line whole, so it is no cookie line
        rename_i whole
        have uncookie : Text.hasPrefix (Text.lower line) "set-cookie:" = false := by
          simpa using fun cookie => claimed ⟨bare, wholeShades_find?_none whole, cookie⟩
        simp [uncookie]
      · exact firstShade_owner line r rs
    · rcases shade_of_mem_runs member with unshaded | ⟨s, drawn, same⟩
      · exact .inl unshaded
      · obtain ⟨c, listed, owned, shaded⟩ := mem_lineSegments drawn
        rw [same, shaded]
        exact ownerShade_of_owns listed owned
  · have first : firstShade line rs r.checks = .none := by
      rw [firstShade_eq_find?, List.find?_eq_none.mpr fun t listed => by simpa using unshaded t listed]
      rfl
    rw [paint_eq, if_pos bare, fallback_eq, if_pos first, if_pos cookie]
  · have shaded : firstShade line rs r.checks = t := by
      rw [firstShade_eq_find?]
      exact congrArg (·.getD .none) first
    have whole : t ≠ .none := by simpa using List.find?_some first
    rw [paint_eq, if_pos bare, fallback_eq, if_neg (shaded ▸ whole), shaded]

theorem cookie_line_without_checks_painted_red :
    UnclaimedCookie "Set-Cookie: a=1" ⟨[]⟩ Results.empty ∧
      paint "Set-Cookie: a=1" ⟨[]⟩ Results.empty = [⟨"Set-Cookie: a=1", .red⟩] := by
  have unclaimed : UnclaimedCookie "Set-Cookie: a=1" ⟨[]⟩ Results.empty :=
    ⟨rfl, fun t listed => absurd listed List.not_mem_nil, by decide⟩
  refine ⟨unclaimed, ?_⟩
  rw [(paint_shades_come_from_owners "Set-Cookie: a=1" ⟨[]⟩ Results.empty).2.1 unclaimed, if_neg (by decide)]

end HeaderAudit.Highlight
