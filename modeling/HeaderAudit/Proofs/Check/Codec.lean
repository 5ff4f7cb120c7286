import HeaderAudit.Proofs.Storage.Keyed
import HeaderAudit.Proofs.Storage.Rows
/-!
The JSON codec of verdicts and results reads back exactly the verdicts that have a status; a check
named twice keeps its first place and its last verdict.
-/
namespace HeaderAudit

namespace Results

theorem entries_foldl_put (xs : List (String × Verdict)) (rs : Results) :
    (xs.foldl (fun rs e => rs.put e.1 e.2) rs).entries =
      xs.foldl (fun acc e => ResultStore.upsert Prod.fst e acc) rs.entries := by
  induction xs generalizing rs with
  | nil => rfl
  | cons x xs ih => rw [List.foldl_cons, List.foldl_cons, ih, entries_put]

theorem entries_ofList (xs : List (String × Verdict)) :
    (ofList xs).entries = ResultStore.keyedListing Prod.fst xs := by
  rw [ofList, entries_foldl_put]
  exact ResultStore.foldl_upsert_nil Prod.fst xs

theorem get?_ofList (xs : List (String × Verdict)) (name : String) :
    (ofList xs).get? name = (ResultStore.lastWithKey Prod.fst xs name).map (·.2) := by
  rw [get?, entries_ofList, ResultStore.find?_keyedListing]

theorem all_judged_iff (rs : Results) :
    (∀ nv ∈ rs.entries, nv.2.isValid = true) ↔ ¬ ∃ nv ∈ rs.entries, nv.2.status = .none := by
  simp only [Status.isValid_iff, Verdict.isValid, not_exists, not_and, ne_eq]

theorem ofJson_toJson_eq (rs : Results) (distinct : (rs.entries.map (·.1)).Nodup) :
    ofJson rs.toJson =
      if ∀ nv ∈ rs.entries, nv.2.isValid = true then .ok rs else .error (Error.ofFault .missingStatus) := by
  split
  · rename_i judged
    exact ofJson_toJson rs ⟨distinct, judged⟩
  · rename_i unjudged
    exact ofJson_toJson_of_unjudged rs (not_not.mp (mt (all_judged_iff rs).mpr unjudged))

end Results

namespace Verdict

theorem ofJson_toJson_eq (v : Verdict) :
    ofJson v.toJson = if v.isValid then .ok v else .error (Error.ofFault .missingStatus) := by
  split
  · rename_i valid
    exact ofJson_toJson v valid
  · rename_i unjudged
    apply ofJson_toJson_of_unjudged
    simpa [isValid, Status.isValid_iff] using unjudged

end Verdict

namespace Results

/-- The JSON codec of verdicts and results: the written text parses back to the written value;
a verdict reads back as itself exactly when it has a status (its empty message, which is not
written, reading back as empty), and otherwise fails for the missing status; results with
distinct check names read back as themselves exactly when every verdict has a status; and an
array of named verdicts with statuses reads as the verdicts put in turn, each check at its first
place with its last verdict. -/
theorem json_codec_round_trip :
    (∀ v : Verdict, Json.parse v.toJson.render = .ok v.toJson ∧
      Verdict.ofJson v.toJson = if v.isValid then .ok v else .error (Error.ofFault .missingStatus)) ∧
    (∀ rs : Results, (rs.entries.map (·.1)).Nodup →
      Json.parse rs.toJson.render = .ok rs.toJson ∧
      ofJson rs.toJson =
        if ∀ nv ∈ rs.entries, nv.2.isValid = true then .ok rs
        else .error (Error.ofFault .missingStatus)) ∧
    (∀ xs : List (String × Verdict), (∀ nv ∈ xs, nv.2.isValid = true) →
      ofJson (.arr (xs.map fun nv => .obj [("check", .str nv.1), ("result", nv.2.toJson)])) =
        .ok ⟨ResultStore.keyedListing Prod.fst xs⟩) := by
  refine ⟨fun v => ⟨Json.parse_render (Verdict.readsBack_toJson v), Verdict.ofJson_toJson_eq v⟩,
    fun rs distinct => ⟨Json.parse_render (readsBack_toJson rs), ofJson_toJson_eq rs distinct⟩,
    fun xs valid => ?_⟩
  rw [← entries_ofList]
  exact ofJson_named xs valid

theorem json_codec_keeps_first_place_last_verdict :
    (∀ nv ∈ [("HSTS", Verdict.failure "missing" ""), ("CSP", Verdict.pass "set" "default-src 'self'"),
        ("HSTS", Verdict.pass "max-age=60" "max-age=60")], nv.2.isValid = true) ∧
    ofJson (.arr ([("HSTS", Verdict.failure "missing" ""), ("CSP", Verdict.pass "set" "default-src 'self'"),
        ("HSTS", Verdict.pass "max-age=60" "max-age=60")].map fun nv =>
          .obj [("check", .str nv.1), ("result", nv.2.toJson)])) =
      .ok ⟨[("HSTS", Verdict.pass "max-age=60" "max-age=60"), ("CSP", Verdict.pass "set" "default-src 'self'")]⟩ := by
  have read := json_codec_round_trip.2.2 [("HSTS", Verdict.failure "missing" ""),
    ("CSP", Verdict.pass "set" "default-src 'self'"), ("HSTS", Verdict.pass "max-age=60" "max-age=60")]
    (by decide)
  refine ⟨by decide, read.trans ?_⟩
  rfl

end Results

end HeaderAudit
