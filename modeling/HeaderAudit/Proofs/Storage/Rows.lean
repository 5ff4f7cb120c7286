import HeaderAudit.Storage.ResultStore
import HeaderAudit.Proofs.Address.Escape
import HeaderAudit.Proofs.Json.RoundTrip
import HeaderAudit.Proofs.Outcome
/-!
Rows of a table store read back as the texts a reader sees.
-/

namespace HeaderAudit

theorem Status.ofText_name (s : Status) : ofText s.name = .ok s := by
  cases s <;> rfl

theorem Status.isValid_iff (s : Status) : s.isValid = true ↔ s ≠ .none := by
  cases s <;> decide

namespace Verdict

theorem record_toJson (v : Verdict) :
    Json.record "checks.resultJSON" ["status", "display", "raw", "message"] setMember empty v.toJson =
      .ok v := by
  obtain ⟨status, display, raw, message⟩ := v
  by_cases blank : message = ""
  · subst blank
    simp [toJson, Json.record, Json.fill, Json.fieldFor, setMember, statusField, Json.textField,
      Status.ofText_name, empty]
  · simp [toJson, Json.record, Json.fill, Json.fieldFor, setMember, statusField, Json.textField,
      Status.ofText_name, empty, blank]

theorem ofJson_toJson (v : Verdict) (valid : v.isValid = true) : ofJson v.toJson = .ok v := by
  rw [ofJson, record_toJson]
  exact if_pos valid

theorem ofJson_toJson_of_unjudged (v : Verdict) (unjudged : v.status = .none) :
    ofJson v.toJson = .error (Error.ofFault .missingStatus) := by
  rw [ofJson, record_toJson]
  exact if_neg (by rw [unjudged]; decide)

theorem readsBack_toJson (v : Verdict) : v.toJson.ReadsBack := by
  apply Json.readsBack_obj
  intro f field
  -- every member of a verdict's object is text; the message is one only when there is one
  split at field
  · simp only [List.append_nil, List.mem_cons, List.not_mem_nil, or_false] at field
    rcases field with rfl | rfl | rfl <;> exact Json.readsBack_str _
  · simp only [List.mem_append, List.mem_cons, List.not_mem_nil, or_false] at field
    rcases field with (rfl | rfl | rfl) | rfl <;> exact Json.readsBack_str _

end Verdict

namespace Results

/-- Results that a table row gives back: no check is named twice, and every verdict has a
status. -/
def Decodable (rs : Results) : Prop :=
  (rs.entries.map (·.1)).Nodup ∧ ∀ nv ∈ rs.entries, nv.2.isValid = true

instance : DecidablePred Decodable := fun _ => inferInstanceAs (Decidable (_ ∧ _))

theorem readsBack_toJson (rs : Results) : rs.toJson.ReadsBack := by
  apply Json.readsBack_arr
  intro item mem
  obtain ⟨⟨name, v⟩, -, rfl⟩ := List.mem_map.mp mem
  apply Json.readsBack_obj
  intro m member
  simp only [List.mem_cons, List.not_mem_nil, or_false] at member
  rcases member with rfl | rfl
  · exact Json.readsBack_str name
  · exact Verdict.readsBack_toJson v

theorem entries_put (rs : Results) (name : String) (v : Verdict) :
    (rs.put name v).entries = ResultStore.upsert Prod.fst (name, v) rs.entries := by
  unfold put ResultStore.upsert
  split <;> rfl

theorem put_fresh (rs : Results) (name : String) (v : Verdict) (fresh : name ∉ rs.entries.map (·.1)) :
    rs.put name v = ⟨rs.entries ++ [(name, v)]⟩ := by
  have absent : rs.entries.any (·.1 == name) = false := by
    rw [List.any_eq_false]
    intro e mem same
    exact fresh (List.mem_map.mpr ⟨e, mem, by simpa using same⟩)
  simp [put, absent]

theorem nodup_put (rs : Results) (name : String) (v : Verdict)
    (distinct : (rs.entries.map (·.1)).Nodup) : ((rs.put name v).entries.map (·.1)).Nodup := by
  unfold put
  split
  · -- the verdict replaces the one of its name in place, so the names stay as they were
    have same : (rs.entries.map fun e => if e.1 == name then (name, v) else e).map (·.1) =
        rs.entries.map (·.1) := by
      rw [List.map_map]
      apply List.map_congr_left
      intro e _
      by_cases named : e.1 = name <;> simp [named]
    rw [same]
    exact distinct
  · rename_i present
    have fresh : name ∉ rs.entries.map (·.1) := by
      simpa using present
    rw [List.map_append]
    refine List.nodup_append.mpr ⟨distinct, by simp, ?_⟩
    intro a mem b single same
    simp only [List.map_cons, List.map_nil, List.mem_singleton] at single
    exact fresh (single ▸ same ▸ mem)

theorem nodup_ofList (xs : List (String × Verdict)) : ((ofList xs).entries.map (·.1)).Nodup := by
  unfold ofList
  -- every put along the fold keeps the names distinct, starting from none
  suffices kept : ∀ rs : Results, (rs.entries.map (·.1)).Nodup →
      ((xs.foldl (fun (rs : Results) e => rs.put e.1 e.2) rs).entries.map (·.1)).Nodup from
    kept empty List.nodup_nil
  induction xs with
  | nil => exact fun rs distinct => distinct
  | cons x xs ih => exact fun rs distinct => ih _ (nodup_put rs x.1 x.2 distinct)

theorem foldl_put_of_nodup (xs acc : List (String × Verdict)) (distinct : ((acc ++ xs).map (·.1)).Nodup) :
    xs.foldl (fun (rs : Results) e => rs.put e.1 e.2) ⟨acc⟩ = ⟨acc ++ xs⟩ := by
  induction xs generalizing acc with
  | nil => simp
  | cons x xs ih =>
    have fresh : x.1 ∉ acc.map (·.1) := by
      intro mem
      simp only [List.map_append, List.map_cons] at distinct
      exact (List.nodup_append.mp distinct).2.2 _ mem _ (by simp) rfl
    rw [List.foldl_cons, put_fresh (Results.mk acc) x.1 x.2 fresh,
      ih (acc ++ [(x.1, x.2)]) (by simpa using distinct)]
    simp

theorem ofList_of_nodup (xs : List (String × Verdict)) (distinct : (xs.map (·.1)).Nodup) :
    ofList xs = ⟨xs⟩ := by
  have built := foldl_put_of_nodup xs [] (by simpa using distinct)
  rw [List.nil_append] at built
  exact built

theorem fill_named (name : String) (v : Verdict) :
    Json.fill ["check", "result"] setMember ("", Verdict.empty)
        [("check", .str name), ("result", v.toJson)] =
      (Verdict.ofJson v.toJson).map fun w => ⟨(name, w), none⟩ := by
  simp only [ExceptT.stM_eq, Json.fill, Json.fieldFor, List.contains_eq_mem, List.mem_cons,
    String.reduceEq, List.not_mem_nil, or_self, or_false, or_true, decide_true, ↓reduceIte,
    setMember, Json.textField]
  cases Verdict.ofJson v.toJson <;> rfl

theorem ofJson_named (xs : List (String × Verdict)) (valid : ∀ nv ∈ xs, nv.2.isValid = true) :
    ofJson (⟨xs⟩ : Results).toJson = .ok (ofList xs) := by
  simp only [ofJson, toJson, List.foldlM_map]
  rw [foldlM_appends _ xs id ?each none []]
  · simp only [List.nil_append, List.map_id]
    rfl
  · intro x mem n acc
    simp [fill_named, Verdict.ofJson_toJson x.2 (valid x mem), Except.map, Functor.map]

theorem ofJson_toJson (rs : Results) (decodable : rs.Decodable) : ofJson rs.toJson = .ok rs := by
  have read := ofJson_named rs.entries decodable.2
  rw [ofList_of_nodup rs.entries decodable.1] at read
  exact read

theorem ofJson_toJson_of_unjudged (rs : Results) (unjudged : ∃ nv ∈ rs.entries, nv.2.status = .none) :
    ofJson rs.toJson = .error (Error.ofFault .missingStatus) := by
  simp only [ofJson, toJson, List.foldlM_map]
  rw [foldlM_fails _ rs.entries _ ?each ?stops]
  · rfl
  · -- a verdict either has a status and reads back, or has none and stops the reading
    intro x _ s
    by_cases none : x.2.status = .none
    · left
      simp [fill_named, Verdict.ofJson_toJson_of_unjudged x.2 none, Except.map, Functor.map]
    · right
      have valid : x.2.isValid = true := (Status.isValid_iff _).mpr none
      simp [fill_named, Verdict.ofJson_toJson x.2 valid, Except.map, Functor.map]
  · obtain ⟨nv, mem, none⟩ := unjudged
    refine ⟨nv, mem, fun s => ?_⟩
    simp [fill_named, Verdict.ofJson_toJson_of_unjudged nv.2 none, Except.map, Functor.map]

end Results

theorem Json.readsBack_strs (ls : List String) : (Json.strs ls).ReadsBack := by
  apply Json.readsBack_arr
  intro x mem
  obtain ⟨s, -, rfl⟩ := List.mem_map.mp mem
  exact Json.readsBack_str s

section Texts

@[simp] theorem Verdict.text_stored (v : Verdict) : v.stored.text = v := by
  simp [Verdict.stored, StoredVerdict.text, Bytes.toStringLossy_ofString]

@[simp] theorem Entry.text_stored (e : Entry) : e.stored.text = e := by
  obtain ⟨key, method, url, code, line, results, lines⟩ := e
  cases results <;> cases lines <;>
    simp [Entry.stored, StoredEntry.text, Function.comp_def, Bytes.toStringLossy_ofString]

theorem Entry.stored_injective : Function.Injective Entry.stored := fun e e' same => by
  rw [← Entry.text_stored e, same, Entry.text_stored]

end Texts

namespace StoredRow

theorem parseText_render {j : Json} (back : j.ReadsBack) : parseText j.render = .ok j := by
  simp [parseText, Json.parse_render back, Except.mapError]

theorem decodeLines_strs (ls : List String) : decodeLines (Json.strs ls) = .ok (some ls) := by
  have clean : ls.find? (fun _ => false) = none := List.find?_eq_none.mpr (by simp)
  simp [decodeLines, Json.strs, Function.comp_def, clean]

theorem toEntry_ofEntry (e : StoredEntry) (decodable : (e.text.results.getD .empty).Decodable) :
    (ofEntry e).toEntry = .ok { e.text with results := some (e.text.results.getD .empty) }.stored := by
  have readResults : (parseText (ofEntry e).resultsText >>= Results.ofJson) =
      .ok (e.text.results.getD .empty) := by
    simp only [ofEntry]
    generalize e.text.results = results at decodable ⊢
    cases results with
    | none =>
      show (parseText Json.null.render >>= Results.ofJson) = _
      rw [parseText_render Json.readsBack_null]
      rfl
    | some rs =>
      rw [parseText_render (Results.readsBack_toJson rs)]
      exact Results.ofJson_toJson rs decodable
  have readLines : (parseText (ofEntry e).linesText >>= decodeLines) = .ok e.text.headerLines := by
    simp only [ofEntry]
    generalize e.text.headerLines = lines
    cases lines with
    | none =>
      show (parseText Json.null.render >>= decodeLines) = _
      rw [parseText_render Json.readsBack_null]
      rfl
    | some ls =>
      rw [parseText_render (Json.readsBack_strs ls)]
      exact decodeLines_strs ls
  simp only [toEntry, readResults, readLines]
  rfl

theorem toEntry_ofEntry_of_unjudged (e : StoredEntry) (rs : Results) (held : e.text.results = some rs)
    (unjudged : ∃ nv ∈ rs.entries, nv.2.status = .none) :
    (ofEntry e).toEntry =
      .error (Error.wrap ("decode results for " ++ e.key ++ ": ") (Error.ofFault .missingStatus)) := by
  have refused : (parseText (ofEntry e).resultsText >>= Results.ofJson) =
      .error (Error.ofFault .missingStatus) := by
    have text : (ofEntry e).resultsText = rs.toJson.render := by
      simp only [ofEntry, held]
    rw [text, parseText_render (Results.readsBack_toJson rs)]
    exact Results.ofJson_toJson_of_unjudged rs unjudged
  simp only [toEntry, refused]
  rfl

end StoredRow

end HeaderAudit
