import Mathlib
import HeaderAudit.Analysis.HeaderDiff
import HeaderAudit.Check.Decode
import HeaderAudit.Runtime.Standard
/-!
The status changes between two analyses: the checks of the base whose status differs, then those
only the head judged, reported without comparing.
-/
namespace HeaderAudit

namespace HeaderDiff

def judged (rs : Option Results) : List String := ((rs.map (·.entries)).getD []).map (·.1)

/-- The checks judged on either side, each once: the base's in order, then those only the head
judged, in the head's order. -/
def judgedNames (base head : Option Results) : List String :=
  judged base ++ (judged head).filter (· ∉ judged base)

def change (base head : Option Results) (n : String) : StatusChange :=
  ⟨n, statusOf base n, statusOf head n⟩

def reported (base head : Option Results) (n : String) : Option StatusChange :=
  if statusOf base n ≠ statusOf head n then some (change base head n) else none

/-- Every check judged on one side only has a status there. -/
structure OneSidedJudged (base head : Option Results) : Prop where
  onBase : ∀ n ∈ judged base, n ∉ judged head → statusOf base n ≠ .none
  onHead : ∀ n ∈ judged head, n ∉ judged base → statusOf head n ≠ .none

theorem OneSidedJudged.symm {base head : Option Results} (judgedOnce : OneSidedJudged base head) :
    OneSidedJudged head base :=
  ⟨judgedOnce.onHead, judgedOnce.onBase⟩

theorem statusOf_of_mem {rs : Option Results} (distinct : (judged rs).Nodup) {n : String}
    {v : Verdict} (held : (n, v) ∈ (rs.map (·.entries)).getD []) : statusOf rs n = v.status := by
  cases rs with
  | none => cases held
  | some r =>
    simp only [Option.map_some, Option.getD_some] at held
    simp only [judged, Option.map_some, Option.getD_some] at distinct
    -- the first entry named `n` is the only one, so it is `(n, v)`
    obtain ⟨first, found⟩ : ∃ e, r.entries.find? (·.1 == n) = some e :=
      Option.isSome_iff_exists.mp (List.find?_isSome.mpr ⟨(n, v), held, by simp⟩)
    have named : first.1 = n := by simpa using List.find?_some found
    have same : first = (n, v) :=
      List.inj_on_of_nodup_map distinct (List.mem_of_find?_eq_some found) held named
    simp [statusOf, Option.bind, Results.get?, found, same]

theorem statusOf_of_not_mem {rs : Option Results} {n : String} (absent : n ∉ judged rs) :
    statusOf rs n = .none := by
  cases rs with
  | none => rfl
  | some r =>
    have missing : r.entries.find? (·.1 == n) = none := by
      rw [List.find?_eq_none]
      intro e held named
      exact absent (List.mem_map.mpr ⟨e, held, by simpa using named⟩)
    simp [statusOf, Option.bind, Results.get?, missing]

theorem any_eq_mem (rs : Option Results) (n : String) :
    ((rs.map (·.entries)).getD []).any (·.1 == n) = decide (n ∈ judged rs) := by
  rw [Bool.eq_iff_iff, judged]
  simp only [List.any_eq_true, beq_iff_eq, List.mem_map, decide_eq_true_eq]

theorem statusChanges_eq (base head : Option Results) (distinctBase : (judged base).Nodup)
    (distinctHead : (judged head).Nodup) :
    statusChanges base head =
      (judged base).filterMap (reported base head) ++
        ((judged head).filter (· ∉ judged base)).map (change base head) := by
  simp only [statusChanges]
  congr 1
  · -- the base pass: each entry's status is its check's status on the base side
    rw [judged, List.filterMap_map]
    apply List.filterMap_congr
    rintro ⟨n, v⟩ held
    simp only [Function.comp_apply, reported, change, statusOf_of_mem distinctBase held, ne_comm]
  · -- the head pass: a check the base did not judge has no status there
    rw [← List.filterMap_eq_map, List.filterMap_filter]
    unfold judged
    rw [List.filterMap_map]
    apply List.filterMap_congr
    rintro ⟨n, v⟩ held
    have baseSide := any_eq_mem base n
    unfold judged at baseSide
    simp only [Function.comp_apply]
    by_cases seen : n ∈ ((base.map (·.entries)).getD []).map (·.1)
    · rw [baseSide, if_pos (decide_eq_true seen), if_neg (by simpa using seen)]
    · rw [baseSide, if_neg (by simpa using seen), if_pos (by simpa using seen), change,
        statusOf_of_not_mem seen, statusOf_of_mem distinctHead held]

theorem mem_judgedNames {base head : Option Results} {n : String} :
    n ∈ judgedNames base head ↔ n ∈ judged base ∨ n ∈ judged head := by
  by_cases seen : n ∈ judged base <;> simp [judgedNames, seen]

theorem nodup_judgedNames {base head : Option Results} (distinctBase : (judged base).Nodup)
    (distinctHead : (judged head).Nodup) : (judgedNames base head).Nodup := by
  refine List.nodup_append.mpr ⟨distinctBase, distinctHead.filter _, ?_⟩
  intro n inBase m onlyHead same
  have unseen : m ∉ judged base := by simpa using (List.mem_filter.mp onlyHead).2
  exact unseen (same ▸ inBase)

theorem map_change_eq_filterMap {base head : Option Results}
    (judgedOnce : ∀ n ∈ judged head, n ∉ judged base → statusOf head n ≠ .none) :
    ((judged head).filter (· ∉ judged base)).map (change base head) =
      ((judged head).filter (· ∉ judged base)).filterMap (reported base head) := by
  rw [← List.filterMap_eq_map]
  apply List.filterMap_congr
  intro n onlyHead
  obtain ⟨inHead, unseen⟩ := List.mem_filter.mp onlyHead
  have unseen : n ∉ judged base := by simpa using unseen
  have differ : statusOf base n ≠ statusOf head n := by
    rw [statusOf_of_not_mem unseen]
    exact (judgedOnce n inHead unseen).symm
  rw [reported, if_pos differ]
  rfl

theorem statusChanges_eq_reported {base head : Option Results} (distinctBase : (judged base).Nodup)
    (distinctHead : (judged head).Nodup) (judgedOnce : OneSidedJudged base head) :
    statusChanges base head = (judgedNames base head).filterMap (reported base head) := by
  rw [statusChanges_eq base head distinctBase distinctHead, map_change_eq_filterMap judgedOnce.onHead,
    judgedNames, List.filterMap_append]

theorem mem_filterMap_reported {base head : Option Results} {c : StatusChange} :
    c ∈ (judgedNames base head).filterMap (reported base head) ↔
      ∃ n, (n ∈ judged base ∨ n ∈ judged head) ∧ statusOf base n ≠ statusOf head n ∧
        c = change base head n := by
  simp only [List.mem_filterMap, mem_judgedNames, reported]
  constructor
  · rintro ⟨n, judgedSomewhere, found⟩
    split at found
    · exact ⟨n, judgedSomewhere, by assumption, (Option.some.inj found).symm⟩
    · cases found
  · rintro ⟨n, judgedSomewhere, differ, rfl⟩
    exact ⟨n, judgedSomewhere, if_pos differ⟩

theorem nodup_checks_reported {base head : Option Results} (distinctBase : (judged base).Nodup)
    (distinctHead : (judged head).Nodup) :
    (((judgedNames base head).filterMap (reported base head)).map (·.check)).Nodup := by
  rw [List.map_filterMap]
  apply (nodup_judgedNames distinctBase distinctHead).filterMap
  -- a reported change carries its check's name, so two names never give one change
  intro n m name fromN fromM
  have named : ∀ k, name ∈ (reported base head k).map (·.check) → name = k := by
    intro k found
    unfold reported at found
    split at found
    · simpa [change] using found.symm
    · cases found
  exact (named n fromN).symm.trans (named m fromM)

/-- The status changes between two analyses whose checks are each named once, when no check
judged on one side only lacks a status there: one change for each check judged on either side
whose statuses differ, with its statuses on the two sides, and nothing else, the base's checks in
order, then those only the head judged; comparing the other way round gives the same changes with
the two sides swapped; and no change keeps its status. -/
theorem compare_reports_each_changed_check_once (differ : LineDiffer) (a b : Entry)
    (distinctA : (judged a.results).Nodup) (distinctB : (judged b.results).Nodup)
    (judgedOnce : OneSidedJudged a.results b.results) :
    (compare differ a b).statuses =
      (judgedNames a.results b.results).filterMap (reported a.results b.results) ∧
    ((compare differ a b).statuses.map (·.check)).Nodup ∧
    (∀ c : StatusChange,
      c ∈ (compare differ b a).statuses ↔ ⟨c.check, c.head, c.base⟩ ∈ (compare differ a b).statuses) ∧
    (∀ c ∈ (compare differ a b).statuses, c.base ≠ c.head) := by
  have forward : (compare differ a b).statuses = _ := statusChanges_eq_reported distinctA distinctB judgedOnce
  have backward : (compare differ b a).statuses = _ := statusChanges_eq_reported distinctB distinctA judgedOnce.symm
  refine ⟨forward, forward ▸ nodup_checks_reported distinctA distinctB, ?_, ?_⟩
  · intro c
    rw [forward, backward, mem_filterMap_reported, mem_filterMap_reported]
    obtain ⟨name, was, now⟩ := c
    -- the same check, judged on the same sides, with its two statuses read the other way
    simp only [change, StatusChange.mk.injEq]
    constructor
    · rintro ⟨n, judgedSomewhere, differ, rfl, rfl, rfl⟩
      exact ⟨_, judgedSomewhere.symm, differ.symm, rfl, rfl, rfl⟩
    · rintro ⟨n, judgedSomewhere, differ, rfl, rfl, rfl⟩
      exact ⟨_, judgedSomewhere.symm, differ.symm, rfl, rfl, rfl⟩
  · intro c reportedChange
    rw [forward, mem_filterMap_reported] at reportedChange
    obtain ⟨n, -, differ, rfl⟩ := reportedChange
    exact differ

theorem compare_reports_only_base_and_only_head :
    (judged (some ⟨[("HSTS", Verdict.pass "" ""), ("Only Base", Verdict.failure "" "")]⟩)).Nodup ∧
    (judged (some ⟨[("Only Head", Verdict.caution "" ""), ("HSTS", Verdict.pass "" "")]⟩)).Nodup ∧
    OneSidedJudged (some ⟨[("HSTS", Verdict.pass "" ""), ("Only Base", Verdict.failure "" "")]⟩)
      (some ⟨[("Only Head", Verdict.caution "" ""), ("HSTS", Verdict.pass "" "")]⟩) ∧
    (compare .standard
        ⟨"b", "GET", "https://a.test/", 200, "",
          some ⟨[("HSTS", Verdict.pass "" ""), ("Only Base", Verdict.failure "" "")]⟩, some []⟩
        ⟨"h", "GET", "https://a.test/", 200, "",
          some ⟨[("Only Head", Verdict.caution "" ""), ("HSTS", Verdict.pass "" "")]⟩, some []⟩).statuses.map
      (fun c => (c.check, c.base, c.head)) = [("Only Base", .fail, .none), ("Only Head", .none, .warn)] := by
  have judgedOnce : OneSidedJudged (some ⟨[("HSTS", Verdict.pass "" ""), ("Only Base", Verdict.failure "" "")]⟩)
      (some ⟨[("Only Head", Verdict.caution "" ""), ("HSTS", Verdict.pass "" "")]⟩) :=
    ⟨by decide, by decide⟩
  refine ⟨by decide, by decide, judgedOnce, ?_⟩
  rw [(compare_reports_each_changed_check_once .standard
    ⟨"b", "GET", "https://a.test/", 200, "",
      some ⟨[("HSTS", Verdict.pass "" ""), ("Only Base", Verdict.failure "" "")]⟩, some []⟩
    ⟨"h", "GET", "https://a.test/", 200, "",
      some ⟨[("Only Head", Verdict.caution "" ""), ("HSTS", Verdict.pass "" "")]⟩, some []⟩
    (by decide) (by decide) judgedOnce).1]
  decide

/-- The results `[{"check": "X"}]` read as a check `X` with the empty verdict; the head pass then
reports `X` with no status on either side. -/
theorem compare_reports_unjudged_head_only_check :
    Results.ofJson (.arr [.obj [("check", .str "X")]]) = .ok ⟨[("X", Verdict.empty)]⟩ ∧
    statusOf (some ⟨[]⟩) "X" = statusOf (some ⟨[("X", Verdict.empty)]⟩) "X" ∧
    (compare .standard ⟨"b", "", "", 0, "", some ⟨[]⟩, some []⟩
        ⟨"h", "", "", 0, "", some ⟨[("X", Verdict.empty)]⟩, some []⟩).statuses.map
      (fun c => (c.check, c.base, c.head)) = [("X", .none, .none)] :=
  ⟨rfl, rfl, by decide⟩

end HeaderDiff

end HeaderAudit
