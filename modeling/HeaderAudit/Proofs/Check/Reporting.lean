import Mathlib
import HeaderAudit.Check.Report
/-!
What the per-endpoint reports and the overall status say about the verdicts; a verdict without a
status reads as a failure in the report only.
-/
namespace HeaderAudit

namespace Registry

def Counts (rs : Results) (s : Status) (c : Check) : Prop :=
  c.affectsOverall = true ∧ (rs.get? c.name).map (·.status) = some s

instance (rs : Results) (s : Status) (c : Check) : Decidable (Counts rs s c) :=
  inferInstanceAs (Decidable (_ ∧ _))

theorem overallFrom_eq (rs : Results) (acc : Status) (cs : List Check) :
    overallFrom rs acc cs =
      if ∃ c ∈ cs, Counts rs .fail c then .fail
      else if ∃ c ∈ cs, Counts rs .warn c then .warn else acc := by
  induction cs generalizing acc with
  | nil => simp [overallFrom]
  | cons c cs ih =>
    unfold overallFrom
    -- the head either does not count, has no verdict, fails, or passes on a start to the rest
    by_cases counted : c.affectsOverall = true
    · rw [if_pos counted]
      cases verdict : rs.get? c.name with
      | none =>
        have quiet : ∀ s, ¬ Counts rs s c := fun s ⟨_, named⟩ => by simp [verdict] at named
        simp [ih, quiet]
      | some v =>
        have counts : ∀ s, Counts rs s c ↔ v.status = s := fun s => by
          simp [Counts, counted, verdict]
        by_cases failed : v.status = .fail
        · simp [counts, failed]
        · by_cases warned : v.status = .warn
          · simp [ih, counts, warned]
          · simp [ih, counts, failed, warned]
    · rw [if_neg counted]
      have quiet : ∀ s, ¬ Counts rs s c := fun s ⟨shown, _⟩ => counted shown
      simp [ih, quiet]

theorem overall_eq (r : Registry) (rs : Results) :
    r.overall rs =
      if ∃ c ∈ r.checks, Counts rs .fail c then .fail
      else if ∃ c ∈ r.checks, Counts rs .warn c then .warn else .ok :=
  overallFrom_eq rs .ok r.checks

end Registry

namespace Results

theorem hasIssues_iff (rs : Results) :
    rs.hasIssues = true ↔ ∃ e ∈ rs.entries, e.2.status = .warn ∨ e.2.status = .fail := by
  simp only [hasIssues, List.any_eq_true, decide_eq_true_eq]
  exact exists_congr fun e => and_congr_right fun _ => Or.comm

end Results

namespace Issue

def ofVerdict (c : Check) (v : Verdict) : Issue :=
  ⟨c.name, v.status, if v.status = .ok then "" else c.messageFor v, v.display⟩

theorem ofResults_forall₂ (r : Registry) (rs : Results) :
    List.Forall₂ (fun c i => ∃ v, rs.get? c.name = some v ∧ i = ofVerdict c v)
      (r.checks.filter fun c => (rs.get? c.name).isSome) (ofResults r rs) := by
  obtain ⟨cs⟩ := r
  unfold ofResults
  induction cs with
  | nil => exact .nil
  | cons c cs ih =>
    cases verdict : rs.get? c.name with
    | none => simpa [verdict] using ih
    | some v =>
      simp only [List.filter_cons, List.filterMap_cons, verdict, Option.isSome_some, if_true,
        Option.map_some]
      exact List.Forall₂.cons ⟨v, verdict, rfl⟩ ih

/-- A report block starts with a heading: the check's name and a status word on a line of its
own. -/
def Headed (i : Issue) (word : String) : Prop :=
  Text.hasPrefix i.text (i.check ++ ": " ++ word ++ "\n") = true

instance (i : Issue) (word : String) : Decidable (i.Headed word) :=
  inferInstanceAs (Decidable (_ = true))

theorem headed_iff (i : Issue) :
    (i.Headed "OK" ↔ i.status = .ok) ∧ (i.Headed "WARNING" ↔ i.status = .warn) ∧
      (i.Headed "FAIL" ↔ i.status = .fail ∨ i.status = .none) := by
  obtain ⟨name, status, message, current⟩ := i
  cases status <;> simp [Headed, Text.hasPrefix, List.isPrefixOf_iff_prefix, text, String.toList_append]

end Issue

/-- The issues, the report, the overall status and the issue flag of results under a registry, each
in terms of the verdicts: one issue per check with a verdict, in registry order; each report block
headed by its status word, with `FAIL` also for a verdict that has no status; the overall status
from the counted failures and warnings; and issues whenever any verdict warns or fails. -/
theorem reports_agree_with_verdicts (r : Registry) (rs : Results) :
    List.Forall₂ (fun c i => ∃ v, rs.get? c.name = some v ∧ i = Issue.ofVerdict c v)
        (r.checks.filter fun c => (rs.get? c.name).isSome) (Issue.ofResults r rs) ∧
      (∀ i ∈ Issue.ofResults r rs, (i.Headed "OK" ↔ i.status = .ok) ∧
        (i.Headed "WARNING" ↔ i.status = .warn) ∧ (i.Headed "FAIL" ↔ i.status = .fail ∨ i.status = .none)) ∧
      r.overall rs =
        (if ∃ c ∈ r.checks, Registry.Counts rs .fail c then .fail
        else if ∃ c ∈ r.checks, Registry.Counts rs .warn c then .warn else .ok) ∧
      (rs.hasIssues = true ↔ ∃ e ∈ rs.entries, e.2.status = .warn ∨ e.2.status = .fail) :=
  ⟨Issue.ofResults_forall₂ r rs, fun i _ => Issue.headed_iff i, Registry.overall_eq r rs,
    Results.hasIssues_iff rs⟩

/-- A custom check whose verdict has no status: its report block is headed `FAIL`, while the
overall status is OK and the results have no issue. -/
theorem report_heads_unjudged_verdict_fail :
    let reg : Registry := ⟨[.custom ⟨"X", "X", "m", true, ["a:"], Patterns.none, none,
      some ⟨.none, none, none, none⟩, none, none⟩]⟩
    let rs := (reg.evaluate (some (Header.ofLines ["A: b"])) none).1
    rs.entries.map (fun e => (e.1, e.2.status)) = [("X", .none)] ∧
      (∀ i ∈ Issue.ofResults reg rs, i.Headed "FAIL" ∧ i.status ≠ .fail) ∧
      report reg rs = "Security Check Results\n========================================\n\nX: FAIL\n  m\n  Current: \n\n" ∧
      reg.overall rs = .ok ∧ rs.hasIssues = false := by
  decide

end HeaderAudit
