import Mathlib
import HeaderAudit.Error
/-!
Reasoning about computations that can fail: sequences, loops and folds over lists.
-/
namespace HeaderAudit

namespace Outcome

theorem bind_eq_ok_iff {α β : Type} {x : Outcome α} {f : α → Outcome β} {b : β} :
    (x >>= f) = .ok b ↔ ∃ v, x = .ok v ∧ f v = .ok b := by
  cases x <;> simp [bind, Except.bind]

theorem mapError_eq_ok_iff {α : Type} {x : Outcome α} {g : Error → Error} {a : α} :
    x.mapError g = .ok a ↔ x = .ok a := by
  cases x <;> simp [Except.mapError]

end Outcome

section Loop

variable {α ε : Type} {f : α → PUnit → Except ε (ForInStep PUnit)}

theorem forIn_error {P : ε → Prop} :
    ∀ (xs : List α), (∀ x ∈ xs, ∀ b e, f x b = .error e → P e) →
      ∀ {e : ε}, forIn xs PUnit.unit f = .error e → P e
  | [], _, e, ran => by cases ran
  | x :: xs, fails, e, ran => by
    rw [List.forIn_cons] at ran
    cases step : f x PUnit.unit with
    | error e' =>
      rw [step] at ran
      cases ran
      exact fails x List.mem_cons_self _ e step
    | ok r =>
      rw [step] at ran
      cases r with
      | done b => cases ran
      | yield b => exact forIn_error xs (fun y later => fails y (List.mem_cons_of_mem x later)) ran

theorem forIn_eq_ok (goes : ∀ x b r, f x b = .ok r → r = .yield PUnit.unit) :
    ∀ (xs : List α), forIn xs PUnit.unit f = .ok PUnit.unit ↔ ∀ x ∈ xs, ∃ r, f x PUnit.unit = .ok r
  | [] => by simp [pure, Except.pure]
  | x :: xs => by
    rw [List.forIn_cons, List.forall_mem_cons]
    cases step : f x PUnit.unit with
    | error e => simp [bind, Except.bind]
    | ok r =>
      rw [goes x _ r step]
      exact (forIn_eq_ok goes xs).trans (and_iff_right ⟨_, rfl⟩).symm

end Loop

theorem foldlM_appends {α β γ : Type} (step : γ × List β → α → Outcome (γ × List β)) (xs : List α)
    (g : α → β) (each : ∀ x ∈ xs, ∀ n acc, step (n, acc) x = .ok (n, acc ++ [g x]))
    (n : γ) (acc : List β) :
    xs.foldlM step (n, acc) = .ok (n, acc ++ xs.map g) := by
  induction xs generalizing acc with
  | nil => simp only [List.foldlM_nil, List.map_nil, List.append_nil]; rfl
  | cons x xs ih =>
    rw [List.foldlM_cons, each x (by simp) n acc]
    have rest := ih (fun y mem => each y (List.mem_cons_of_mem x mem)) (acc ++ [g x])
    simpa [bind, Except.bind] using rest

theorem foldlM_fails {α σ : Type} (step : σ → α → Outcome σ) (xs : List α) (err : Error)
    (each : ∀ x ∈ xs, ∀ s, step s x = .error err ∨ ∃ s', step s x = .ok s')
    (stops : ∃ x ∈ xs, ∀ s, step s x = .error err) (s : σ) :
    xs.foldlM step s = .error err := by
  induction xs generalizing s with
  | nil => simp at stops
  | cons x xs ih =>
    rw [List.foldlM_cons]
    rcases each x (by simp) s with failed | ⟨s', went⟩
    · rw [failed]
      rfl
    · rw [went]
      obtain ⟨y, mem, always⟩ := stops
      rcases List.mem_cons.mp mem with rfl | later
      · rw [always s] at went
        cases went
      · exact ih (fun z mem => each z (List.mem_cons_of_mem x mem)) ⟨y, later, always⟩ s'

end HeaderAudit
