import Mathlib
import HeaderAudit.Ident
import HeaderAudit.Proofs.Text.Trim
/-!
Hexadecimal digits read back, and the sequential id source is fresh.
-/

namespace HeaderAudit.Text

theorem hexDigitValue?_hexDigit (upper : Bool) {d : Nat} (small : d < 16) :
    hexDigitValue? (hexDigit upper d) = some d := by
  revert d upper
  decide

theorem isHexDigit_hexDigit (upper : Bool) {d : Nat} (small : d < 16) :
    isHexDigit (hexDigit upper d) = true := by
  simp [isHexDigit, hexDigitValue?_hexDigit upper small]

theorem hexValueFrom_append (acc : Nat) (xs ys : List Char) :
    hexValueFrom acc (xs ++ ys) = (hexValueFrom acc xs).bind (hexValueFrom · ys) := by
  induction xs generalizing acc with
  | nil => rfl
  | cons c cs ih =>
    simp only [List.cons_append, hexValueFrom]
    cases hexDigitValue? c with
    | none => rfl
    | some d => exact ih (acc * 16 + d)

theorem hexValueFrom_hexDigits (upper : Bool) (n acc : Nat) :
    hexValueFrom acc (hexDigits upper n) = some (acc * 16 ^ (hexDigits upper n).length + n) := by
  induction n using Nat.strongRecOn generalizing acc with
  | ind n ih =>
    rw [hexDigits]
    split
    · rename_i small
      simp [hexValueFrom, hexDigitValue?_hexDigit upper small]
    · rename_i large
      -- the last digit is the remainder, the digits before it the quotient
      have before := ih (n / 16) (by omega) acc
      have last : n % 16 < 16 := Nat.mod_lt n (by decide)
      rw [hexValueFrom_append, before]
      simp only [Option.bind_some, hexValueFrom, hexDigitValue?_hexDigit upper last,
        List.length_append, List.length_singleton, Nat.pow_succ]
      congr 1
      have split := Nat.div_add_mod n 16
      rw [Nat.add_mul, Nat.mul_assoc]
      omega

theorem length_hexDigits_le (upper : Bool) {n k : Nat} (below : n < 16 ^ (k + 1)) :
    (hexDigits upper n).length ≤ k + 1 := by
  induction k generalizing n with
  | zero =>
    rw [hexDigits, if_pos (by simpa using below)]
    simp
  | succ k ih =>
    rw [hexDigits]
    split
    · simp
    · have quotient : n / 16 < 16 ^ (k + 1) := by
        rw [Nat.div_lt_iff_lt_mul (by decide)]
        simpa [Nat.pow_succ] using below
      simpa using ih quotient

theorem hexValueFrom_zeros (k : Nat) (ys : List Char) :
    hexValueFrom 0 (List.replicate k '0' ++ ys) = hexValueFrom 0 ys := by
  induction k with
  | zero => rfl
  | succ k ih =>
    rw [List.replicate_succ, List.cons_append, hexValueFrom]
    exact ih

theorem isHexDigit_of_mem_hexDigits (upper : Bool) (n : Nat) :
    ∀ c ∈ hexDigits upper n, isHexDigit c = true := by
  induction n using Nat.strongRecOn with
  | ind n ih =>
    rw [hexDigits]
    split
    · rename_i small
      simp [isHexDigit_hexDigit upper small]
    · intro c member
      rcases List.mem_append.mp member with early | last
      · exact ih (n / 16) (by omega) c early
      · rw [List.mem_singleton.mp last]
        exact isHexDigit_hexDigit upper (Nat.mod_lt n (by decide))

theorem hexValueFrom_hexPadded (upper : Bool) (width n : Nat) :
    hexValueFrom 0 (hexPadded upper width n) = some n := by
  simp [hexPadded, hexValueFrom_zeros, hexValueFrom_hexDigits]

theorem hexPadded_four {n : Nat} (below : n < 16 ^ 4) :
    (hexPadded false 4 n).length = 4 ∧ hexValueFrom 0 (hexPadded false 4 n) = some n ∧
      ∀ c ∈ hexPadded false 4 n, isHexDigit c = true := by
  have short := length_hexDigits_le false below
  refine ⟨?_, ?_, ?_⟩
  · simp only [hexPadded, List.length_append, List.length_replicate]
    omega
  · exact hexValueFrom_hexPadded false 4 n
  · intro c member
    rcases List.mem_append.mp member with zero | digit
    · rw [(List.mem_replicate.mp zero).2]
      rfl
    · exact isHexDigit_of_mem_hexDigits false n c digit

end HeaderAudit.Text

namespace HeaderAudit

theorem IdSource.trim_render (n : Nat) : Text.trim (IdSource.render n) ≠ "" := by
  intro blank
  have digit : '0' ∈ "00000000-0000-4000-8000-".toList := by decide
  have zero : '0' ∈ (IdSource.render n).toList := by
    unfold IdSource.render
    rw [String.toList_append]
    exact List.mem_append_left _ digit
  exact Text.trimList_ne_nil zero (by decide) (String.ofList_eq_empty_iff.mp blank)

theorem IdSource.sequential_fresh : IdSource.sequential.Fresh where
  distinct m n same := by
    -- the identifiers share their first groups, so their last groups are equal, and read back
    have spelled : IdSource.render m = IdSource.render n := same
    have digits : Text.hexPadded false 12 m = Text.hexPadded false 12 n :=
      String.ofList_injective ((String.append_right_inj _).mp spelled)
    have read := congrArg (Text.hexValueFrom 0) digits
    rwa [Text.hexValueFrom_hexPadded, Text.hexValueFrom_hexPadded, Option.some.injEq] at read
  nonblank := IdSource.trim_render

end HeaderAudit
