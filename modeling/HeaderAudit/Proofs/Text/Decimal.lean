import Mathlib
import HeaderAudit.Text.Decimal
/-!
Decimal numbers read back.
-/

namespace HeaderAudit.Text

theorem digitChar_digit {d : Nat} (small : d < 10) :
    (Nat.digitChar d).isDigit = true ∧ (Nat.digitChar d).toNat - '0'.toNat = d := by
  revert d
  decide

theorem toDigits_of_ge {n : Nat} (large : 10 ≤ n) :
    Nat.toDigits 10 n = Nat.toDigits 10 (n / 10) ++ [Nat.digitChar (n % 10)] := by
  have last : n % 10 < 10 := Nat.mod_lt n (by decide)
  rw [← Nat.toDigits_of_lt_base last, Nat.toDigits_append_toDigits (by decide) (by omega) last,
    Nat.div_add_mod]

theorem toDigits_ne_nil (n : Nat) : Nat.toDigits 10 n ≠ [] := by
  by_cases small : n < 10
  · simp [Nat.toDigits_of_lt_base small]
  · simp [toDigits_of_ge (Nat.le_of_not_lt small)]

theorem isDigit_of_mem_toDigits {n : Nat} {c : Char} (member : c ∈ Nat.toDigits 10 n) :
    c.isDigit = true := by
  induction n using Nat.strongRecOn with
  | ind n ih =>
    by_cases small : n < 10
    · rw [Nat.toDigits_of_lt_base small, List.mem_singleton] at member
      rw [member]
      exact (digitChar_digit small).1
    · rw [toDigits_of_ge (Nat.le_of_not_lt small), List.mem_append, List.mem_singleton] at member
      rcases member with earlier | last
      · exact ih (n / 10) (by omega) earlier
      · rw [last]
        exact (digitChar_digit (Nat.mod_lt n (by decide))).1

theorem digitsValue?_single (c : Char) :
    digitsValue? [c] = if c.isDigit then some (c.toNat - '0'.toNat) else none := by
  simp [digitsValue?]

theorem digitsValue?_snoc {cs : List Char} (nonempty : cs ≠ []) (c : Char) :
    digitsValue? (cs ++ [c]) = (digitsValue? cs).bind fun n =>
      if c.isDigit then some (n * 10 + (c.toNat - '0'.toNat)) else none := by
  obtain ⟨d, ds, rfl⟩ := List.exists_cons_of_ne_nil nonempty
  simp only [digitsValue?, List.cons_append, List.foldl_append, List.foldl_cons, List.foldl_nil]

theorem digitsValue?_toDigits (n : Nat) : digitsValue? (Nat.toDigits 10 n) = some n := by
  induction n using Nat.strongRecOn with
  | ind n ih =>
    by_cases small : n < 10
    · rw [Nat.toDigits_of_lt_base small, digitsValue?_single, if_pos (digitChar_digit small).1,
        (digitChar_digit small).2]
    · rw [toDigits_of_ge (Nat.le_of_not_lt small), digitsValue?_snoc (toDigits_ne_nil _),
        ih (n / 10) (by omega)]
      have last := digitChar_digit (Nat.mod_lt n (show 10 > 0 by decide))
      simp only [Option.bind_some, last.1, if_true, last.2]
      rw [Nat.div_add_mod']

theorem parseInt?_toString (n : Nat) : parseInt? (toString (n : Int)) = some (n : Int) := by
  have written : (toString (n : Int)).toList = Nat.toDigits 10 n := String.toList_ofList
  obtain ⟨c, cs, digits⟩ := List.exists_cons_of_ne_nil (toDigits_ne_nil n)
  have digit : c.isDigit = true := isDigit_of_mem_toDigits (digits ▸ List.mem_cons_self)
  have unsigned : c ≠ '+' ∧ c ≠ '-' := by
    constructor <;> (intro sign; rw [sign] at digit; exact absurd digit (by decide))
  unfold parseInt?
  rw [written, digits]
  split
  · rename_i ds same
    exact absurd (List.cons.inj same).1 unsigned.1
  · rename_i ds same
    exact absurd (List.cons.inj same).1 unsigned.2
  · rw [← digits, digitsValue?_toDigits]
    rfl

theorem parseInt64?_toString {n : Nat} (fits : n < 2 ^ 63) :
    parseInt64? (toString (n : Int)) = some (n : Int) := by
  rw [parseInt64?, parseInt?_toString]
  have inRange : -(2 ^ 63 : Int) ≤ n ∧ (n : Int) < 2 ^ 63 := by omega
  exact if_pos inRange

end HeaderAudit.Text
