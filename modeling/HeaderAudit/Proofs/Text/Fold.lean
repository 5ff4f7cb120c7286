import Mathlib
import HeaderAudit.Text.Case
/-!
Comparison under simple case folding is an equivalence.
-/
namespace HeaderAudit.Text

theorem equalFoldList_iff : ∀ cs ds : List Char, equalFoldList cs ds = true ↔ cs.map foldChar = ds.map foldChar
  | [], [] => by simp [equalFoldList]
  | [], _ :: _ => by simp [equalFoldList]
  | _ :: _, [] => by simp [equalFoldList]
  | c :: cs, d :: ds => by
    simp only [equalFoldList, Bool.and_eq_true, beq_iff_eq, equalFoldList_iff cs ds, List.map_cons,
      List.cons.injEq]

theorem equalFold_iff (a b : String) :
    equalFold a b = true ↔ a.toList.map foldChar = b.toList.map foldChar :=
  equalFoldList_iff a.toList b.toList

theorem equalFold_comm (a b : String) : equalFold a b = equalFold b a := by
  apply Bool.eq_iff_iff.mpr
  rw [equalFold_iff, equalFold_iff]
  exact eq_comm

theorem equalFold_trans {a b c : String} (first : equalFold a b = true) (second : equalFold b c = true) :
    equalFold a c = true := by
  rw [equalFold_iff] at *
  exact first.trans second

theorem foldChar_lowerChar_table : ∀ n < 128, foldChar (lowerChar (Char.ofNat n)) = foldChar (Char.ofNat n) := by
  decide

theorem foldChar_lowerChar {c : Char} (small : c.toNat < 128) : foldChar (lowerChar c) = foldChar c := by
  have entry := foldChar_lowerChar_table c.toNat small
  rwa [Char.ofNat_toNat] at entry

theorem equalFold_lower {a b : String} (smallA : ∀ c ∈ a.toList, c.toNat < 128)
    (smallB : ∀ c ∈ b.toList, c.toNat < 128) : equalFold (lower a) (lower b) = equalFold a b := by
  have folded : ∀ s : String, (∀ c ∈ s.toList, c.toNat < 128) →
      (lower s).toList.map foldChar = s.toList.map foldChar := fun s small => by
    rw [lower, String.toList_ofList, List.map_map]
    exact List.map_congr_left fun c held => foldChar_lowerChar (small c held)
  apply Bool.eq_iff_iff.mpr
  rw [equalFold_iff, equalFold_iff, folded a smallA, folded b smallB]

end HeaderAudit.Text
