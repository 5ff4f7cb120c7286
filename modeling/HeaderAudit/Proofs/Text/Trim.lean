import Mathlib
import HeaderAudit.Text.Blank
import HeaderAudit.Text.Search
/-!
Trimming and cutting code-point lists.
-/

namespace HeaderAudit.Text

def Trimmed (cs : List Char) : Prop :=
  cs.dropWhile isBlank = cs ∧ cs.rdropWhile isBlank = cs

theorem trimList_ne_nil {c : Char} {cs : List Char} (member : c ∈ cs) (kept : isBlank c = false) :
    trimList cs ≠ [] := by
  intro gone
  rw [trimList, List.reverse_eq_nil_iff, List.dropWhile_eq_nil_iff] at gone
  -- what is left after the leading blanks is all blank, so nothing is left
  have left : cs.dropWhile isBlank = [] := by
    by_contra nonempty
    have first := List.head_dropWhile_not isBlank nonempty
    rw [gone _ (List.mem_reverse.mpr (List.head_mem nonempty))] at first
    cases first
  rw [List.dropWhile_eq_nil_iff] at left
  rw [left c member] at kept
  cases kept

theorem trimList_eq_rdropWhile (cs : List Char) :
    trimList cs = (cs.dropWhile isBlank).rdropWhile isBlank := rfl

theorem isBlank_space : isBlank ' ' = true := by decide

theorem toList_space : " ".toList = [' '] := rfl

theorem trimmed_trimList (cs : List Char) : Trimmed (trimList cs) := by
  rw [trimList_eq_rdropWhile]
  refine ⟨?_, List.rdropWhile_idempotent _ _⟩
  rw [List.dropWhile_eq_self_iff]
  intro nonempty
  -- the trimmed list is a prefix of the list without its leading blanks, so both share a head
  have pre := List.rdropWhile_prefix isBlank (cs.dropWhile isBlank)
  rw [pre.getElem nonempty]
  have head := List.dropWhile_get_zero_not isBlank cs (Nat.lt_of_lt_of_le nonempty pre.length_le)
  rwa [List.get_eq_getElem] at head

theorem trimList_of_trimmed {cs : List Char} (trimmed : Trimmed cs) : trimList cs = cs := by
  rw [trimList_eq_rdropWhile, trimmed.1, trimmed.2]

@[simp] theorem trimList_trimList (cs : List Char) : trimList (trimList cs) = trimList cs :=
  trimList_of_trimmed (trimmed_trimList cs)

theorem trim_trim (s : String) : trim (trim s) = trim s := by
  simp only [trim, String.toList_ofList, trimList_trimList]

theorem trimList_append_blank (cs : List Char) {c : Char} (blank : isBlank c = true) :
    trimList (cs ++ [c]) = trimList cs := by
  rw [trimList_eq_rdropWhile, trimList_eq_rdropWhile, List.dropWhile_append]
  by_cases gone : (cs.dropWhile isBlank).isEmpty
  · rw [if_pos gone, List.isEmpty_iff.mp gone, List.dropWhile_cons_of_pos blank]
    rfl
  · rw [if_neg gone, List.rdropWhile_concat_pos isBlank _ c blank]

theorem trim_append_space (s : String) : trim (s ++ " ") = trim s := by
  simp only [trim, String.toList_append, toList_space]
  rw [trimList_append_blank _ isBlank_space]

theorem rdropWhile_append_trimmed (cs : List Char) {more : List Char} (trimmed : Trimmed more)
    (nonempty : more ≠ []) : (cs ++ more).rdropWhile isBlank = cs ++ more := by
  rw [List.rdropWhile_eq_self_iff]
  intro _
  rw [List.getLast_append_of_ne_nil _ nonempty]
  exact List.rdropWhile_eq_self_iff.mp trimmed.2 nonempty

theorem trimList_join (cs : List Char) {more : List Char} (trimmed : Trimmed more)
    (nonempty : more ≠ []) :
    trimList (cs ++ ' ' :: more) =
      if cs.dropWhile isBlank = [] then more else cs.dropWhile isBlank ++ ' ' :: more := by
  rw [trimList_eq_rdropWhile, List.dropWhile_append]
  by_cases gone : cs.dropWhile isBlank = []
  · rw [if_pos (List.isEmpty_iff.mpr gone), if_pos gone,
      List.dropWhile_cons_of_pos isBlank_space, trimmed.1, trimmed.2]
  · rw [if_neg (fun empty => gone (List.isEmpty_iff.mp empty)), if_neg gone]
    have kept := rdropWhile_append_trimmed (cs.dropWhile isBlank ++ [' ']) trimmed nonempty
    simpa only [List.append_assoc, List.singleton_append] using kept

theorem trimList_eq_dropWhile {cs : List Char}
    (clean : cs.getLast?.all (fun c => !isBlank c) = true ∨ trimList cs = []) :
    trimList cs = cs.dropWhile isBlank := by
  rcases clean with lastKept | blank
  · rw [trimList_eq_rdropWhile, List.rdropWhile_eq_self_iff]
    intro nonempty
    obtain ⟨front, split⟩ := List.dropWhile_suffix (l := cs) isBlank
    have last : (front ++ cs.dropWhile isBlank).getLast? =
        some ((cs.dropWhile isBlank).getLast nonempty) := by
      rw [List.getLast?_append, List.getLast?_eq_some_getLast nonempty]
      rfl
    rw [split] at last
    rw [last] at lastKept
    simpa using lastKept
  · rw [blank, eq_comm]
    rw [trimList_eq_rdropWhile, List.rdropWhile_eq_nil_iff] at blank
    rw [← List.dropWhile_idempotent isBlank cs]
    exact List.dropWhile_eq_nil_iff.mpr blank

theorem trimList_join_trimList {cs more : List Char}
    (clean : cs.getLast?.all (fun c => !isBlank c) = true ∨ trimList cs = [])
    (trimmed : Trimmed more) (nonempty : more ≠ []) :
    trimList (trimList cs ++ ' ' :: more) = trimList (cs ++ ' ' :: more) := by
  rw [trimList_join _ trimmed nonempty, trimList_join _ trimmed nonempty,
    (trimmed_trimList cs).1, trimList_eq_dropWhile clean]

theorem cutList_single_cons (c x : Char) (cs : List Char) :
    cutList [c] (x :: cs) =
      if c = x then some ([], cs) else (cutList [c] cs).map fun p => (x :: p.1, p.2) := by
  by_cases same : c = x
  · subst same
    simp [cutList, List.isPrefixOf]
  · simp [cutList, List.isPrefixOf, same]

theorem eq_of_cutList_single {c : Char} {cs before after : List Char}
    (found : cutList [c] cs = some (before, after)) : cs = before ++ c :: after := by
  induction cs generalizing before after with
  | nil => simp [cutList] at found
  | cons x cs ih =>
    rw [cutList_single_cons] at found
    split at found
    · rename_i same
      cases found
      rw [same]
      rfl
    · obtain ⟨⟨front, back⟩, inner, joined⟩ := Option.map_eq_some_iff.mp found
      cases joined
      rw [ih inner]
      rfl

theorem cutList_single_append {c : Char} {cs before after : List Char} (rest : List Char)
    (found : cutList [c] cs = some (before, after)) :
    cutList [c] (cs ++ rest) = some (before, after ++ rest) := by
  induction cs generalizing before after with
  | nil => simp [cutList] at found
  | cons x cs ih =>
    rw [cutList_single_cons] at found
    rw [List.cons_append, cutList_single_cons]
    split at found
    · rename_i same
      cases found
      rw [if_pos same]
    · rename_i differ
      obtain ⟨⟨front, back⟩, inner, joined⟩ := Option.map_eq_some_iff.mp found
      cases joined
      rw [if_neg differ, ih inner]
      rfl

theorem cutList_single_append_of_none {c : Char} {cs : List Char} (rest : List Char)
    (missing : cutList [c] cs = none) :
    cutList [c] (cs ++ rest) = (cutList [c] rest).map fun p => (cs ++ p.1, p.2) := by
  induction cs with
  | nil => simp
  | cons x cs ih =>
    rw [cutList_single_cons] at missing
    rw [List.cons_append, cutList_single_cons]
    split at missing
    · cases missing
    · rename_i differ
      rw [if_neg differ, ih (Option.map_eq_none_iff.mp missing), Option.map_map]
      rfl

end HeaderAudit.Text
