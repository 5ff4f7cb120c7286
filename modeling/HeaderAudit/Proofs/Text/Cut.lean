import HeaderAudit.Proofs.Text.Trim
/-!
Cutting, splitting and reading fields of texts built from clean pieces.
-/

namespace HeaderAudit.Text

theorem intercalate_cons_eq_flatMap {α : Type} (sep first : List α) (rest : List (List α)) :
    sep.intercalate (first :: rest) = first ++ rest.flatMap (sep ++ ·) := by
  induction rest generalizing first with
  | nil => simp [List.intercalate_singleton]
  | cons piece rest ih =>
    rw [List.intercalate_cons_cons, ih piece, List.flatMap_cons]
    simp [List.append_assoc]

section Units

variable {α : Type} [BEq α]

theorem not_prefix_of_head_ne [LawfulBEq α] {d c : α} {ds rest : List α} (differ : c ≠ d) :
    (d :: ds).isPrefixOf (c :: rest) = false := by
  simp [List.isPrefixOf, Ne.symm differ]

/-! ### The first occurrence of a separator -/

theorem cutList_self_append [LawfulBEq α] (d : α) (ds rest : List α) :
    cutList (d :: ds) (d :: ds ++ rest) = some ([], rest) := by
  have found : (d :: ds).isPrefixOf (d :: ds ++ rest) = true :=
    List.isPrefixOf_iff_prefix.mpr (List.prefix_append _ rest)
  rw [List.cons_append, cutList, ← List.cons_append, if_pos found]
  simp

theorem cutList_cons_of_unmatched {sep : List α} {c : α} {rest : List α}
    (missed : sep.isPrefixOf (c :: rest) = false) :
    cutList sep (c :: rest) = (cutList sep rest).map fun p => (c :: p.1, p.2) := by
  rw [cutList, if_neg (by rw [missed]; decide)]

theorem cutList_append_of_not_mem [LawfulBEq α] {d : α} {ds a : List α} (rest : List α)
    (missing : d ∉ a) :
    cutList (d :: ds) (a ++ rest) = (cutList (d :: ds) rest).map fun p => (a ++ p.1, p.2) := by
  induction a with
  | nil => simp
  | cons c a ih =>
    have differ : c ≠ d := fun same => missing (same ▸ List.mem_cons_self)
    rw [List.cons_append, cutList_cons_of_unmatched (not_prefix_of_head_ne differ),
      ih (fun held => missing (.tail c held)), Option.map_map]
    rfl

theorem cutList_eq_none {sub : List α} {cs : List α} (absent : containsList sub cs = false) :
    cutList sub cs = none := by
  induction cs with
  | nil =>
    have nonempty : sub ≠ [] := by simpa [containsList] using absent
    simp [cutList, nonempty]
  | cons c cs ih =>
    simp only [containsList, Bool.or_eq_false_iff] at absent
    rw [cutList_cons_of_unmatched absent.1, ih absent.2]
    rfl

theorem containsList_eq_false [LawfulBEq α] {sub cs : List α} (absent : ¬ sub <:+: cs) : containsList sub cs = false := by
  induction cs with
  | nil =>
    have nonempty : sub ≠ [] := fun empty => absent (by subst empty; exact List.nil_infix)
    simp [containsList, nonempty]
  | cons c cs ih =>
    have unmatched : sub.isPrefixOf (c :: cs) = false := by
      cases found : sub.isPrefixOf (c :: cs) with
      | false => rfl
      | true => exact absurd (List.isPrefixOf_iff_prefix.mp found).isInfix absent
    rw [containsList, unmatched, ih fun inner => absent (List.infix_cons inner)]
    rfl

end Units

/-! ### Splitting at every separator -/

theorem splitFrom_skip (sep cur passed rest : List Char) :
    splitFrom sep cur passed.length (passed ++ rest) = splitFrom sep cur 0 rest := by
  induction passed with
  | nil => rfl
  | cons c passed ih => simp only [List.length_cons, List.cons_append, splitFrom, ih]

theorem splitFrom_append_of_not_mem {d : Char} {ds a : List Char} (cur rest : List Char)
    (missing : d ∉ a) :
    splitFrom (d :: ds) cur 0 (a ++ rest) = splitFrom (d :: ds) (a.reverse ++ cur) 0 rest := by
  induction a generalizing cur with
  | nil => rfl
  | cons c a ih =>
    have differ : c ≠ d := fun same => missing (same ▸ List.mem_cons_self)
    have missed : ¬((d :: ds) ≠ [] ∧ (d :: ds).isPrefixOf (c :: (a ++ rest)) = true) := by
      rw [not_prefix_of_head_ne differ]
      simp
    rw [List.cons_append, splitFrom, if_neg missed, ih _ (fun held => missing (.tail c held))]
    simp

theorem splitFrom_sep_append (d : Char) (ds cur rest : List Char) :
    splitFrom (d :: ds) cur 0 (d :: ds ++ rest) = cur.reverse :: splitFrom (d :: ds) [] 0 rest := by
  have found : (d :: ds) ≠ [] ∧ (d :: ds).isPrefixOf (d :: ds ++ rest) = true :=
    ⟨List.cons_ne_nil d ds, List.isPrefixOf_iff_prefix.mpr (List.prefix_append _ rest)⟩
  rw [List.cons_append, splitFrom, ← List.cons_append, if_pos found, List.length_cons,
    Nat.add_sub_cancel, splitFrom_skip]

theorem splitList_flatMap {d : Char} {ds : List Char} (first : List Char) (rest : List (List Char))
    (clean : d ∉ first) (cleanRest : ∀ p ∈ rest, d ∉ p) :
    splitList (first ++ rest.flatMap (d :: ds ++ ·)) (d :: ds) = first :: rest := by
  induction rest generalizing first with
  | nil =>
    rw [List.flatMap_nil, splitList, splitFrom_append_of_not_mem [] [] clean, List.append_nil]
    simp [splitFrom]
  | cons piece rest ih =>
    rw [List.flatMap_cons, splitList, splitFrom_append_of_not_mem [] _ clean, List.append_nil,
      List.append_assoc, splitFrom_sep_append, List.reverse_reverse]
    exact congrArg (first :: ·)
      (ih piece (cleanRest piece List.mem_cons_self) (fun p held => cleanRest p (.tail piece held)))

theorem splitList_of_not_mem {d : Char} {ds a : List Char} (missing : d ∉ a) :
    splitList a (d :: ds) = [a] := by
  simpa using @splitList_flatMap d ds a [] missing (fun _ held => absurd held List.not_mem_nil)

/-! ### Fields -/

theorem fieldsFrom_append_of_unblank {a : List Char} (cur rest : List Char)
    (unblank : ∀ c ∈ a, isBlank c = false) :
    fieldsFrom cur (a ++ rest) = fieldsFrom (a.reverse ++ cur) rest := by
  induction a generalizing cur with
  | nil => rfl
  | cons c a ih =>
    rw [List.cons_append, fieldsFrom, if_neg (by rw [unblank c List.mem_cons_self]; decide),
      ih _ (fun c' held => unblank c' (.tail c held))]
    simp

theorem fieldsFrom_words (first : List Char) (rest : List (List Char)) (nonempty : first ≠ [])
    (unblank : ∀ c ∈ first, isBlank c = false)
    (words : ∀ w ∈ rest, w ≠ [] ∧ ∀ c ∈ w, isBlank c = false) :
    fieldsFrom [] (first ++ rest.flatMap (' ' :: ·)) = first :: rest := by
  induction rest generalizing first with
  | nil =>
    rw [List.flatMap_nil, fieldsFrom_append_of_unblank [] [] unblank]
    simp [fieldsFrom, nonempty]
  | cons word rest ih =>
    rw [List.flatMap_cons, fieldsFrom_append_of_unblank [] _ unblank, List.append_nil,
      List.cons_append, fieldsFrom, if_pos isBlank_space,
      if_neg (by simpa using nonempty), List.reverse_reverse]
    obtain ⟨full, wordUnblank⟩ := words word List.mem_cons_self
    exact congrArg (first :: ·)
      (ih word full wordUnblank (fun w held => words w (.tail word held)))

theorem ne_nil_of_mem_fieldsFrom {cur cs w : List Char} (member : w ∈ fieldsFrom cur cs) :
    w ≠ [] := by
  induction cs generalizing cur with
  | nil =>
    simp only [fieldsFrom] at member
    split at member
    · exact absurd member List.not_mem_nil
    · rename_i full
      rw [List.mem_singleton.mp member]
      simpa using full
  | cons c cs ih =>
    simp only [fieldsFrom] at member
    -- a blank ends the word in hand, and only a word read so far is emitted
    split at member
    · split at member
      · exact ih member
      · rename_i full
        rcases List.mem_cons.mp member with rfl | later
        · simpa using full
        · exact ih later
    · exact ih member

/-! ### Trimmed texts -/

theorem trimmed_of_ends {cs : List Char} (nonempty : cs ≠ [])
    (first : isBlank (cs.head nonempty) = false) (last : isBlank (cs.getLast nonempty) = false) :
    Trimmed cs := by
  refine ⟨List.dropWhile_eq_self_iff.mpr fun _ => ?_, List.rdropWhile_eq_self_iff.mpr fun _ => ?_⟩
  · obtain ⟨c, rest, rfl⟩ := List.exists_cons_of_ne_nil nonempty
    simpa using first
  · rw [last]
    decide

theorem trimmed_append {a b : List Char} (m : List Char) (nonemptyA : a ≠ []) (nonemptyB : b ≠ [])
    (trimmedA : Trimmed a) (trimmedB : Trimmed b) : Trimmed (a ++ m ++ b) := by
  have whole : a ++ m ++ b ≠ [] := by simp [nonemptyA]
  apply trimmed_of_ends whole
  · obtain ⟨c, rest, rfl⟩ := List.exists_cons_of_ne_nil nonemptyA
    have head := List.dropWhile_eq_self_iff.mp trimmedA.1 (Nat.succ_pos _)
    simpa using head
  · have last := List.rdropWhile_eq_self_iff.mp trimmedB.2 nonemptyB
    rw [List.getLast_append_of_ne_nil _ nonemptyB]
    simpa using last

theorem trimmed_of_unblank {cs : List Char} (nonempty : cs ≠ [])
    (unblank : ∀ c ∈ cs, isBlank c = false) : Trimmed cs :=
  trimmed_of_ends nonempty (unblank _ (List.head_mem nonempty)) (unblank _ (List.getLast_mem nonempty))

end HeaderAudit.Text
