import HeaderAudit.Runtime.Standard
import HeaderAudit.Proofs.Compare.EditScript
import HeaderAudit.Proofs.Text.Cut
/-!
The removed and added lines of a comparison balance: taken from each side's non-blank lines, they
leave the same lines, the ones the edit script keeps.
-/

namespace HeaderAudit

namespace Text

theorem splitFrom_single_append (d : Char) (cur a b : List Char) :
    splitFrom [d] cur 0 (a ++ d :: b) = splitFrom [d] cur 0 a ++ splitFrom [d] [] 0 b := by
  induction a generalizing cur with
  | nil => simp [splitFrom]
  | cons c a ih =>
    by_cases same : c = d
    · subst same
      simp [splitFrom, ih]
    · have other : ([d].isPrefixOf (c :: a) = false) ∧ ([d].isPrefixOf (c :: (a ++ d :: b)) = false) :=
        ⟨not_prefix_of_head_ne same, not_prefix_of_head_ne same⟩
      simp [splitFrom, other, ih]

theorem splitList_intercalate_single (d : Char) (first : List Char) (rest : List (List Char)) :
    splitList ([d].intercalate (first :: rest)) [d] = (first :: rest).flatMap (splitList · [d]) := by
  induction rest generalizing first with
  | nil => simp
  | cons piece rest ih =>
    rw [List.intercalate_cons_cons, List.append_assoc, List.singleton_append, splitList,
      splitFrom_single_append, ← splitList, ← splitList, ih piece]
    simp only [List.flatMap_cons]

end Text

namespace Compare

variable {α : Type}

def Span.itemsOf (c : Change) (spans : List (Span α)) : List α :=
  spans.flatMap fun s => if s.change = c then s.items else []

theorem source_perm (spans : List (Span α)) :
    (Span.source spans).Perm (Span.itemsOf .same spans ++ Span.itemsOf .removed spans) := by
  induction spans with
  | nil => exact List.Perm.refl []
  | cons s spans ih =>
    obtain ⟨change, xs⟩ := s
    cases change with
    | same => simpa [Span.itemsOf] using ih.append_left xs
    | removed =>
      simpa [Span.itemsOf] using (ih.append_left xs).trans (List.perm_append_comm_assoc _ _ _)
    | added => simpa [Span.itemsOf] using ih

theorem target_perm (spans : List (Span α)) :
    (Span.target spans).Perm (Span.itemsOf .same spans ++ Span.itemsOf .added spans) := by
  induction spans with
  | nil => exact List.Perm.refl []
  | cons s spans ih =>
    obtain ⟨change, xs⟩ := s
    cases change with
    | same => simpa [Span.itemsOf] using ih.append_left xs
    | removed => simpa [Span.itemsOf] using ih
    | added =>
      simpa [Span.itemsOf] using (ih.append_left xs).trans (List.perm_append_comm_assoc _ _ _)

end Compare

namespace HeaderDiff

/-- The non-blank pieces of a header block written out one line after another: the lines joined
by line breaks, split at every break. -/
def pieces (lines : List String) : Multiset String :=
  ((Text.split (String.intercalate "\n" lines) "\n").filter fun l => Text.trim l ≠ "" : List String)

def removedLines (d : HeaderDiff) : Multiset String :=
  ((d.lines.filter (!·.added)).map (·.content) : List String)

def addedLines (d : HeaderDiff) : Multiset String :=
  ((d.lines.filter (·.added)).map (·.content) : List String)

theorem split_intercalate_newline {lines : List String} (nonempty : lines ≠ []) :
    Text.split (String.intercalate "\n" lines) "\n" = blockLines lines := by
  obtain ⟨first, rest, rfl⟩ := List.exists_cons_of_ne_nil nonempty
  rw [Text.split, String.toList_intercalate, List.map_cons, show "\n".toList = ['\n'] from rfl,
    Text.splitList_intercalate_single, List.flatMap_cons, List.map_append, blockLines,
    List.flatMap_cons, List.map_flatMap, List.flatMap_map]
  rfl

theorem pieces_eq (lines : List String) :
    pieces lines = ((blockLines lines).filter fun l => Text.trim l ≠ "" : List String) := by
  by_cases nonempty : lines = []
  · subst nonempty
    rfl
  · rw [pieces, split_intercalate_newline nonempty]

theorem lineChanges_cons (s : Compare.Span String) (spans : List (Compare.Span String)) :
    lineChanges (s :: spans) = lineChanges [s] ++ lineChanges spans := by
  simp [lineChanges]

theorem removed_lineChanges (spans : List (Compare.Span String)) :
    ((lineChanges spans).filter (!·.added)).map (·.content) =
      (Compare.Span.itemsOf .removed spans).filter fun l => Text.trim l ≠ "" := by
  induction spans with
  | nil => rfl
  | cons s spans ih =>
    rw [lineChanges_cons, List.filter_append, List.map_append, ih]
    obtain ⟨change, xs⟩ := s
    cases change <;> simp [lineChanges, Compare.Span.itemsOf, List.filter_map, Function.comp_def]

theorem added_lineChanges (spans : List (Compare.Span String)) :
    ((lineChanges spans).filter (·.added)).map (·.content) =
      (Compare.Span.itemsOf .added spans).filter fun l => Text.trim l ≠ "" := by
  induction spans with
  | nil => rfl
  | cons s spans ih =>
    rw [lineChanges_cons, List.filter_append, List.map_append, ih]
    obtain ⟨change, xs⟩ := s
    cases change <;> simp [lineChanges, Compare.Span.itemsOf, List.filter_map, Function.comp_def]

theorem unblank_of_mem_lineChanges {spans : List (Compare.Span String)} {c : LineChange}
    (reported : c ∈ lineChanges spans) : Text.trim c.content ≠ "" := by
  obtain ⟨s, -, held⟩ := List.mem_flatMap.mp reported
  split at held
  · cases held
  all_goals
    obtain ⟨l, kept, rfl⟩ := List.mem_map.mp held
    simpa using (List.mem_filter.mp kept).2

theorem pieces_of_edits {spans : List (Compare.Span String)} {xs : List String} {c : Compare.Change}
    (side : xs.Perm (Compare.Span.itemsOf .same spans ++ Compare.Span.itemsOf c spans)) :
    ((xs.filter fun l => Text.trim l ≠ "" : List String) : Multiset String) =
      ((Compare.Span.itemsOf .same spans).filter fun l => Text.trim l ≠ "" : List String) +
        ((Compare.Span.itemsOf c spans).filter fun l => Text.trim l ≠ "" : List String) := by
  rw [Multiset.coe_eq_coe.mpr (side.filter _), List.filter_append, Multiset.coe_add]

theorem lineChanges_of_kept {spans : List (Compare.Span String)} (kept : ∀ s ∈ spans, s.change = .same) :
    lineChanges spans = [] := by
  rw [lineChanges, List.flatMap_eq_nil_iff]
  intro s held
  rw [kept s held]

/-- The removed and added lines of a comparison by a lawful differ balance: the removed lines are
among the base's pieces, the added lines among the head's, and what remains of both sides is the
same. No line reported is blank, and an analysis compared with itself reports none. -/
theorem compare_balances_header_lines (differ : LineDiffer) (lawful : differ.Lawful) (a b : Entry) :
    removedLines (compare differ a b) ≤ pieces a.lines ∧ addedLines (compare differ a b) ≤ pieces b.lines ∧
      pieces a.lines - removedLines (compare differ a b) = pieces b.lines - addedLines (compare differ a b) ∧
      (∀ c ∈ (compare differ a b).lines, Text.trim c.content ≠ "") ∧ (compare differ a a).lines = [] := by
  have removed : removedLines (compare differ a b) = ((Compare.Span.itemsOf .removed
      (differ.diff (blockLines a.lines) (blockLines b.lines))).filter fun l => Text.trim l ≠ "" :
        List String) := by
    rw [removedLines, ← removed_lineChanges]
    rfl
  have added : addedLines (compare differ a b) = ((Compare.Span.itemsOf .added
      (differ.diff (blockLines a.lines) (blockLines b.lines))).filter fun l => Text.trim l ≠ "" :
        List String) := by
    rw [addedLines, ← added_lineChanges]
    rfl
  have base := pieces_of_edits (Compare.source_perm (differ.diff (blockLines a.lines) (blockLines b.lines)))
  have head := pieces_of_edits (Compare.target_perm (differ.diff (blockLines a.lines) (blockLines b.lines)))
  rw [lawful.source, ← pieces_eq] at base
  rw [lawful.target, ← pieces_eq] at head
  refine ⟨?_, ?_, ?_, ?_, ?_⟩
  · rw [base, removed]
    exact Multiset.le_add_left _ _
  · rw [head, added]
    exact Multiset.le_add_left _ _
  · rw [base, removed, head, added, Multiset.add_sub_cancel_right, Multiset.add_sub_cancel_right]
  · intro c reported
    exact unblank_of_mem_lineChanges reported
  · exact lineChanges_of_kept (lawful.keeps _)

end HeaderDiff

theorem LineDiffer.standard_lawful : LineDiffer.standard.Lawful where
  source a b := (Compare.diff_edits a b).source
  target a b := (Compare.diff_edits a b).target
  keeps a s held := by
    change s ∈ Compare.diff a a at held
    rw [Compare.diff_self] at held
    split at held
    · cases held
    · rw [List.mem_singleton.mp held]

namespace HeaderDiff

def sampleBase : Entry := ⟨"b", "GET", "https://a.test/", 200, "", none, some ["A: 1", "B: 2"]⟩

def sampleHead : Entry := ⟨"h", "GET", "https://a.test/", 200, "", none, some ["B: 2", "C: 3"]⟩

theorem standard_compare_balances_lines :
    LineDiffer.standard.Lawful ∧
      removedLines (compare .standard sampleBase sampleHead) ≤ pieces sampleBase.lines ∧
      addedLines (compare .standard sampleBase sampleHead) ≤ pieces sampleHead.lines ∧
      pieces sampleBase.lines - removedLines (compare .standard sampleBase sampleHead) =
        pieces sampleHead.lines - addedLines (compare .standard sampleBase sampleHead) ∧
      (∀ c ∈ (compare .standard sampleBase sampleHead).lines, Text.trim c.content ≠ "") ∧
      (compare .standard sampleBase sampleBase).lines = [] :=
  ⟨LineDiffer.standard_lawful,
    compare_balances_header_lines .standard LineDiffer.standard_lawful sampleBase sampleHead⟩

end HeaderDiff

end HeaderAudit
