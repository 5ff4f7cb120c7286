import HeaderAudit.Proofs.Message.HeaderLines
import HeaderAudit.Proofs.Text.Cut
import HeaderAudit.Proofs.Text.Fold
/-!
The header block of a header map reads back as the map's values.
-/
namespace HeaderAudit

namespace Text

theorem trimList_append_blanks (cs : List Char) {bs : List Char} (blank : ∀ b ∈ bs, isBlank b = true) :
    trimList (cs ++ bs) = trimList cs := by
  induction bs generalizing cs with
  | nil => rw [List.append_nil]
  | cons b bs ih =>
    rw [← List.singleton_append, ← List.append_assoc,
      ih (cs ++ [b]) fun x held => blank x (List.mem_cons_of_mem _ held),
      trimList_append_blank cs (blank b List.mem_cons_self)]

theorem trimList_cons_blank {c : Char} (blank : isBlank c = true) (cs : List Char) :
    trimList (c :: cs) = trimList cs := by
  rw [trimList_eq_rdropWhile, trimList_eq_rdropWhile, List.dropWhile_cons_of_pos blank]

theorem trim_trimEndOf_return (v : String) : trim (trimEndOf v ['\r']) = trim v := by
  have whole : v.toList = (v.toList.reverse.dropWhile (· ∈ ['\r'])).reverse ++
      (v.toList.reverse.takeWhile (· ∈ ['\r'])).reverse := by
    rw [← List.reverse_append, List.takeWhile_append_dropWhile, List.reverse_reverse]
  have returns : ∀ b ∈ (v.toList.reverse.takeWhile (· ∈ ['\r'])).reverse, isBlank b = true := by
    intro b held
    have cut := List.mem_takeWhile_imp (List.mem_reverse.mp held)
    rw [show b = '\r' by simpa using cut]
    decide
  conv => rhs; rw [trim, whole, trimList_append_blanks _ returns]
  rw [trim, trimEndOf, String.toList_ofList]

theorem trimEndOf_append {s : String} (t : String) {set : List Char} {last : Char}
    (ends : s.toList.getLast? = some last) (kept : last ∉ set) :
    trimEndOf (s ++ t) set = s ++ trimEndOf t set := by
  obtain ⟨front, split⟩ : ∃ front, s.toList = front ++ [last] :=
    ⟨s.toList.dropLast, (List.dropLast_append_getLast? _ ends).symm⟩
  have stops : (last :: front.reverse).dropWhile (· ∈ set) = last :: front.reverse :=
    List.dropWhile_cons_of_neg (by simpa using kept)
  apply String.toList_inj.mp
  simp only [trimEndOf, String.toList_append, String.toList_ofList, List.reverse_append, split,
    List.reverse_cons, List.reverse_nil, List.nil_append, List.singleton_append, List.dropWhile_append]
  split <;> simp_all

end Text

namespace Header

/-- A name as a header map may hold it for reading back: not empty, with no colon, and with no
blank at either end. -/
structure FieldName (k : String) : Prop where
  full : k ≠ ""
  colonless : ':' ∉ k.toList
  trimmed : Text.trim k = k

theorem FieldName.head {k : String} (named : FieldName k) :
    ∃ c cs, k.toList = c :: cs ∧ Text.isBlank c = false := by
  obtain ⟨c, cs, split⟩ := List.exists_cons_of_ne_nil (fun empty => named.full (String.toList_eq_nil_iff.mp empty))
  refine ⟨c, cs, split, ?_⟩
  have same : Text.trimList k.toList = k.toList := by
    have listed := congrArg String.toList named.trimmed
    rwa [Text.trim, String.toList_ofList] at listed
  have trimmed := Text.trimmed_trimList k.toList
  rw [same, split] at trimmed
  have first := List.dropWhile_eq_self_iff.mp trimmed.1 (by simp)
  simpa using first

theorem fieldLine_toList (k w : String) : (k ++ ": " ++ w).toList = k.toList ++ ':' :: ' ' :: w.toList := by
  simp [String.toList_append]

theorem isContinuation_fieldLine {k : String} (named : FieldName k) (w : String) :
    isContinuation (k ++ ": " ++ w) = false := by
  obtain ⟨c, cs, split, unblank⟩ := named.head
  have unspaced : c ≠ ' ' ∧ c ≠ '\t' := by
    constructor <;> rintro rfl <;> exact absurd unblank (by decide)
  rw [isContinuation, fieldLine_toList, split]
  simpa using unspaced

theorem fieldOfLine_fieldLine {k : String} (named : FieldName k) (w : String) :
    fieldOfLine (k ++ ": " ++ w) = some ⟨k, Text.trim w⟩ := by
  have cut : Text.cut (k ++ ": " ++ w) ":" = some (k, " " ++ w) := by
    rw [cut_colon, fieldLine_toList, Text.cutList_append_of_not_mem _ named.colonless,
      Text.cutList_single_cons, if_pos rfl]
    simp
  have spaced : Text.trim (" " ++ w) = Text.trim w := by
    rw [Text.trim, Text.trim, String.toList_append, Text.toList_space, List.singleton_append,
      Text.trimList_cons_blank Text.isBlank_space]
  rw [fieldOfLine, cut]
  simp only [named.trimmed, spaced, if_neg named.full]

theorem addLine_fieldLine (h : Header) {k : String} (named : FieldName k) (v : String) :
    h.addLine (k ++ ": " ++ v) =
      ⟨h.lines ++ [k ++ ": " ++ Text.trimEndOf v ['\r']], h.fields ++ [⟨k, Text.trim v⟩]⟩ := by
  have cut : Text.trimEndOf (k ++ ": " ++ v) ['\r'] = k ++ ": " ++ Text.trimEndOf v ['\r'] :=
    @Text.trimEndOf_append (k ++ ": ") v ['\r'] ' ' (by simp [String.toList_append]) (by decide)
  have full : k ++ ": " ++ Text.trimEndOf v ['\r'] ≠ "" := fun empty => by
    have := congrArg String.toList empty
    simp [String.toList_append] at this
  rw [addLine]
  simp only [cut, if_neg full, isContinuation_fieldLine named, Bool.false_eq_true, false_and, if_false,
    fieldOfLine_fieldLine named, Text.trim_trimEndOf_return]

theorem foldl_addLine_fieldLines (ps : List (String × String)) (named : ∀ p ∈ ps, FieldName p.1)
    (h : Header) :
    (ps.map fun p => p.1 ++ ": " ++ p.2).foldl addLine h =
      ⟨h.lines ++ ps.map (fun p => p.1 ++ ": " ++ Text.trimEndOf p.2 ['\r']),
        h.fields ++ ps.map fun p => ⟨p.1, Text.trim p.2⟩⟩ := by
  induction ps generalizing h with
  | nil => simp
  | cons p ps ih =>
    rw [List.map_cons, List.foldl_cons, addLine_fieldLine h (named p List.mem_cons_self),
      ih (fun q held => named q (List.mem_cons_of_mem _ held))]
    simp

def sortedEntries (m : List (String × List String)) : List (String × List String) :=
  m.mergeSort fun a b => decide (a.1 ≤ b.1)

def namedValues (m : List (String × List String)) : List (String × String) :=
  (sortedEntries m).flatMap fun e => e.2.map (e.1, ·)

theorem ofMap_eq (m : List (String × List String)) (named : ∀ e ∈ m, FieldName e.1) :
    ofMap m = ⟨(namedValues m).map (fun p => p.1 ++ ": " ++ Text.trimEndOf p.2 ['\r']),
      (namedValues m).map fun p => ⟨p.1, Text.trim p.2⟩⟩ := by
  have lines : ((sortedEntries m).flatMap fun e => e.2.map fun v => e.1 ++ ": " ++ v) =
      (namedValues m).map fun p => p.1 ++ ": " ++ p.2 := by
    simp [namedValues, List.map_flatMap, Function.comp_def]
  have pairsNamed : ∀ p ∈ namedValues m, FieldName p.1 := by
    intro p held
    obtain ⟨e, sorted, paired⟩ := List.mem_flatMap.mp held
    obtain ⟨v, -, rfl⟩ := List.mem_map.mp paired
    exact named e ((List.mergeSort_perm m _).mem_iff.mp sorted)
  change ofLines ((sortedEntries m).flatMap fun e => e.2.map fun v => e.1 ++ ": " ++ v) = _
  rw [lines, ofLines, foldl_addLine_fieldLines _ pairsNamed]
  rfl

theorem sortedEntries_perm (m : List (String × List String)) : (sortedEntries m).Perm m :=
  List.mergeSort_perm m _

theorem sortedEntries_ascending {m : List (String × List String)}
    (distinct : m.Pairwise fun a b => a.1 ≠ b.1) : (sortedEntries m).Pairwise fun a b => a.1 < b.1 := by
  have ordered : (sortedEntries m).Pairwise fun a b => decide (a.1 ≤ b.1) = true :=
    List.pairwise_mergeSort
      (fun a b c first second => by
        simp only [decide_eq_true_eq] at first second ⊢
        exact String.le_trans first second)
      (fun a b => by simpa using String.le_total a.1 b.1) m
  have apart : (sortedEntries m).Pairwise fun a b => a.1 ≠ b.1 :=
    ((sortedEntries_perm m).pairwise_iff fun differ same => differ same.symm).mpr distinct
  refine (ordered.and apart).imp fun ⟨below, differ⟩ => ?_
  -- in a total order, below and different is strictly below
  rw [← String.not_le]
  exact fun above => differ (String.le_antisymm (by simpa using below) above)

theorem size_ofMap (m : List (String × List String)) (named : ∀ e ∈ m, FieldName e.1) :
    (ofMap m).size = (m.map fun e => e.2.length).sum := by
  rw [size, ofMap_eq m named, List.length_map, namedValues, List.length_flatMap]
  simpa using (sortedEntries_perm m).map (fun e => e.2.length) |>.sum_nat

theorem value?_eq_head?_values (h : Header) (n : String) : h.value? n = (h.values n).head? := by
  rw [value?, values, List.head?_map, List.head?_filter]

theorem filter_named (e : String × List String) (n : String) :
    (e.2.map (e.1, ·)).filter (fun p => Text.equalFold p.1 n) =
      if Text.equalFold e.1 n then e.2.map (e.1, ·) else [] := by
  split
  · rename_i same
    exact List.filter_eq_self.mpr fun p held => by
      obtain ⟨v, -, rfl⟩ := List.mem_map.mp held
      exact same
  · rename_i other
    exact List.filter_eq_nil_iff.mpr fun p held => by
      obtain ⟨v, -, rfl⟩ := List.mem_map.mp held
      simpa using other

theorem filter_named_flatMap {ds : List (String × List String)} {n : String}
    (quiet : ∀ d ∈ ds, Text.equalFold d.1 n = false) :
    (ds.flatMap fun d => (d.2.map (d.1, ·)).filter fun p => Text.equalFold p.1 n) = [] :=
  List.flatMap_eq_nil_iff.mpr fun d held => by rw [filter_named, if_neg (by simp [quiet d held])]

theorem values_ofMap {m : List (String × List String)} (named : ∀ e ∈ m, FieldName e.1)
    (distinct : m.Pairwise fun a b => Text.equalFold a.1 b.1 = false) {e : String × List String}
    (listed : e ∈ m) {n : String} (folds : Text.equalFold n e.1 = true) :
    (ofMap m).values n = e.2.map Text.trim := by
  have apart : (sortedEntries m).Pairwise fun a b => Text.equalFold a.1 b.1 = false :=
    ((sortedEntries_perm m).pairwise_iff fun differ => by rwa [Text.equalFold_comm]).mpr distinct
  obtain ⟨pre, post, split⟩ := List.append_of_mem ((sortedEntries_perm m).mem_iff.mpr listed)
  rw [split, List.pairwise_middle (fun differ => by rwa [Text.equalFold_comm])] at apart
  -- an entry apart from `e` has a name not equal to `n` up to case
  have others : ∀ d ∈ pre ++ post, Text.equalFold d.1 n = false := by
    intro d held
    have fromE : Text.equalFold d.1 e.1 = false := by
      rw [Text.equalFold_comm]
      exact (List.pairwise_cons.mp apart).1 d held
    cases same : Text.equalFold d.1 n with
    | false => rfl
    | true => rw [Text.equalFold_trans same folds] at fromE; cases fromE
  have self : Text.equalFold e.1 n = true := by rw [Text.equalFold_comm]; exact folds
  have reads : (ofMap m).values n = ((namedValues m).filter fun p => Text.equalFold p.1 n).map (Text.trim ·.2) := by
    rw [values, ofMap_eq m named, List.filter_map, List.map_map]
    rfl
  rw [reads, namedValues, List.filter_flatMap, split, List.flatMap_append, List.flatMap_cons,
    filter_named_flatMap (fun d held => others d (List.mem_append_left _ held)),
    filter_named_flatMap (fun d held => others d (List.mem_append_right _ held)), filter_named, if_pos self]
  simp [Function.comp_def]

end Header

/-- The header block of a map whose names are not empty, hold no colon, have no blank at either
end and are not equal up to case: its lines are `name: value` for the names in strictly ascending
order and each name's values in order, trailing carriage returns cut; it has one field per value;
and under any spelling of a name it reads that name's values, trimmed, the first of them as its
value. -/
theorem header_of_map_reads_each_value (m : List (String × List String))
    (named : ∀ e ∈ m, Header.FieldName e.1)
    (distinct : m.Pairwise fun a b => Text.equalFold a.1 b.1 = false) :
    (∃ sorted : List (String × List String), sorted.Perm m ∧ sorted.Pairwise (fun a b => a.1 < b.1) ∧
      (Header.ofMap m).lines = sorted.flatMap fun e => e.2.map fun v => e.1 ++ ": " ++ Text.trimEndOf v ['\r']) ∧
      (Header.ofMap m).size = (m.map fun e => e.2.length).sum ∧
      ∀ e ∈ m, ∀ n, Text.equalFold n e.1 = true →
        (Header.ofMap m).values n = e.2.map Text.trim ∧ (Header.ofMap m).value? n = (e.2.map Text.trim).head? := by
  have unrepeated : m.Pairwise fun a b => a.1 ≠ b.1 :=
    distinct.imp fun differ same => by rw [same, Text.equalFold_refl] at differ; cases differ
  refine ⟨⟨Header.sortedEntries m, Header.sortedEntries_perm m, Header.sortedEntries_ascending unrepeated, ?_⟩,
    Header.size_ofMap m named, fun e listed n folds => ?_⟩
  · rw [Header.ofMap_eq m named, Header.namedValues, List.map_flatMap]
    simp [Function.comp_def]
  · have read := Header.values_ofMap named distinct listed folds
    exact ⟨read, by rw [Header.value?_eq_head?_values, read]⟩

theorem header_of_cookie_map_reads_each_value :
    let m := [("X-B", ["2"]), ("Set-Cookie", ["a=1", "b=2\r"]), ("Content-Type", ["text/html"])]
    (∀ e ∈ m, Header.FieldName e.1) ∧ m.Pairwise (fun a b => Text.equalFold a.1 b.1 = false) ∧
      (∃ sorted : List (String × List String), sorted.Perm m ∧ sorted.Pairwise (fun a b => a.1 < b.1) ∧
        (Header.ofMap m).lines = sorted.flatMap fun e => e.2.map fun v => e.1 ++ ": " ++ Text.trimEndOf v ['\r']) ∧
      (Header.ofMap m).size = (m.map fun e => e.2.length).sum ∧
      ∀ e ∈ m, ∀ n, Text.equalFold n e.1 = true →
        (Header.ofMap m).values n = e.2.map Text.trim ∧ (Header.ofMap m).value? n = (e.2.map Text.trim).head? := by
  intro m
  have named : ∀ e ∈ m, Header.FieldName e.1 := by
    intro e held
    simp only [m, List.mem_cons, List.not_mem_nil, or_false] at held
    rcases held with rfl | rfl | rfl <;> exact ⟨by decide, by decide, by decide⟩
  have distinct : m.Pairwise (fun a b => Text.equalFold a.1 b.1 = false) := by decide
  exact ⟨named, distinct, header_of_map_reads_each_value m named distinct⟩

end HeaderAudit
