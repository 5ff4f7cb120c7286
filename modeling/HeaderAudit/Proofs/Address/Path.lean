import HeaderAudit.Address.Canonical
import HeaderAudit.Proofs.Address.Escape
/-!
Cleaning keeps a stack of plain segments over a run of `..`, so cleaning and the canonical path are
idempotent.
-/
namespace HeaderAudit.Bytes

def Plain (seg : Bytes) : Prop := seg ≠ [] ∧ seg ≠ ofString "." ∧ seg ≠ ofString ".."

/-- The segments cleaning has kept, last first: plain segments above a run of `..` that only a
relative path keeps, none of them holding a slash. -/
structure Stack (rooted : Bool) (acc : List Bytes) : Prop where
  layers : ∃ plains ups, acc = plains ++ ups ∧ (∀ s ∈ plains, Plain s) ∧
    (∀ s ∈ ups, s = ofString "..") ∧ (rooted = true → ups = [])
  slashless : ∀ s ∈ acc, ascii '/' ∉ s

theorem cleanSegments_append (r : Bool) (acc xs ys : List Bytes) :
    cleanSegments r acc (xs ++ ys) = cleanSegments r (cleanSegments r acc xs) ys := by
  fun_induction cleanSegments r acc xs <;> simp_all [cleanSegments]

section Steps
variable (r : Bool) (acc rest : List Bytes)

theorem cleanSegments_skip {seg : Bytes} (skipped : seg = [] ∨ seg = ofString ".") :
    cleanSegments r acc (seg :: rest) = cleanSegments r acc rest := by
  rw [cleanSegments.eq_def]
  simp only
  rw [if_pos skipped]

theorem cleanSegments_push {seg : Bytes} (plain : Plain seg) :
    cleanSegments r acc (seg :: rest) = cleanSegments r (seg :: acc) rest := by
  obtain ⟨full, notDot, notUp⟩ := plain
  rw [cleanSegments.eq_def]
  simp only
  rw [if_neg (by simp [full, notDot]), if_neg notUp]

theorem ofString_dotDot_kept : ¬ (ofString ".." = [] ∨ ofString ".." = ofString ".") := by
  rw [ofString_dotDot, ofString_dot]
  decide

theorem cleanSegments_up_pop {prev : Bytes} (older : List Bytes) (other : prev ≠ ofString "..") :
    cleanSegments r (prev :: older) (ofString ".." :: rest) = cleanSegments r older rest := by
  rw [cleanSegments.eq_def]
  simp only
  rw [if_neg ofString_dotDot_kept, if_pos trivial, if_neg other]

theorem cleanSegments_up_push (older : List Bytes) :
    cleanSegments r (ofString ".." :: older) (ofString ".." :: rest) =
      cleanSegments r (ofString ".." :: ofString ".." :: older) rest := by
  rw [cleanSegments.eq_def]
  simp only
  rw [if_neg ofString_dotDot_kept, if_pos trivial, if_pos trivial]

theorem cleanSegments_up_empty :
    cleanSegments r [] (ofString ".." :: rest) =
      if r then cleanSegments r [] rest else cleanSegments r [ofString ".."] rest := by
  rw [cleanSegments.eq_def]
  simp only
  rw [if_neg ofString_dotDot_kept, if_pos trivial]

end Steps

theorem cleanSegments_plain (r : Bool) (acc : List Bytes) {segs : List Bytes}
    (plain : ∀ s ∈ segs, Plain s) : cleanSegments r acc segs = segs.reverse ++ acc := by
  induction segs generalizing acc with
  | nil => rfl
  | cons seg rest ih =>
    rw [cleanSegments_push r acc rest (plain seg (by simp)),
      ih (seg :: acc) (fun s held => plain s (by simp [held]))]
    simp

theorem cleanSegments_ups {acc segs : List Bytes} (ups : ∀ s ∈ segs, s = ofString "..")
    (below : ∀ s ∈ acc, s = ofString "..") : cleanSegments false acc segs = segs.reverse ++ acc := by
  induction segs generalizing acc with
  | nil => rfl
  | cons seg rest ih =>
    obtain rfl := ups seg (by simp)
    have pushed : cleanSegments false acc (ofString ".." :: rest) =
        cleanSegments false (ofString ".." :: acc) rest := by
      cases acc with
      | nil => rw [cleanSegments_up_empty, if_neg Bool.false_ne_true]
      | cons prev older =>
        rw [below prev (by simp), cleanSegments_up_push]
    rw [pushed, ih (fun s held => ups s (by simp [held])) (fun s held => ?_)]
    · simp
    · rcases List.mem_cons.mp held with rfl | old
      · rfl
      · exact below s old

theorem Stack.empty (r : Bool) : Stack r [] :=
  ⟨⟨[], [], rfl, by simp, by simp, fun _ => rfl⟩, by simp⟩

theorem Stack.cleanSegments {r : Bool} {acc : List Bytes} (stack : Stack r acc) {segs : List Bytes}
    (slashless : ∀ s ∈ segs, ascii '/' ∉ s) : Stack r (cleanSegments r acc segs) := by
  induction segs generalizing acc with
  | nil => exact stack
  | cons seg rest ih =>
    have restSlashless : ∀ s ∈ rest, ascii '/' ∉ s := fun s held => slashless s (by simp [held])
    obtain ⟨⟨plains, ups, rfl, plain, up, rooted⟩, noSlash⟩ := stack
    by_cases skipped : seg = [] ∨ seg = ofString "."
    · rw [cleanSegments_skip _ _ _ skipped]
      exact ih ⟨⟨plains, ups, rfl, plain, up, rooted⟩, noSlash⟩ restSlashless
    by_cases isUp : seg = ofString ".."
    · subst isUp
      cases plains with
      | cons prev older =>
        -- a plain segment is on top: `..` takes it back
        rw [List.cons_append, cleanSegments_up_pop _ _ _ (plain prev (by simp)).2.2]
        exact ih ⟨⟨older, ups, rfl, fun s held => plain s (by simp [held]), up, rooted⟩,
          fun s held => noSlash s (by simp [held])⟩ restSlashless
      | nil =>
        cases ups with
        | nil =>
          rw [List.nil_append, cleanSegments_up_empty]
          cases r with
          | true => exact ih (Stack.empty true) restSlashless
          | false =>
            exact ih ⟨⟨[], [ofString ".."], rfl, by simp, by simp, fun never => nomatch never⟩,
              by simp [ofString_dotDot]; decide⟩ restSlashless
        | cons u us =>
          -- only `..` is kept: a relative path keeps another
          obtain rfl : u = ofString ".." := up u (by simp)
          have relative : r = false := by
            cases r with
            | false => rfl
            | true => exact absurd (rooted rfl) (List.cons_ne_nil _ us)
          rw [List.nil_append, cleanSegments_up_push]
          refine ih ⟨⟨[], ofString ".." :: ofString ".." :: us, rfl, by simp, ?_, ?_⟩, ?_⟩ restSlashless
          · intro s held
            rcases List.mem_cons.mp held with rfl | held
            · rfl
            · exact up s held
          · intro rootedNow
            rw [relative] at rootedNow
            cases rootedNow
          · intro s held
            rcases List.mem_cons.mp held with rfl | held
            · rw [ofString_dotDot]
              decide
            · exact noSlash s (by simpa using held)
    · -- any other segment is plain and pushed
      have plainSeg : Plain seg := ⟨fun e => skipped (.inl e), fun e => skipped (.inr e), isUp⟩
      rw [cleanSegments_push _ _ _ plainSeg]
      refine ih ⟨⟨seg :: plains, ups, rfl, ?_, up, rooted⟩, ?_⟩ restSlashless
      · intro s held
        rcases List.mem_cons.mp held with rfl | held
        · exact plainSeg
        · exact plain s held
      · intro s held
        rcases List.mem_cons.mp held with rfl | held
        · exact slashless s (by simp)
        · exact noSlash s held

theorem Stack.ne_nil {r : Bool} {acc : List Bytes} (stack : Stack r acc) : ∀ s ∈ acc, s ≠ [] := by
  obtain ⟨⟨plains, ups, rfl, plain, up, -⟩, -⟩ := stack
  intro s held
  rcases List.mem_append.mp held with kept | old
  · exact (plain s kept).1
  · rw [up s old, ofString_dotDot]
    exact List.cons_ne_nil _ _

theorem cleanSegments_reverse {r : Bool} {acc : List Bytes} (stack : Stack r acc) :
    cleanSegments r [] acc.reverse = acc := by
  obtain ⟨⟨plains, ups, rfl, plain, up, rooted⟩, -⟩ := stack
  have upsFirst : cleanSegments r [] ups.reverse = ups := by
    cases ups with
    | nil => rfl
    | cons u us =>
      have relative : r = false := by
        cases r with
        | false => rfl
        | true => exact absurd (rooted rfl) (List.cons_ne_nil u us)
      rw [relative, cleanSegments_ups (fun s held => up s (List.mem_reverse.mp held)) (by simp),
        List.reverse_reverse, List.append_nil]
  rw [List.reverse_append, cleanSegments_append, upsFirst,
    cleanSegments_plain r ups (fun s held => plain s (List.mem_reverse.mp held)), List.reverse_reverse]

theorem slashless_of_mem_splitOn {x : UInt8} : ∀ {bs s : Bytes}, s ∈ bs.splitOn x → x ∉ s
  | [], s, held => by
    rw [List.splitOn_nil, List.mem_singleton] at held
    rw [held]
    exact List.not_mem_nil
  | b :: bs, s, held => by
    rw [List.splitOn, List.splitOnP_cons_eq_if_modifyHead, ← List.splitOn] at held
    split at held
    · rcases List.mem_cons.mp held with rfl | later
      · exact List.not_mem_nil
      · exact slashless_of_mem_splitOn later
    · rename_i other
      obtain ⟨t, ts, split⟩ := List.exists_cons_of_ne_nil (List.splitOnP_ne_nil (· == x) bs)
      rw [List.splitOn, split, List.modifyHead_cons] at held
      have first : t ∈ bs.splitOn x := by rw [List.splitOn, split]; exact List.mem_cons_self
      rcases List.mem_cons.mp held with rfl | later
      · intro inside
        rcases List.mem_cons.mp inside with same | deeper
        · exact other (by simp [same])
        · exact slashless_of_mem_splitOn first deeper
      · exact slashless_of_mem_splitOn (by rw [List.splitOn, split]; exact List.mem_cons_of_mem _ later)

theorem head?_intercalate {sep s : Bytes} (ss : List Bytes) (full : s ≠ []) :
    (sep.intercalate (s :: ss)).head? = s.head? := by
  obtain ⟨c, cs, rfl⟩ := List.exists_cons_of_ne_nil full
  cases ss with
  | nil => rw [List.intercalate_singleton]
  | cons t ts =>
    rw [List.intercalate_cons_cons]
    rfl

theorem cleanSegments_splitOn_intercalate {r : Bool} {acc : List Bytes} (stack : Stack r acc) :
    cleanSegments r [] (([ascii '/'].intercalate acc.reverse).splitOn (ascii '/')) = acc := by
  by_cases empty : acc = []
  · subst empty
    rw [List.reverse_nil, List.intercalate_nil, List.splitOn_nil, cleanSegments_skip _ _ _ (.inl rfl)]
    rfl
  · rw [List.splitOn_intercalate _ (fun s held => stack.slashless s (List.mem_reverse.mp held))
      (by simpa using empty), cleanSegments_reverse stack]

def keptOf (p : Bytes) : List Bytes :=
  cleanSegments (p.head? = some (ascii '/')) [] (p.splitOn (ascii '/'))

theorem stack_keptOf (p : Bytes) : Stack (p.head? = some (ascii '/')) (keptOf p) :=
  (Stack.empty _).cleanSegments fun _ held => slashless_of_mem_splitOn held

theorem cleanPath_eq (p : Bytes) :
    cleanPath p =
      if p.head? = some (ascii '/') then ascii '/' :: [ascii '/'].intercalate (keptOf p).reverse
      else if [ascii '/'].intercalate (keptOf p).reverse = [] then [ascii '.']
      else [ascii '/'].intercalate (keptOf p).reverse := rfl

theorem cleanPath_cleanPath (p : Bytes) : cleanPath (cleanPath p) = cleanPath p := by
  have stack := stack_keptOf p
  by_cases rooted : p.head? = some (ascii '/')
  · -- a rooted path stays rooted, and its segments come back after the leading slash
    rw [decide_eq_true rooted] at stack
    have again : keptOf (ascii '/' :: [ascii '/'].intercalate (keptOf p).reverse) = keptOf p := by
      rw [keptOf, List.head?_cons, List.splitOn, List.splitOnP_cons_eq_if_modifyHead,
        if_pos (by simp), ← List.splitOn, decide_eq_true rfl, cleanSegments_skip _ _ _ (.inl rfl),
        cleanSegments_splitOn_intercalate stack]
    rw [cleanPath_eq p, if_pos rooted, cleanPath_eq, List.head?_cons, if_pos rfl, again]
  · rw [decide_eq_false rooted] at stack
    by_cases empty : [ascii '/'].intercalate (keptOf p).reverse = []
    · -- nothing is kept, and `.` cleans to nothing again
      have dot : keptOf [ascii '.'] = [] := by
        rw [keptOf, List.head?_cons, List.splitOn, List.splitOnP_cons_eq_if_modifyHead,
          if_neg (by decide), List.splitOnP_nil]
        simp only [List.modifyHead_cons]
        rw [cleanSegments_skip _ _ _ (.inr ofString_dot.symm)]
        rfl
      rw [cleanPath_eq p, if_neg rooted, if_pos empty, cleanPath_eq, if_neg (by decide), dot]
      rfl
    · -- the joined segments start with a byte of the first segment, not a slash
      have full : keptOf p ≠ [] := fun none => empty (by rw [none]; rfl)
      obtain ⟨first, later, split⟩ := List.exists_cons_of_ne_nil (List.reverse_ne_nil_iff.mpr full)
      have firstFull : first ≠ [] :=
        stack.ne_nil first (List.mem_reverse.mp (split ▸ List.mem_cons_self))
      have unrooted : ¬ ([ascii '/'].intercalate (keptOf p).reverse).head? = some (ascii '/') := by
        rw [split, head?_intercalate later firstFull]
        intro starts
        exact stack.slashless first (List.mem_reverse.mp (split ▸ List.mem_cons_self))
          (List.mem_of_head? starts)
      have again : keptOf ([ascii '/'].intercalate (keptOf p).reverse) = keptOf p := by
        rw [keptOf, decide_eq_false unrooted, cleanSegments_splitOn_intercalate stack]
      rw [cleanPath_eq p, if_neg rooted, if_neg empty, cleanPath_eq, if_neg unrooted, again,
        if_neg empty]

theorem getLast?_intercalate (sep : Bytes) :
    ∀ {ss : List Bytes}, (∀ s ∈ ss, s ≠ []) → (sep.intercalate ss).getLast? = ss.getLast?.bind List.getLast?
  | [], _ => rfl
  | [s], _ => by rw [List.intercalate_singleton]; rfl
  | s :: t :: ts, full => by
    have rest : (sep.intercalate (t :: ts)).getLast? = (t :: ts).getLast?.bind List.getLast? :=
      getLast?_intercalate sep (fun u held => full u (by simp [held]))
    obtain ⟨y, last⟩ : ∃ y, (t :: ts).getLast?.bind List.getLast? = some y := by
      obtain ⟨u, lastSeg⟩ := List.getLast?_isSome.mpr (List.cons_ne_nil t ts) |> Option.isSome_iff_exists.mp
      obtain ⟨y, lastByte⟩ := List.getLast?_isSome.mpr (full u (by simp [List.mem_of_getLast? lastSeg]))
        |> Option.isSome_iff_exists.mp
      exact ⟨y, by rw [lastSeg]; exact lastByte⟩
    rw [List.intercalate_cons_cons, List.getLast?_append, rest, List.getLast?_cons_cons, last]
    rfl

theorem cleanPath_ne_nil (p : Bytes) : cleanPath p ≠ [] := by
  rw [cleanPath_eq]
  split
  · exact List.cons_ne_nil _ _
  · split
    · exact List.cons_ne_nil _ _
    · assumption

theorem eq_root_of_getLast?_cleanPath {p : Bytes} (ends : (cleanPath p).getLast? = some (ascii '/')) :
    cleanPath p = [ascii '/'] := by
  have stack := stack_keptOf p
  -- the last byte of joined segments is a byte of the last segment, so no slash
  have noSlash : ([ascii '/'].intercalate (keptOf p).reverse).getLast? ≠ some (ascii '/') := by
    rw [getLast?_intercalate _ (fun s held => stack.ne_nil s (List.mem_reverse.mp held))]
    intro last
    obtain ⟨s, lastSeg, lastByte⟩ := Option.bind_eq_some_iff.mp last
    exact stack.slashless s (List.mem_reverse.mp (List.mem_of_getLast? lastSeg))
      (List.mem_of_getLast? lastByte)
  rw [cleanPath_eq] at ends ⊢
  split at ends
  · by_cases empty : [ascii '/'].intercalate (keptOf p).reverse = []
    · rw [if_pos (by assumption), empty]
    · rw [List.getLast?_cons] at ends
      cases last : ([ascii '/'].intercalate (keptOf p).reverse).getLast? with
      | none => exact absurd (List.getLast?_eq_none_iff.mp last) empty
      | some z =>
        rw [last] at ends noSlash
        exact absurd ends noSlash
  · split at ends
    · cases ends
    · exact absurd ends noSlash

theorem splitOn_append_slash : ∀ bs : Bytes,
    (bs ++ [ascii '/']).splitOn (ascii '/') = bs.splitOn (ascii '/') ++ [[]]
  | [] => by
    rw [List.nil_append, List.splitOn, List.splitOnP_cons_eq_if_modifyHead, if_pos (by simp),
      List.splitOnP_nil]
    rfl
  | b :: bs => by
    have later := splitOn_append_slash bs
    simp only [List.splitOn] at later ⊢
    rw [List.cons_append, List.splitOnP_cons_eq_if_modifyHead, List.splitOnP_cons_eq_if_modifyHead, later]
    split
    · rfl
    · obtain ⟨t, ts, split⟩ := List.exists_cons_of_ne_nil (List.splitOnP_ne_nil (· == ascii '/') bs)
      rw [split]
      rfl

theorem cleanPath_append_slash {p : Bytes} (full : p ≠ []) : cleanPath (p ++ [ascii '/']) = cleanPath p := by
  have first : (p ++ [ascii '/']).head? = p.head? := by
    obtain ⟨b, bs, rfl⟩ := List.exists_cons_of_ne_nil full
    rfl
  have kept : keptOf (p ++ [ascii '/']) = keptOf p := by
    rw [keptOf, keptOf, first, splitOn_append_slash, cleanSegments_append,
      cleanSegments_skip _ _ _ (.inl rfl)]
    rfl
  rw [cleanPath_eq, cleanPath_eq p, first, kept]

theorem cleanPath_root : cleanPath [ascii '/'] = [ascii '/'] := by
  rw [cleanPath_eq, List.head?_cons, if_pos rfl]
  rfl

end HeaderAudit.Bytes

namespace HeaderAudit.Address

open Bytes

theorem canonicalPath_of_ne_nil {p : Bytes} (full : p ≠ []) :
    canonicalPath p = if p.getLast? = some (ascii '/') ∧ cleanPath p ≠ [ascii '/'] then
      cleanPath p ++ [ascii '/'] else cleanPath p := by
  rw [canonicalPath, if_neg full]

theorem canonicalPath_canonicalPath (p : Bytes) : canonicalPath (canonicalPath p) = canonicalPath p := by
  by_cases empty : p = []
  · have root : canonicalPath [] = [ascii '/'] := by rw [canonicalPath, if_pos rfl]
    rw [empty, root, canonicalPath_of_ne_nil (List.cons_ne_nil _ _), cleanPath_root,
      if_neg (fun trailing => trailing.2 rfl)]
  rw [canonicalPath_of_ne_nil empty]
  by_cases trailing : p.getLast? = some (ascii '/') ∧ cleanPath p ≠ [ascii '/']
  · -- the slash put back is kept again, and cleaning ignores it
    rw [if_pos trailing, canonicalPath_of_ne_nil (by simp), cleanPath_append_slash (cleanPath_ne_nil p),
      cleanPath_cleanPath, if_pos ⟨by simp, trailing.2⟩]
  · -- a clean path ends with a slash only as the root, so none is put back
    rw [if_neg trailing, canonicalPath_of_ne_nil (cleanPath_ne_nil p), cleanPath_cleanPath,
      if_neg (fun again => again.2 (eq_root_of_getLast?_cleanPath again.1))]

end HeaderAudit.Address
