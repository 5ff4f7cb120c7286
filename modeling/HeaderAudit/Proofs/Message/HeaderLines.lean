import HeaderAudit.Message.Header
import HeaderAudit.Proofs.Text.Trim
/-!
The fields of a header and the lines it keeps stay in step, so every lookup answers from the lines.
-/

namespace HeaderAudit

theorem mapLast_append_singleton {α : Type} (f : α → α) (xs : List α) (a : α) :
    mapLast f (xs ++ [a]) = xs ++ [f a] := by
  induction xs with
  | nil => rfl
  | cons x xs ih =>
    cases xs with
    | nil => rfl
    | cons y ys =>
      show x :: mapLast f (y :: ys ++ [a]) = x :: (y :: ys ++ [f a])
      rw [ih]

theorem mapLast_of_fixed {α : Type} {f : α → α} {xs : List α} (fixed : ∀ a ∈ xs, f a = a) :
    mapLast f xs = xs := by
  rcases List.eq_nil_or_concat xs with empty | ⟨front, last, split⟩
  · rw [empty]
    rfl
  · rw [split, List.concat_eq_append, mapLast_append_singleton]
    rw [fixed last (by simp [split])]

namespace Header

def lineFields (h : Header) : List Field := h.lines.filterMap fieldOfLine

def lineValues (h : Header) (name : String) : List String :=
  (h.lineFields.filter fun f => Text.equalFold f.name name).map (·.value)

def InStep (h : Header) : Prop := h.fields = h.lineFields

/-- Whether adding a raw line keeps the lines and the fields in step: a continuation with text,
once a field has been read, must follow a line that names a field and whose value is blank or
ends in no blank. -/
def foldsCleanly (h : Header) (raw : String) : Bool :=
  let line := Text.trimEndOf raw ['\r']
  if line ≠ "" ∧ isContinuation line ∧ h.fields ≠ [] ∧ h.lines ≠ [] ∧ Text.trim line ≠ "" then
    match h.lines.getLast? with
    | some last =>
      match fieldOfLine last with
      | some f => f.value = "" ∨ last.toList.getLast?.all (fun c => !Text.isBlank c)
      | none => false
    | none => false
  else true

def foldsCleanlyAll : Header → List String → Bool
  | _, [] => true
  | h, raw :: rest => h.foldsCleanly raw && foldsCleanlyAll (h.addLine raw) rest

theorem cut_colon (s : String) :
    Text.cut s ":" = (Text.cutList [':'] s.toList).map
      fun p => (String.ofList p.1, String.ofList p.2) := rfl

theorem fieldOfLine_eq_some {line : String} {f : Field} (named : fieldOfLine line = some f) :
    ∃ before after, Text.cutList [':'] line.toList = some (before, after) ∧
      Text.trim (String.ofList before) ≠ "" ∧
      f = ⟨Text.trim (String.ofList before), Text.trim (String.ofList after)⟩ := by
  unfold fieldOfLine at named
  rw [cut_colon] at named
  cases found : Text.cutList [':'] line.toList with
  | none =>
    rw [found] at named
    cases named
  | some parts =>
    obtain ⟨before, after⟩ := parts
    rw [found] at named
    simp only [Option.map_some] at named
    split at named
    · cases named
    · rename_i nonblank
      cases named
      exact ⟨before, after, rfl, nonblank, rfl⟩

theorem trim_value_of_fieldOfLine {line : String} {f : Field} (named : fieldOfLine line = some f) :
    Text.trim f.value = f.value := by
  obtain ⟨before, after, -, -, rfl⟩ := fieldOfLine_eq_some named
  exact Text.trim_trim _

theorem fieldOfLine_append_space (line : String) :
    fieldOfLine (line ++ " ") = fieldOfLine line := by
  unfold fieldOfLine
  rw [cut_colon, cut_colon, String.toList_append]
  cases found : Text.cutList [':'] line.toList with
  | none =>
    rw [Text.cutList_single_append_of_none _ found]
    rfl
  | some parts =>
    obtain ⟨before, after⟩ := parts
    rw [Text.cutList_single_append _ found]
    have spaced : Text.trim (String.ofList (after ++ " ".toList)) =
        Text.trim (String.ofList after) := by
      simp only [Text.trim, String.toList_ofList, Text.toList_space]
      rw [Text.trimList_append_blank after Text.isBlank_space]
    simp only [Option.map_some, spaced]

theorem getLast?_after_colon {line : String} {before after : List Char}
    (found : Text.cutList [':'] line.toList = some (before, after)) (nonempty : after ≠ []) :
    line.toList.getLast? = after.getLast? := by
  rw [Text.eq_of_cutList_single found, ← List.singleton_append, ← List.append_assoc,
    List.getLast?_append, List.getLast?_eq_some_getLast nonempty]
  rfl

theorem fieldOfLine_join {line more : String} {f : Field} (named : fieldOfLine line = some f)
    (clean : f.value = "" ∨ line.toList.getLast?.all (fun c => !Text.isBlank c) = true)
    (trimmed : Text.Trimmed more.toList) (nonempty : more ≠ "") :
    fieldOfLine (line ++ " " ++ more) =
      some { f with value := Text.trim (f.value ++ " " ++ more) } := by
  obtain ⟨before, after, found, nonblank, rfl⟩ := fieldOfLine_eq_some named
  have valueClean : after.getLast?.all (fun c => !Text.isBlank c) = true ∨
      Text.trimList after = [] := by
    rcases clean with blank | lastKept
    · right
      have blankList := congrArg String.toList blank
      simpa only [Text.trim, String.toList_ofList, String.toList_empty] using blankList
    · left
      by_cases empty : after = []
      · rw [empty]
        rfl
      · rwa [getLast?_after_colon found empty] at lastKept
  have more_ne : more.toList ≠ [] := fun gone => nonempty (String.toList_eq_nil_iff.mp gone)
  unfold fieldOfLine
  rw [cut_colon, String.toList_append, String.toList_append, Text.toList_space,
    List.append_assoc, List.singleton_append, Text.cutList_single_append _ found]
  simp only [Option.map_some]
  rw [if_neg nonblank]
  have value : Text.trim (String.ofList (after ++ ' ' :: more.toList)) =
      Text.trim (Text.trim (String.ofList after) ++ " " ++ more) := by
    simp only [Text.trim, String.toList_append, String.toList_ofList, Text.toList_space,
      List.append_assoc, List.singleton_append]
    rw [Text.trimList_join_trimList valueClean trimmed more_ne]
  rw [value]

theorem inStep_append_line {h : Header} (inStep : h.InStep) (line : String) :
    InStep { lines := h.lines ++ [line]
             fields := match fieldOfLine line with
               | some f => h.fields ++ [f]
               | none => h.fields } := by
  unfold InStep lineFields at inStep ⊢
  rw [List.filterMap_append, ← inStep]
  cases named : fieldOfLine line <;>
    simp only [List.filterMap_cons, List.filterMap_nil, List.append_nil, named]

theorem inStep_join_blank {h : Header} (inStep : h.InStep) {front : List String} {last : String}
    (split : h.lines = front ++ [last]) :
    InStep { lines := mapLast (· ++ " " ++ "") h.lines
             fields := mapLast (fun f => { f with value := Text.trim (f.value ++ " " ++ "") })
               h.fields } := by
  unfold InStep lineFields at inStep ⊢
  have unchanged : ∀ f ∈ h.fields, { f with value := Text.trim (f.value ++ " " ++ "") } = f := by
    intro f member
    rw [inStep, List.mem_filterMap] at member
    obtain ⟨source, -, named⟩ := member
    rw [String.append_empty, Text.trim_append_space, trim_value_of_fieldOfLine named]
  have spaced : [last ++ " " ++ ""].filterMap fieldOfLine = [last].filterMap fieldOfLine := by
    simp only [String.append_empty, List.filterMap_cons, List.filterMap_nil,
      fieldOfLine_append_space]
  rw [mapLast_of_fixed unchanged, split, mapLast_append_singleton, List.filterMap_append, spaced,
    inStep, split, List.filterMap_append]

theorem inStep_join_text {h : Header} (inStep : h.InStep) {front : List String} {last : String}
    {f : Field} (split : h.lines = front ++ [last]) (named : fieldOfLine last = some f)
    (clean : f.value = "" ∨ last.toList.getLast?.all (fun c => !Text.isBlank c) = true)
    {more : String} (trimmed : Text.Trimmed more.toList) (nonempty : more ≠ "") :
    InStep { lines := mapLast (· ++ " " ++ more) h.lines
             fields := mapLast (fun f => { f with value := Text.trim (f.value ++ " " ++ more) })
               h.fields } := by
  unfold InStep lineFields at inStep ⊢
  have fields : h.fields = front.filterMap fieldOfLine ++ [f] := by
    rw [inStep, split, List.filterMap_append]
    simp only [List.filterMap_cons, List.filterMap_nil, named]
  rw [fields, split, mapLast_append_singleton, mapLast_append_singleton, List.filterMap_append]
  simp only [List.filterMap_cons, List.filterMap_nil,
    fieldOfLine_join named clean trimmed nonempty]

theorem inStep_addLine {h : Header} {raw : String} (inStep : h.InStep)
    (clean : h.foldsCleanly raw = true) : (h.addLine raw).InStep := by
  unfold foldsCleanly at clean
  unfold addLine
  dsimp only at clean ⊢
  generalize Text.trimEndOf raw ['\r'] = line at clean ⊢
  by_cases empty : line = ""
  · rw [if_pos empty]
    exact inStep
  rw [if_neg empty]
  by_cases cont : isContinuation line = true ∧ h.fields ≠ [] ∧ h.lines ≠ []
  · rw [if_pos cont]
    obtain ⟨isCont, someField, someLine⟩ := cont
    obtain ⟨front, last, split⟩ : ∃ front last, h.lines = front ++ [last] := by
      rcases List.eq_nil_or_concat h.lines with none | ⟨front, last, split⟩
      · exact absurd none someLine
      · exact ⟨front, last, List.concat_eq_append ▸ split⟩
    by_cases blank : Text.trim line = ""
    · rw [blank]
      exact inStep_join_blank inStep split
    -- with text, the clean fold names the last line's field
    rw [if_pos ⟨empty, isCont, someField, someLine, blank⟩, split,
      List.getLast?_concat] at clean
    dsimp only at clean
    cases named : fieldOfLine last with
    | none =>
      rw [named] at clean
      cases clean
    | some f =>
      rw [named] at clean
      dsimp only at clean
      have trimmed : Text.Trimmed (Text.trim line).toList := by
        simp only [Text.trim, String.toList_ofList]
        exact Text.trimmed_trimList _
      exact inStep_join_text inStep split named (of_decide_eq_true clean) trimmed blank
  · rw [if_neg cont]
    exact inStep_append_line inStep line

theorem inStep_foldl {h : Header} (raws : List String) (inStep : h.InStep)
    (clean : h.foldsCleanlyAll raws = true) : (raws.foldl addLine h).InStep := by
  induction raws generalizing h with
  | nil => exact inStep
  | cons raw rest ih =>
    rw [foldsCleanlyAll, Bool.and_eq_true] at clean
    exact ih (inStep_addLine inStep clean.1) clean.2

/-- Read from lines whose continuations all fold cleanly, a header answers every lookup from the
lines it keeps: the values of a name are those its lines give, the value is the first of them,
and there are as many fields as lines that name one. -/
theorem lookups_read_kept_lines (raws : List String) (clean : empty.foldsCleanlyAll raws = true) :
    (∀ name, (ofLines raws).values name = (ofLines raws).lineValues name ∧
      (ofLines raws).value? name = ((ofLines raws).lineValues name).head?) ∧
    (ofLines raws).size = (ofLines raws).lineFields.length := by
  have inStep : (ofLines raws).InStep := inStep_foldl raws rfl clean
  refine ⟨fun name => ⟨?_, ?_⟩, ?_⟩
  · unfold values lineValues
    rw [inStep]
  · unfold value? lineValues
    rw [inStep, List.head?_map, List.head?_filter]
  · unfold size
    rw [inStep]

theorem lookups_read_kept_lines_folded :
    empty.foldsCleanlyAll ["X-Long: first", "\tsecond", "no colon here"] = true ∧
      ((∀ name, (ofLines ["X-Long: first", "\tsecond", "no colon here"]).values name =
          (ofLines ["X-Long: first", "\tsecond", "no colon here"]).lineValues name ∧
        (ofLines ["X-Long: first", "\tsecond", "no colon here"]).value? name =
          ((ofLines ["X-Long: first", "\tsecond", "no colon here"]).lineValues name).head?) ∧
      (ofLines ["X-Long: first", "\tsecond", "no colon here"]).size =
        (ofLines ["X-Long: first", "\tsecond", "no colon here"]).lineFields.length) :=
  ⟨by decide, lookups_read_kept_lines _ (by decide)⟩

/-- A continuation after a line that names no field joins the field of the line before it, but
the line that names no field: the value no longer reads off the lines. -/
theorem values_part_from_lines_after_fieldless :
    (ofLines ["A: x", "junk", " cont"]).values "A" ≠
      (ofLines ["A: x", "junk", " cont"]).lineValues "A" := by
  decide

end Header

end HeaderAudit
