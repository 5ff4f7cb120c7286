import HeaderAudit.Json.Parse
import HeaderAudit.Proofs.Text.Hex
/-!
JSON values read back from the text `render` writes.
-/

namespace HeaderAudit.Json

theorem hex4_hexPadded {n : Nat} (below : n < 16 ^ 4) (rest : List Char) :
    hex4 (Text.hexPadded false 4 n ++ rest) = .ok (n, rest) := by
  obtain ⟨four, value, digits⟩ := Text.hexPadded_four below
  generalize Text.hexPadded false 4 n = ds at four value digits
  match ds, four with
  | [a, b, c, d], _ =>
    have none : [a, b, c, d].find? (fun x => !Text.isHexDigit x) = none := by
      simpa [List.find?_eq_none] using digits
    simp only [List.cons_append, List.nil_append, hex4]
    rw [none, value]
    rfl

def Coded (c : Char) : Prop :=
  c.toNat < 32 ∨ c = '<' ∨ c = '>' ∨ c = '&' ∨ c.toNat = 0x2028 ∨ c.toNat = 0x2029

theorem toNat_lt_of_coded {c : Char} (coded : Coded c) : c.toNat < 0x202A := by
  rcases coded with small | rfl | rfl | rfl | line | para
  · omega
  · decide
  · decide
  · decide
  · omega
  · omega

theorem stringFor_escapeChar (c : Char) (fuel : Nat) (acc more : List Char) :
    stringFor (fuel + 1) acc (escapeChar c ++ more) = stringFor fuel (c :: acc) more := by
  unfold escapeChar
  -- the seven two-letter escapes, then the `\u` escapes, then a code point kept as it is
  split
  · rename_i quote
    subst quote
    rfl
  split
  · rename_i backslash
    subst backslash
    rfl
  split
  · rename_i newline
    subst newline
    rfl
  split
  · rename_i ret
    subst ret
    rfl
  split
  · rename_i tab
    subst tab
    rfl
  split
  · rename_i back
    subst back
    rfl
  split
  · rename_i feed
    subst feed
    rfl
  split
  · rename_i coded
    have small : c.toNat < 0x202A := toNat_lt_of_coded coded
    have notHigh : isHigh c.toNat = false := by
      simp only [isHigh, decide_eq_false_iff_not]
      omega
    have notLow : isLow c.toNat = false := by
      simp only [isLow, decide_eq_false_iff_not]
      omega
    simp only [List.cons_append, stringFor]
    rw [hex4_hexPadded (by omega) more]
    simp [notHigh, unitChar, notLow, Char.ofNat_toNat]
  · rename_i quote backslash _ _ _ _ _ coded
    have printable : ¬ c.toNat < 0x20 := fun h => coded (.inl h)
    simp only [List.cons_append, List.nil_append]
    rw [stringFor.eq_6 acc fuel c more quote backslash, if_neg printable]

theorem one_le_length_escapeChar (c : Char) : 1 ≤ (escapeChar c).length := by
  unfold escapeChar
  repeat' split
  all_goals simp

theorem length_le_escaped (s : List Char) : s.length ≤ (s.flatMap escapeChar).length := by
  induction s with
  | nil => simp
  | cons c cs ih =>
    have one := one_le_length_escapeChar c
    simp only [List.flatMap_cons, List.length_append, List.length_cons]
    omega

theorem stringFor_escaped (s acc rest : List Char) (fuel : Nat) (enough : s.length < fuel) :
    stringFor fuel acc (s.flatMap escapeChar ++ '"' :: rest) =
      .ok (String.ofList (acc.reverse ++ s), rest) := by
  induction s generalizing acc fuel with
  | nil =>
    obtain ⟨f, rfl⟩ : ∃ f, fuel = f + 1 := ⟨fuel - 1, by simp at enough; omega⟩
    simp [stringFor]
  | cons c cs ih =>
    obtain ⟨f, rfl⟩ : ∃ f, fuel = f + 1 := ⟨fuel - 1, by simp at enough; omega⟩
    rw [List.flatMap_cons, List.append_assoc, stringFor_escapeChar,
      ih (c :: acc) f (by simp at enough; omega)]
    simp

theorem stringRest_quote (s : String) (rest : List Char) :
    stringRest (s.toList.flatMap escapeChar ++ '"' :: rest) = .ok (s, rest) := by
  have longer := length_le_escaped s.toList
  have enough : s.toList.length < (s.toList.flatMap escapeChar ++ '"' :: rest).length + 1 := by
    rw [List.length_append, List.length_cons]
    omega
  unfold stringRest
  rw [stringFor_escaped s.toList [] rest _ enough]
  simp

theorem toList_quote (s : String) :
    (quote s).toList = '"' :: (s.toList.flatMap escapeChar ++ ['"']) := by
  simp [quote]

theorem skipSpace_of_not_space {c : Char} (cs : List Char) (solid : isSpace c = false) :
    skipSpace (c :: cs) = c :: cs := by
  simp [skipSpace, solid]

/-- A value whose compact text, followed by anything, reads back as the value within any budget
as large as the text. The text starts with no blank and no closing bracket. -/
structure ReadsBack (j : Json) : Prop where
  opens : ∃ c cs, (render j).toList = c :: cs ∧ isSpace c = false ∧ c ≠ ']'
  reads : ∀ fuel rest, (render j).toList.length ≤ fuel →
    value fuel ((render j).toList ++ rest) = .ok (j, rest)

theorem readsBack_null : ReadsBack .null where
  opens := ⟨'n', ['u', 'l', 'l'], rfl, rfl, by decide⟩
  reads := by
    intro fuel rest enough
    obtain ⟨f, rfl⟩ : ∃ f, fuel = f + 1 := ⟨fuel - 1, by simp [render] at enough; omega⟩
    rfl

theorem readsBack_str (s : String) : ReadsBack (.str s) where
  opens := ⟨'"', s.toList.flatMap escapeChar ++ ['"'], by simp [render, toList_quote], rfl,
    by decide⟩
  reads := by
    intro fuel rest enough
    obtain ⟨f, rfl⟩ : ∃ f, fuel = f + 1 :=
      ⟨fuel - 1, by simp [render, toList_quote] at enough; omega⟩
    simp only [render, toList_quote, List.cons_append, List.append_assoc]
    simp [value, skipSpace, isSpace, stringRest_quote]
    rfl

theorem length_pos_of_readsBack {j : Json} (back : ReadsBack j) : 0 < (render j).toList.length := by
  obtain ⟨c, cs, text, -, -⟩ := back.opens
  simp [text]

theorem renderItems_cons (x : Json) (xs : List Json) :
    ∃ more, (renderItems (x :: xs)).toList = (render x).toList ++ more := by
  cases xs with
  | nil => exact ⟨[], by simp [renderItems]⟩
  | cons y ys => exact ⟨',' :: (renderItems (y :: ys)).toList, by simp [renderItems]⟩

theorem items_renderItems (xs : List Json) (each : ∀ x ∈ xs, ReadsBack x) (nonempty : xs ≠ [])
    (acc : List Json) (rest : List Char) (fuel : Nat)
    (enough : (renderItems xs).toList.length < fuel) :
    items fuel acc ((renderItems xs).toList ++ ']' :: rest) = .ok (arr (acc.reverse ++ xs), rest) := by
  induction xs generalizing acc fuel with
  | nil => exact absurd rfl nonempty
  | cons x xs ih =>
    obtain ⟨f, rfl⟩ : ∃ f, fuel = f + 1 := ⟨fuel - 1, by omega⟩
    have first := each x (by simp)
    have wide := length_pos_of_readsBack first
    cases xs with
    | nil =>
      have read := first.reads f (']' :: rest) (by simp only [renderItems] at enough; omega)
      simp only [renderItems] at enough ⊢
      simp [items, read, skipSpace, isSpace]
    | cons y ys =>
      have text : (renderItems (x :: y :: ys)).toList =
          (render x).toList ++ ',' :: (renderItems (y :: ys)).toList := by
        simp [renderItems]
      rw [text, List.length_append, List.length_cons] at enough
      have read := first.reads f (',' :: ((renderItems (y :: ys)).toList ++ ']' :: rest)) (by omega)
      have later := ih (fun z mem => each z (List.mem_cons_of_mem x mem)) (by simp) (x :: acc) f
        (by omega)
      rw [text, List.append_assoc, List.cons_append]
      simp [items, read, skipSpace, isSpace, later]

theorem members_renderFields (fs : List (String × Json)) (each : ∀ m ∈ fs, ReadsBack m.2)
    (nonempty : fs ≠ []) (acc : List (String × Json)) (rest : List Char) (fuel : Nat)
    (enough : (renderFields fs).toList.length < fuel) :
    members fuel acc ((renderFields fs).toList ++ '}' :: rest) =
      .ok (obj (acc.reverse ++ fs), rest) := by
  induction fs generalizing acc fuel with
  | nil => exact absurd rfl nonempty
  | cons m fs ih =>
    obtain ⟨k, v⟩ := m
    obtain ⟨f, rfl⟩ : ∃ f, fuel = f + 1 := ⟨fuel - 1, by omega⟩
    have first : ReadsBack v := each (k, v) (by simp)
    cases fs with
    | nil =>
      have text : (renderFields [(k, v)]).toList =
          '"' :: (k.toList.flatMap escapeChar ++ '"' :: ':' :: (render v).toList) := by
        simp [renderFields, toList_quote]
      rw [text] at enough ⊢
      simp only [List.length_cons, List.length_append] at enough
      have read := first.reads f ('}' :: rest) (by omega)
      simp [members, skipSpace, isSpace, stringRest_quote, read]
    | cons n ns =>
      have text : (renderFields ((k, v) :: n :: ns)).toList =
          '"' :: (k.toList.flatMap escapeChar ++ '"' :: ':' :: ((render v).toList ++
            ',' :: (renderFields (n :: ns)).toList)) := by
        simp [renderFields, toList_quote]
      rw [text] at enough ⊢
      simp only [List.length_cons, List.length_append] at enough
      have read := first.reads f (',' :: ((renderFields (n :: ns)).toList ++ '}' :: rest))
        (by omega)
      have later := ih (fun z mem => each z (List.mem_cons_of_mem _ mem)) (by simp) ((k, v) :: acc) f
        (by omega)
      simp [members, skipSpace, isSpace, stringRest_quote, read, later]

theorem readsBack_arr (xs : List Json) (each : ∀ x ∈ xs, ReadsBack x) : ReadsBack (.arr xs) where
  opens := ⟨'[', (renderItems xs).toList ++ [']'], by simp [render], rfl, by decide⟩
  reads := by
    intro fuel rest enough
    obtain ⟨f, rfl⟩ : ∃ f, fuel = f + 1 := ⟨fuel - 1, by simp [render] at enough; omega⟩
    have text : (render (.arr xs)).toList ++ rest = '[' :: ((renderItems xs).toList ++ ']' :: rest) := by
      simp [render]
    rw [text]
    cases xs with
    | nil => simp [value, skipSpace, isSpace, renderItems]
    | cons x xs =>
      -- the first item opens with neither a blank nor a closing bracket, so the items are read
      obtain ⟨c, cs, opening, solid, notClose⟩ := (each x (by simp)).opens
      obtain ⟨more, start⟩ := renderItems_cons x xs
      have read := items_renderItems (x :: xs) each (by simp) [] rest f
        (by simp [render] at enough; omega)
      have skip : skipSpace ((renderItems (x :: xs)).toList ++ ']' :: rest) =
          (renderItems (x :: xs)).toList ++ ']' :: rest := by
        rw [start, opening]
        exact skipSpace_of_not_space _ solid
      simp [value, skipSpace, isSpace, read]
      split
      · rename_i after closing
        rw [skip, start, opening] at closing
        simp only [List.cons_append, List.cons.injEq] at closing
        exact absurd closing.1 notClose
      · rfl

theorem readsBack_obj (fs : List (String × Json)) (each : ∀ m ∈ fs, ReadsBack m.2) :
    ReadsBack (.obj fs) where
  opens := ⟨'{', (renderFields fs).toList ++ ['}'], by simp [render], rfl, by decide⟩
  reads := by
    intro fuel rest enough
    obtain ⟨f, rfl⟩ : ∃ f, fuel = f + 1 := ⟨fuel - 1, by simp [render] at enough; omega⟩
    have text : (render (.obj fs)).toList ++ rest =
        '{' :: ((renderFields fs).toList ++ '}' :: rest) := by
      simp [render]
    rw [text]
    cases fs with
    | nil => simp [value, skipSpace, isSpace, renderFields]
    | cons m fs =>
      -- the first member opens with the quote of its key, so the members are read
      obtain ⟨more, start⟩ : ∃ more, (renderFields (m :: fs)).toList = '"' :: more := by
        cases fs <;> simp [renderFields, toList_quote]
      have read := members_renderFields (m :: fs) each (by simp) [] rest f
        (by simp [render] at enough; omega)
      simp [value, skipSpace, isSpace, read]
      split
      · rename_i after closing
        rw [start, List.cons_append, skipSpace_of_not_space _ rfl] at closing
        simp only [List.cons.injEq] at closing
        exact absurd closing.1 (by decide)
      · rfl

theorem parse_render {j : Json} (back : ReadsBack j) : parse (render j) = .ok j := by
  have read := back.reads (2 * (render j).toList.length + 2) [] (by omega)
  rw [List.append_nil] at read
  simp [parse, read, skipSpace]

end HeaderAudit.Json
