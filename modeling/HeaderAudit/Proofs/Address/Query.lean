import HeaderAudit.Address.Query
import HeaderAudit.Proofs.Address.Escape
import HeaderAudit.Proofs.Text.Cut
/-!
Reading a written query gives its entries back in sorted order, so writing is idempotent.
-/
namespace HeaderAudit.Bytes

theorem idxOf?_append_cons {sep : UInt8} {a : Bytes} (absent : sep ∉ a) (b : Bytes) :
    (a ++ sep :: b).idxOf? sep = some a.length := by
  rw [List.idxOf?, List.findIdx?_append]
  have none : a.findIdx? (· == sep) = none := List.idxOf?_eq_none_iff.mpr absent
  rw [none]
  simp [List.findIdx?_cons]

theorem cutAt_append_cons {sep : UInt8} {a : Bytes} (absent : sep ∉ a) (b : Bytes) :
    cutAt sep (a ++ sep :: b) = some (a, b) := by
  rw [cutAt, idxOf?_append_cons absent]
  simp

theorem ofString_intercalate (sep : String) : ∀ l : List String,
    ofString (sep.intercalate l) = (ofString sep).intercalate (l.map ofString)
  | [] => by simp [ofString_eq_flatMap]
  | [s] => by simp
  | s :: t :: l => by
    rw [String.intercalate_cons_cons, ofString_append, ofString_append, ofString_intercalate sep (t :: l)]
    simp [List.intercalate_cons_cons]

theorem mem_intercalate {α : Type} {sep : List α} {x : α} :
    ∀ {ls : List (List α)}, x ∈ sep.intercalate ls → x ∈ sep ∨ ∃ l ∈ ls, x ∈ l
  | [], held => by simp at held
  | first :: rest, held => by
    rw [Text.intercalate_cons_eq_flatMap] at held
    rcases List.mem_append.mp held with inFirst | inRest
    · exact .inr ⟨first, List.mem_cons_self, inFirst⟩
    · obtain ⟨l, member, inner⟩ := List.mem_flatMap.mp inRest
      rcases List.mem_append.mp inner with inSep | inPiece
      · exact .inl inSep
      · exact .inr ⟨l, List.mem_cons_of_mem _ member, inPiece⟩

theorem mem_intercalate_of_mem {α : Type} {sep l : List α} {x : α} :
    ∀ {ls : List (List α)}, l ∈ ls → x ∈ l → x ∈ sep.intercalate ls
  | first :: rest, member, inner => by
    rw [Text.intercalate_cons_eq_flatMap]
    rcases List.mem_cons.mp member with rfl | later
    · exact List.mem_append_left _ inner
    · exact List.mem_append_right _ (List.mem_flatMap.mpr ⟨l, later, List.mem_append_right _ inner⟩)

end HeaderAudit.Bytes

namespace HeaderAudit.Query
open Bytes

/-- Each key once, with at least one value: the form reading a query gives. -/
structure Keyed (q : Query) : Prop where
  distinct : (q.entries.map Prod.fst).Nodup
  valued : ∀ e ∈ q.entries, e.2 ≠ []

theorem keyed_empty : Keyed ⟨[]⟩ := ⟨List.nodup_nil, by simp⟩

theorem any_key_iff (es : List (Bytes × List Bytes)) (k : Bytes) :
    es.any (·.1 == k) = true ↔ k ∈ es.map Prod.fst := by
  rw [List.any_eq_true, List.mem_map]
  constructor
  · rintro ⟨e, held, same⟩
    exact ⟨e, held, beq_iff_eq.mp same⟩
  · rintro ⟨e, held, same⟩
    exact ⟨e, held, beq_iff_eq.mpr same⟩

theorem Keyed.add {q : Query} (keyed : Keyed q) (k v : Bytes) : Keyed (q.add k v) := by
  unfold Query.add
  split
  · -- the key is there: its values grow by one and the keys stay
    have keys : (q.entries.map fun e => if e.1 == k then (k, e.2 ++ [v]) else e).map Prod.fst =
        q.entries.map Prod.fst := by
      rw [List.map_map]
      apply List.map_congr_left
      intro e _
      by_cases same : e.1 = k <;> simp [same]
    refine ⟨by rw [keys]; exact keyed.distinct, ?_⟩
    intro e held
    obtain ⟨old, kept, rfl⟩ := List.mem_map.mp held
    by_cases same : old.1 = k
    · simp [same]
    · simpa [same] using keyed.valued old kept
  · rename_i absent
    rw [any_key_iff] at absent
    refine ⟨?_, ?_⟩
    · rw [List.map_append, List.map_singleton]
      refine List.nodup_append.mpr ⟨keyed.distinct, by simp, ?_⟩
      intro a held b same equal
      have named : a = k := by simpa [List.mem_singleton.mp same] using equal
      rw [named] at held
      exact absent held
    · intro e held
      rcases List.mem_append.mp held with old | new
      · exact keyed.valued e old
      · rw [List.mem_singleton.mp new]
        exact List.cons_ne_nil _ _

theorem addPair_cases (q : Query) (pair : Bytes) : q.addPair pair = q ∨ ∃ k v, q.addPair pair = q.add k v := by
  unfold Query.addPair
  split
  · exact .inl rfl
  · -- past the cut at `=`, the pair adds exactly when both sides decode
    split
    split
    · exact .inr ⟨_, _, rfl⟩
    · exact .inl rfl

theorem Keyed.addPair {q : Query} (keyed : Keyed q) (pair : Bytes) : Keyed (q.addPair pair) := by
  rcases addPair_cases q pair with same | ⟨k, v, added⟩
  · rw [same]
    exact keyed
  · rw [added]
    exact keyed.add k v

theorem keyed_parse (raw : String) : Keyed (parse raw) := by
  unfold parse
  dsimp only
  split
  · exact keyed_empty
  · generalize pairs (ofString raw) = ps
    suffices ∀ q : Query, Keyed q → Keyed (ps.foldl addPair q) from this _ keyed_empty
    induction ps with
    | nil => exact fun q keyed => keyed
    | cons p ps ih => exact fun q keyed => ih _ (keyed.addPair p)

end HeaderAudit.Query

namespace HeaderAudit.Query
open Bytes

def pairText (k v : Bytes) : String :=
  escape .queryComponent k ++ "=" ++ escape .queryComponent v

def entryTexts (e : Bytes × List Bytes) : List String := e.2.map (pairText e.1)

def keyLe (a b : Bytes × List Bytes) : Bool := bytesLe a.1 b.1

theorem encode_eq (q : Query) :
    encode q = "&".intercalate ((q.entries.mergeSort keyLe).flatMap entryTexts) := rfl

theorem ofString_pairText (k v : Bytes) :
    ofString (pairText k v) =
      ofString (escape .queryComponent k) ++ ascii '=' :: ofString (escape .queryComponent v) := by
  rw [pairText, ofString_append, ofString_append, ofString_equals, List.append_assoc]
  rfl

theorem not_mem_escape_query {x : UInt8} (special : x = ascii '&' ∨ x = ascii '=' ∨ x = ascii ';')
    (bs : Bytes) : x ∉ ofString (escape .queryComponent bs) := by
  rcases special with rfl | rfl | rfl <;> exact not_mem_ofString_escape (by decide) (by decide) bs

theorem not_mem_pairText {x : UInt8} (separator : x = ascii '&' ∨ x = ascii ';') (k v : Bytes) :
    x ∉ ofString (escape .queryComponent k) ++ ascii '=' :: ofString (escape .queryComponent v) := by
  have special : x = ascii '&' ∨ x = ascii '=' ∨ x = ascii ';' := separator.imp_right .inr
  intro inside
  rcases List.mem_append.mp inside with inKey | inRest
  · exact not_mem_escape_query special k inKey
  · rcases List.mem_cons.mp inRest with same | inValue
    · rcases separator with rfl | rfl <;> exact absurd same (by decide)
    · exact not_mem_escape_query special v inValue

theorem addPair_pairText (q : Query) (k v : Bytes) : q.addPair (ofString (pairText k v)) = q.add k v := by
  have ordinary : Part.queryComponent ≠ .host ∧ Part.queryComponent ≠ .zone := by decide
  rw [ofString_pairText, addPair, if_neg]
  · rw [cutAt_append_cons (not_mem_escape_query (.inr (.inl rfl)) k)]
    simp only [unescape_escape ordinary]
  · rintro (empty | semicolon)
    · exact List.append_ne_nil_of_right_ne_nil _ (List.cons_ne_nil _ _) empty
    · exact not_mem_pairText (.inr rfl) k v (List.contains_iff_mem.mp semicolon)

section Fold
variable {es : List (Bytes × List Bytes)} {k : Bytes}

theorem add_fresh (absent : k ∉ es.map Prod.fst) (v : Bytes) :
    (⟨es⟩ : Query).add k v = ⟨es ++ [(k, [v])]⟩ := by
  rw [add, if_neg (by rw [any_key_iff]; exact absent)]

theorem add_last (absent : k ∉ es.map Prod.fst) (vs : List Bytes) (v : Bytes) :
    (⟨es ++ [(k, vs)]⟩ : Query).add k v = ⟨es ++ [(k, vs ++ [v])]⟩ := by
  rw [add, if_pos (by rw [any_key_iff]; simp)]
  -- only the last entry holds the key
  have others : es.map (fun e => if e.1 == k then (k, e.2 ++ [v]) else e) = es.map id := by
    apply List.map_congr_left
    intro e held
    have other : e.1 ≠ k := fun same => absent (List.mem_map.mpr ⟨e, held, same⟩)
    simp [other]
  rw [List.map_append, others, List.map_id]
  simp

theorem foldl_add_last (absent : k ∉ es.map Prod.fst) : ∀ vs ws : List Bytes,
    ws.foldl (fun (q : Query) v => q.add k v) ⟨es ++ [(k, vs)]⟩ = ⟨es ++ [(k, vs ++ ws)]⟩
  | vs, [] => by rw [List.foldl_nil, List.append_nil]
  | vs, w :: ws => by
    rw [List.foldl_cons, add_last absent, foldl_add_last absent (vs ++ [w]) ws, List.append_assoc]
    rfl

theorem foldl_add_values (absent : k ∉ es.map Prod.fst) {vs : List Bytes} (valued : vs ≠ []) :
    vs.foldl (fun (q : Query) v => q.add k v) ⟨es⟩ = ⟨es ++ [(k, vs)]⟩ := by
  obtain ⟨v, ws, rfl⟩ := List.exists_cons_of_ne_nil valued
  rw [List.foldl_cons, add_fresh absent, foldl_add_last absent]
  rfl

end Fold

theorem foldl_addPair_entryTexts : ∀ (acc es : List (Bytes × List Bytes)),
    ((acc ++ es).map Prod.fst).Nodup → (∀ e ∈ es, e.2 ≠ []) →
    ((es.flatMap entryTexts).map ofString).foldl addPair ⟨acc⟩ = ⟨acc ++ es⟩
  | acc, [], _, _ => by simp
  | acc, e :: es, distinct, valued => by
    have absent : e.1 ∉ acc.map Prod.fst := by
      rw [List.map_append, List.map_cons] at distinct
      exact fun held => (List.nodup_append.mp distinct).2.2 _ held _ List.mem_cons_self rfl
    have values : ((entryTexts e).map ofString).foldl addPair ⟨acc⟩ = ⟨acc ++ [e]⟩ := by
      rw [entryTexts, List.map_map, List.foldl_map]
      simp only [Function.comp_apply, addPair_pairText]
      exact foldl_add_values absent (valued e List.mem_cons_self)
    rw [List.flatMap_cons, List.map_append, List.foldl_append, values,
      foldl_addPair_entryTexts (acc ++ [e]) es (by simpa using distinct)
        (fun e' held => valued e' (List.mem_cons_of_mem _ held))]
    simp

theorem parse_intercalate_entryTexts {es : List (Bytes × List Bytes)} (distinct : (es.map Prod.fst).Nodup)
    (valued : ∀ e ∈ es, e.2 ≠ []) : parse ("&".intercalate (es.flatMap entryTexts)) = ⟨es⟩ := by
  have texts : ∀ t ∈ (es.flatMap entryTexts).map ofString, t ≠ [] ∧ ascii '&' ∉ t := by
    intro t held
    obtain ⟨s, inTexts, rfl⟩ := List.mem_map.mp held
    obtain ⟨e, -, inEntry⟩ := List.mem_flatMap.mp inTexts
    obtain ⟨v, -, rfl⟩ := List.mem_map.mp inEntry
    rw [ofString_pairText]
    exact ⟨List.append_ne_nil_of_right_ne_nil _ (List.cons_ne_nil _ _), not_mem_pairText (.inl rfl) _ _⟩
  rw [parse, ofString_intercalate, ofString_amp]
  cases written : (es.flatMap entryTexts).map ofString with
  | nil =>
    -- every entry has a value, so no text means no entries
    cases es with
    | nil => rfl
    | cons e _ =>
      have none := List.flatMap_eq_nil_iff.mp (List.map_eq_nil_iff.mp written) e List.mem_cons_self
      exact absurd (List.map_eq_nil_iff.mp none) (valued e List.mem_cons_self)
  | cons t ts =>
    have full := (texts t (by rw [written]; exact List.mem_cons_self)).1
    have joined : [ascii '&'].intercalate (t :: ts) ≠ [] := by
      cases ts with
      | nil => rwa [List.intercalate_singleton]
      | cons u us =>
        rw [List.intercalate_cons_cons]
        exact List.append_ne_nil_of_left_ne_nil (List.append_ne_nil_of_left_ne_nil full _) _
    rw [if_neg joined, pairs, ← written,
      List.splitOn_intercalate _ (fun t held => (texts t held).2) (by rw [written]; exact List.cons_ne_nil _ _),
      foldl_addPair_entryTexts [] es (by simpa using distinct) valued]
    rfl

theorem parse_encode {q : Query} (keyed : Keyed q) : parse (encode q) = ⟨q.entries.mergeSort keyLe⟩ := by
  have perm := List.mergeSort_perm q.entries keyLe
  rw [encode_eq]
  exact parse_intercalate_entryTexts ((perm.map Prod.fst).nodup_iff.mpr keyed.distinct)
    (fun e held => keyed.valued e (perm.subset held))

theorem keyLe_trans (a b c : Bytes × List Bytes) (ab : keyLe a b = true) (bc : keyLe b c = true) :
    keyLe a c = true := by
  simp only [keyLe, bytesLe, decide_eq_true_eq] at *
  exact List.le_trans ab bc

theorem keyLe_total (a b : Bytes × List Bytes) : (keyLe a b || keyLe b a) = true := by
  simp only [keyLe, bytesLe, Bool.or_eq_true, decide_eq_true_eq]
  exact List.le_total _ _

theorem encode_parse_encode {q : Query} (keyed : Keyed q) : encode (parse (encode q)) = encode q := by
  rw [parse_encode keyed, encode_eq, encode_eq,
    List.mergeSort_of_pairwise (List.pairwise_mergeSort keyLe_trans keyLe_total _)]

theorem mem_ofString_encode {q : Query} {b : UInt8} (held : b ∈ ofString (encode q)) :
    b = ascii '&' ∨ b = ascii '=' ∨ ∃ bs, b ∈ ofString (escape .queryComponent bs) := by
  rw [encode_eq, ofString_intercalate, ofString_amp] at held
  rcases mem_intercalate held with sep | ⟨t, member, inText⟩
  · exact .inl (List.mem_singleton.mp sep)
  · obtain ⟨s, inTexts, rfl⟩ := List.mem_map.mp member
    obtain ⟨e, -, inEntry⟩ := List.mem_flatMap.mp inTexts
    obtain ⟨v, -, rfl⟩ := List.mem_map.mp inEntry
    rw [ofString_pairText] at inText
    rcases List.mem_append.mp inText with inKey | inRest
    · exact .inr (.inr ⟨_, inKey⟩)
    · rcases List.mem_cons.mp inRest with equals | inValue
      · exact .inr (.inl equals)
      · exact .inr (.inr ⟨_, inValue⟩)

theorem not_mem_ofString_encode {x : UInt8} (must : Part.queryComponent.mustEscape x = true)
    (plain : x ≠ ascii '%' ∧ x ≠ ascii '+' ∧ hexValue? x = none)
    (apart : x ≠ ascii '&' ∧ x ≠ ascii '=') (q : Query) : x ∉ ofString (encode q) := by
  intro held
  rcases mem_ofString_encode held with amp | equals | ⟨bs, inner⟩
  · exact apart.1 amp
  · exact apart.2 equals
  · exact not_mem_ofString_escape must plain bs inner

theorem printable_of_mem_ofString_encode {q : Query} {b : UInt8} (held : b ∈ ofString (encode q)) :
    b < 0x80 ∧ ¬ (b < 0x20 ∨ b = 0x7F) := by
  rcases mem_ofString_encode held with rfl | rfl | ⟨bs, inner⟩
  · decide
  · decide
  · exact printable_of_mem_ofString_escape inner

theorem mem_toList_encode {q : Query} {c : Char} (held : c ∈ (encode q).toList) :
    c = '&' ∨ c = '=' ∨ ∃ bs, c ∈ (escape .queryComponent bs).toList := by
  rw [encode_eq, String.toList_intercalate] at held
  rcases mem_intercalate held with sep | ⟨t, member, inText⟩
  · exact .inl (List.mem_singleton.mp sep)
  · obtain ⟨s, inTexts, rfl⟩ := List.mem_map.mp member
    obtain ⟨e, -, inEntry⟩ := List.mem_flatMap.mp inTexts
    obtain ⟨v, -, rfl⟩ := List.mem_map.mp inEntry
    simp only [pairText, String.toList_append, List.mem_append] at inText
    rcases inText with (inKey | equals) | inValue
    · exact .inr (.inr ⟨_, inKey⟩)
    · exact .inr (.inl (by simpa using equals))
    · exact .inr (.inr ⟨_, inValue⟩)

example : encode (parse "b=2&a=x%20y&b=1&;c") = "a=x+y&b=2&b=1" := by cbv

end HeaderAudit.Query
