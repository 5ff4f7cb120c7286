import Mathlib
import HeaderAudit.Address.Escape
/-!
Percent-encoding reads back: decoding what a part's encoding wrote gives the bytes back, for every
part save the host and the zone; texts read back from their UTF-8 bytes.
-/
namespace HeaderAudit

namespace Bytes

section Text

theorem toList_loop (bs : ByteArray) (i : Nat) (r : List UInt8) :
    ByteArray.toList.loop bs i r = r.reverse ++ bs.data.toList.drop i := by
  fun_induction ByteArray.toList.loop bs i r with
  | case1 i r below ih =>
    have inside : i < bs.data.toList.length := by simpa using below
    rw [ih, List.reverse_cons, List.append_assoc, List.drop_eq_getElem_cons (i := i) inside]
    simp [ByteArray.get!, below]
  | case2 i r above =>
    have ended : bs.data.toList.length ≤ i := by simpa using Nat.le_of_not_lt above
    rw [List.drop_eq_nil_of_le ended, List.append_nil]

theorem ofString_eq_flatMap (s : String) : ofString s = s.toList.flatMap String.utf8EncodeChar := by
  have encoded : s.toByteArray = s.toList.utf8Encode := by
    rw [← String.toByteArray_ofList, String.ofList_toList]
  rw [ofString, String.toUTF8_eq_toByteArray, ByteArray.toList, toList_loop, encoded, List.utf8Encode]
  simp

theorem ofString_append (s t : String) : ofString (s ++ t) = ofString s ++ ofString t := by
  rw [ofString_eq_flatMap, ofString_eq_flatMap, ofString_eq_flatMap, String.toList_append,
    List.flatMap_append]

-- the short texts that reading an address cuts at, byte for byte

theorem ofString_empty : ofString "" = [] := by
  rw [ofString_eq_flatMap]
  rfl

theorem ofString_colon : ofString ":" = [ascii ':'] := by
  rw [ofString_eq_flatMap]
  rfl

theorem ofString_slashes : ofString "//" = [ascii '/', ascii '/'] := by
  rw [ofString_eq_flatMap]
  rfl

theorem ofString_mark : ofString "?" = [ascii '?'] := by
  rw [ofString_eq_flatMap]
  rfl

theorem ofString_amp : ofString "&" = [ascii '&'] := by
  rw [ofString_eq_flatMap]
  rfl

theorem ofString_equals : ofString "=" = [ascii '='] := by
  rw [ofString_eq_flatMap]
  rfl

theorem ofString_star : ofString "*" = [ascii '*'] := by
  rw [ofString_eq_flatMap]
  rfl

theorem ofString_dot : ofString "." = [ascii '.'] := by
  rw [ofString_eq_flatMap]
  rfl

theorem ofString_dotDot : ofString ".." = [ascii '.', ascii '.'] := by
  rw [ofString_eq_flatMap]
  rfl

theorem utf8EncodeChar_of_lt {c : Char} (small : c.toNat < 0x80) :
    String.utf8EncodeChar c = [ascii c] := by
  rw [String.utf8EncodeChar, if_pos (by simpa using Nat.le_of_lt_succ small)]
  rfl

theorem toNat_ascii {c : Char} (small : c.toNat < 0x80) : (ascii c).toNat = c.toNat := by
  simp [ascii]
  omega

theorem toNat_charOfNat {n : Nat} (small : n < 0x80) : (Char.ofNat n).toNat = n := by
  simp only [Char.ofNat, Char.ofNatAux, Nat.isValidChar]
  rw [dif_pos (Or.inl (by omega))]
  rfl

theorem charOfNat_ascii {c : Char} (small : c.toNat < 0x80) : Char.ofNat (ascii c).toNat = c := by
  rw [toNat_ascii small, Char.ofNat_toNat]

theorem ascii_charOfNat {b : UInt8} (small : b < 0x80) : ascii (Char.ofNat b.toNat) = b := by
  have below : b.toNat < 0x80 := small
  rw [ascii, toNat_charOfNat below]
  simp

theorem ofString_ofList {cs : List Char} (small : ∀ c ∈ cs, c.toNat < 0x80) :
    ofString (String.ofList cs) = cs.map ascii := by
  rw [ofString_eq_flatMap, String.toList_ofList]
  induction cs with
  | nil => rfl
  | cons c cs ih =>
    rw [List.flatMap_cons, utf8EncodeChar_of_lt (small c (by simp)),
      ih (fun d held => small d (by simp [held]))]
    rfl

theorem decode_cons_of_lead {b : UInt8} {rest : Bytes} {x : Char ⊕ UInt8} {k : Nat}
    (lead : decodeLead b rest = (x, k)) : decode (b :: rest) = x :: decode (rest.drop k) := by
  rw [decode, lead]

theorem toNat_byte {n : Nat} (small : n < 256) : (UInt8.ofNat n).toNat = n := by
  simp [Nat.mod_eq_of_lt small]

-- The UTF-8 sequence of each width leads with a byte that no shorter width takes, and its
-- continuation bytes meet the bounds the decoder checks: a three-byte sequence never encodes a
-- surrogate, and a four-byte one stays below U+110000.
section Widths

variable {c : Char} (rest : Bytes)

theorem decodeLead_width_one (one : c.toNat ≤ 0x7f) :
    decodeLead (UInt8.ofNat c.toNat) rest = (.inl c, 0) := by
  have b0 := toNat_byte (n := c.toNat) (by omega)
  rw [decodeLead, if_pos (by simp [UInt8.lt_iff_toNat_lt]; omega), b0, Char.ofNat_toNat]

theorem decodeLead_width_two (one : ¬ c.toNat ≤ 0x7f) (two : c.toNat ≤ 0x7ff) :
    decodeLead (UInt8.ofNat (c.toNat / 64 % 0x20 + 0xc0))
      (UInt8.ofNat (c.toNat % 0x40 + 0x80) :: rest) = (.inl c, 1) := by
  have b0 := toNat_byte (n := c.toNat / 64 % 0x20 + 0xc0) (by omega)
  have b1 := toNat_byte (n := c.toNat % 0x40 + 0x80) (by omega)
  have lead : ¬ (UInt8.ofNat (c.toNat / 64 % 0x20 + 0xc0) < 0x80) := by
    simp [UInt8.lt_iff_toNat_lt]
    omega
  rw [decodeLead, if_neg lead, if_pos]
  · have value : seqValue (c.toNat / 64 % 0x20 + 0xc0 - 0xC0) [UInt8.ofNat (c.toNat % 0x40 + 0x80)] =
        c.toNat := by
      simp only [seqValue, List.foldl, b1]
      omega
    simp only [List.take, b0, value, Char.ofNat_toNat]
  · simp [inRange, completes, UInt8.le_iff_toNat_le]
    omega

theorem decodeLead_width_three (two : ¬ c.toNat ≤ 0x7ff) (three : c.toNat ≤ 0xffff) :
    decodeLead (UInt8.ofNat (c.toNat / 4096 % 0x10 + 0xe0))
      (UInt8.ofNat (c.toNat / 64 % 0x40 + 0x80) :: UInt8.ofNat (c.toNat % 0x40 + 0x80) :: rest) =
        (.inl c, 2) := by
  have valid : c.toNat < 0xD800 ∨ (0xDFFF < c.toNat ∧ c.toNat < 0x110000) := c.valid
  have b0 := toNat_byte (n := c.toNat / 4096 % 0x10 + 0xe0) (by omega)
  have b1 := toNat_byte (n := c.toNat / 64 % 0x40 + 0x80) (by omega)
  have b2 := toNat_byte (n := c.toNat % 0x40 + 0x80) (by omega)
  have lead : ¬ (UInt8.ofNat (c.toNat / 4096 % 0x10 + 0xe0) < 0x80) := by
    simp [UInt8.lt_iff_toNat_lt]
    omega
  have notTwo : inRange (UInt8.ofNat (c.toNat / 4096 % 0x10 + 0xe0)) 0xC2 0xDF = false := by
    simp [inRange, UInt8.le_iff_toNat_le]
    omega
  rw [decodeLead, if_neg lead, if_neg (by simp only [notTwo, Bool.false_eq_true, false_and,
    not_false_eq_true]), if_pos]
  · have value : seqValue (c.toNat / 4096 % 0x10 + 0xe0 - 0xE0)
        [UInt8.ofNat (c.toNat / 64 % 0x40 + 0x80), UInt8.ofNat (c.toNat % 0x40 + 0x80)] = c.toNat := by
      simp only [seqValue, List.foldl, b1, b2]
      omega
    simp only [List.take, b0, value, Char.ofNat_toNat]
  · -- the bounds after E0 and ED are the ones that rule out overlong forms and surrogates
    simp [inRange, completes, isCont, UInt8.le_iff_toNat_le, ← UInt8.toNat_inj]
    split_ifs <;> simp <;> omega

theorem decodeLead_width_four (three : ¬ c.toNat ≤ 0xffff) :
    decodeLead (UInt8.ofNat (c.toNat / 262144 % 0x08 + 0xf0))
      (UInt8.ofNat (c.toNat / 4096 % 0x40 + 0x80) :: UInt8.ofNat (c.toNat / 64 % 0x40 + 0x80) ::
        UInt8.ofNat (c.toNat % 0x40 + 0x80) :: rest) = (.inl c, 3) := by
  have valid : c.toNat < 0xD800 ∨ (0xDFFF < c.toNat ∧ c.toNat < 0x110000) := c.valid
  have b0 := toNat_byte (n := c.toNat / 262144 % 0x08 + 0xf0) (by omega)
  have b1 := toNat_byte (n := c.toNat / 4096 % 0x40 + 0x80) (by omega)
  have b2 := toNat_byte (n := c.toNat / 64 % 0x40 + 0x80) (by omega)
  have b3 := toNat_byte (n := c.toNat % 0x40 + 0x80) (by omega)
  have lead : ¬ (UInt8.ofNat (c.toNat / 262144 % 0x08 + 0xf0) < 0x80) := by
    simp [UInt8.lt_iff_toNat_lt]
    omega
  have notTwo : inRange (UInt8.ofNat (c.toNat / 262144 % 0x08 + 0xf0)) 0xC2 0xDF = false := by
    simp [inRange, UInt8.le_iff_toNat_le]
    omega
  have notThree : inRange (UInt8.ofNat (c.toNat / 262144 % 0x08 + 0xf0)) 0xE0 0xEF = false := by
    simp [inRange, UInt8.le_iff_toNat_le]
    omega
  rw [decodeLead, if_neg lead, if_neg (by simp only [notTwo, Bool.false_eq_true, false_and,
    not_false_eq_true]), if_neg (by simp only [notThree, Bool.false_eq_true, false_and,
    not_false_eq_true]), if_pos]
  · have value : seqValue (c.toNat / 262144 % 0x08 + 0xf0 - 0xF0)
        [UInt8.ofNat (c.toNat / 4096 % 0x40 + 0x80), UInt8.ofNat (c.toNat / 64 % 0x40 + 0x80),
          UInt8.ofNat (c.toNat % 0x40 + 0x80)] = c.toNat := by
      simp only [seqValue, List.foldl, b1, b2, b3]
      omega
    simp only [List.take, b0, value, Char.ofNat_toNat]
  · -- the bounds after F0 and F4 rule out overlong forms and code points past U+10FFFF
    simp [inRange, completes, isCont, UInt8.le_iff_toNat_le, ← UInt8.toNat_inj]
    split_ifs <;> simp <;> omega

end Widths

theorem decode_utf8EncodeChar (c : Char) (rest : Bytes) :
    decode (String.utf8EncodeChar c ++ rest) = .inl c :: decode rest := by
  have same : c.val.toNat = c.toNat := rfl
  unfold String.utf8EncodeChar
  simp only [same]
  split_ifs with one two three
  · rw [List.cons_append, List.nil_append, decode_cons_of_lead (decodeLead_width_one rest one)]
    rfl
  · simp only [List.cons_append, List.nil_append]
    rw [decode_cons_of_lead (decodeLead_width_two rest one two)]
    rfl
  · simp only [List.cons_append, List.nil_append]
    rw [decode_cons_of_lead (decodeLead_width_three rest two three)]
    rfl
  · simp only [List.cons_append, List.nil_append]
    rw [decode_cons_of_lead (decodeLead_width_four rest three)]
    rfl

theorem decode_flatMap_utf8EncodeChar (cs : List Char) :
    decode (cs.flatMap String.utf8EncodeChar) = cs.map .inl := by
  induction cs with
  | nil => rw [List.flatMap_nil, decode]; rfl
  | cons c cs ih => rw [List.flatMap_cons, decode_utf8EncodeChar, ih, List.map_cons]

theorem toStringLossy_ofString (s : String) : toStringLossy (ofString s) = s := by
  rw [toStringLossy, ofString_eq_flatMap, decode_flatMap_utf8EncodeChar, List.map_map]
  simp [Function.comp_def]

theorem ofString_injective : Function.Injective ofString := fun s t same => by
  rw [← toStringLossy_ofString s, same, toStringLossy_ofString]

theorem toStringLossy_ofString_append (s : String) (rest : Bytes) :
    toStringLossy (ofString s ++ rest) = s ++ toStringLossy rest := by
  have decoded : decode (ofString s ++ rest) = s.toList.map .inl ++ decode rest := by
    rw [ofString_eq_flatMap]
    induction s.toList with
    | nil => rfl
    | cons c cs ih =>
      rw [List.flatMap_cons, List.append_assoc, decode_utf8EncodeChar, ih, List.map_cons,
        List.cons_append]
  apply String.toList_inj.mp
  simp [toStringLossy, decoded, Function.comp_def]

theorem ofString_join (ss : List String) : ofString (String.join ss) = ss.flatMap ofString := by
  induction ss with
  | nil => exact ofString_empty
  | cons s ss ih => rw [String.join_cons, ofString_append, ih, List.flatMap_cons]

theorem mem_utf8EncodeChar_of_lt {c : Char} {b : UInt8} (held : b ∈ String.utf8EncodeChar c)
    (small : b < 0x80) : Char.ofNat b.toNat = c := by
  have below : b.toNat < 0x80 := small
  have same : c.val.toNat = c.toNat := rfl
  unfold String.utf8EncodeChar at held
  simp only [same] at held
  split_ifs at held with one <;> simp only [List.mem_cons, List.not_mem_nil, or_false] at held
  · subst held
    rw [UInt8.toNat_ofNat', Nat.mod_eq_of_lt (by omega), Char.ofNat_toNat]
  all_goals
    rcases held with rfl | rfl | rfl | rfl <;>
    simp only [UInt8.toNat_ofNat'] at below <;> omega

theorem ascii_not_mem_ofString {c : Char} (small : c.toNat < 0x80) {s : String}
    (absent : c ∉ s.toList) : ascii c ∉ ofString s := fun held => by
  rw [ofString_eq_flatMap] at held
  obtain ⟨d, member, encoded⟩ := List.mem_flatMap.mp held
  have byte : ascii c < 0x80 := by
    show (ascii c).toNat < 0x80
    rw [toNat_ascii small]
    exact small
  have same := mem_utf8EncodeChar_of_lt encoded byte
  rw [charOfNat_ascii small] at same
  exact absent (same ▸ member)

end Text

section Escape

theorem hexPadded_two {n : Nat} (below : n < 256) :
    Text.hexPadded true 2 n = [Text.hexDigit true (n / 16), Text.hexDigit true (n % 16)] := by
  unfold Text.hexPadded
  by_cases small : n < 16
  · rw [Text.hexDigits, if_pos small, Nat.div_eq_of_lt small, Nat.mod_eq_of_lt small]
    rfl
  · rw [Text.hexDigits, if_neg small, Text.hexDigits, if_pos (by omega)]
    rfl

theorem hexValue?_hexDigit : ∀ d < 16, hexValue? (ascii (Text.hexDigit true d)) = some d := by
  decide

theorem hexDigit_lt : ∀ d < 16, (Text.hexDigit true d).toNat < 0x80 := by
  decide

def escapeChars (p : Part) (c : UInt8) : List Char :=
  if p.mustEscape c then (if c = ascii ' ' ∧ p = .queryComponent then ['+'] else percent c)
  else [Char.ofNat c.toNat]

theorem escape_eq (p : Part) (bs : Bytes) :
    escape p bs = String.ofList (bs.flatMap (escapeChars p)) := rfl

theorem lt_of_mustEscape_false {p : Part} {c : UInt8} (kept : p.mustEscape c = false) : c < 0x80 := by
  by_cases small : c < 0x80
  · exact small
  · simp [Part.mustEscape, small] at kept

theorem mustEscape_percent (p : Part) : p.mustEscape (ascii '%') = true := by
  cases p <;> decide

theorem printable_of_mustEscape_false {p : Part} {c : UInt8} (kept : p.mustEscape c = false) :
    ¬ (c < 0x20 ∨ c = 0x7F) := by
  have table : ∀ n < 0x80, p.mustEscape n.toUInt8 = false → 0x20 ≤ n ∧ n ≠ 0x7F := by
    cases p <;> decide
  have small : c.toNat < 0x80 := lt_of_mustEscape_false kept
  have bounds := table c.toNat small (by simpa using kept)
  intro control
  rcases control with low | del
  · have : c.toNat < 0x20 := low
    omega
  · rw [del] at bounds
    exact bounds.2 rfl

theorem escapeChars_lt (p : Part) (c : UInt8) : ∀ ch ∈ escapeChars p c, ch.toNat < 0x80 := by
  intro ch held
  have byte : c.toNat < 256 := c.toNat_lt
  unfold escapeChars at held
  split at held
  · split at held
    · rw [List.mem_singleton.mp held]
      decide
    · rw [percent, hexPadded_two byte] at held
      simp only [List.mem_cons, List.not_mem_nil, or_false] at held
      rcases held with rfl | rfl | rfl
      · decide
      · exact hexDigit_lt _ (by omega)
      · exact hexDigit_lt _ (by omega)
  · rename_i kept
    have below : c.toNat < 0x80 := lt_of_mustEscape_false (Bool.eq_false_iff.mpr kept)
    rw [List.mem_singleton.mp held, toNat_charOfNat below]
    exact below

theorem ofString_escape (p : Part) (bs : Bytes) :
    ofString (escape p bs) = bs.flatMap fun c => (escapeChars p c).map ascii := by
  rw [escape_eq, ofString_ofList, List.map_flatMap]
  intro ch held
  obtain ⟨c, -, inner⟩ := List.mem_flatMap.mp held
  exact escapeChars_lt p c ch inner

theorem unescape_escapeChars {p : Part} (ordinary : p ≠ .host ∧ p ≠ .zone) (c : UInt8) (more : Bytes) :
    unescape p ((escapeChars p c).map ascii ++ more) = (unescape p more).map (c :: ·) := by
  have byte : c.toNat < 256 := c.toNat_lt
  unfold escapeChars
  split
  · split
    · -- a space in a query component is written `+`, which reads as a space there
      rename_i space
      obtain ⟨rfl, rfl⟩ := space
      simp only [List.map_cons, List.map_nil, List.cons_append, List.nil_append]
      rw [unescape.eq_def]
      simp only
      rw [if_pos trivial, if_pos trivial, if_neg (by decide)]
    · rw [percent, hexPadded_two byte]
      simp only [List.map_cons, List.map_nil, List.cons_append, List.nil_append]
      rw [unescape.eq_def]
      simp only
      rw [if_pos trivial]
      simp only [hexValue?_hexDigit _ (show c.toNat / 16 < 16 by omega),
        hexValue?_hexDigit _ (show c.toNat % 16 < 16 by omega)]
      rw [if_neg (fun h => ordinary.1 h.1), if_neg (fun h => ordinary.2 h.1),
        show c.toNat / 16 * 16 + c.toNat % 16 = c.toNat by omega]
      simp
  · rename_i kept
    replace kept := Bool.eq_false_iff.mpr kept
    have notPercent : c ≠ ascii '%' := fun same => by
      rw [same, mustEscape_percent] at kept
      cases kept
    simp only [List.map_cons, List.map_nil, List.cons_append, List.nil_append,
      ascii_charOfNat (lt_of_mustEscape_false kept)]
    rw [unescape.eq_def]
    simp only
    rw [if_neg notPercent]
    split
    · -- a `+` stands for itself outside query components, where it is escaped
      rename_i plus
      have notQuery : p ≠ .queryComponent := fun same => by
        rw [plus, same] at kept
        cases kept
      rw [if_neg notQuery]
    · rw [if_neg (fun h => h.1.elim ordinary.1 ordinary.2)]

theorem unescape_escape {p : Part} (ordinary : p ≠ .host ∧ p ≠ .zone) (bs : Bytes) :
    unescape p (ofString (escape p bs)) = .ok bs := by
  rw [ofString_escape]
  induction bs with
  | nil => rfl
  | cons c bs ih =>
    rw [List.flatMap_cons, unescape_escapeChars ordinary, ih]
    rfl

theorem mem_ofString_escape {p : Part} {bs : Bytes} {b : UInt8} (held : b ∈ ofString (escape p bs)) :
    b = ascii '%' ∨ b = ascii '+' ∨ (hexValue? b).isSome ∨ p.mustEscape b = false := by
  rw [ofString_escape] at held
  obtain ⟨c, -, inner⟩ := List.mem_flatMap.mp held
  obtain ⟨ch, written, rfl⟩ := List.mem_map.mp inner
  have byte : c.toNat < 256 := c.toNat_lt
  unfold escapeChars at written
  split at written
  · split at written
    · rw [List.mem_singleton.mp written]
      exact .inr (.inl rfl)
    · rw [percent, hexPadded_two byte] at written
      simp only [List.mem_cons, List.not_mem_nil, or_false] at written
      rcases written with rfl | rfl | rfl
      · exact .inl rfl
      · exact .inr (.inr (.inl (by rw [hexValue?_hexDigit _ (by omega)]; rfl)))
      · exact .inr (.inr (.inl (by rw [hexValue?_hexDigit _ (by omega)]; rfl)))
  · rename_i kept
    replace kept := Bool.eq_false_iff.mpr kept
    rw [List.mem_singleton.mp written, ascii_charOfNat (lt_of_mustEscape_false kept)]
    exact .inr (.inr (.inr kept))

theorem not_mem_ofString_escape {p : Part} {x : UInt8} (must : p.mustEscape x = true)
    (plain : x ≠ ascii '%' ∧ x ≠ ascii '+' ∧ hexValue? x = none) (bs : Bytes) :
    x ∉ ofString (escape p bs) := by
  intro held
  rcases mem_ofString_escape held with same | same | hex | kept
  · exact plain.1 same
  · exact plain.2.1 same
  · rw [plain.2.2] at hex
    cases hex
  · rw [must] at kept
    cases kept

theorem printable_of_mem_ofString_escape {p : Part} {bs : Bytes} {b : UInt8}
    (held : b ∈ ofString (escape p bs)) : b < 0x80 ∧ ¬ (b < 0x20 ∨ b = 0x7F) := by
  have hexTable : ∀ n < 256, (hexValue? n.toUInt8).isSome → 0x30 ≤ n ∧ n < 0x7B := by
    decide +kernel
  rcases mem_ofString_escape held with rfl | rfl | hex | kept
  · decide
  · decide
  · have bounds := hexTable b.toNat b.toNat_lt (by simpa using hex)
    refine ⟨show b.toNat < 0x80 by omega, ?_⟩
    intro control
    rcases control with low | del
    · have : b.toNat < 0x20 := low
      omega
    · rw [del] at bounds
      simp at bounds
  · exact ⟨lt_of_mustEscape_false kept, printable_of_mustEscape_false kept⟩

theorem ofString_escape_of_kept {p : Part} {bs : Bytes} (kept : ∀ c ∈ bs, p.mustEscape c = false) :
    ofString (escape p bs) = bs := by
  rw [ofString_escape]
  induction bs with
  | nil => rfl
  | cons c bs ih =>
    have first := kept c (by simp)
    rw [List.flatMap_cons, ih (fun d held => kept d (by simp [held])), escapeChars, if_neg (by simp [first])]
    simp [ascii_charOfNat (lt_of_mustEscape_false first)]

theorem unescape_of_kept {p : Part} {bs : Bytes}
    (kept : ∀ c ∈ bs, c ≠ ascii '%' ∧ c ≠ ascii '+' ∧ p.mustEscape c = false) :
    unescape p bs = .ok bs := by
  induction bs with
  | nil => rfl
  | cons c bs ih =>
    obtain ⟨notPercent, notPlus, first⟩ := kept c (by simp)
    rw [unescape.eq_def]
    simp only
    rw [if_neg notPercent, if_neg notPlus, if_neg (by simp [first]),
      ih (fun d held => kept d (by simp [held]))]
    rfl

end Escape

end Bytes

end HeaderAudit
