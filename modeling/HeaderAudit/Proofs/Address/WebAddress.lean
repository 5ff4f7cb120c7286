import HeaderAudit.Proofs.Address.Canonical
import HeaderAudit.Proofs.Text.Trim
import HeaderAudit.Proofs.Text.Fold
/-!
Web addresses spelled out as `https://`, a host name and a path read back as that name and path.
-/
namespace HeaderAudit.Address
open Bytes

/-- The code points other than letters and digits that a path may hold unescaped: the unreserved
marks, the sub-delimiters, `:`, `@` and `/`. -/
def pathMarks : List Char :=
  ['-', '.', '_', '~', '!', '$', '&', '\'', '(', ')', '*', '+', ',', ';', '=', ':', '@', '/']

def pathChar (c : Char) : Bool := c.isAlphanum || c ∈ pathMarks

/-- A path as an address may spell it without escapes: rooted, of path code points. -/
structure WebPath (path : String) : Prop where
  rooted : path.toList.head? = some '/'
  chars : ∀ c ∈ path.toList, pathChar c = true

instance (path : String) : Decidable (WebPath path) :=
  have : Decidable (∀ c ∈ path.toList, pathChar c = true) := List.decidableBAll _ _
  decidable_of_iff (path.toList.head? = some '/' ∧ ∀ c ∈ path.toList, pathChar c = true)
    ⟨fun ⟨rooted, chars⟩ => ⟨rooted, chars⟩, fun path => ⟨path.rooted, path.chars⟩⟩

section Chars

theorem lt_of_pathChar {c : Char} (plain : pathChar c = true) : c.toNat < 0x80 := by
  simp only [pathChar, Bool.or_eq_true] at plain
  rcases plain with alnum | listed
  · exact lt_of_isAlphanum alnum
  · have small : pathMarks.all (·.toNat < 0x80) = true := by decide
    exact of_decide_eq_true (List.all_eq_true.mp small c (by simpa using listed))

theorem pathChar_of_nameChar {c : Char} (named : nameChar c = true) : pathChar c = true := by
  simp only [nameChar, Bool.or_eq_true, beq_iff_eq] at named
  rcases named with (alnum | rfl) | rfl
  · simp [pathChar, alnum]
  all_goals decide

theorem nameChar_table : ∀ n < 0x80, nameChar (Char.ofNat n) = true →
    Part.host.mustEscape n.toUInt8 = false ∧ ¬ (n.toUInt8 < 0x20 ∨ n.toUInt8 = 0x7F) ∧
      n.toUInt8 ∉ [ascii '%', ascii '+', ascii '/', ascii '?', ascii '#', ascii '@', ascii '[', ascii ':'] := by
  decide

theorem pathChar_table : ∀ n < 0x80, pathChar (Char.ofNat n) = true →
    ¬ (n.toUInt8 < 0x20 ∨ n.toUInt8 = 0x7F) ∧ n.toUInt8 ∉ [ascii '%', ascii '?', ascii '#'] ∧
      Text.isBlank (Char.ofNat n) = false := by
  decide

theorem nameChar_byte {c : Char} (named : nameChar c = true) :
    Part.host.mustEscape (ascii c) = false ∧ ¬ (ascii c < 0x20 ∨ ascii c = 0x7F) ∧
      ascii c ∉ [ascii '%', ascii '+', ascii '/', ascii '?', ascii '#', ascii '@', ascii '[', ascii ':'] := by
  exact nameChar_table c.toNat (lt_of_nameChar named) (by rwa [Char.ofNat_toNat])

theorem pathChar_byte {c : Char} (plain : pathChar c = true) :
    ¬ (ascii c < 0x20 ∨ ascii c = 0x7F) ∧ ascii c ∉ [ascii '%', ascii '?', ascii '#'] ∧
      Text.isBlank c = false := by
  have entry := pathChar_table c.toNat (lt_of_pathChar plain) (by rwa [Char.ofNat_toNat])
  rwa [Char.ofNat_toNat] at entry

end Chars

section Bytes

theorem HostName.toNat_lt {name : String} (named : HostName name) : ∀ c ∈ name.toList, c.toNat < 0x80 :=
  fun c held => lt_of_nameChar (named.chars c held)

theorem HostName.byte {name : String} (named : HostName name) {b : UInt8} (held : b ∈ ofString name) :
    Part.host.mustEscape b = false ∧ ¬ (b < 0x20 ∨ b = 0x7F) ∧
      b ∉ [ascii '%', ascii '+', ascii '/', ascii '?', ascii '#', ascii '@', ascii '[', ascii ':'] := by
  rw [ofString_of_ascii named.toNat_lt] at held
  obtain ⟨c, inText, rfl⟩ := List.mem_map.mp held
  exact nameChar_byte (named.chars c inText)

theorem WebPath.byte {path : String} (plain : WebPath path) {b : UInt8} (held : b ∈ ofString path) :
    ¬ (b < 0x20 ∨ b = 0x7F) ∧ b ∉ [ascii '%', ascii '?', ascii '#'] := by
  rw [ofString_of_ascii fun c inText => lt_of_pathChar (plain.chars c inText)] at held
  obtain ⟨c, inText, rfl⟩ := List.mem_map.mp held
  obtain ⟨printable, others, -⟩ := pathChar_byte (plain.chars c inText)
  exact ⟨printable, others⟩

theorem WebPath.head?_ofString {path : String} (plain : WebPath path) :
    (ofString path).head? = some (ascii '/') := by
  rw [ofString_of_ascii fun c inText => lt_of_pathChar (plain.chars c inText), List.head?_map, plain.rooted]
  rfl

theorem ofString_prefix_iff (a b : String) : ofString a <+: ofString b ↔ a.toList <+: b.toList := by
  constructor
  · rintro ⟨rest, joined⟩
    apply List.isPrefix_of_utf8Encode_append_eq_utf8Encode rest.toByteArray
    rw [List.utf8Encode, List.utf8Encode, ← List.toByteArray_append, ← ofString_eq_flatMap,
      ← ofString_eq_flatMap, joined]
  · rintro ⟨rest, joined⟩
    refine ⟨rest.flatMap String.utf8EncodeChar, ?_⟩
    rw [ofString_eq_flatMap, ofString_eq_flatMap, ← joined, List.flatMap_append]

theorem ofString_inj {a b : String} : ofString a = ofString b ↔ a = b := by
  constructor
  · intro same
    have first := (ofString_prefix_iff a b).mp (same ▸ List.prefix_refl _)
    have second := (ofString_prefix_iff b a).mp (same ▸ List.prefix_refl _)
    exact String.toList_inj.mp (first.eq_of_length (Nat.le_antisymm first.length_le second.length_le))
  · rintro rfl
    rfl

theorem ofString_https (rest : String) :
    ofString ("https://" ++ rest) = ofString "https" ++ ascii ':' :: ascii '/' :: ascii '/' :: ofString rest := by
  rw [ofString_append, show ofString "https://" = ofString "https" ++ [ascii ':', ascii '/', ascii '/'] by
    rw [ofString_eq_flatMap, ofString_eq_flatMap]; rfl]
  simp

end Bytes

section Reading

theorem unescape_of_percentless {p : Part} (ordinary : p ≠ .host ∧ p ≠ .zone ∧ p ≠ .queryComponent) {bs : Bytes}
    (plain : ascii '%' ∉ bs) : unescape p bs = .ok bs := by
  induction bs with
  | nil => rfl
  | cons c bs ih =>
    have notPercent : c ≠ ascii '%' := fun same => plain (same ▸ List.mem_cons_self)
    rw [unescape.eq_def]
    simp only
    rw [if_neg notPercent, ih (fun held => plain (List.mem_cons_of_mem _ held))]
    split
    · rw [if_neg ordinary.2.2]
      rfl
    · rw [if_neg (by simp [ordinary.1, ordinary.2.1])]
      rfl

theorem withPath_of_decoded (u : Address) {P : Bytes} (decoded : unescape .path P = .ok P) :
    withPath u P =
      .ok { u with path := P, rawPath := if escape .path P = toStringLossy P then "" else toStringLossy P } := by
  rw [withPath, decoded]
  rfl

theorem splitHostPort_hostName {name : String} (named : HostName name) :
    splitHostPort (ofString name) = (ofString name, []) := by
  have colonless : ascii ':' ∉ ofString name := fun held => (named.byte held).2.2 (by simp)
  simp only [splitHostPort, lastIndexOf?_of_not_mem colonless]
  rw [if_neg (fun bracketed => (named.byte (List.mem_of_head? bracketed.1)).2.2 (by simp))]

theorem parseAuthority_hostName {name : String} (named : HostName name) :
    parseAuthority (ofString name) = .ok (none, ofString name) := by
  have absent : ∀ x ∈ [ascii '%', ascii '+', ascii '/', ascii '?', ascii '#', ascii '@', ascii '[', ascii ':'],
      x ∉ ofString name :=
    fun x listed held => (named.byte held).2.2 listed
  have decoded : unescape .host (ofString name) = .ok (ofString name) :=
    unescape_of_kept fun b held =>
      ⟨fun same => absent b (by simp [same]) held, fun same => absent b (by simp [same]) held, (named.byte held).1⟩
  rw [parseAuthority, lastIndexOf?_of_not_mem (absent _ (by simp))]
  simp only [parseHost, lastIndexOf?_of_not_mem (absent (ascii ':') (by simp)),
    if_neg (fun bracketed => absent (ascii '[') (by simp) (List.mem_of_head? bracketed)), decoded]
  rfl

theorem afterScheme_byte {h p : String} (named : HostName h) (path : WebPath p) :
    ∀ b ∈ ascii '/' :: ascii '/' :: (ofString h ++ ofString p),
      ¬ (b < 0x20 ∨ b = 0x7F) ∧ b ≠ ascii '?' ∧ b ≠ ascii '#' := by
  intro b held
  simp only [List.mem_cons, List.mem_append] at held
  rcases held with rfl | rfl | inHost | inPath
  · decide
  · decide
  · obtain ⟨-, printable, others⟩ := named.byte inHost
    exact ⟨printable, fun same => others (by simp [same]), fun same => others (by simp [same])⟩
  · obtain ⟨printable, others⟩ := path.byte inPath
    exact ⟨printable, fun same => others (by simp [same]), fun same => others (by simp [same])⟩

theorem parseBody_web {h p : String} (named : HostName h) (path : WebPath p) :
    ∃ u, parseBody (ofString "https" ++ ascii ':' :: ascii '/' :: ascii '/' :: (ofString h ++ ofString p)) = .ok u ∧
      u.hostname = ofString h ∧ u.path = ofString p := by
  have rest := afterScheme_byte named path
  have clean : hasControl (ofString "https" ++ ascii ':' :: ascii '/' :: ascii '/' :: (ofString h ++ ofString p)) = false := by
    rw [hasControl, List.any_append, List.any_cons]
    simp only [Bool.or_eq_false_iff]
    exact ⟨by rw [ofString_eq_flatMap]; decide, by decide, List.any_eq_false.mpr fun b held => by simpa using (rest b held).1⟩
  have notStar : ofString "https" ++ ascii ':' :: ascii '/' :: ascii '/' :: (ofString h ++ ofString p) ≠ ofString "*" := by
    rw [ofString_star]
    intro same
    have lengths := congrArg List.length same
    simp at lengths
    omega
  -- the address has no query: the whole rest is the part before it
  have query := @splitQuery_written _ (fun held => (rest (ascii '?') held).2.1 rfl) false ""
    (fun marked => nomatch marked) (by simp) (by simp [ofString_empty])
  rw [if_neg (by simp), ofString_empty, List.append_nil] at query
  have startsTwo : startsWith (ascii '/' :: ascii '/' :: (ofString h ++ ofString p)) "//" = true := by
    rw [startsWith, ofString_slashes]
    simp
  have authority := splitAuthority_append (fun inHost => (named.byte inHost).2.2 (by simp)) path.head?_ofString
  have lowered : Text.lower (toStringLossy (ofString "https")) = "https" := by
    have letters : ∀ c ∈ "https".toList, hostChar c = true := by
      rw [← List.all_eq_true]
      decide
    rw [toStringLossy_ofString, lower_of_hostChar letters]
  have pathRead := fun u => withPath_of_decoded u
    (unescape_of_percentless (p := .path) (by decide) fun held => (path.byte held).2 (by simp))
  have web : ("https" : String) ≠ "" := by decide
  simp only [parseBody, clean, notStar, splitScheme_web (.inr rfl), query, parseHierarchy, startsTwo, authority,
    lowered, parseAuthority_hostName named, pathRead, Bool.false_eq_true, if_false, bind, Except.bind,
    List.head?_cons, ne_eq, not_true_eq_false, web, List.drop_succ_cons, List.drop_zero]
  exact ⟨_, rfl, by simp [hostname, splitHostPort_hostName named], rfl⟩

theorem parse_web {h p : String} (named : HostName h) (path : WebPath p) :
    ∃ u, parse ("https://" ++ h ++ p) = .ok u ∧ u.hostname = ofString h ∧ u.path = ofString p := by
  have bytes : ofString ("https://" ++ h ++ p) =
      ofString "https" ++ ascii ':' :: ascii '/' :: ascii '/' :: (ofString h ++ ofString p) := by
    rw [String.append_assoc, ofString_https, ofString_append]
  have hashless : ascii '#' ∉ ofString "https" ++ ascii ':' :: ascii '/' :: ascii '/' :: (ofString h ++ ofString p) := by
    rw [List.mem_append, List.mem_cons, not_or, not_or]
    exact ⟨by rw [ofString_eq_flatMap]; decide, by decide,
      fun held => (afterScheme_byte named path (ascii '#') held).2.2 rfl⟩
  obtain ⟨u, read, hostname, written⟩ := parseBody_web named path
  rw [parse, bytes, cutAt_of_not_mem hashless]
  simp only [read]
  exact ⟨u, rfl, hostname, written⟩

end Reading

end HeaderAudit.Address

namespace HeaderAudit.Address

theorem trim_ne_empty_of_mem {s : String} {c : Char} (held : c ∈ s.toList) (unblank : Text.isBlank c = false) :
    Text.trim s ≠ "" :=
  fun blank => Text.trimList_ne_nil held unblank (String.ofList_eq_empty_iff.mp blank)

theorem HostName.trim_ne_empty {name : String} (named : HostName name) : Text.trim name ≠ "" := by
  obtain ⟨c, cs, spelled⟩ := List.exists_cons_of_ne_nil fun empty => named.full (String.toList_eq_nil_iff.mp empty)
  have first : c ∈ name.toList := by
    rw [spelled]
    exact List.mem_cons_self
  exact trim_ne_empty_of_mem first (pathChar_byte (pathChar_of_nameChar (named.chars c first))).2.2

end HeaderAudit.Address
