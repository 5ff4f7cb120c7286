import HeaderAudit.Address.Canonical
import HeaderAudit.Host.Idna
import HeaderAudit.Proofs.Address.Query
/-!
Reading the text of a canonical address finds each piece where writing put it and gives the address
back.
-/
namespace HeaderAudit.Bytes

theorem cutAt_of_not_mem {sep : UInt8} {bs : Bytes} (absent : sep ∉ bs) : cutAt sep bs = none := by
  rw [cutAt, List.idxOf?_eq_none_iff.mpr absent]

theorem ofString_of_ascii {s : String} (small : ∀ c ∈ s.toList, c.toNat < 0x80) :
    ofString s = s.toList.map ascii := by
  rw [← String.ofList_toList (s := s), ofString_ofList small, String.toList_ofList]

theorem filter_zipIdx_of_not_mem {sep : UInt8} {bs : Bytes} (absent : sep ∉ bs) (k : Nat) :
    (bs.zipIdx k).filter (·.1 == sep) = [] := by
  rw [List.filter_eq_nil_iff]
  intro e held same
  exact absent (beq_iff_eq.mp same ▸ List.fst_mem_of_mem_zipIdx held)

theorem lastIndexOf?_of_not_mem {sep : UInt8} {bs : Bytes} (absent : sep ∉ bs) : lastIndexOf? sep bs = none := by
  rw [lastIndexOf?, filter_zipIdx_of_not_mem absent]
  rfl

theorem lastIndexOf?_append_cons {sep : UInt8} (a : Bytes) {b : Bytes} (absent : sep ∉ b) :
    lastIndexOf? sep (a ++ sep :: b) = some a.length := by
  rw [lastIndexOf?, List.zipIdx_append, List.zipIdx_cons, List.filter_append, List.filter_cons, Nat.zero_add,
    filter_zipIdx_of_not_mem absent]
  simp

theorem ascii_of_mem_escape {p : Part} {bs : Bytes} {c : Char} (held : c ∈ (escape p bs).toList) :
    c.toNat < 0x80 := by
  rw [escape_eq, String.toList_ofList] at held
  obtain ⟨b, -, inner⟩ := List.mem_flatMap.mp held
  exact escapeChars_lt p b c inner

theorem isBlank_of_mem_escapeChars {p : Part} {b : UInt8} {c : Char} (held : c ∈ escapeChars p b) :
    Text.isBlank c = false := by
  have byte : b.toNat < 256 := b.toNat_lt
  have hexTable : ∀ d < 16, Text.isBlank (Text.hexDigit true d) = false := by decide
  have keptTable : ∀ n < 0x80, p.mustEscape n.toUInt8 = false → Text.isBlank (Char.ofNat n) = false := by
    cases p <;> decide +kernel
  unfold escapeChars at held
  split at held
  · split at held
    · rw [List.mem_singleton.mp held]
      decide
    · rw [percent, hexPadded_two byte] at held
      simp only [List.mem_cons, List.not_mem_nil, or_false] at held
      rcases held with rfl | rfl | rfl
      · decide
      · exact hexTable _ (by omega)
      · exact hexTable _ (by omega)
  · rename_i kept
    rw [List.mem_singleton.mp held]
    exact keptTable b.toNat (lt_of_mustEscape_false (Bool.eq_false_iff.mpr kept)) (by simpa using kept)

theorem isBlank_of_mem_escape {p : Part} {bs : Bytes} {c : Char} (held : c ∈ (escape p bs).toList) :
    Text.isBlank c = false := by
  rw [escape_eq, String.toList_ofList] at held
  obtain ⟨b, -, inner⟩ := List.mem_flatMap.mp held
  exact isBlank_of_mem_escapeChars inner

end HeaderAudit.Bytes

namespace HeaderAudit.Address
open Bytes

section Host

def hostChar (c : Char) : Bool := Host.isHostAscii c || c == ':'

theorem lt_of_hostChar {c : Char} (plain : hostChar c = true) : c.toNat < 0x80 := by
  simp only [hostChar, Host.isHostAscii, Bool.or_eq_true, decide_eq_true_eq, beq_iff_eq] at plain
  rcases plain with (⟨-, below⟩ | ⟨-, below⟩ | rfl | rfl) | rfl
  · exact Nat.lt_of_le_of_lt (show c.toNat ≤ 'z'.toNat from below) (by decide)
  · exact Nat.lt_of_le_of_lt (show c.toNat ≤ '9'.toNat from below) (by decide)
  all_goals decide

theorem hostChar_of_isDigit {c : Char} (digit : c.isDigit = true) : hostChar c = true := by
  simp only [Char.isDigit, Bool.and_eq_true, decide_eq_true_eq] at digit
  have range : '0' ≤ c ∧ c ≤ '9' := digit
  simp [hostChar, Host.isHostAscii, range]

theorem hostChar_table : ∀ n < 0x80, hostChar (Char.ofNat n) = true →
    Part.host.mustEscape n.toUInt8 = false ∧ Text.isBlank (Char.ofNat n) = false ∧
      Text.lowerChar (Char.ofNat n) = Char.ofNat n ∧
      n.toUInt8 ∉ [ascii '%', ascii '+', ascii '/', ascii '?', ascii '#', ascii '@', ascii '['] := by
  decide

theorem hostChar_byte {c : Char} (plain : hostChar c = true) :
    Part.host.mustEscape (ascii c) = false ∧ Text.isBlank c = false ∧ Text.lowerChar c = c ∧
      ascii c ∉ [ascii '%', ascii '+', ascii '/', ascii '?', ascii '#', ascii '@', ascii '['] := by
  have entry := hostChar_table c.toNat (lt_of_hostChar plain) (by rwa [Char.ofNat_toNat])
  rwa [Char.ofNat_toNat] at entry

theorem digit_table : ∀ n < 0x80, (Char.ofNat n).isDigit = true →
    ascii '0' ≤ n.toUInt8 ∧ n.toUInt8 ≤ ascii '9' := by
  decide

theorem lower_of_hostChar {t : String} (plain : ∀ c ∈ t.toList, hostChar c = true) : Text.lower t = t := by
  have same : t.toList.map Text.lowerChar = t.toList.map id :=
    List.map_congr_left fun c held => (hostChar_byte (plain c held)).2.2.1
  rw [Text.lower, same, List.map_id, String.ofList_toList]

theorem ofString_of_hostChar {t : String} (plain : ∀ c ∈ t.toList, hostChar c = true) :
    ofString t = t.toList.map ascii :=
  ofString_of_ascii fun c held => lt_of_hostChar (plain c held)

theorem ascii_not_mem_of_hostChar {t : String} (plain : ∀ c ∈ t.toList, hostChar c = true) {x : Char}
    (small : x.toNat < 0x80) (absent : x ∉ t.toList) : ascii x ∉ ofString t := by
  rw [ofString_of_hostChar plain]
  intro held
  obtain ⟨c, written, same⟩ := List.mem_map.mp held
  rw [← charOfNat_ascii (lt_of_hostChar (plain c written)), same, charOfNat_ascii small] at written
  exact absent written

theorem hostText_byte {t : String} (plain : ∀ c ∈ t.toList, hostChar c = true) {b : UInt8}
    (held : b ∈ ofString t) : Part.host.mustEscape b = false ∧
      b ∉ [ascii '%', ascii '+', ascii '/', ascii '?', ascii '#', ascii '@', ascii '['] := by
  rw [ofString_of_hostChar plain] at held
  obtain ⟨c, written, rfl⟩ := List.mem_map.mp held
  have facts := hostChar_byte (plain c written)
  exact ⟨facts.1, facts.2.2.2⟩

/-- A host name that reading and writing an address leave as it is: not empty, of lower-case
letters, digits, `-` and `.`, and with no label in the `xn--` form. -/
structure PlainName (name : String) : Prop where
  full : name ≠ ""
  letters : ∀ c ∈ name.toList, Host.isHostAscii c = true
  unencoded : ∀ label ∈ name.toList.splitOn '.', ['x', 'n', '-', '-'].isPrefixOf label = false

/-- A port that a canonical address keeps: digits, and not the default port of its scheme. -/
structure KeptPort (scheme port : String) : Prop where
  full : port ≠ ""
  digits : ∀ c ∈ port.toList, c.isDigit = true
  notHttp : ¬ (scheme = "http" ∧ port = "80")
  notHttps : ¬ (scheme = "https" ∧ port = "443")

-- the code points are checked one by one, not by ranging over every code point
instance (name : String) : Decidable (PlainName name) :=
  have : Decidable (∀ c ∈ name.toList, Host.isHostAscii c = true) := List.decidableBAll _ _
  have : Decidable (∀ label ∈ name.toList.splitOn '.', ['x', 'n', '-', '-'].isPrefixOf label = false) :=
    List.decidableBAll _ _
  decidable_of_iff (name ≠ "" ∧ (∀ c ∈ name.toList, Host.isHostAscii c = true) ∧
      ∀ label ∈ name.toList.splitOn '.', ['x', 'n', '-', '-'].isPrefixOf label = false)
    ⟨fun ⟨full, letters, unencoded⟩ => ⟨full, letters, unencoded⟩,
      fun plain => ⟨plain.full, plain.letters, plain.unencoded⟩⟩

instance (scheme port : String) : Decidable (KeptPort scheme port) :=
  have : Decidable (∀ c ∈ port.toList, c.isDigit = true) := List.decidableBAll _ _
  decidable_of_iff (port ≠ "" ∧ (∀ c ∈ port.toList, c.isDigit = true) ∧
      ¬ (scheme = "http" ∧ port = "80") ∧ ¬ (scheme = "https" ∧ port = "443"))
    ⟨fun ⟨full, digits, notHttp, notHttps⟩ => ⟨full, digits, notHttp, notHttps⟩,
      fun kept => ⟨kept.full, kept.digits, kept.notHttp, kept.notHttps⟩⟩

/-- A host that a canonical address holds as it is: a plain name, then a kept port after a colon
when there is one. -/
def PlainHost (scheme : String) (host : Bytes) : Prop :=
  ∃ name, PlainName name ∧
    (host = ofString name ∨ ∃ port, KeptPort scheme port ∧ host = ofString (name ++ ":" ++ port))

theorem PlainName.hostChar {name : String} (plain : PlainName name) : ∀ c ∈ name.toList, hostChar c = true :=
  fun c held => by simp [Address.hostChar, plain.letters c held]

theorem KeptPort.hostChar {scheme port : String} (kept : KeptPort scheme port) :
    ∀ c ∈ port.toList, hostChar c = true :=
  fun c held => hostChar_of_isDigit (kept.digits c held)

theorem PlainName.colon_not_mem {name : String} (plain : PlainName name) : ascii ':' ∉ ofString name :=
  ascii_not_mem_of_hostChar plain.hostChar (by decide)
    fun held => absurd (plain.letters ':' held) (by decide)

theorem KeptPort.colon_not_mem {scheme port : String} (kept : KeptPort scheme port) :
    ascii ':' ∉ ofString port :=
  ascii_not_mem_of_hostChar kept.hostChar (by decide)
    fun held => absurd (kept.digits ':' held) (by decide)

theorem KeptPort.valid {scheme port : String} (kept : KeptPort scheme port) :
    validOptionalPort (ascii ':' :: ofString port) = true := by
  rw [ofString_of_hostChar kept.hostChar]
  simp only [validOptionalPort, List.all_map, decide_eq_true_eq, true_and, List.all_eq_true]
  intro c held
  have small := lt_of_hostChar (kept.hostChar c held)
  have range := digit_table c.toNat small (by rw [Char.ofNat_toNat]; exact kept.digits c held)
  simpa [ascii] using range

theorem ofString_hostPort (name port : String) :
    ofString (name ++ ":" ++ port) = ofString name ++ ascii ':' :: ofString port := by
  rw [ofString_append, ofString_append, ofString_colon, List.append_assoc]
  rfl

theorem unbracketed_of_hostChar {t : String} (plain : ∀ c ∈ t.toList, hostChar c = true) :
    (ofString t).head? ≠ some (ascii '[') := by
  intro first
  exact (hostText_byte plain (List.mem_of_head? first)).2 (by simp)

theorem parseHost_of_hostChar {t : String} (plain : ∀ c ∈ t.toList, hostChar c = true)
    (valid : ∀ i, lastIndexOf? (ascii ':') (ofString t) = some i → validOptionalPort ((ofString t).drop i) = true) :
    parseHost (ofString t) = .ok (ofString t) := by
  have decoded : unescape .host (ofString t) = .ok (ofString t) :=
    unescape_of_kept fun b held => by
      have facts := hostText_byte plain held
      exact ⟨fun same => facts.2 (by simp [same]), fun same => facts.2 (by simp [same]), facts.1⟩
  rw [parseHost, if_neg (unbracketed_of_hostChar plain)]
  cases last : lastIndexOf? (ascii ':') (ofString t) with
  | none => exact decoded
  | some i =>
    simp only [valid i last, Bool.not_true, Bool.false_eq_true, if_false]
    exact decoded

theorem hostChar_hostPort {scheme name port : String} (plain : PlainName name) (kept : KeptPort scheme port) :
    ∀ c ∈ (name ++ ":" ++ port).toList, hostChar c = true := by
  intro c held
  simp only [String.toList_append, List.mem_append] at held
  rcases held with (inName | colon) | inPort
  · exact plain.hostChar c inName
  · rw [show c = ':' by simpa using colon]
    rfl
  · exact kept.hostChar c inPort

theorem parseHost_plainHost {scheme : String} {host : Bytes} (plain : PlainHost scheme host) :
    parseHost host = .ok host := by
  obtain ⟨name, named, rfl | ⟨port, kept, rfl⟩⟩ := plain
  · refine parseHost_of_hostChar named.hostChar fun i last => ?_
    rw [lastIndexOf?_of_not_mem named.colon_not_mem] at last
    cases last
  · refine parseHost_of_hostChar (hostChar_hostPort named kept) fun i last => ?_
    rw [ofString_hostPort, lastIndexOf?_append_cons _ kept.colon_not_mem, Option.some_inj] at last
    rw [ofString_hostPort, ← last, List.drop_left]
    exact kept.valid

theorem splitHostPort_name {name : String} (plain : PlainName name) :
    splitHostPort (ofString name) = (ofString name, []) := by
  simp only [splitHostPort, lastIndexOf?_of_not_mem plain.colon_not_mem]
  rw [if_neg (fun bracketed => unbracketed_of_hostChar plain.hostChar bracketed.1)]

theorem splitHostPort_hostPort {scheme name port : String} (plain : PlainName name) (kept : KeptPort scheme port) :
    splitHostPort (ofString (name ++ ":" ++ port)) = (ofString name, ofString port) := by
  have unbracketed := unbracketed_of_hostChar plain.hostChar
  rw [ofString_hostPort]
  simp [splitHostPort, lastIndexOf?_append_cons _ kept.colon_not_mem, kept.valid, unbracketed]

theorem PlainHost.text {scheme : String} {host : Bytes} (plain : PlainHost scheme host) :
    ∃ t, t ≠ "" ∧ (∀ c ∈ t.toList, hostChar c = true) ∧ host = ofString t := by
  obtain ⟨name, named, rfl | ⟨port, kept, rfl⟩⟩ := plain
  · exact ⟨name, named.full, named.hostChar, rfl⟩
  · refine ⟨name ++ ":" ++ port, ?_, hostChar_hostPort named kept, rfl⟩
    simp [String.append_eq_empty_iff, named.full]

theorem PlainHost.ne_nil {scheme : String} {host : Bytes} (plain : PlainHost scheme host) : host ≠ [] := by
  obtain ⟨t, full, letters, rfl⟩ := plain.text
  rw [ofString_of_hostChar letters]
  simpa using full

theorem PlainHost.byte {scheme : String} {host : Bytes} (plain : PlainHost scheme host) {b : UInt8}
    (held : b ∈ host) : Part.host.mustEscape b = false ∧
      b ∉ [ascii '%', ascii '+', ascii '/', ascii '?', ascii '#', ascii '@', ascii '['] := by
  obtain ⟨t, -, letters, rfl⟩ := plain.text
  exact hostText_byte letters held

end Host

section Reading

theorem splitScheme_go_alpha (bs : Bytes) (rest : Bytes) : ∀ (i : Nat) (s : Bytes),
    (∀ c ∈ s, c < 0x80 ∧ (Char.ofNat c.toNat).isAlpha = true) → 0 < i + s.length →
    splitScheme.go bs i (s ++ ascii ':' :: rest) = .ok (bs.take (i + s.length), bs.drop (i + s.length + 1))
  | i, [], _, named => by
    rw [splitScheme.go.eq_def]
    simp only [List.nil_append, List.length_nil, Nat.add_zero] at named ⊢
    rw [if_neg (by decide), if_neg (by decide), if_pos (by decide), if_neg (by omega)]
  | i, c :: s, letters, _ => by
    have first := letters c List.mem_cons_self
    rw [List.cons_append, splitScheme.go.eq_def]
    simp only
    rw [if_pos first,
      splitScheme_go_alpha bs rest (i + 1) s (fun d held => letters d (List.mem_cons_of_mem _ held)) (by omega)]
    simp only [List.length_cons, Nat.add_assoc, Nat.add_comm 1]

theorem splitScheme_web {scheme : String} (web : scheme = "http" ∨ scheme = "https") (rest : Bytes) :
    splitScheme (ofString scheme ++ ascii ':' :: rest) = .ok (ofString scheme, rest) := by
  have letters : ∀ c ∈ ofString scheme, c < 0x80 ∧ (Char.ofNat c.toNat).isAlpha = true := by
    have table : (ofString scheme).all (fun c => decide (c < 0x80) && (Char.ofNat c.toNat).isAlpha) := by
      rcases web with rfl | rfl <;> rw [ofString_eq_flatMap] <;> decide
    simpa using table
  have full : 0 < (ofString scheme).length := by
    rcases web with rfl | rfl <;> rw [ofString_eq_flatMap] <;> decide
  rw [splitScheme, splitScheme_go_alpha _ rest 0 _ letters (by omega), Nat.zero_add, List.take_left,
    List.drop_length_add_append]
  rfl

theorem splitQuery_written {R : Bytes} (unmarked : ascii '?' ∉ R) {fq : Bool} {rq : String}
    (bare : fq = true → rq = "") (small : ∀ c ∈ rq.toList, c.toNat < 0x80) (marks : ascii '?' ∉ ofString rq) :
    splitQuery (R ++ ofString (if fq = true ∨ rq ≠ "" then "?" ++ rq else "")) = (R, fq, rq) := by
  have last : ∀ x, R.getLast? = some x → x ≠ ascii '?' := fun x held same =>
    unmarked (same ▸ List.mem_of_getLast? held)
  cases fq with
  | true =>
    rw [bare rfl, if_pos (.inl rfl), String.append_empty, ofString_mark, splitQuery,
      if_pos ⟨by simp, by simp [List.count_eq_zero.mpr unmarked]⟩, List.dropLast_concat]
  | false =>
    by_cases empty : rq = ""
    · subst empty
      rw [if_neg (by simp), ofString_empty, List.append_nil, splitQuery, cutAt_of_not_mem unmarked]
      rw [if_neg]
      rintro ⟨ends, -⟩
      exact last _ ends rfl
    · have bytes : ofString rq ≠ [] := by simpa [ofString_of_ascii small] using empty
      rw [if_pos (.inr empty), ofString_append, ofString_mark, List.singleton_append, splitQuery, if_neg,
        cutAt_append_cons unmarked]
      · simp only [toStringLossy_ofString]
      rintro ⟨ends, -⟩
      obtain ⟨y, ys, split⟩ := List.exists_cons_of_ne_nil bytes
      rw [List.getLast?_append_of_ne_nil _ (List.cons_ne_nil _ _), split, List.getLast?_cons_cons, ← split] at ends
      exact marks (List.mem_of_getLast? ends)

theorem splitAuthority_append {host rest : Bytes} (unslashed : ascii '/' ∉ host)
    (rooted : rest.head? = some (ascii '/')) : splitAuthority (host ++ rest) = (host, rest) := by
  cases rest with
  | nil => cases rooted
  | cons c cs =>
    rw [List.head?_cons, Option.some_inj] at rooted
    rw [splitAuthority, rooted, idxOf?_append_cons unslashed]
    simp

theorem parseAuthority_plainHost {scheme : String} {host : Bytes} (plain : PlainHost scheme host) :
    parseAuthority host = .ok (none, host) := by
  have unsigned : ascii '@' ∉ host := fun held => (plain.byte held).2 (by simp)
  rw [parseAuthority, lastIndexOf?_of_not_mem unsigned]
  simp only [parseHost_plainHost plain]
  rfl

theorem withPath_escape (u : Address) (p : Bytes) :
    withPath u (ofString (escape .path p)) = .ok { u with path := p, rawPath := "" } := by
  rw [withPath, unescape_escape (by decide), toStringLossy_ofString]
  simp

end Reading

section Canonical

/-- The shape of an address that reading a target gives. -/
structure Canonical (u : Address) : Prop where
  web : u.scheme = "http" ∨ u.scheme = "https"
  noOpaque : u.opaquePart = ""
  anonymous : u.user = none
  rooted : u.path.head? = some (ascii '/')
  clean : canonicalPath u.path = u.path
  rawPath : u.rawPath = ""
  withHost : u.omitHost = false
  written : Query.encode (Query.parse u.rawQuery) = u.rawQuery
  bare : u.forceQuery = true → u.rawQuery = ""
  noFragment : u.fragment = []
  rawFragment : u.rawFragment = ""

theorem escape_path_rooted {p : Bytes} (rooted : p.head? = some (ascii '/')) :
    (escape .path p).toList.head? = some '/' := by
  cases p with
  | nil => cases rooted
  | cons c cs =>
    rw [List.head?_cons, Option.some_inj] at rooted
    rw [escape_eq, String.toList_ofList, List.flatMap_cons, rooted]
    rfl

theorem escapedPath_canonical {u : Address} (canonical : Canonical u) :
    u.escapedPath = escape .path u.path := by
  have star : u.path ≠ ofString "*" := by
    intro same
    have rooted := canonical.rooted
    rw [same, ofString_star] at rooted
    exact absurd rooted (by decide)
  simp [escapedPath, canonical.rawPath, star]

theorem render_canonical {u : Address} (canonical : Canonical u) (named : u.host ≠ []) :
    u.render = u.scheme ++ ":" ++ ("//" ++ escape .host u.host) ++ escape .path u.path ++
      (if u.forceQuery ∨ u.rawQuery ≠ "" then "?" ++ u.rawQuery else "") := by
  have scheme : u.scheme ≠ "" := by
    rcases canonical.web with web | web <;> rw [web] <;> decide
  unfold render
  rw [escapedPath_canonical canonical]
  simp [canonical.noOpaque, canonical.anonymous, canonical.withHost, canonical.noFragment, scheme, named,
    String.front?_eq, escape_path_rooted canonical.rooted, String.append_assoc]

theorem Canonical.eq_mk {u : Address} (canonical : Canonical u) :
    u = ⟨u.scheme, "", none, u.host, u.path, "", false, u.forceQuery, u.rawQuery, [], ""⟩ := by
  obtain ⟨scheme, opaquePart, user, host, path, rawPath, omitHost, forceQuery, rawQuery, fragment, rawFragment⟩ := u
  obtain ⟨-, noOpaque, anonymous, -, -, raw, withHost, -, -, noFragment, rawFragment⟩ := canonical
  dsimp only at *
  subst noOpaque anonymous raw withHost noFragment rawFragment
  rfl

theorem Canonical.schemeChars {u : Address} (canonical : Canonical u) :
    ∀ c ∈ u.scheme.toList, hostChar c = true := by
  rw [← List.all_eq_true]
  rcases canonical.web with web | web <;> rw [web] <;> decide

theorem head?_ofString_escape_path {p : Bytes} (rooted : p.head? = some (ascii '/')) :
    (ofString (escape .path p)).head? = some (ascii '/') := by
  rw [ofString_of_ascii fun c held => ascii_of_mem_escape held, List.head?_map, escape_path_rooted rooted]
  rfl

theorem ofString_render {u : Address} (canonical : Canonical u) (plain : PlainHost u.scheme u.host) :
    ofString u.render = ofString u.scheme ++ ascii ':' ::
      ((ascii '/' :: ascii '/' :: (u.host ++ ofString (escape .path u.path))) ++
        ofString (if u.forceQuery = true ∨ u.rawQuery ≠ "" then "?" ++ u.rawQuery else "")) := by
  have kept : ofString (escape .host u.host) = u.host :=
    ofString_escape_of_kept fun b held => (plain.byte held).1
  rw [render_canonical canonical plain.ne_nil]
  simp only [ofString_append, kept, ofString_colon, ofString_slashes, List.append_assoc, List.cons_append, List.nil_append]

theorem mem_ofString_render {u : Address} (canonical : Canonical u) (plain : PlainHost u.scheme u.host)
    {b : UInt8} (held : b ∈ ofString u.render) :
    b ∈ ofString u.scheme ∨ b = ascii ':' ∨ b = ascii '/' ∨ b = ascii '?' ∨ b ∈ u.host ∨
      b ∈ ofString (escape .path u.path) ∨ b ∈ ofString (Query.encode (Query.parse u.rawQuery)) := by
  rw [ofString_render canonical plain] at held
  simp only [List.mem_append, List.mem_cons] at held
  rcases held with inScheme | colon | (slash | slash | inHost | inPath) | inQuery
  · exact .inl inScheme
  · exact .inr (.inl colon)
  · exact .inr (.inr (.inl slash))
  · exact .inr (.inr (.inl slash))
  · exact .inr (.inr (.inr (.inr (.inl inHost))))
  · exact .inr (.inr (.inr (.inr (.inr (.inl inPath)))))
  · split at inQuery
    · rw [ofString_append, ofString_mark, List.singleton_append, List.mem_cons, ← canonical.written] at inQuery
      rcases inQuery with question | inRaw
      · exact .inr (.inr (.inr (.inl question)))
      · exact .inr (.inr (.inr (.inr (.inr (.inr inRaw)))))
    · simp [ofString_eq_flatMap] at inQuery

theorem printable_render {u : Address} (canonical : Canonical u) (plain : PlainHost u.scheme u.host)
    {b : UInt8} (held : b ∈ ofString u.render) : ¬ (b < 0x20 ∨ b = 0x7F) := by
  rcases mem_ofString_render canonical plain held with inScheme | rfl | rfl | rfl | inHost | inPath | inQuery
  · rw [ofString_of_hostChar canonical.schemeChars] at inScheme
    obtain ⟨c, written, rfl⟩ := List.mem_map.mp inScheme
    exact printable_of_mustEscape_false (hostChar_byte (canonical.schemeChars c written)).1
  · decide
  · decide
  · decide
  · exact printable_of_mustEscape_false (plain.byte inHost).1
  · exact (printable_of_mem_ofString_escape inPath).2
  · exact (Query.printable_of_mem_ofString_encode inQuery).2

theorem hash_not_mem_render {u : Address} (canonical : Canonical u) (plain : PlainHost u.scheme u.host) :
    ascii '#' ∉ ofString u.render := by
  intro held
  rcases mem_ofString_render canonical plain held with inScheme | same | same | same | inHost | inPath | inQuery
  · exact ascii_not_mem_of_hostChar canonical.schemeChars (by decide)
      (fun hash => absurd (canonical.schemeChars '#' hash) (by decide)) inScheme
  · exact absurd same (by decide)
  · exact absurd same (by decide)
  · exact absurd same (by decide)
  · exact (plain.byte inHost).2 (by simp)
  · exact not_mem_ofString_escape (by decide) (by decide) _ inPath
  · exact Query.not_mem_ofString_encode (by decide) (by decide) (by decide) _ inQuery

theorem parseBody_render {u : Address} (canonical : Canonical u) (plain : PlainHost u.scheme u.host) :
    parseBody (ofString u.render) = .ok u := by
  have hostBytes :
      ∀ b ∈ u.host, b ∉ [ascii '%', ascii '+', ascii '/', ascii '?', ascii '#', ascii '@', ascii '['] :=
    fun b held => (plain.byte held).2
  have clean : hasControl (ofString u.render) = false :=
    List.any_eq_false.mpr fun b held => by simpa using printable_render canonical plain held
  have notStar : ofString u.render ≠ ofString "*" := by
    intro same
    have colon : ascii ':' ∈ ofString u.render := by
      rw [ofString_render canonical plain]
      simp
    rw [same, ofString_star] at colon
    exact absurd colon (by decide)
  -- the query that writing put after the path
  have query := splitQuery_written (R := ascii '/' :: ascii '/' :: (u.host ++ ofString (escape .path u.path)))
    (by
      simp only [List.mem_cons, List.mem_append, not_or]
      exact ⟨by decide, by decide, fun inHost => hostBytes _ inHost (by simp),
        not_mem_ofString_escape (by decide) (by decide) _⟩)
    canonical.bare
    (fun c held => by
      rw [← canonical.written] at held
      rcases Query.mem_toList_encode held with rfl | rfl | ⟨bs, inner⟩
      · decide
      · decide
      · exact ascii_of_mem_escape inner)
    (by rw [← canonical.written]; exact Query.not_mem_ofString_encode (by decide) (by decide) (by decide) _)
  have startsTwo : startsWith (ascii '/' :: ascii '/' :: (u.host ++ ofString (escape .path u.path))) "//" = true := by
    rw [startsWith, ofString_slashes]
    simp
  have authority := splitAuthority_append (fun inHost => hostBytes _ inHost (by simp))
    (head?_ofString_escape_path canonical.rooted)
  have lowered : Text.lower (toStringLossy (ofString u.scheme)) = u.scheme := by
    rw [toStringLossy_ofString,
      lower_of_hostChar canonical.schemeChars]
  have named : u.scheme ≠ "" := by
    rcases canonical.web with web | web <;> rw [web] <;> decide
  rw [ofString_render canonical plain] at clean notStar ⊢
  rw [parseBody]
  simp only [clean, notStar, splitScheme_web canonical.web, query, parseHierarchy, startsTwo, authority, lowered, named,
    parseAuthority_plainHost plain, withPath_escape, Bool.false_eq_true, if_false, bind, Except.bind,
    List.head?_cons, ne_eq, not_true_eq_false, not_false_eq_true, true_or, and_true, if_true,
    List.drop_succ_cons, List.drop_zero]
  exact congrArg Except.ok canonical.eq_mk.symm

theorem parse_render {u : Address} (canonical : Canonical u) (plain : PlainHost u.scheme u.host) :
    parse u.render = .ok u := by
  rw [parse, cutAt_of_not_mem (hash_not_mem_render canonical plain)]
  simp only [parseBody_render canonical plain]
  rfl

theorem containsList_middle (pre : List Char) {sub post : List Char} :
    Text.containsList sub (pre ++ sub ++ post) = true := by
  induction pre with
  | nil =>
    cases sub with
    | nil => cases post <;> simp [Text.containsList]
    | cons c cs => simp [Text.containsList]
  | cons c pre ih =>
    rw [List.cons_append, List.cons_append, Text.containsList, ih, Bool.or_true]

theorem contains_render {u : Address} (canonical : Canonical u) (plain : PlainHost u.scheme u.host) :
    Text.contains u.render "://" = true := by
  have shape : u.render.toList = u.scheme.toList ++ "://".toList ++
      ((escape .host u.host).toList ++ (escape .path u.path).toList ++
        (if u.forceQuery = true ∨ u.rawQuery ≠ "" then "?" ++ u.rawQuery else "").toList) := by
    rw [render_canonical canonical plain.ne_nil]
    simp [String.toList_append, List.append_assoc]
  rw [Text.contains, shape]
  exact containsList_middle _

theorem trim_render {u : Address} (canonical : Canonical u) (plain : PlainHost u.scheme u.host) :
    Text.trim u.render = u.render := by
  have unblank : ∀ c ∈ u.render.toList, Text.isBlank c = false := by
    intro c held
    rw [render_canonical canonical plain.ne_nil] at held
    simp only [String.toList_append, List.mem_append] at held
    rcases held with (((inScheme | colon) | (slashes | inHost)) | inPath) | inQuery
    · exact (hostChar_byte (canonical.schemeChars c inScheme)).2.1
    · rw [show c = ':' by simpa using colon]
      decide
    · rw [show c = '/' by simpa using slashes]
      decide
    · exact isBlank_of_mem_escape inHost
    · exact isBlank_of_mem_escape inPath
    · split at inQuery
      · rw [String.toList_append, List.mem_append] at inQuery
        rcases inQuery with mark | inRaw
        · rw [show c = '?' by simpa using mark]
          decide
        · rw [← canonical.written] at inRaw
          rcases Query.mem_toList_encode inRaw with rfl | rfl | ⟨bs, inner⟩
          · decide
          · decide
          · exact isBlank_of_mem_escape inner
      · simp at inQuery
  have full : u.render.toList ≠ [] := by
    rw [render_canonical canonical plain.ne_nil]
    simp [String.toList_append]
  rw [Text.trim, Text.trimList_of_trimmed (Text.trimmed_of_unblank full unblank), String.ofList_toList]

end Canonical

end HeaderAudit.Address
