import HeaderAudit.Proofs.Address.Path
import HeaderAudit.Proofs.Host.Idna
/-!
Canonicalizing a canonical address with a plain host gives it back, for every lawful IDNA look-up;
an IPv6 host with its default port does not.
-/
namespace HeaderAudit.Address
open Bytes

section Reading

/-- What reading an address guarantees of its parts: a lone `?` leaves the query empty, and an
address with a host has no opaque part, keeps its host, and has an empty or rooted path. -/
structure WellRead (v : Address) : Prop where
  bare : v.forceQuery = true → v.rawQuery = ""
  hosted : v.host ≠ [] →
    v.opaquePart = "" ∧ v.omitHost = false ∧ (v.path = [] ∨ v.path.head? = some (ascii '/'))

theorem splitQuery_bare (rest : Bytes) : (splitQuery rest).2.1 = true → (splitQuery rest).2.2 = "" := by
  unfold splitQuery
  split
  · intro
    rfl
  · split <;> intro forced <;> cases forced

theorem splitAuthority_rooted (a : Bytes) :
    (splitAuthority a).2 = [] ∨ (splitAuthority a).2.head? = some (ascii '/') := by
  unfold splitAuthority
  split
  · rename_i i found
    obtain ⟨within, slash, -⟩ := List.idxOf?_eq_some_iff.mp found
    rw [List.head?_drop, List.getElem?_eq_getElem within, slash]
    exact .inr rfl
  · exact .inl rfl

theorem unescape_path_rooted {p x : Bytes} (decoded : unescape .path p = .ok x)
    (rooted : p = [] ∨ p.head? = some (ascii '/')) : x = [] ∨ x.head? = some (ascii '/') := by
  rcases rooted with rfl | first
  · cases decoded
    exact .inl rfl
  · cases p with
    | nil => cases first
    | cons c cs =>
      rw [List.head?_cons, Option.some_inj] at first
      subst first
      rw [unescape.eq_def] at decoded
      simp only at decoded
      rw [if_neg (by decide), if_neg (by decide), if_neg (by decide)] at decoded
      cases rest : unescape .path cs with
      | error e => rw [rest] at decoded; cases decoded
      | ok y => rw [rest] at decoded; cases decoded; exact .inr rfl

theorem withPath_ok {u v : Address} {p : Bytes} (read : withPath u p = .ok v) :
    ∃ path rawPath, unescape .path p = .ok path ∧ v = { u with path := path, rawPath := rawPath } := by
  unfold withPath at read
  cases decoded : unescape .path p with
  | error e =>
    rw [decoded] at read
    cases read
  | ok path =>
    rw [decoded] at read
    cases read
    exact ⟨path, _, rfl, rfl⟩

theorem wellRead_withPath {u v : Address} {p : Bytes} (read : withPath u p = .ok v)
    (bare : u.forceQuery = true → u.rawQuery = "")
    (hosted : u.host ≠ [] → u.opaquePart = "" ∧ u.omitHost = false ∧ (p = [] ∨ p.head? = some (ascii '/'))) :
    WellRead v := by
  obtain ⟨path, rawPath, decoded, rfl⟩ := withPath_ok read
  refine ⟨bare, fun named => ?_⟩
  obtain ⟨noOpaque, kept, rooted⟩ := hosted named
  exact ⟨noOpaque, kept, unescape_path_rooted decoded rooted⟩

theorem parseHierarchy_wellRead {scheme : String} {rest : Bytes} {u v : Address}
    (read : parseHierarchy scheme rest u = .ok v) (bare : u.forceQuery = true → u.rawQuery = "")
    (hostless : u.host = []) (noOpaque : u.opaquePart = "") (kept : u.omitHost = false) : WellRead v := by
  unfold parseHierarchy at read
  split at read
  · -- the path after an authority is empty or rooted
    simp only [bind, Except.bind] at read
    split at read
    · cases read
    · exact wellRead_withPath read bare fun _ => ⟨noOpaque, kept, splitAuthority_rooted _⟩
  · split at read
    · exact wellRead_withPath read bare fun hosted => absurd hostless hosted
    · exact wellRead_withPath read bare fun hosted => absurd hostless hosted

theorem parseBody_wellRead {raw : Bytes} {v : Address} (read : parseBody raw = .ok v) : WellRead v := by
  rw [parseBody] at read
  simp only [bind, Except.bind, throw, throwThe, MonadExceptOf.throw] at read
  split at read
  · cases read
  split at read
  · -- the `*` form has no host and no query
    cases read
    exact ⟨fun forced => (Bool.false_ne_true forced).elim, fun unhosted => absurd rfl unhosted⟩
  split at read
  · cases read
  split at read
  · split at read
    · -- an opaque address has no host
      cases read
      exact ⟨splitQuery_bare _, fun unhosted => absurd rfl unhosted⟩
    · -- the first segment, cut at `/`, must hold no colon
      split at read <;> split at read
      · cases read
      · exact parseHierarchy_wellRead read (splitQuery_bare _) rfl rfl rfl
      · cases read
      · exact parseHierarchy_wellRead read (splitQuery_bare _) rfl rfl rfl
  · exact parseHierarchy_wellRead read (splitQuery_bare _) rfl rfl rfl

theorem withFragment_ok {u v : Address} {f : Bytes} (read : withFragment u f = .ok v) :
    ∃ fragment rawFragment, v = { u with fragment := fragment, rawFragment := rawFragment } := by
  unfold withFragment at read
  cases decoded : unescape .fragment f with
  | error e =>
    rw [decoded] at read
    cases read
  | ok fragment =>
    rw [decoded] at read
    cases read
    exact ⟨fragment, _, rfl⟩

theorem parse_wellRead {raw : String} {v : Address} (read : parse raw = .ok v) : WellRead v := by
  rw [parse] at read
  split at read
  rename_i body fragment _
  split at read
  · cases read
  · rename_i w parsed
    have shaped := parseBody_wellRead parsed
    split at read
    · cases read
      exact shaped
    · split at read
      · cases read
        rename_i fragmented
        obtain ⟨f, rf, rfl⟩ := withFragment_ok fragmented
        exact ⟨shaped.bare, shaped.hosted⟩
      · cases read

end Reading

section Target

theorem hostname_of_host_nil {v : Address} (hostless : v.host = []) : v.hostname = [] := by
  rw [hostname, hostless]
  rfl

theorem canonicalPath_rooted {p : Bytes} (rooted : p = [] ∨ p.head? = some (ascii '/')) :
    (canonicalPath p).head? = some (ascii '/') := by
  rcases rooted with rfl | first
  · rfl
  · have full : p ≠ [] := fun empty => by simp [empty] at first
    have clean : (cleanPath p).head? = some (ascii '/') := by
      rw [cleanPath_eq, if_pos first]
      rfl
    rw [canonicalPath, if_neg full]
    dsimp only
    split
    · rw [List.head?_append_of_ne_nil _ (cleanPath_ne_nil p), clean]
    · exact clean

theorem canonical_of_target {idna : IdnaLookup} {raw d : String} {u : Address}
    (accepted : target idna raw d = .ok u) :
    Canonical u := by
  unfold target at accepted
  simp only [bind, Except.bind] at accepted
  by_cases empty : Text.trim raw = ""
  · simp [empty] at accepted
  simp only [empty, if_false] at accepted
  split at accepted
  · cases accepted
  rename_i v parsed
  have read : WellRead v := by
    cases parsing : parse (if d ≠ "" ∧ !Text.contains (Text.trim raw) "://" then d ++ "://" ++ Text.trim raw
        else Text.trim raw) with
    | error e =>
      rw [parsing] at parsed
      cases parsed
    | ok w =>
      rw [parsing] at parsed
      cases parsed
      exact parse_wellRead parsing
  -- a foreign scheme or a missing host fails
  by_cases foreign : Text.lower v.scheme ≠ "http" ∧ Text.lower v.scheme ≠ "https"
  · rw [if_pos foreign] at accepted
    cases accepted
  rw [if_neg foreign] at accepted
  by_cases hostless : v.hostname = []
  · rw [if_pos hostless] at accepted
    cases accepted
  rw [if_neg hostless] at accepted
  cases accepted
  obtain ⟨noOpaque, kept, rooted⟩ := read.hosted fun empty => hostless (hostname_of_host_nil empty)
  exact {
    web := Decidable.or_iff_not_not_and_not.mpr foreign
    noOpaque := noOpaque
    anonymous := rfl
    rooted := canonicalPath_rooted rooted
    clean := canonicalPath_canonicalPath v.path
    rawPath := rfl
    withHost := kept
    written := Query.encode_parse_encode (Query.keyed_parse _)
    bare := fun forced => by
      show Query.encode (Query.parse v.rawQuery) = ""
      rw [read.bare forced]
      cbv
    noFragment := rfl
    rawFragment := rfl }

theorem render_ne_empty {u : Address} (canonical : Canonical u) (plain : PlainHost u.scheme u.host) :
    u.render ≠ "" := by
  intro empty
  have shape := contains_render canonical plain
  rw [empty] at shape
  cases shape

theorem containsList_single_of_not_mem {c : Char} :
    ∀ {cs : List Char}, c ∉ cs → Text.containsList [c] cs = false
  | [], _ => rfl
  | d :: ds, absent => by
    have other : c ≠ d := fun same => absent (same ▸ List.mem_cons_self)
    rw [Text.containsList, containsList_single_of_not_mem (fun held => absent (List.mem_cons_of_mem _ held)),
      List.isPrefixOf, beq_false_of_ne other]
    rfl

theorem PlainName.unbracketed_join {name port : String} (plain : PlainName name) :
    joinHostPort name port = name ++ ":" ++ port := by
  have colon : ":".toList = [':'] := rfl
  rw [joinHostPort, Text.contains, colon,
    containsList_single_of_not_mem fun held => absurd (plain.letters ':' held) (by decide)]
  rfl

theorem hostText_plainName {idna : IdnaLookup} (lawful : idna.Lawful) {name : String} (plain : PlainName name) :
    (idna.toAscii (Text.lower (toStringLossy (ofString name)))).getD
      (Text.lower (toStringLossy (ofString name))) = name := by
  rw [toStringLossy_ofString, lower_of_hostChar plain.hostChar,
    lawful.getD_plainName plain]

theorem target_render {idna : IdnaLookup} (lawful : idna.Lawful) {u : Address} (canonical : Canonical u)
    (plain : PlainHost u.scheme u.host) (e : String) : target idna u.render e = .ok u := by
  have lowered : Text.lower u.scheme = u.scheme := lower_of_hostChar canonical.schemeChars
  have web : ¬ (u.scheme ≠ "http" ∧ u.scheme ≠ "https") := fun ⟨notHttp, notHttps⟩ =>
    canonical.web.elim notHttp notHttps
  have parsed := parse_render canonical plain
  unfold target
  simp only [bind, Except.bind, trim_render canonical plain, contains_render canonical plain,
    render_ne_empty canonical plain, if_false, Bool.not_true, Bool.false_eq_true, and_false, parsed,
    Except.mapError, lowered, web]
  have written : Query.encode (Query.parse u.rawQuery) = u.rawQuery := canonical.written
  obtain ⟨name, named, shape⟩ := id plain
  have full : ofString name ≠ [] := by
    rw [ofString_of_hostChar named.hostChar]
    simpa using named.full
  rcases shape with bare | ⟨port, kept, ported⟩
  · have split : splitHostPort u.host = (ofString name, []) := by rw [bare]; exact splitHostPort_name named
    have noPort : toStringLossy [] = "" := by rw [← ofString_empty, toStringLossy_ofString]
    simp only [hostname, Address.port, split, full, if_false, canonical.clean, written, hostText_plainName lawful named,
      noPort, true_or, if_true, canonical.noOpaque, canonical.withHost]
    rw [← bare]
    exact congrArg Except.ok canonical.eq_mk.symm
  · have split : splitHostPort u.host = (ofString name, ofString port) := by
      rw [ported]
      exact splitHostPort_hostPort named kept
    have portText : toStringLossy (ofString port) = port := toStringLossy_ofString port
    have keep : ¬ (port = "" ∨ u.scheme = "http" ∧ port = "80" ∨ u.scheme = "https" ∧ port = "443") := by
      rintro (empty | default | default)
      · exact kept.full empty
      · exact kept.notHttp default
      · exact kept.notHttps default
    simp only [hostname, Address.port, split, full, if_false, canonical.clean, written, hostText_plainName lawful named,
      portText, keep, named.unbracketed_join, canonical.noOpaque, canonical.withHost]
    rw [← ported]
    exact congrArg Except.ok canonical.eq_mk.symm

end Target

/-- Canonicalizing a target whose canonical host is plain gives a text that canonicalizes to
itself under every default scheme, with any lawful IDNA look-up. -/
theorem canonicalize_idempotent_of_plainHost (idna : IdnaLookup) (lawful : idna.Lawful) {raw d : String}
    {u : Address} (accepted : target idna raw d = .ok u) (plain : PlainHost u.scheme u.host) (e : String) :
    canonicalize idna raw d = .ok u.render ∧ canonicalize idna u.render e = .ok u.render := by
  refine ⟨by rw [canonicalize, accepted]; rfl, ?_⟩
  rw [canonicalize, target_render lawful (canonical_of_target accepted) plain e]
  rfl

theorem canonicalize_kept_port_idempotent :
    IdnaLookup.standard.Lawful ∧
      target .standard "http://ab--c:8080/" "" =
        .ok ⟨"http", "", none, ofString "ab--c:8080", [ascii '/'], "", false, false, "", [], ""⟩ ∧
      PlainHost "http" (ofString "ab--c:8080") ∧
      canonicalize .standard "http://ab--c:8080/" "" = .ok "http://ab--c:8080/" ∧
      canonicalize .standard "http://ab--c:8080/" "https" = .ok "http://ab--c:8080/" := by
  have canonical :
      Canonical ⟨"http", "", none, ofString "ab--c:8080", [ascii '/'], "", false, false, "", [], ""⟩ :=
    { web := .inl rfl, noOpaque := rfl, anonymous := rfl, rooted := rfl, clean := (by decide), rawPath := rfl,
      withHost := rfl, written := (by cbv), bare := fun forced => (Bool.false_ne_true forced).elim, noFragment := rfl,
      rawFragment := rfl }
  have plain : PlainHost "http" (ofString "ab--c:8080") :=
    ⟨"ab--c", by decide, .inr ⟨"8080", by decide, rfl⟩⟩
  have rendered : (⟨"http", "", none, ofString "ab--c:8080", [ascii '/'], "", false, false, "", [], ""⟩ :
      Address).render = "http://ab--c:8080/" := by
    cbv
  have accepted := target_render IdnaLookup.standard_lawful canonical plain ""
  rw [rendered] at accepted
  have stable := canonicalize_idempotent_of_plainHost .standard IdnaLookup.standard_lawful accepted plain "https"
  rw [rendered] at stable
  exact ⟨IdnaLookup.standard_lawful, accepted, plain, stable⟩

/-- An IPv6 host with its default port loses its brackets, and the text canonicalizes to another
address: the last colon is read as the start of a port. -/
theorem canonicalize_bracketed_loopback_unstable :
    (canonicalize .standard "http://[::1]/" "").toOption = some "http://::1/" ∧
      (canonicalize .standard "http://::1/" "").toOption = some "http://[:]:1/" := by
  decide +kernel

end HeaderAudit.Address
