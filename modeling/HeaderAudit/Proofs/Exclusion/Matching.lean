import HeaderAudit.Proofs.Address.WebAddress
import HeaderAudit.Proofs.Text.Hex
import HeaderAudit.Proofs.Exclusion.Refinement
/-!
Which web addresses `https://` host path a freshly made rule covers.
-/
namespace HeaderAudit.Rule
open Address Bytes

theorem fresh_of_kept (ids : IdSupply) (drawn : ids.source.Fresh) (k : RuleKind) {pattern : String}
    (kept : Text.trim pattern ≠ "") :
    fresh ids k pattern = .ok (⟨ids.source.draw ids.next, k, pattern⟩, ⟨ids.source, ids.next + 1⟩) := by
  unfold fresh IdSupply.fresh
  dsimp only
  rw [make_code, if_neg (drawn.nonblank ids.next), if_neg kept]
  rfl

theorem hasSuffix_star (s : String) : Text.hasSuffix s "*" = true ↔ s.toList.getLast? = some '*' := by
  rw [Text.hasSuffix, ← List.head?_reverse]
  cases s.toList.reverse with
  | nil => simp
  | cons x xs =>
    simp only [List.head?_cons, Option.some.injEq]
    simpa using eq_comm

theorem sameHostName_self (idna : IdnaLookup) {a : String} (full : a ≠ "") : sameHostName idna a a = true := by
  unfold sameHostName
  rw [if_neg full, if_pos (Text.equalFold_refl a)]

theorem sameHostName_hostName {idna : IdnaLookup} (lawful : idna.Lawful) {a b : String} (named : HostName a)
    (named' : HostName b) (unencoded : Unencoded a) (unencoded' : Unencoded b) :
    sameHostName idna a b = Text.equalFold a b := by
  unfold sameHostName
  rw [if_neg named'.full]
  cases folded : Text.equalFold a b with
  | true => rfl
  | false =>
    rw [if_neg (by simp)]
    -- each ASCII form, when there is one, is the lower-cased name, and lower case keeps folding
    rcases lawful.ascii a named unencoded with none | lowered
    · rw [none]
    · rcases lawful.ascii b named' unencoded' with none' | lowered'
      · rw [lowered, none']
      · rw [lowered, lowered']
        exact (Text.equalFold_lower named.toNat_lt named'.toNat_lt).trans folded

section WebAddress

variable {h' p' : String}

theorem covers_web_host (idna : IdnaLookup) {m : String} {r : Rule} (host : r.kind = .host) (named' : HostName h')
    (path' : WebPath p') : r.covers idna m ("https://" ++ h' ++ p') = sameHostName idna r.pattern h' := by
  obtain ⟨u, read, hostname, -⟩ := parse_web named' path'
  simp only [covers, host, read, hostname, toStringLossy_ofString]

theorem covers_web_path (idna : IdnaLookup) {m : String} {r : Rule} (path : r.kind = .path) (named' : HostName h')
    (path' : WebPath p') : r.covers idna m ("https://" ++ h' ++ p') =
      if Text.hasSuffix r.pattern "*" then (ofString (String.ofList r.pattern.toList.dropLast)).isPrefixOf (ofString p')
      else decide (ofString p' = ofString r.pattern) := by
  obtain ⟨u, read, -, written⟩ := parse_web named' path'
  have full : ofString p' ≠ [] := fun empty => by simpa [empty] using path'.head?_ofString
  simp only [covers, path, read, written, full, if_false]

variable (idna : IdnaLookup) (ids : IdSupply) (drawn : ids.source.Fresh) (m : String)
include drawn

theorem fresh_host_covers_iff (lawful : idna.Lawful) {h : String} (named : HostName h) (named' : HostName h') (path' : WebPath p')
    (unencoded : Unencoded h) (unencoded' : Unencoded h') :
    ∃ r ids', fresh ids .host h = .ok (r, ids') ∧
      (r.covers idna m ("https://" ++ h' ++ p') = true ↔ Text.equalFold h h' = true) := by
  refine ⟨_, _, fresh_of_kept ids drawn .host named.trim_ne_empty, ?_⟩
  rw [covers_web_host idna rfl named' path', sameHostName_hostName lawful named named' unencoded unencoded']

theorem fresh_prefix_covers_iff (q : String) (named' : HostName h') (path' : WebPath p') :
    ∃ r ids', fresh ids .path (q ++ "*") = .ok (r, ids') ∧
      (r.covers idna m ("https://" ++ h' ++ p') = true ↔ q.toList <+: p'.toList) := by
  have starred : (q ++ "*").toList = q.toList ++ ['*'] := by simp [String.toList_append]
  refine ⟨_, _, fresh_of_kept ids drawn .path (trim_ne_empty_of_mem (c := '*') (by simp [starred]) (by decide)), ?_⟩
  rw [covers_web_path idna rfl named' path', if_pos ((hasSuffix_star _).mpr (by simp [starred])), starred,
    List.dropLast_concat, String.ofList_toList, List.isPrefixOf_iff_prefix, ofString_prefix_iff]

theorem fresh_path_covers_iff {p : String} (named' : HostName h') (path' : WebPath p') (kept : Text.trim p ≠ "")
    (unstarred : p.toList.getLast? ≠ some '*') :
    ∃ r ids', fresh ids .path p = .ok (r, ids') ∧ (r.covers idna m ("https://" ++ h' ++ p') = true ↔ p' = p) := by
  refine ⟨_, _, fresh_of_kept ids drawn .path kept, ?_⟩
  rw [covers_web_path idna rfl named' path', if_neg (by rwa [hasSuffix_star]), decide_eq_true_iff, ofString_inj]

theorem fresh_endpoint_covers_iff (url : String) {s : String} (kept : Text.trim s ≠ "") :
    ∃ r ids', fresh ids .endpoint s = .ok (r, ids') ∧ (r.covers idna m url = true ↔ s = m ++ " " ++ url) := by
  refine ⟨_, _, fresh_of_kept ids drawn .endpoint kept, ?_⟩
  simp [covers, eq_comm]

theorem fresh_own_host_covers (named' : HostName h') (path' : WebPath p') :
    ∃ r ids', fresh ids .host h' = .ok (r, ids') ∧ r.covers idna m ("https://" ++ h' ++ p') = true := by
  refine ⟨_, _, fresh_of_kept ids drawn .host named'.trim_ne_empty, ?_⟩
  rw [covers_web_host idna rfl named' path', sameHostName_self idna named'.full]

theorem fresh_own_path_covers (named' : HostName h') (path' : WebPath p') :
    ∃ r ids', fresh ids .path p' = .ok (r, ids') ∧ r.covers idna m ("https://" ++ h' ++ p') = true := by
  have slash := List.mem_of_head? path'.rooted
  refine ⟨_, _, fresh_of_kept ids drawn .path (trim_ne_empty_of_mem slash (pathChar_byte (path'.chars '/' slash)).2.2), ?_⟩
  rw [covers_web_path idna rfl named' path']
  -- the path is its own prefix pattern when it ends in `*`, and its own exact pattern otherwise
  split
  · rw [List.isPrefixOf_iff_prefix, ofString_prefix_iff, String.toList_ofList]
    exact List.dropLast_prefix _
  · exact decide_eq_true rfl

theorem fresh_own_endpoint_covers :
    ∃ r ids', fresh ids .endpoint (m ++ " " ++ ("https://" ++ h' ++ p')) = .ok (r, ids') ∧
      r.covers idna m ("https://" ++ h' ++ p') = true := by
  have scheme : 'h' ∈ (m ++ " " ++ ("https://" ++ h' ++ p')).toList := by simp [String.toList_append]
  obtain ⟨r, ids', made, covered⟩ := fresh_endpoint_covers_iff idna ids drawn m ("https://" ++ h' ++ p')
    (trim_ne_empty_of_mem scheme (by decide))
  exact ⟨r, ids', made, covered.mpr rfl⟩

end WebAddress

end HeaderAudit.Rule

namespace HeaderAudit
open Address

/-- What freshly made rules say of a request by method `m` to the web address `https://` ++ `host`
++ `path`: when it is covered by a host rule, a prefix path rule, an exact path rule and an
endpoint rule, and that the rules made from its own host, path and request cover it. -/
structure WebCoverage (idna : IdnaLookup) (ids : IdSupply) (m host path : String) : Prop where
  hostRule : ∀ h, HostName h → Unencoded h → Unencoded host → ∃ r ids', Rule.fresh ids .host h = .ok (r, ids') ∧
    (r.covers idna m ("https://" ++ host ++ path) = true ↔ Text.equalFold h host = true)
  prefixRule : ∀ q, ∃ r ids', Rule.fresh ids .path (q ++ "*") = .ok (r, ids') ∧
    (r.covers idna m ("https://" ++ host ++ path) = true ↔ q.toList <+: path.toList)
  pathRule : ∀ p, Text.trim p ≠ "" → p.toList.getLast? ≠ some '*' → ∃ r ids', Rule.fresh ids .path p = .ok (r, ids') ∧
    (r.covers idna m ("https://" ++ host ++ path) = true ↔ path = p)
  endpointRule : ∀ s, Text.trim s ≠ "" → ∃ r ids', Rule.fresh ids .endpoint s = .ok (r, ids') ∧
    (r.covers idna m ("https://" ++ host ++ path) = true ↔ s = m ++ " " ++ ("https://" ++ host ++ path))
  ownHost : ∃ r ids', Rule.fresh ids .host host = .ok (r, ids') ∧ r.covers idna m ("https://" ++ host ++ path) = true
  ownPath : ∃ r ids', Rule.fresh ids .path path = .ok (r, ids') ∧ r.covers idna m ("https://" ++ host ++ path) = true
  ownEndpoint : ∃ r ids', Rule.fresh ids .endpoint (m ++ " " ++ ("https://" ++ host ++ path)) = .ok (r, ids') ∧
    r.covers idna m ("https://" ++ host ++ path) = true

/-- Rules made with fresh ids cover a request to a web address on a host name with a plain path as
their patterns say: a host rule by its name ignoring case when no name has an encoded label, a
path rule by prefix or by equality, and an endpoint rule by the whole request; the rules of the
address's own parts cover it. -/
theorem fresh_rules_cover_web_address (idna : IdnaLookup) (lawful : idna.Lawful) (ids : IdSupply)
    (drawn : ids.source.Fresh) (m : String) {host path : String} (named : HostName host) (plain : WebPath path) :
    WebCoverage idna ids m host path where
  hostRule _ named' unencoded unencoded' :=
    Rule.fresh_host_covers_iff idna ids drawn m lawful named' named plain unencoded unencoded'
  prefixRule q := Rule.fresh_prefix_covers_iff idna ids drawn m q named plain
  pathRule _ kept unstarred := Rule.fresh_path_covers_iff idna ids drawn m named plain kept unstarred
  endpointRule _ kept := Rule.fresh_endpoint_covers_iff idna ids drawn m _ kept
  ownHost := Rule.fresh_own_host_covers idna ids drawn m named plain
  ownPath := Rule.fresh_own_path_covers idna ids drawn m named plain
  ownEndpoint := Rule.fresh_own_endpoint_covers idna ids drawn m

theorem fresh_rules_cover_docs_address :
    IdnaLookup.standard.Lawful ∧ (IdSupply.start .sequential).source.Fresh ∧ HostName "Docs.Example.com" ∧
      WebPath "/guide/a+b" ∧
      WebCoverage .standard (IdSupply.start .sequential) "GET" "Docs.Example.com" "/guide/a+b" :=
  ⟨IdnaLookup.standard_lawful, IdSource.sequential_fresh, by decide, by decide,
    fresh_rules_cover_web_address .standard IdnaLookup.standard_lawful _ IdSource.sequential_fresh "GET" (by decide)
      (by decide)⟩

/-- The host rule `.` covers `https://xn--./`, whose host name is not `.` ignoring case: the
`xn--` label stands for the empty label it encodes. -/
theorem host_rule_covers_encoded_empty_label :
    HostName "." ∧ HostName "xn--." ∧ WebPath "/" ∧ Text.equalFold "." "xn--." = false ∧
      ∃ r ids', Rule.fresh (IdSupply.start .sequential) .host "." = .ok (r, ids') ∧
        r.covers .standard "GET" "https://xn--./" = true := by
  have named : HostName "." := by decide
  have named' : HostName "xn--." := by decide
  have root : WebPath "/" := by decide
  refine ⟨named, named', root, by decide, _, _, Rule.fresh_of_kept _ IdSource.sequential_fresh _ named.trim_ne_empty, ?_⟩
  have spelled : "https://xn--./" = "https://" ++ "xn--." ++ "/" := by decide
  rw [spelled, Rule.covers_web_host .standard rfl named' root]
  decide

end HeaderAudit
