import HeaderAudit.Message.Record
import HeaderAudit.Proofs.Message.Framing
/-!
The address and key of an exchange record, from its request target.
-/

namespace HeaderAudit

def schemeOf (tls : Bool) : String := if tls then "https://" else "http://"

def effectiveHost (req : Request) (serverName : String) : String :=
  ((req.header.value? "Host").filter (· != "")).getD serverName

namespace Record

/-! ### The path of a target -/

theorem targetPath_of_plain {target : String} (plain : Text.contains target "://" = false) :
    targetPath target = target := by
  simp only [targetPath, Text.cut, Text.cutList_eq_none plain, Option.map_none]

theorem cutList_scheme {scheme : List Char} (rest : List Char) (slashless : '/' ∉ scheme) :
    Text.cutList [':', '/', '/'] (scheme ++ ':' :: '/' :: '/' :: rest) = some (scheme, rest) := by
  induction scheme with
  | nil => simpa using Text.cutList_self_append ':' ['/', '/'] rest
  | cons c scheme ih =>
    -- a match here would need a slash right after `c`, inside the scheme or at its colon
    have missed : [':', '/', '/'].isPrefixOf (c :: (scheme ++ ':' :: '/' :: '/' :: rest)) = false := by
      cases scheme with
      | nil => simp [List.isPrefixOf]
      | cons x more =>
        have notSlash : x ≠ '/' := fun same => slashless (same ▸ .tail c List.mem_cons_self)
        simp [List.isPrefixOf, Ne.symm notSlash]
    rw [List.cons_append, Text.cutList_cons_of_unmatched missed,
      ih (fun held => slashless (.tail c held))]
    rfl

theorem indexOfList_append_of_not_mem {d : Char} {a : List Char} (rest : List Char) (missing : d ∉ a) :
    Text.indexOfList [d] (a ++ rest) = (Text.indexOfList [d] rest).map (· + a.length) := by
  induction a with
  | nil => simp
  | cons c a ih =>
    have differ : c ≠ d := fun same => missing (same ▸ List.mem_cons_self)
    have missed : [d].isPrefixOf (c :: (a ++ rest)) = false := by
      simp [List.isPrefixOf, Ne.symm differ]
    rw [List.cons_append, Text.indexOfList, if_neg (by rw [missed]; decide),
      ih (fun held => missing (.tail c held)), Option.map_map]
    congr 1

theorem targetPath_absolute {scheme authority rest : String} (schemeSlashless : '/' ∉ scheme.toList)
    (authoritySlashless : '/' ∉ authority.toList) (pathed : rest = "" ∨ Text.hasPrefix rest "/" = true) :
    targetPath (scheme ++ "://" ++ authority ++ rest) = if rest = "" then "/" else rest := by
  have cut : Text.cut (scheme ++ "://" ++ authority ++ rest) "://" =
      some (scheme, authority ++ rest) := by
    have found := cutList_scheme (authority.toList ++ rest.toList) schemeSlashless
    simp only [Text.cut, String.toList_append, List.append_assoc]
    rw [show "://".toList = [':', '/', '/'] from rfl]
    simp only [List.cons_append, List.nil_append]
    rw [found]
    simp
  unfold targetPath
  rw [cut]
  simp only [String.toList_append]
  rw [indexOfList_append_of_not_mem _ authoritySlashless]
  rcases pathed with rfl | slashed
  · simp [Text.indexOfList]
  · have full : rest ≠ "" := by
      rintro rfl
      exact absurd slashed (by decide)
    have first : Text.indexOfList ['/'] rest.toList = some 0 := by
      obtain ⟨more, joined⟩ := List.isPrefixOf_iff_prefix.mp slashed
      rw [← joined]
      simp [Text.indexOfList, List.isPrefixOf]
    rw [first, if_neg full]
    simp only [Option.map_some, Nat.zero_add, List.drop_left, String.ofList_toList]

/-! ### Records of exchanges -/

theorem ofExchange_eq {req : Request} {resp : Response} (tls : Bool) (serverName : String)
    (named : req.method ≠ "") (hosted : effectiveHost req serverName ≠ "")
    (pathed : targetPath req.target ≠ "") (answered : resp.statusCode ≠ 0) :
    ofExchange req resp tls serverName = some ⟨req.header, resp.header, req.method,
      schemeOf tls ++ effectiveHost req serverName ++ targetPath req.target, resp.statusCode,
      resp.statusLine⟩ := by
  revert hosted
  unfold ofExchange effectiveHost schemeOf
  -- the record reads the `Host` field by cases, where the effective host filters it
  rcases req.header.value? "Host" with _ | h
  · intro hosted
    simp only [Option.filter_none, Option.getD_none] at hosted
    simp [named, hosted, pathed, answered]
  · by_cases empty : h = ""
    · intro hosted
      simp only [empty, Option.filter_some, bne_self_eq_false, Bool.false_eq_true, if_false,
        Option.getD_none] at hosted
      simp [empty, named, hosted, pathed, answered, Option.filter_some]
    · simp [empty, named, pathed, answered, Option.filter_some]

theorem method_ne_of_parse {raw : Bytes} {req : Request} (parsed : Request.parse raw = .ok req) :
    req.method ≠ "" := by
  unfold Request.parse at parsed
  cases split : RawMessage.split raw with
  | error e =>
    rw [split] at parsed
    cases parsed
  | ok m =>
    rw [split] at parsed
    simp only [bind, Except.bind] at parsed
    split at parsed
    · rename_i method target more fields
      cases parsed
      have member : method ∈ Text.fields m.start := by
        rw [fields]
        exact List.mem_cons_self
      obtain ⟨w, held, rfl⟩ := List.mem_map.mp member
      have full := Text.ne_nil_of_mem_fieldsFrom held
      intro empty
      have := congrArg String.length empty
      simp only [Text.upper, String.length_ofList, String.length_toList, List.length_map,
        String.length_empty, List.length_eq_zero_iff] at this
      exact full this
    · cases parsed

end Record

/-- The address of a record follows its request target. For a request read from raw bytes, a
response with a status and a nonempty effective host: an origin-form target holding no `://` follows the
scheme and host whole; an absolute-form target `s://a r`, with no slash in `s` or `a` and `r`
empty or starting with a slash, gives `r`, or `/` for an empty `r`. The key is the method, the
address and the status. -/
theorem record_url_follows_target {raw : Bytes} {req : Request}
    (parsed : Request.parse raw = .ok req) {resp : Response} (answered : resp.statusCode ≠ 0)
    (tls : Bool) (serverName : String) (hosted : effectiveHost req serverName ≠ "") :
    (Text.hasPrefix req.target "/" = true → Text.contains req.target "://" = false →
      ∃ rec, Record.ofExchange req resp tls serverName = some rec ∧
        rec.url = schemeOf tls ++ effectiveHost req serverName ++ req.target ∧
        rec.key = req.method ++ " " ++ rec.url ++ " " ++ toString resp.statusCode) ∧
    ∀ scheme authority rest, req.target = scheme ++ "://" ++ authority ++ rest →
      '/' ∉ scheme.toList → '/' ∉ authority.toList → (rest = "" ∨ Text.hasPrefix rest "/" = true) →
      ∃ rec, Record.ofExchange req resp tls serverName = some rec ∧
        rec.url = schemeOf tls ++ effectiveHost req serverName ++ (if rest = "" then "/" else rest) ∧
        rec.key = req.method ++ " " ++ rec.url ++ " " ++ toString resp.statusCode := by
  have named := Record.method_ne_of_parse parsed
  refine ⟨fun slashed plain => ?_, fun scheme authority rest target schemeSlashless
    authoritySlashless pathed => ?_⟩
  · have path := Record.targetPath_of_plain plain
    have full : req.target ≠ "" := by
      intro empty
      rw [empty] at slashed
      exact absurd slashed (by decide)
    refine ⟨_, Record.ofExchange_eq tls serverName named hosted (by rw [path]; exact full) answered,
      ?_, rfl⟩
    dsimp only
    rw [path]
  · have path := Record.targetPath_absolute schemeSlashless authoritySlashless pathed
    rw [← target] at path
    have full : Record.targetPath req.target ≠ "" := by
      rw [path]
      split
      · decide
      · assumption
    exact ⟨_, Record.ofExchange_eq tls serverName named hosted full answered,
      by rw [← path], rfl⟩

theorem origin_target_with_query_kept :
    Request.parse (Ending.crlf.frame ("GET" ++ " " ++ "/a?b=c" ++ " " ++ "HTTP/1.1") ["Host: a.test"] []) =
        .ok ⟨Text.upper "GET", "/a?b=c", "HTTP/1.1", Header.ofLines ["Host: a.test"], []⟩ ∧
      (200 : Int) ≠ 0 ∧ effectiveHost ⟨Text.upper "GET", "/a?b=c", "HTTP/1.1",
        Header.ofLines ["Host: a.test"], []⟩ "" ≠ "" ∧
      ∃ rec, Record.ofExchange ⟨Text.upper "GET", "/a?b=c", "HTTP/1.1", Header.ofLines ["Host: a.test"], []⟩
          ⟨"HTTP/1.1", 200, "OK", Header.empty, []⟩ false "" = some rec ∧
        rec.url = "http://a.test/a?b=c" ∧ rec.key = "GET http://a.test/a?b=c 200" := by
  have sent : HeaderLine "Host: a.test" := ⟨by decide, by decide, fun c first => by cases first; decide⟩
  have parsed := @parse_request_frame .crlf "GET" "/a?b=c" "HTTP/1.1" [] ["Host: a.test"] (by decide) (by decide) (by decide)
    (fun l held => (List.mem_singleton.mp held) ▸ ⟨sent.nonempty, sent.unbroken⟩) (.inl rfl)
  have hosted : effectiveHost ⟨Text.upper "GET", "/a?b=c", "HTTP/1.1",
      Header.ofLines ["Host: a.test"], []⟩ "" ≠ "" := by decide
  obtain ⟨rec, made, url, key⟩ :=
    (@record_url_follows_target _ _ parsed ⟨"HTTP/1.1", 200, "OK", Header.empty, []⟩
      (by decide) false "" hosted).1 (by decide) (by decide)
  have address : rec.url = "http://a.test/a?b=c" := by
    rw [url]
    decide
  refine ⟨parsed, by decide, hosted, rec, made, address, ?_⟩
  rw [key, address]
  decide

/-- A target in origin form that holds a `://` in its query is read as an absolute one. -/
theorem embedded_address_taken_for_absolute_target :
    (Record.parse (Bytes.ofString "GET /login?next=http://x/home HTTP/1.1\r\nHost: a.test\r\n\r\n")
      (Bytes.ofString "HTTP/1.1 200 OK\r\n\r\n") false "").toOption.map (fun r => (r.url, r.key)) =
      some ("http://a.test/home", "GET http://a.test/home 200") := by
  decide +kernel

end HeaderAudit
