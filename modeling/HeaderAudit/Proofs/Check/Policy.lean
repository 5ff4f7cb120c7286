import HeaderAudit.Proofs.Storage.Keyed
import HeaderAudit.Proofs.Storage.Rows
/-!
The policy table of the standard checks: their statuses and display texts as functions of the fields
they read, and the context they leave.
-/

namespace HeaderAudit

namespace Context

theorem entries_set (c : Context) (key : String) (v : ContextValue) :
    (c.set key v).entries = ResultStore.upsert Prod.fst (key, v) c.entries := by
  unfold set ResultStore.upsert
  split <;> rfl

theorem get?_set_other (c : Context) {key other : String} (v : ContextValue) (differ : key ≠ other) :
    (c.set key v).get? other = c.get? other := by
  unfold get?
  rw [entries_set]
  exact congrArg (Option.map (·.2))
    (ResultStore.find?_upsert_other Prod.fst (key, v) c.entries differ)

theorem text?_set_other (c : Context) {key other : String} (v : ContextValue) (differ : key ≠ other) :
    (c.set key v).text? other = c.text? other := by
  unfold text?
  rw [get?_set_other c v differ]

end Context

namespace Check

/-! ### The status column, check by check -/

theorem judgeFraming_status (csp xfo : String) :
    (judgeFraming csp xfo).status =
      if Text.contains csp "frame-ancestors 'none'" || Text.contains csp "frame-ancestors 'self'" ||
        xfo != "" then .ok else .fail := by
  unfold judgeFraming
  by_cases none : Text.contains csp "frame-ancestors 'none'" = true
  · simp [none, Verdict.pass]
  · by_cases self : Text.contains csp "frame-ancestors 'self'" = true
    · simp [none, self, Verdict.pass]
    · by_cases unset : xfo = ""
      · have unprotected : (Text.contains csp "frame-ancestors 'none'" ||
            Text.contains csp "frame-ancestors 'self'" || xfo != "") = false := by
          simp [none, self, unset]
        rw [if_neg none, if_neg self, if_neg (fun set => set unset), unprotected]
        -- with nothing that protects framing, the verdict fails whether or not a policy is sent
        split <;> rfl
      · simp [none, self, unset, Verdict.pass]

theorem judgeSniffing_status (value : String) :
    (judgeSniffing value).status =
      if Text.equalFold (Text.trim value) "nosniff" then .ok else .fail := by
  unfold judgeSniffing
  dsimp only
  split <;> rfl

theorem judgeTransport_status (value : String) :
    (judgeTransport value).status = if Text.trim value = "" then .fail else .ok := by
  unfold judgeTransport
  dsimp only
  split <;> rfl

theorem judgeContentType_status (ct : String) :
    (judgeContentType ct).status =
      if Text.contains (Text.lower ct) "text/html" && !Text.contains (Text.lower ct) "charset=" then
        .fail else .ok := by
  unfold judgeContentType
  by_cases html : Text.contains (Text.lower ct) "text/html" = true <;>
    by_cases charset : Text.contains (Text.lower ct) "charset=" = true <;>
    simp [html, charset, Verdict.pass, Verdict.failure]

theorem judgeCaching_status (cache pragma : String) :
    (judgeCaching cache pragma).status =
      if Text.contains pragma "no-cache" && cacheDirectives.all (Text.contains cache ·) ||
        cache == "" && pragma == "" then .ok else .warn := by
  unfold judgeCaching
  by_cases secure : Text.contains pragma "no-cache" = true ∧
      cacheDirectives.all (Text.contains cache ·) = true
  · simp [secure, Verdict.pass]
  · by_cases bare : cache = "" ∧ pragma = ""
    · rw [if_neg secure, if_pos bare, if_pos (by simp [bare])]
      rfl
    · rw [if_neg secure, if_neg bare, if_neg (by simpa [← Bool.and_eq_true] using And.intro secure bare)]
      rfl

theorem judgeCookies_status (cookies : List String) :
    (judgeCookies cookies).status = if cookies.all hasSecureAttribute then .ok else .fail := by
  unfold judgeCookies
  by_cases none : cookies = []
  · simp [none, Verdict.pass]
  · simp only [none, if_false]
    split <;> rfl

theorem judgeCors_status (acao : String) (origin : Option String) :
    (judgeCors acao origin).status =
      if acao = "*" then .fail else if acao ≠ "" ∧ origin = some acao then .warn else .ok := by
  unfold judgeCors
  by_cases empty : acao = ""
  · simp [empty, Verdict.pass]
  · by_cases wild : acao = "*"
    · simp [wild]
    · rw [if_neg empty, if_neg wild, if_neg wild]
      cases origin with
      | none => simp [Verdict.pass]
      | some o =>
        -- a repeated origin is nonempty because the value it repeats is
        by_cases same : o = acao
        · simp [same, empty]
        · simp [same, Verdict.pass]

/-! ### The display column, check by check -/

theorem judgeFraming_display (csp xfo : String) :
    (judgeFraming csp xfo).display =
      if Text.contains csp "frame-ancestors 'none'" then "frame-ancestors 'none'"
      else if Text.contains csp "frame-ancestors 'self'" then "frame-ancestors 'self'"
      else if xfo ≠ "" then "X-Frame-Options:" ++ xfo
      else if csp = "" then "(none)" else csp := by
  unfold judgeFraming
  split_ifs <;> rfl

theorem judgeSniffing_display (value : String) :
    (judgeSniffing value).display = if Text.equalFold (Text.trim value) "nosniff" then "nosniff" else "(none)" := by
  unfold judgeSniffing
  dsimp only
  split <;> rfl

theorem judgeTransport_display (value : String) :
    (judgeTransport value).display =
      if Text.trim value = "" then "(none)" else "Strict-Transport-Security: " ++ Text.trim value := by
  unfold judgeTransport
  dsimp only
  split <;> rfl

theorem judgeContentType_display (ct : String) :
    (judgeContentType ct).display =
      if Text.contains (Text.lower ct) "text/html" && !Text.contains (Text.lower ct) "charset=" then
        "No charset" else ct := by
  unfold judgeContentType
  by_cases html : Text.contains (Text.lower ct) "text/html" = true <;>
    by_cases charset : Text.contains (Text.lower ct) "charset=" = true <;>
    simp [html, charset, Verdict.pass, Verdict.failure]

theorem judgeCaching_display (cache pragma : String) :
    (judgeCaching cache pragma).display =
      if cache = "" ∧ pragma = "" then "No Cache-Control or Pragma" else cache := by
  unfold judgeCaching
  by_cases secure : Text.contains pragma "no-cache" = true ∧
      cacheDirectives.all (Text.contains cache ·) = true
  · -- a pragma that names `no-cache` was sent
    have sent : ¬ (cache = "" ∧ pragma = "") := by
      rintro ⟨-, rfl⟩
      exact absurd secure.1 (by decide)
    rw [if_pos secure, if_neg sent]
    rfl
  · rw [if_neg secure]
    split <;> rfl

theorem judgeCookies_display (cookies : List String) :
    (judgeCookies cookies).display =
      if cookies = [] then "No cookies" else "; ".intercalate (cookies.map (truncate 100)) := by
  unfold judgeCookies
  split
  · rfl
  · dsimp only
    split <;> rfl

theorem judgeCors_display (acao : String) (origin : Option String) :
    (judgeCors acao origin).display = if acao = "" then "No CORS" else acao := by
  unfold judgeCors
  by_cases empty : acao = ""
  · simp [empty, Verdict.pass]
  · rw [if_neg empty, if_neg empty]
    split
    · rfl
    · cases origin with
      | none => rfl
      | some o => dsimp only; split <;> rfl

/-! ### One run of the standard registry -/

def setCookies : Option Header → List String
  | some h => h.values "Set-Cookie"
  | none => []

theorem judge_cookies (h : Option Header) (ctx : Option Context) :
    cookies.judge h ctx =
      (judgeCookies (setCookies h), Context.setIn ctx Context.cookiesKey (.texts (setCookies h))) := by
  cases h <;> rfl

end Check

open Check

/-- The verdicts of the standard checks, keyed by check name in the registry's order, from the
first value `v` of each field, every `Set-Cookie` value and the request's origin. -/
def policyVerdicts (v : String → String) (cookies : List String) (origin : Option String) :
    List (String × Verdict) :=
  [("Content-Security-Policy", judgeFraming (v "Content-Security-Policy") (v "X-Frame-Options")),
   ("XSS Protection", judgeSniffing (v "X-Content-Type-Options")),
   ("HSTS", judgeTransport (v "Strict-Transport-Security")),
   ("Content-Type", judgeContentType (v "Content-Type")),
   ("Cache-Control", judgeCaching (v "Cache-Control") (v "Pragma")),
   ("Cookies", judgeCookies cookies),
   ("CORS", judgeCors (v "Access-Control-Allow-Origin") origin)]

/-- The status column of the policy table. Framing passes with `frame-ancestors 'none'` or
`'self'` in the policy or with any `X-Frame-Options`; sniffing with `nosniff` after trimming, in
any case; transport security with any nonblank value; a content type fails only when it is HTML
with no `charset=`; caching passes with `Pragma: no-cache` and every cache directive or with
neither field, and otherwise only warns; cookies pass when each is `Secure`; cross-origin access
fails for `*` and warns when it repeats the request's origin. -/
def policyStatuses (v : String → String) (cookies : List String) (origin : Option String) :
    List (String × Status) :=
  let csp := v "Content-Security-Policy"
  let contentType := Text.lower (v "Content-Type")
  let cache := v "Cache-Control"
  let pragma := v "Pragma"
  let acao := v "Access-Control-Allow-Origin"
  [("Content-Security-Policy",
      if Text.contains csp "frame-ancestors 'none'" || Text.contains csp "frame-ancestors 'self'" ||
        v "X-Frame-Options" != "" then .ok else .fail),
   ("XSS Protection",
      if Text.equalFold (Text.trim (v "X-Content-Type-Options")) "nosniff" then .ok else .fail),
   ("HSTS", if Text.trim (v "Strict-Transport-Security") = "" then .fail else .ok),
   ("Content-Type",
      if Text.contains contentType "text/html" && !Text.contains contentType "charset=" then .fail
      else .ok),
   ("Cache-Control",
      if Text.contains pragma "no-cache" && cacheDirectives.all (Text.contains cache ·) ||
        cache == "" && pragma == "" then .ok else .warn),
   ("Cookies", if cookies.all hasSecureAttribute then .ok else .fail),
   ("CORS", if acao = "*" then .fail else if acao ≠ "" ∧ origin = some acao then .warn else .ok)]

/-- The display column of the policy table. It does not read the request's origin, and caching
shows the cache directives whenever either field was sent. -/
def policyDisplays (v : String → String) (cookies : List String) : List (String × String) :=
  let csp := v "Content-Security-Policy"
  let xfo := v "X-Frame-Options"
  let hsts := Text.trim (v "Strict-Transport-Security")
  let contentType := Text.lower (v "Content-Type")
  let acao := v "Access-Control-Allow-Origin"
  [("Content-Security-Policy",
      if Text.contains csp "frame-ancestors 'none'" then "frame-ancestors 'none'"
      else if Text.contains csp "frame-ancestors 'self'" then "frame-ancestors 'self'"
      else if xfo ≠ "" then "X-Frame-Options:" ++ xfo
      else if csp = "" then "(none)" else csp),
   ("XSS Protection",
      if Text.equalFold (Text.trim (v "X-Content-Type-Options")) "nosniff" then "nosniff" else "(none)"),
   ("HSTS", if hsts = "" then "(none)" else "Strict-Transport-Security: " ++ hsts),
   ("Content-Type",
      if Text.contains contentType "text/html" && !Text.contains contentType "charset=" then "No charset"
      else v "Content-Type"),
   ("Cache-Control",
      if v "Cache-Control" = "" ∧ v "Pragma" = "" then "No Cache-Control or Pragma" else v "Cache-Control"),
   ("Cookies", if cookies = [] then "No cookies" else "; ".intercalate (cookies.map (truncate 100))),
   ("CORS", if acao = "" then "No CORS" else acao)]

theorem displays_policyVerdicts (v : String → String) (cookies : List String)
    (origin : Option String) :
    (policyVerdicts v cookies origin).map (fun e => (e.1, e.2.display)) = policyDisplays v cookies := by
  simp only [policyVerdicts, policyDisplays, List.map_cons, List.map_nil, judgeFraming_display,
    judgeSniffing_display, judgeTransport_display, judgeContentType_display, judgeCaching_display,
    judgeCookies_display, judgeCors_display]

theorem statuses_policyVerdicts (v : String → String) (cookies : List String)
    (origin : Option String) :
    (policyVerdicts v cookies origin).map (fun e => (e.1, e.2.status)) =
      policyStatuses v cookies origin := by
  simp only [policyVerdicts, policyStatuses, List.map_cons, List.map_nil, judgeFraming_status,
    judgeSniffing_status, judgeTransport_status, judgeContentType_status, judgeCaching_status,
    judgeCookies_status, judgeCors_status]

theorem policyStatuses_valid (v : String → String) (cookies : List String) (origin : Option String) :
    ∀ p ∈ policyStatuses v cookies origin, p.2.isValid = true := by
  intro p member
  simp only [policyStatuses, List.mem_cons, List.not_mem_nil, or_false] at member
  -- each row chooses among passing, warning and failing
  rcases member with rfl | rfl | rfl | rfl | rfl | rfl | rfl <;> dsimp only <;>
    split <;> first | rfl | (split <;> rfl)

theorem standard_evaluate (h : Option Header) (ctx : Option Context) :
    Registry.standard.evaluate h ctx =
      (⟨policyVerdicts (fieldValue h) (setCookies h) ((ctx.getD .empty).text? Context.originKey)⟩,
        ((ctx.getD .empty).set Context.cspKey (.text (fieldValue h "Content-Security-Policy"))).set
          Context.cookiesKey (.texts (setCookies h))) := by
  -- the two checks that write to the context write keys other than the origin's
  have origin : (((ctx.getD .empty).set Context.cspKey (.text (fieldValue h "Content-Security-Policy"))).set
      Context.cookiesKey (.texts (setCookies h))).text? Context.originKey =
      (ctx.getD .empty).text? Context.originKey := by
    rw [Context.text?_set_other _ _ (by decide), Context.text?_set_other _ _ (by decide)]
  simp only [Registry.evaluate, Registry.standard, Registry.judgeAll, judge_cookies]
  simp only [judge, Context.setIn, Option.map_some, Option.getD_some, Option.bind_some, origin]
  simp [Results.put, Results.empty, policyVerdicts, name]

/-- Judging any header, or none, under any seeded context, or none, with the standard registry
gives the policy table: one verdict per standard check in the registry's order, computed from the
fields' first values, every cookie and the seeded origin, each with the status and the display the
table gives; the context ends as the seeded one with the policy text and the cookies set. -/
theorem standard_checks_follow_policy (h : Option Header) (ctx : Option Context) :
    (Registry.standard.evaluate h ctx).1.entries =
        policyVerdicts (fieldValue h) (setCookies h) ((ctx.getD .empty).text? Context.originKey) ∧
      (Registry.standard.evaluate h ctx).1.entries.map (fun e => (e.1, e.2.status)) =
        policyStatuses (fieldValue h) (setCookies h) ((ctx.getD .empty).text? Context.originKey) ∧
      (Registry.standard.evaluate h ctx).1.entries.map (fun e => (e.1, e.2.display)) =
        policyDisplays (fieldValue h) (setCookies h) ∧
      (∀ e ∈ (Registry.standard.evaluate h ctx).1.entries, e.2.isValid = true) ∧
      (Registry.standard.evaluate h ctx).2 =
        ((ctx.getD .empty).set Context.cspKey (.text (fieldValue h "Content-Security-Policy"))).set
          Context.cookiesKey (.texts (setCookies h)) := by
  rw [standard_evaluate]
  refine ⟨rfl, statuses_policyVerdicts _ _ _, displays_policyVerdicts _ _ _, fun e member => ?_, rfl⟩
  have listed : (e.1, e.2.status) ∈ policyStatuses (fieldValue h) (setCookies h)
      ((ctx.getD .empty).text? Context.originKey) := by
    rw [← statuses_policyVerdicts]
    exact List.mem_map_of_mem member
  exact policyStatuses_valid _ _ _ _ listed

example : Option.map (·.status) ((Registry.standard.evaluate
    (some (Header.ofLines ["Access-Control-Allow-Origin: https://a.test"]))
    (some (Context.withOrigin "https://a.test"))).1.get? "CORS") = some .warn := by
  decide

end HeaderAudit
