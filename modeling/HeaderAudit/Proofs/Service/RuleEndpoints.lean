import HeaderAudit.Service.Api
import HeaderAudit.Runtime.Standard
import HeaderAudit.Proofs.Exclusion.Refinement
import HeaderAudit.Proofs.Text.Hex
import HeaderAudit.Proofs.Service.Routing
/-!
The web service's exclusion endpoints change the rules as the store's own operations do, with
statuses that follow from the request and the rules.
-/

namespace HeaderAudit

/-- A stored form that the store is never asked about: an unknown type, an id given but blank,
or a blank pattern. -/
def RuleSpec.Malformed (spec : RuleSpec) : Prop :=
  (RuleKind.parse spec.kind).toOption = none ∨ (spec.id ≠ "" ∧ Text.trim spec.id = "") ∨
    Text.trim spec.pattern = ""

instance (spec : RuleSpec) : Decidable spec.Malformed :=
  inferInstanceAs (Decidable (_ ∨ _))

def RuleSpec.ruleId (spec : RuleSpec) (ids : IdSupply) : String :=
  if spec.id = "" then ids.fresh.1 else spec.id

namespace Service

/-- A request to the exclusion endpoints, by what it asks: its body as sent, and the id as the
router reads it from the path, never empty. -/
inductive RuleRequest where
  | list
  | create (body : String)
  | clear
  | check (body : String)
  | get (id : String) (named : id ≠ "")
  | update (id : String) (named : id ≠ "") (body : String)
  | delete (id : String) (named : id ≠ "")

namespace RuleRequest

def method : RuleRequest → String
  | list | get .. => "GET"
  | create _ | check _ => "POST"
  | clear | delete .. => "DELETE"
  | update .. => "PUT"

def path : RuleRequest → List String
  | list | create _ | clear => ["exclusions"]
  | check _ => ["exclusions", "check"]
  | get id _ | update id _ _ | delete id _ => ["exclusions", id]

def body? : RuleRequest → Option String
  | create body | check body | update _ _ body => some body
  | _ => none

def route : RuleRequest → Route
  | list | create _ | clear => .rules
  | check _ => .ruleCheck
  | get id _ | update id _ _ | delete id _ => .rule id

/-- A request received is this request when the router reads its method and path as this
request's, and it carries this request's body. -/
structure MadeBy (q : RuleRequest) (req : Incoming) : Prop where
  method : req.method = q.method
  routes : routesOfRequest req = routesOf q.path
  body : ∀ b, q.body? = some b → req.body = b

/-- The status a request is answered with: `400` for a body that does not decode, an unknown
type, a blank id or a blank pattern; `404` for an id no rule has; `409` for an id a rule has
already; else `201` for a created rule, `204` for a deletion or clearing and `200` otherwise. -/
def status (s : RuleStore) : RuleRequest → Int
  | list => 200
  | create body =>
    match decodeBody RuleSpec.ofJson body with
    | none => 400
    | some spec =>
      if spec.Malformed then 400
      else if ∃ x ∈ s.rules, x.id = spec.ruleId s.ids then 409
      else 201
  | clear => 204
  | check body => if (decodeBody Probe.ofJson body).isSome then 200 else 400
  | get id _ => if ∃ x ∈ s.rules, x.id = id then 200 else 404
  | update id _ body =>
    match decodeBody RuleSpec.ofJson body with
    | none => 400
    | some spec =>
      if (RuleKind.parse spec.kind).toOption = none ∨ Text.trim id = "" ∨
          Text.trim spec.pattern = "" then 400
      else if ∃ x ∈ s.rules, x.id = id then 200
      else 404
  | delete id _ => if ∃ x ∈ s.rules, x.id = id then 204 else 404

/-- The store after the operation a request asks of it: adding the rule of the stored form,
updating or removing the rule with the id, or clearing; reads change nothing. -/
def reference (s : RuleStore) : RuleRequest → RuleStore
  | create body =>
    match decodeBody RuleSpec.ofJson body with
    | some spec =>
      match spec.toRule s.ids with
      | .ok (r, ids) => ({ s with ids := ids }.add r).store
      | .error _ => s
    | none => s
  | clear => s.clear.store
  | update id _ body =>
    match decodeBody RuleSpec.ofJson body with
    | some spec =>
      match RuleKind.parse spec.kind with
      | .ok k => (s.update id k.code spec.pattern).store
      | .error _ => s
    | none => s
  | delete id _ => (s.remove id).store
  | _ => s

/-- The bodies a request is answered with where they are fixed: the rules as a JSON array for a
listing, and whether a rule covers the endpoint for a test, host names looked up by `idna`. -/
def shown (idna : IdnaLookup) (s : RuleStore) : RuleRequest → Option String
  | list => some ((Json.arr (s.rules.map Rule.toJson)).render ++ "\n")
  | check body =>
    (decodeBody Probe.ofJson body).map fun p =>
      (Json.obj [("excluded", .bool (s.excludes idna p.method p.url))]).render ++ "\n"
  | _ => none

end RuleRequest

/-- What answering a request does to the rules: the reply's status is the request's, the rules
are the store operation's when it succeeds and stay otherwise, fixed bodies are sent, and fresh
ids still come from the same source. -/
structure Answered (idna : IdnaLookup) (s : RuleStore) (q : RuleRequest) (reply : Reply) (s' : RuleStore) :
    Prop where
  status : reply.status = q.status s
  rules : s'.rules =
    if 200 ≤ reply.status ∧ reply.status < 300 then (q.reference s).rules else s.rules
  shown : ∀ b, q.shown idna s = some b → reply.body = b
  source : s'.ids.source = s.ids.source


section Store

theorem statusFor_faults (e : Error) : statusFor e = statusFor ⟨e.faults, ""⟩ := rfl

theorem statusFor_ofFault (f : Fault) : statusFor (Error.ofFault f) = statusFor ⟨[f], ""⟩ := rfl

theorem statusFor_withDetail (f : Fault) (detail : String) :
    statusFor (Error.withDetail f detail) = statusFor ⟨[f], ""⟩ := rfl

theorem statusFor_blankId : statusFor (Error.ofFault .blankId) = 400 := by
  rw [statusFor_ofFault]
  decide

theorem statusFor_blankPattern : statusFor (Error.ofFault .blankPattern) = 400 := by
  rw [statusFor_ofFault]
  decide

theorem statusFor_ruleNotFound (id : String) :
    statusFor (Error.withDetail .ruleNotFound id) = 404 := by
  rw [statusFor_withDetail]
  decide

theorem statusFor_duplicateRule (id : String) :
    statusFor (Error.withDetail .duplicateRule id) = 409 := by
  rw [statusFor_withDetail]
  decide

theorem faults_of_parse_error {text : String} {e : Error} (refused : RuleKind.parse text = .error e) :
    e.faults = [.unknownRuleType] := by
  dsimp only [RuleKind.parse] at refused
  split at refused
  · cases refused
  split at refused
  · cases refused
  split at refused
  · cases refused
  · cases refused
    rfl

theorem RuleSpec.toRule_cases (spec : RuleSpec) (ids : IdSupply) (drawn : ids.source.Fresh) :
    (∃ e, spec.toRule ids = .error e ∧ statusFor e = 400 ∧ spec.Malformed) ∨
      ∃ r ids', spec.toRule ids = .ok (r, ids') ∧ ¬ spec.Malformed ∧ r.id = spec.ruleId ids := by
  cases kind : RuleKind.parse spec.kind with
  | error e =>
    have faults := faults_of_parse_error kind
    refine .inl ⟨e, by simp [RuleSpec.toRule, kind, bind, Except.bind], ?_, .inl ?_⟩
    · rw [statusFor_faults, faults]
      decide
    · simp [kind, Except.toOption]
  | ok k =>
    have typed : (RuleKind.parse spec.kind).toOption ≠ none := by simp [kind, Except.toOption]
    by_cases fresh : spec.id = ""
    · -- the rule takes the next fresh id, which is never blank
      have made : spec.toRule ids =
          (Rule.make (ids.source.draw ids.next) k.code spec.pattern).map (·, ⟨ids.source, ids.next + 1⟩) := by
        simp [RuleSpec.toRule, kind, fresh, Rule.fresh, IdSupply.fresh, bind, Except.bind]
      rw [made, Rule.make_code, if_neg (drawn.nonblank _)]
      by_cases blank : Text.trim spec.pattern = ""
      · rw [if_pos blank]
        exact .inl ⟨_, rfl, statusFor_blankPattern, .inr (.inr blank)⟩
      · rw [if_neg blank]
        refine .inr ⟨_, _, rfl, ?_, by simp [RuleSpec.ruleId, fresh, IdSupply.fresh]⟩
        simp [RuleSpec.Malformed, typed, fresh, blank]
    · have made : spec.toRule ids = (Rule.make spec.id k.code spec.pattern).map (·, ids) := by
        simp [RuleSpec.toRule, kind, fresh, bind, Except.bind]
      rw [made, Rule.make_code]
      by_cases blankId : Text.trim spec.id = ""
      · rw [if_pos blankId]
        exact .inl ⟨_, rfl, statusFor_blankId, .inr (.inl ⟨fresh, blankId⟩)⟩
      · rw [if_neg blankId]
        by_cases blank : Text.trim spec.pattern = ""
        · rw [if_pos blank]
          exact .inl ⟨_, rfl, statusFor_blankPattern, .inr (.inr blank)⟩
        · rw [if_neg blank]
          refine .inr ⟨_, _, rfl, ?_, by simp [RuleSpec.ruleId, fresh]⟩
          simp [RuleSpec.Malformed, typed, blankId, blank]

theorem update_code (s : RuleStore) (id : String) (k : RuleKind) (pattern : String) :
    s.update id k.code pattern =
      if Text.trim id = "" then s.refuse (Error.ofFault .blankId)
      else if Text.trim pattern = "" then s.refuse (Error.ofFault .blankPattern)
      else if ∃ x ∈ s.rules, x.id = id then
        s.publish (s.rules.map fun x => if x.id == id then ⟨id, k, pattern⟩ else x) ⟨id, k, pattern⟩
      else s.refuse (Error.withDetail .ruleNotFound id) := by
  unfold RuleStore.update
  rw [Rule.make_code]
  by_cases blankId : Text.trim id = ""
  · rw [if_pos blankId, if_pos blankId]
  · rw [if_neg blankId, if_neg blankId]
    by_cases blank : Text.trim pattern = ""
    · rw [if_pos blank, if_pos blank]
    · rw [if_neg blank, if_neg blank]
      simp only [RuleStore.any_id_iff]

theorem remove_eq (s : RuleStore) (id : String) :
    s.remove id =
      if ∃ x ∈ s.rules, x.id = id then s.publish (s.rules.filter (·.id != id)) ()
      else s.refuse (Error.withDetail .ruleNotFound id) := by
  simp only [RuleStore.remove, RuleStore.any_id_iff]

end Store

namespace Server

variable {α : Type} (s : Server) (store : RuleStore) (status : Int) (render : α → Json)

theorem ruleChange_refuse (e : Error) :
    (s.ruleChange (store.refuse e) status render).1.status = statusFor e ∧
      (s.ruleChange (store.refuse e) status render).2.app.rules = store :=
  ⟨rfl, rfl⟩

theorem ruleChange_publish (rules : List Rule) (a : α) :
    (s.ruleChange (store.publish rules a) status render).1.status = status ∧
      (s.ruleChange (store.publish rules a) status render).2.app.rules = { store with rules := rules } := by
  refine ⟨?_, rfl⟩
  by_cases empty : status = 204
  · simp [Server.ruleChange, RuleStore.publish, empty, emptyReply]
  · simp [Server.ruleChange, RuleStore.publish, empty, jsonReply]

end Server


namespace RuleRequest

theorem known_method (q : RuleRequest) : knownMethods.contains q.method = true := by
  cases q <;> simp only [method] <;> decide

theorem find_route (q : RuleRequest) :
    (routesOf q.path).find? (·.methods.contains q.method) = some q.route := by
  cases q
  case get id named | update id named body | delete id named =>
    by_cases test : id = "check"
    · subst test
      simp [path, method, route, routesOf, Route.methods]
    · simp [path, method, route, routesOf, test, named, Route.methods]
  all_goals simp [path, method, route, routesOf, Route.methods]

end RuleRequest

namespace Answered

variable {s s' : RuleStore} {q : RuleRequest} {reply : Reply}

theorem rules_of_success (code : Int) (status : reply.status = code) (success : 200 ≤ code ∧ code < 300)
    (after : s'.rules = (q.reference s).rules) :
    s'.rules = if 200 ≤ reply.status ∧ reply.status < 300 then (q.reference s).rules else s.rules := by
  rw [status, if_pos success, after]

theorem rules_of_failure (code : Int) (status : reply.status = code)
    (failure : ¬ (200 ≤ code ∧ code < 300)) (after : s'.rules = s.rules) :
    s'.rules = if 200 ≤ reply.status ∧ reply.status < 300 then (q.reference s).rules else s.rules := by
  rw [status, if_neg failure, after]

end Answered

namespace Server

variable {σ : Type} (s : Server) (rt : Runtime) (t : Transport σ) (req : Incoming) (net : σ)

theorem handle_eq_serve (routed : rt.router.Lawful) {q : RuleRequest} (made : q.MadeBy req) :
    s.handle rt t req net = s.serve rt t req q.route net := by
  have known : knownMethods.contains req.method = true := by
    rw [made.method]
    exact q.known_method
  have first : (routesOfRequest req).find? (·.methods.contains req.method) = some q.route := by
    rw [made.routes, made.method]
    exact q.find_route
  exact handle_serves s rt t req net routed known first

theorem answered_list (get : req.method = "GET") :
    Answered rt.idna s.app.rules .list (s.serve rt t req .rules net).1 (s.serve rt t req .rules net).2.1.app.rules := by
  have served : s.serve rt t req .rules net =
      (jsonReply 200 (.arr (s.app.rules.rules.map Rule.toJson)), s, net) := by
    simp only [Server.serve, get]
    rfl
  rw [served]
  refine ⟨rfl, Answered.rules_of_success 200 rfl (by decide) rfl, ?_, rfl⟩
  intro b shown
  simp only [RuleRequest.shown, Option.some.injEq] at shown
  rw [← shown]
  rfl


theorem answered_clear (delete : req.method = "DELETE") :
    Answered rt.idna s.app.rules .clear (s.serve rt t req .rules net).1
      (s.serve rt t req .rules net).2.1.app.rules := by
  have served : s.serve rt t req .rules net =
      ((s.ruleChange (s.app.rules.publish [] ()) 204 fun _ => .null).1,
        (s.ruleChange (s.app.rules.publish [] ()) 204 fun _ => .null).2, net) := by
    simp only [Server.serve, delete]
    rfl
  obtain ⟨status, after⟩ := ruleChange_publish s s.app.rules 204 (fun _ => .null) [] ()
  rw [served]
  exact ⟨status, Answered.rules_of_success 204 status (by decide) (by rw [after]; rfl),
    (fun b shown => by cases shown), by rw [after]⟩

theorem answered_check (post : req.method = "POST") (body : String) (carried : req.body = body) :
    Answered rt.idna s.app.rules (.check body) (s.serve rt t req .ruleCheck net).1
      (s.serve rt t req .ruleCheck net).2.1.app.rules := by
  cases decoded : decodeBody Probe.ofJson body with
  | none =>
    have served : s.serve rt t req .ruleCheck net = (invalidBody, s, net) := by
      simp only [Server.serve, post, carried, decoded]
      rfl
    rw [served]
    refine ⟨by simp [RuleRequest.status, decoded, invalidBody, failureReply, jsonReply],
      Answered.rules_of_failure 400 rfl (by decide) rfl, ?_, rfl⟩
    intro b shown
    simp [RuleRequest.shown, decoded] at shown
  | some p =>
    have served : s.serve rt t req .ruleCheck net =
        (jsonReply 200 (.obj [("excluded", .bool (s.app.rules.excludes rt.idna p.method p.url))]), s, net) := by
      simp only [Server.serve, post, carried, decoded]
      rfl
    rw [served]
    refine ⟨by simp [RuleRequest.status, decoded, jsonReply],
      Answered.rules_of_success 200 rfl (by decide) rfl, ?_, rfl⟩
    intro b shown
    simp only [RuleRequest.shown, decoded, Option.map_some, Option.some.injEq] at shown
    rw [← shown]
    rfl

theorem get?_isSome_iff (rules : RuleStore) (id : String) :
    (rules.get? id).isSome ↔ ∃ x ∈ rules.rules, x.id = id := by
  simp [RuleStore.get?, List.find?_isSome]

theorem answered_get (get : req.method = "GET") (id : String) (named : id ≠ "") :
    Answered rt.idna s.app.rules (.get id named) (s.serve rt t req (.rule id) net).1
      (s.serve rt t req (.rule id) net).2.1.app.rules := by
  cases found : s.app.rules.get? id with
  | none =>
    have served : s.serve rt t req (.rule id) net = (failureReply 404 (Fault.text .ruleNotFound), s, net) := by
      simp +decide only [Server.serve, get, found, reduceIte]
    rw [served]
    have missing : ¬ ∃ x ∈ s.app.rules.rules, x.id = id := by
      rw [← get?_isSome_iff, found]
      simp
    refine ⟨by simp [RuleRequest.status, missing, failureReply, jsonReply],
      Answered.rules_of_failure 404 rfl (by decide) rfl, (fun b shown => by cases shown), rfl⟩
  | some r =>
    have served : s.serve rt t req (.rule id) net = (jsonReply 200 r.toJson, s, net) := by
      simp +decide only [Server.serve, get, found, reduceIte]
    rw [served]
    have listed : ∃ x ∈ s.app.rules.rules, x.id = id := by
      rw [← get?_isSome_iff, found]
      rfl
    refine ⟨by simp [RuleRequest.status, listed, jsonReply],
      Answered.rules_of_success 200 rfl (by decide) rfl, (fun b shown => by cases shown), rfl⟩

theorem answered_delete (delete : req.method = "DELETE") (id : String) (named : id ≠ "") :
    Answered rt.idna s.app.rules (.delete id named) (s.serve rt t req (.rule id) net).1
      (s.serve rt t req (.rule id) net).2.1.app.rules := by
  have served : s.serve rt t req (.rule id) net =
      ((s.ruleChange (s.app.rules.remove id) 204 fun _ => .null).1,
        (s.ruleChange (s.app.rules.remove id) 204 fun _ => .null).2, net) := by
    simp only [Server.serve, delete]
    rfl
  rw [served, remove_eq]
  by_cases listed : ∃ x ∈ s.app.rules.rules, x.id = id
  · simp only [if_pos listed]
    obtain ⟨status, after⟩ := ruleChange_publish s s.app.rules 204 (fun _ => .null)
      (s.app.rules.rules.filter (·.id != id)) ()
    refine ⟨by rw [status]; simp [RuleRequest.status, listed],
      Answered.rules_of_success 204 status (by decide) ?_, (fun b shown => by cases shown), by rw [after]⟩
    rw [after, RuleRequest.reference, remove_eq, if_pos listed]
    rfl
  · simp only [if_neg listed]
    obtain ⟨status, after⟩ := ruleChange_refuse s s.app.rules 204 (fun _ => .null)
      (Error.withDetail .ruleNotFound id)
    rw [statusFor_ruleNotFound] at status
    refine ⟨by rw [status]; simp [RuleRequest.status, listed],
      Answered.rules_of_failure 404 status (by decide) (by rw [after]), (fun b shown => by cases shown), by rw [after]⟩

theorem answered_create (drawn : s.app.rules.ids.source.Fresh) (post : req.method = "POST") (body : String)
    (carried : req.body = body) :
    Answered rt.idna s.app.rules (.create body) (s.serve rt t req .rules net).1
      (s.serve rt t req .rules net).2.1.app.rules := by
  have notOptions : ¬ ("POST" = "OPTIONS") := by decide
  simp only [Server.serve, post, carried, if_neg notOptions]
  cases decoded : decodeBody RuleSpec.ofJson body with
  | none =>
    refine ⟨by simp [RuleRequest.status, decoded, invalidBody, failureReply, jsonReply],
      Answered.rules_of_failure 400 rfl (by decide) rfl, (fun b shown => by cases shown), rfl⟩
  | some spec =>
    rcases RuleSpec.toRule_cases spec s.app.rules.ids drawn with
      ⟨e, refused, bad, malformed⟩ | ⟨r, ids, made, wellMade, named⟩
    · simp only [refused]
      refine ⟨by simp [RuleRequest.status, decoded, malformed, errorReply, failureReply, jsonReply, bad],
        Answered.rules_of_failure 400 bad (by decide) rfl, (fun b shown => by cases shown), rfl⟩
    · simp only [made]
      have nonblank : r.id ≠ "" := fun blank => (RuleSpec.toRule_wellFormed made).1 (by rw [blank]; rfl)
      have reference : (RuleRequest.create body).reference s.app.rules =
          ({ s.app.rules with ids := ids }.add r).store := by
        simp [RuleRequest.reference, decoded, made]
      -- the rule's id is the form's own or the fresh one, so the store's test is the status's
      rcases RuleStore.add_cases_of_named { s.app.rules with ids := ids } nonblank with
        ⟨listed, added⟩ | ⟨unlisted, added⟩
      · rw [added]
        obtain ⟨status, after⟩ := ruleChange_refuse s { s.app.rules with ids := ids } 201
          (fun _ => r.toJson) (Error.withDetail .duplicateRule r.id)
        rw [statusFor_duplicateRule] at status
        rw [named] at listed
        refine ⟨by rw [status]; simp [RuleRequest.status, decoded, wellMade, listed],
          Answered.rules_of_failure 409 status (by decide) (by rw [after]), (fun b shown => by cases shown),
            by rw [after]; exact RuleSpec.toRule_source made⟩
      · rw [added]
        obtain ⟨status, after⟩ := ruleChange_publish s { s.app.rules with ids := ids } 201
          (fun _ => r.toJson) (s.app.rules.rules ++ [r]) ()
        rw [named] at unlisted
        refine ⟨by rw [status]; simp [RuleRequest.status, decoded, wellMade, unlisted],
          Answered.rules_of_success 201 status (by decide) ?_, (fun b shown => by cases shown),
            by rw [after]; exact RuleSpec.toRule_source made⟩
        rw [after, reference, added]
        rfl

theorem answered_update (put : req.method = "PUT") (id : String) (named : id ≠ "") (body : String)
    (carried : req.body = body) :
    Answered rt.idna s.app.rules (.update id named body) (s.serve rt t req (.rule id) net).1
      (s.serve rt t req (.rule id) net).2.1.app.rules := by
  have notOptions : ¬ ("PUT" = "OPTIONS") := by decide
  simp only [Server.serve, put, carried, if_neg notOptions]
  cases decoded : decodeBody RuleSpec.ofJson body with
  | none =>
    refine ⟨by simp [RuleRequest.status, decoded, invalidBody, failureReply, jsonReply],
      Answered.rules_of_failure 400 rfl (by decide) rfl, (fun b shown => by cases shown), rfl⟩
  | some spec =>
    cases kind : RuleKind.parse spec.kind with
    | error e =>
      simp only [kind]
      have bad : statusFor e = 400 := by
        rw [statusFor_faults, faults_of_parse_error kind]
        decide
      have unknown : (RuleKind.parse spec.kind).toOption = none := by simp [kind, Except.toOption]
      refine ⟨by simp [RuleRequest.status, decoded, unknown, errorReply, failureReply, jsonReply, bad],
        Answered.rules_of_failure 400 bad (by decide) rfl, (fun b shown => by cases shown), rfl⟩
    | ok k =>
      simp only [kind]
      have typed : (RuleKind.parse spec.kind).toOption ≠ none := by simp [kind, Except.toOption]
      have reference : (RuleRequest.update id named body).reference s.app.rules =
          (s.app.rules.update id k.code spec.pattern).store := by
        simp [RuleRequest.reference, decoded, kind]
      rw [update_code] at reference ⊢
      -- the id is checked first, then the pattern, then that a rule has the id
      by_cases blankId : Text.trim id = ""
      · simp only [if_pos blankId]
        obtain ⟨status, after⟩ := ruleChange_refuse s s.app.rules 200 Rule.toJson
          (Error.ofFault .blankId)
        rw [statusFor_blankId] at status
        refine ⟨by rw [status]; simp [RuleRequest.status, decoded, blankId],
          Answered.rules_of_failure 400 status (by decide) (by rw [after]), (fun b shown => by cases shown), by rw [after]⟩
      by_cases blank : Text.trim spec.pattern = ""
      · simp only [if_neg blankId, if_pos blank]
        obtain ⟨status, after⟩ := ruleChange_refuse s s.app.rules 200 Rule.toJson
          (Error.ofFault .blankPattern)
        rw [statusFor_blankPattern] at status
        refine ⟨by rw [status]; simp [RuleRequest.status, decoded, blank],
          Answered.rules_of_failure 400 status (by decide) (by rw [after]), (fun b shown => by cases shown), by rw [after]⟩
      by_cases listed : ∃ x ∈ s.app.rules.rules, x.id = id
      · simp only [if_neg blankId, if_neg blank, if_pos listed] at reference ⊢
        obtain ⟨status, after⟩ := ruleChange_publish s s.app.rules 200 Rule.toJson
          (s.app.rules.rules.map fun x => if x.id == id then ⟨id, k, spec.pattern⟩ else x)
          ⟨id, k, spec.pattern⟩
        refine ⟨by rw [status]; simp [RuleRequest.status, decoded, typed, blankId, blank, listed],
          Answered.rules_of_success 200 status (by decide) ?_, (fun b shown => by cases shown), by rw [after]⟩
        rw [after, reference]
        rfl
      · simp only [if_neg blankId, if_neg blank, if_neg listed]
        obtain ⟨status, after⟩ := ruleChange_refuse s s.app.rules 200 Rule.toJson
          (Error.withDetail .ruleNotFound id)
        rw [statusFor_ruleNotFound] at status
        refine ⟨by rw [status]; simp [RuleRequest.status, decoded, typed, blankId, blank, listed],
          Answered.rules_of_failure 404 status (by decide) (by rw [after]), (fun b shown => by cases shown), by rw [after]⟩


theorem handle_answered (routed : rt.router.Lawful) (drawn : s.app.rules.ids.source.Fresh) {q : RuleRequest}
    (made : q.MadeBy req) :
    Answered rt.idna s.app.rules q (s.handle rt t req net).1 (s.handle rt t req net).2.1.app.rules := by
  rw [handle_eq_serve s rt t req net routed made]
  have method := made.method
  cases q with
  | list => exact answered_list s rt t req net method
  | create body => exact answered_create s rt t req net drawn method body (made.body body rfl)
  | clear => exact answered_clear s rt t req net method
  | check body => exact answered_check s rt t req net method body (made.body body rfl)
  | get id named => exact answered_get s rt t req net method id named
  | update id named body => exact answered_update s rt t req net method id named body (made.body body rfl)
  | delete id named => exact answered_delete s rt t req net method id named

end Server

theorem RuleRequest.status_lt (s : RuleStore) (q : RuleRequest) : q.status s < 500 := by
  -- every branch of the status ends in a literal code below 500
  cases q <;> simp only [RuleRequest.status]
  all_goals repeat' (first | decide | split)

def Server.serveAll {σ : Type} (rt : Runtime) (t : Transport σ) : Server → σ → List Incoming →
    List (Server × Reply × Server)
  | _, _, [] => []
  | s, net, req :: reqs =>
    let (reply, after, net) := s.handle rt t req net
    (s, reply, after) :: serveAll rt t after net reqs

/-- Over any sequence of requests to the exclusion endpoints, each request leaves the rules as
the store's operation does when it is answered with a success and as they were otherwise, is
answered with the status its endpoint gives for the rules before it, never a server error, and
sends the rules as a JSON array when listing and whether a rule covers the endpoint when testing.
Ids are the segments the router reads from the path. This holds for a router that keeps the route
table's law and a rule store whose fresh ids come from a fresh source. -/
theorem rule_endpoints_follow_store {σ : Type} (rt : Runtime) (routed : rt.router.Lawful) (t : Transport σ)
    (s : Server) (drawn : s.app.rules.ids.source.Fresh) (net : σ) (reqs : List Incoming) (qs : List RuleRequest)
    (made : List.Forall₂ RuleRequest.MadeBy qs reqs) :
    List.Forall₂ (fun q (step : Server × Reply × Server) =>
        Answered rt.idna step.1.app.rules q step.2.1 step.2.2.app.rules ∧ step.2.1.status < 500)
      qs (Server.serveAll rt t s net reqs) := by
  -- the induction runs over the requests, each served from the server the one before left, whose
  -- rule store draws from the same source
  induction made generalizing s net with
  | nil => exact List.Forall₂.nil
  | @cons q req _ _ madeFirst _ ih =>
    simp only [Server.serveAll]
    have answered := Server.handle_answered s rt t req net routed drawn madeFirst
    have drawnAfter : (s.handle rt t req net).2.1.app.rules.ids.source.Fresh := by
      rw [answered.source]
      exact drawn
    refine List.Forall₂.cons ⟨answered, ?_⟩ (ih _ drawnAfter _)
    rw [answered.status]
    exact RuleRequest.status_lt _ _

def slashRuleServer : Server :=
  ⟨⟨Settings.defaults, Registry.standard, ⟨[⟨"a/b", .host, "x.test"⟩], [], 0, IdSupply.start .sequential⟩,
    .memory [], ⟨Registry.standard, false, 1, le_rfl⟩, JobBoard.empty .sequential 0⟩, "", []⟩

def offline : Transport Unit := ⟨fun _ n => (.error "offline", n)⟩

/-- A request naming the rule "a/b" by the path escape of its id, as parsing the path
"/exclusions/a%2Fb" gives it: the decoded path keeps the slash, so the escaped text is kept. -/
def escapedSlashRequest (method : String) : Incoming :=
  let url := { Address.empty with path := Bytes.ofString "/exclusions/a/b", rawPath := "/exclusions/a%2Fb" }
  ⟨method, url, HeaderMap.empty, ""⟩

theorem escapedSlashRequest_routes (method : String) :
    routesOfRequest (escapedSlashRequest method) = routesOf ["exclusions", "a%2Fb"] := by
  unfold escapedSlashRequest routesOfRequest
  simp only [if_pos (show "/exclusions/a%2Fb" ≠ "" by decide)]
  rfl

theorem escaped_slash_requests_follow_store :
    let qs := [RuleRequest.get "a%2Fb" (by decide), .delete "a%2Fb" (by decide)]
    let reqs := [escapedSlashRequest "GET", escapedSlashRequest "DELETE"]
    Runtime.standard.router.Lawful ∧ slashRuleServer.app.rules.ids.source.Fresh ∧
      List.Forall₂ RuleRequest.MadeBy qs reqs ∧
      List.Forall₂ (fun q (step : Server × Reply × Server) =>
          Answered Runtime.standard.idna step.1.app.rules q step.2.1 step.2.2.app.rules ∧ step.2.1.status < 500)
        qs (Server.serveAll .standard offline slashRuleServer () reqs) := by
  intro qs reqs
  have made : List.Forall₂ RuleRequest.MadeBy qs reqs :=
    .cons ⟨rfl, escapedSlashRequest_routes "GET", nofun⟩
      (.cons ⟨rfl, escapedSlashRequest_routes "DELETE", nofun⟩ .nil)
  exact ⟨Router.inOrder_lawful, IdSource.sequential_fresh, made,
    rule_endpoints_follow_store .standard Router.inOrder_lawful offline slashRuleServer IdSource.sequential_fresh ()
      reqs qs made⟩

/-- The rule "a/b" cannot be reached by the path escape of its id: reading it and deleting it
both answer that no rule has the id, and the rule stays. -/
theorem escaped_slash_id_unreached :
    (slashRuleServer.handle .standard offline (escapedSlashRequest "GET") ()).1.status = 404 ∧
      (slashRuleServer.handle .standard offline (escapedSlashRequest "DELETE") ()).1.status = 404 ∧
      (slashRuleServer.handle .standard offline (escapedSlashRequest "DELETE") ()).2.1.app.rules.rules =
        [⟨"a/b", .host, "x.test"⟩] := by
  have named : "a%2Fb" ≠ "" := by decide
  have gotten := Server.handle_answered slashRuleServer .standard offline _ () Router.inOrder_lawful
    IdSource.sequential_fresh (q := .get "a%2Fb" named) ⟨rfl, escapedSlashRequest_routes "GET", nofun⟩
  have deleted := Server.handle_answered slashRuleServer .standard offline _ () Router.inOrder_lawful
    IdSource.sequential_fresh (q := .delete "a%2Fb" named) ⟨rfl, escapedSlashRequest_routes "DELETE", nofun⟩
  -- the store holds "a/b" but no rule with the escaped id the router hands on
  have unlisted : ¬ ∃ x ∈ slashRuleServer.app.rules.rules, x.id = "a%2Fb" := by decide
  have deleteStatus : (slashRuleServer.handle .standard offline (escapedSlashRequest "DELETE") ()).1.status = 404 := by
    rw [deleted.status]
    simp [RuleRequest.status, unlisted]
  refine ⟨by rw [gotten.status]; simp [RuleRequest.status, unlisted], deleteStatus, ?_⟩
  rw [deleted.rules, deleteStatus, if_neg (by decide)]
  rfl

end Service

end HeaderAudit
