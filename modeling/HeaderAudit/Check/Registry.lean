import HeaderAudit.Check.Judge
/-!
Registries of checks and the verdicts they give. A registry holds checks with distinct names, in
order; judging a header runs every check in that order with one shared context.
-/
namespace HeaderAudit

/-- Verdicts by check name, in the order the names were first given one. -/
structure Results where
  entries : List (String × Verdict)
  deriving Repr, BEq, Inhabited

namespace Results

def empty : Results := ⟨[]⟩

def put (rs : Results) (name : String) (v : Verdict) : Results :=
  if rs.entries.any (·.1 == name) then
    ⟨rs.entries.map fun e => if e.1 == name then (name, v) else e⟩
  else ⟨rs.entries ++ [(name, v)]⟩

def get? (rs : Results) (name : String) : Option Verdict :=
  (rs.entries.find? (·.1 == name)).map (·.2)

def size (rs : Results) : Nat := rs.entries.length

def ofList (xs : List (String × Verdict)) : Results := xs.foldl (fun rs e => rs.put e.1 e.2) empty

def hasIssues (rs : Results) : Bool :=
  rs.entries.any fun e => e.2.status = .fail ∨ e.2.status = .warn

def toJson (rs : Results) : Json :=
  .arr (rs.entries.map fun e => .obj [("check", .str e.1), ("result", e.2.toJson)])

theorem get?_empty (name : String) : empty.get? name = none := rfl

end Results

/-- A registry: checks with distinct names, in order. -/
structure Registry where
  checks : List Check
  deriving Repr, BEq, Inhabited

namespace Registry

def make (cs : List (Option Check)) : Outcome Registry :=
  let step (acc : Outcome (List Check)) (c : Option Check) : Outcome (List Check) := do
    let done ← acc
    match c with
    | none => .error (Error.plain "checks: nil check in registry")
    | some c =>
      if done.any (·.name == c.name) then
        .error (Error.plain ("checks: duplicate check name " ++ Text.quote c.name))
      else .ok (done ++ [c])
  (cs.foldl step (.ok [])).map Registry.mk

def standard : Registry :=
  ⟨[.framing, .sniffing, .transport, .contentType, .caching, .cookies, .cors]⟩

def columns (r : Registry) : List String := r.checks.map Check.column

def lookup? (r : Registry) (name : String) : Option Check := r.checks.find? (·.name == name)

theorem mem_of_lookup? {r : Registry} {n : String} {c : Check} (h : r.lookup? n = some c) :
    c ∈ r.checks :=
  List.mem_of_find?_eq_some h

theorem lookup?_name {r : Registry} {n : String} {c : Check} (h : r.lookup? n = some c) :
    c.name = n := by
  have := List.find?_eq_some_iff_append.mp h
  exact eq_of_beq this.1

def judgeAll (h : Option Header) : List Check → Results × Context → Results × Context
  | [], acc => acc
  | c :: cs, (rs, ctx) =>
    let (v, ctx') := c.judge h (some ctx)
    judgeAll h cs (rs.put c.name v, ctx'.getD ctx)

def evaluate (r : Registry) (h : Option Header) (ctx : Option Context) : Results × Context :=
  judgeAll h r.checks (Results.empty, ctx.getD Context.empty)

def overallFrom (rs : Results) : Status → List Check → Status
  | acc, [] => acc
  | acc, c :: cs =>
    if c.affectsOverall then
      match rs.get? c.name with
      | some v =>
        if v.status = .fail then .fail
        else overallFrom rs (if v.status = .warn then .warn else acc) cs
      | none => overallFrom rs acc cs
    else overallFrom rs acc cs

def overall (r : Registry) (rs : Results) : Status := overallFrom rs .ok r.checks

end Registry

end HeaderAudit
