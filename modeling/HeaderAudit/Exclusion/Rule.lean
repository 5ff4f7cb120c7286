import HeaderAudit.Address.Canonical
import HeaderAudit.Json.Decode
import HeaderAudit.Ident
/-!
Exclusion rules: a rule leaves out of scanning the requests of a host, of a path (or, with a
trailing `*`, of a path prefix), or of one method and address.
-/
namespace HeaderAudit

/-- What a rule covers. -/
inductive RuleKind where
  | host
  | path
  | endpoint
  deriving Repr, BEq, DecidableEq, Inhabited

namespace RuleKind

def code : RuleKind → Int
  | host => 1
  | path => 2
  | endpoint => 3

def ofCode? (n : Int) : Option RuleKind :=
  if n = 1 then some host else if n = 2 then some path else if n = 3 then some endpoint else none

def name : RuleKind → String
  | host => "HOST"
  | path => "PATH"
  | endpoint => "ENDPOINT"

def codeName (n : Int) : String :=
  match ofCode? n with
  | some k => k.name
  | none => "RuleType(" ++ toString n ++ ")"

def codeText (n : Int) : Outcome String :=
  match ofCode? n with
  | some k => .ok k.name
  | none => .error (Error.withDetail .unknownRuleType (toString n))

def parse (s : String) : Outcome RuleKind :=
  let t := Text.upper (Text.trim s)
  if t = "HOST" then .ok host
  else if t = "PATH" then .ok path
  else if t = "ENDPOINT" then .ok endpoint
  else .error (Error.withDetail .unknownRuleType (Text.quote s))

theorem ofCode?_code (k : RuleKind) : ofCode? k.code = some k := by
  cases k <;> rfl

end RuleKind

/-- An exclusion rule. -/
structure Rule where
  id : String
  kind : RuleKind
  pattern : String
  deriving Repr, BEq, DecidableEq, Inhabited

/-- The stored form of a rule; an empty id asks for a fresh one. -/
structure RuleSpec where
  id : String
  kind : String
  pattern : String
  deriving Repr, BEq, Inhabited

namespace Rule

def make (id : String) (code : Int) (pattern : String) : Outcome Rule :=
  if Text.trim id = "" then .error (Error.ofFault .blankId)
  else match RuleKind.ofCode? code with
    | none => .error (Error.withDetail .unknownRuleType (toString code))
    | some k =>
      if Text.trim pattern = "" then .error (Error.ofFault .blankPattern) else .ok ⟨id, k, pattern⟩

def fresh (ids : IdSupply) (k : RuleKind) (pattern : String) : Outcome (Rule × IdSupply) :=
  let (id, ids) := ids.fresh
  (make id k.code pattern).map (·, ids)

def describe (r : Rule) : String := r.kind.name ++ " " ++ r.pattern

def sameHostName (idna : IdnaLookup) (pattern host : String) : Bool :=
  if host = "" then false
  else if Text.equalFold pattern host then true
  else match idna.toAscii pattern, idna.toAscii host with
    | some a, some b => Text.equalFold a b
    | _, _ => false

def covers (r : Rule) (idna : IdnaLookup) (method url : String) : Bool :=
  match r.kind with
  | .endpoint => method ++ " " ++ url = r.pattern
  | .host => match Address.parse url with
    | .ok u => sameHostName idna r.pattern (Bytes.toStringLossy u.hostname)
    | .error _ => false
  | .path => match Address.parse url with
    | .ok u =>
      let p := if u.path = [] then Bytes.ofString "/" else u.path
      if Text.hasSuffix r.pattern "*" then
        (Bytes.ofString (String.ofList r.pattern.toList.dropLast)).isPrefixOf p
      else p = Bytes.ofString r.pattern
    | .error _ => false

def spec (r : Rule) : RuleSpec := ⟨r.id, r.kind.name, r.pattern⟩

def specJson (s : RuleSpec) : Json :=
  .obj ((if s.id = "" then [] else [("id", .str s.id)]) ++ [("type", .str s.kind), ("pattern", .str s.pattern)])

def toJson (r : Rule) : Json := specJson r.spec

theorem make_id (id : String) (code : Int) (pattern : String) (r : Rule)
    (h : make id code pattern = .ok r) : r.id = id := by
  unfold make at h
  split at h
  · cases h
  · split at h
    · cases h
    · split at h
      · cases h
      · cases h; rfl

end Rule

namespace RuleSpec

def toRule (s : RuleSpec) (ids : IdSupply) : Outcome (Rule × IdSupply) := do
  let k ← RuleKind.parse s.kind
  if s.id = "" then Rule.fresh ids k s.pattern
  else (Rule.make s.id k.code s.pattern).map (·, ids)

def ofJson (j : Json) : Outcome RuleSpec :=
  Json.record "exclusion.RuleSpec" ["id", "type", "pattern"] (fun f v s =>
    if f = "id" then Json.textField "RuleSpec" "id" v s fun t => { s with id := t }
    else if f = "type" then Json.textField "RuleSpec" "type" v s fun t => { s with kind := t }
    else Json.textField "RuleSpec" "pattern" v s fun t => { s with pattern := t }) ⟨"", "", ""⟩ j

end RuleSpec

def Rule.ofJson (j : Json) : Outcome Rule := do
  let s ← RuleSpec.ofJson j
  if s.id = "" then throw (Error.ofFault .blankId)
  -- a stored form with an id draws no fresh one
  let k ← RuleKind.parse s.kind
  Rule.make s.id k.code s.pattern

end HeaderAudit
