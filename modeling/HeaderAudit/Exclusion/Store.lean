import HeaderAudit.Exclusion.Rule
/-!
The rule store: the current rules in order, with unique ids, and the listeners to tell of every
change.
-/
namespace HeaderAudit

/-- The rule store. -/
structure RuleStore where
  rules : List Rule
  listeners : List Nat
  nextListener : Nat
  ids : IdSupply

/-- The outcome of a change: the answer, the store after it, and the lists published. -/
structure Change (α : Type) where
  answer : Outcome α
  store : RuleStore
  published : List (List Rule)

namespace RuleStore

def empty (source : IdSource) : RuleStore := ⟨[], [], 0, IdSupply.start source⟩

def get? (s : RuleStore) (id : String) : Option Rule := s.rules.find? (·.id == id)

def size (s : RuleStore) : Nat := s.rules.length

def excludes (s : RuleStore) (idna : IdnaLookup) (method url : String) : Bool :=
  s.rules.any (·.covers idna method url)

def publish {α : Type} (s : RuleStore) (rules : List Rule) (a : α) : Change α :=
  ⟨.ok a, { s with rules := rules }, [rules]⟩

def refuse {α : Type} (s : RuleStore) (e : Error) : Change α := ⟨.error e, s, []⟩

def add (s : RuleStore) (r : Rule) : Change Unit :=
  if r.id = "" then s.refuse (Error.ofFault .blankId)
  else if s.rules.any (·.id == r.id) then s.refuse (Error.withDetail .duplicateRule r.id)
  else s.publish (s.rules ++ [r]) ()

def addFresh (s : RuleStore) (code : Int) (pattern : String) : Change Rule :=
  let (id, ids) := s.ids.fresh
  let s := { s with ids := ids }
  match Rule.make id code pattern with
  | .error e => s.refuse e
  | .ok r =>
    let c := s.add r
    ⟨c.answer.map fun _ => r, c.store, c.published⟩

def remove (s : RuleStore) (id : String) : Change Unit :=
  if s.rules.any (·.id == id) then s.publish (s.rules.filter (·.id != id)) ()
  else s.refuse (Error.withDetail .ruleNotFound id)

def update (s : RuleStore) (id : String) (code : Int) (pattern : String) : Change Rule :=
  match Rule.make id code pattern with
  | .error e => s.refuse e
  | .ok r =>
    if s.rules.any (·.id == id) then
      s.publish (s.rules.map fun x => if x.id == id then r else x) r
    else s.refuse (Error.withDetail .ruleNotFound id)

def clear (s : RuleStore) : Change Unit := s.publish [] ()

def loadFrom (i : Nat) (s : RuleStore) (pub : List (List Rule)) : List RuleSpec → Change Unit
  | [] => ⟨.ok (), s, pub⟩
  | spec :: rest =>
    match spec.toRule s.ids with
    | .error e => ⟨.error (Error.wrap ("exclusion rule " ++ toString i ++ ": ") e), s, pub⟩
    | .ok (r, ids) =>
      let s := { s with ids := ids }
      let c := s.add r
      match c.answer with
      | .error e => ⟨.error (Error.wrap ("exclusion rule " ++ toString i ++ ": ") e), c.store, pub⟩
      | .ok () => loadFrom (i + 1) c.store (pub ++ c.published) rest

def load (s : RuleStore) (specs : List RuleSpec) : Change Unit := loadFrom 0 s [] specs

def subscribe (s : RuleStore) : Nat × RuleStore :=
  let n := s.nextListener + 1
  (n, { s with listeners := s.listeners ++ [n], nextListener := n })

def unsubscribe (s : RuleStore) (n : Nat) : RuleStore :=
  { s with listeners := s.listeners.filter (· != n) }

def notifications (s : RuleStore) (published : List (List Rule)) : List (Nat × List Rule) :=
  published.flatMap fun rules => s.listeners.map (·, rules)

theorem add_size (s : RuleStore) (r : Rule) (h : (s.add r).answer = .ok ()) :
    (s.add r).store.size = s.size + 1 := by
  unfold add at h ⊢
  by_cases h1 : r.id = ""
  · rw [if_pos h1] at h
    simp [refuse] at h
  · by_cases h2 : s.rules.any (·.id == r.id)
    · rw [if_neg h1, if_pos h2] at h
      simp [refuse] at h
    · rw [if_neg h1, if_neg h2]
      simp [publish, size]

end RuleStore

end HeaderAudit
