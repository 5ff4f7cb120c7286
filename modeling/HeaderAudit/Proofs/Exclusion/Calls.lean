import Mathlib
import HeaderAudit.Exclusion.Store
/-!
Calls on the rule store, and the plain list of rules the store stands for.
-/

namespace HeaderAudit

/-- A rule as `Rule.make` makes it: neither its id nor its pattern is blank. Its kind is one of
the three by its type. -/
def Rule.WellFormed (r : Rule) : Prop := Text.trim r.id ≠ "" ∧ Text.trim r.pattern ≠ ""

/-- A call on the rule store. The rule handed to `add` is one a caller can hold: a rule with a
blank id, as the empty rule is, or a well-formed one. -/
inductive StoreCall where
  | add (r : Rule) (held : r.id = "" ∨ r.WellFormed)
  | addFresh (code : Int) (pattern : String)
  | remove (id : String)
  | update (id : String) (code : Int) (pattern : String)
  | clear
  | load (specs : List RuleSpec)
  | subscribe
  | unsubscribe (listener : Nat)

def Change.failure? {α : Type} (c : Change α) : Option Error :=
  match c.answer with
  | .error e => some e
  | .ok _ => none

/-- What a call leaves: the store after it, its failure if any, and the lists it published. -/
structure CallEffect where
  store : RuleStore
  failure : Option Error
  published : List (List Rule)

def CallEffect.ofChange {α : Type} (c : Change α) : CallEffect := ⟨c.store, c.failure?, c.published⟩

namespace RuleStore

def perform (s : RuleStore) : StoreCall → CallEffect
  | .add r _ => .ofChange (s.add r)
  | .addFresh code pattern => .ofChange (s.addFresh code pattern)
  | .remove id => .ofChange (s.remove id)
  | .update id code pattern => .ofChange (s.update id code pattern)
  | .clear => .ofChange s.clear
  | .load specs => .ofChange (s.load specs)
  | .subscribe => ⟨s.subscribe.2, none, []⟩
  | .unsubscribe n => ⟨s.unsubscribe n, none, []⟩

def run (s : RuleStore) : List StoreCall → RuleStore × List (Option Error)
  | [] => (s, [])
  | c :: cs =>
    let e := s.perform c
    let rest := e.store.run cs
    (rest.1, e.failure :: rest.2)

def Sound (s : RuleStore) : Prop := (s.rules.map (·.id)).Nodup ∧ ∀ r ∈ s.rules, r.WellFormed

/-- The store's reads answer from a list: its rules, the first rule with an id, their number, and
whether some rule covers a request. -/
def ReadsFrom (s : RuleStore) (rules : List Rule) : Prop :=
  s.rules = rules ∧ (∀ id, s.get? id = rules.find? (·.id == id)) ∧ s.size = rules.length ∧
    ∀ idna method url, s.excludes idna method url = rules.any (·.covers idna method url)

end RuleStore

/-- The plain list of rules a store stands for, with the supply its fresh ids come from. -/
structure RuleList where
  rules : List Rule
  ids : IdSupply

def RuleStore.view (s : RuleStore) : RuleList := ⟨s.rules, s.ids⟩

namespace RuleList

def empty (source : IdSource) : RuleList := ⟨[], IdSupply.start source⟩

def add (l : RuleList) (r : Rule) : RuleList × Option Error :=
  if r.id = "" then (l, some (Error.ofFault .blankId))
  else if ∃ x ∈ l.rules, x.id = r.id then (l, some (Error.withDetail .duplicateRule r.id))
  else ({ l with rules := l.rules ++ [r] }, none)

def addFresh (l : RuleList) (code : Int) (pattern : String) : RuleList × Option Error :=
  let (id, ids) := l.ids.fresh
  match Rule.make id code pattern with
  | .error e => ({ l with ids := ids }, some e)
  | .ok r => add { l with ids := ids } r

def remove (l : RuleList) (id : String) : RuleList × Option Error :=
  if ∃ x ∈ l.rules, x.id = id then ({ l with rules := l.rules.eraseP (·.id == id) }, none)
  else (l, some (Error.withDetail .ruleNotFound id))

def update (l : RuleList) (id : String) (code : Int) (pattern : String) :
    RuleList × Option Error :=
  match Rule.make id code pattern with
  | .error e => (l, some e)
  | .ok r =>
    if ∃ x ∈ l.rules, x.id = id then
      ({ l with rules := l.rules.set (l.rules.findIdx (·.id == id)) r }, none)
    else (l, some (Error.withDetail .ruleNotFound id))

/-- Adds the rules of stored forms in order, keeping those added before the first failure; `i`
counts the forms read. -/
def loadFrom (i : Nat) (l : RuleList) : List RuleSpec → RuleList × Option Error
  | [] => (l, none)
  | spec :: rest =>
    match spec.toRule l.ids with
    | .error e => (l, some (Error.wrap ("exclusion rule " ++ toString i ++ ": ") e))
    | .ok (r, ids) =>
      match add { l with ids := ids } r with
      | (l', some e) => (l', some (Error.wrap ("exclusion rule " ++ toString i ++ ": ") e))
      | (l', none) => loadFrom (i + 1) l' rest

def perform (l : RuleList) : StoreCall → RuleList × Option Error
  | .add r _ => l.add r
  | .addFresh code pattern => l.addFresh code pattern
  | .remove id => l.remove id
  | .update id code pattern => l.update id code pattern
  | .clear => ({ l with rules := [] }, none)
  | .load specs => l.loadFrom 0 specs
  | .subscribe => (l, none)
  | .unsubscribe _ => (l, none)

def run (l : RuleList) : List StoreCall → RuleList × List (Option Error)
  | [] => (l, [])
  | c :: cs =>
    let e := l.perform c
    let rest := e.1.run cs
    (rest.1, e.2 :: rest.2)

end RuleList

end HeaderAudit
