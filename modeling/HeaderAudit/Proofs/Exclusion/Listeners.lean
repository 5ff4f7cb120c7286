import HeaderAudit.Proofs.Exclusion.Refinement
/-!
Listeners of the rule store: who is told of each change, once each and in subscription order.
-/

namespace HeaderAudit

namespace StoreCall

def subscribes : StoreCall → Bool
  | .subscribe => true
  | _ => false

def dropped? : StoreCall → Option Nat
  | .unsubscribe n => some n
  | _ => none

/-- Whether every unsubscribe among calls names a listener subscribed before it, `next` being
the number of the last listener subscribed before the calls. -/
def issuedFrom (next : Nat) : List StoreCall → Bool
  | [] => true
  | c :: rest =>
    (c.dropped?.all (· ≤ next)) && issuedFrom (if c.subscribes then next + 1 else next) rest

def Issued (calls : List StoreCall) : Prop := issuedFrom 0 calls = true

instance (calls : List StoreCall) : Decidable (Issued calls) :=
  inferInstanceAs (Decidable (_ = true))

/-- The listeners subscribed by calls and not unsubscribed by any of them, in the order they
subscribed: the n-th subscribe registers listener n. -/
def listening (calls : List StoreCall) : List Nat :=
  (List.range' 1 (calls.countP subscribes)).filter fun n => n ∉ calls.filterMap dropped?

end StoreCall

def grownBy (base : List Rule) : List Rule → List (List Rule)
  | [] => []
  | r :: rest => (base ++ [r]) :: grownBy (base ++ [r]) rest

/-- The lists a call hands to listeners, given the rules before and after it and whether it
failed: a change that succeeded hands out the rules after it, a change that failed nothing,
loading the rules after each form it added, and a subscribe or unsubscribe nothing. -/
def StoreCall.HandsOut (c : StoreCall) (before after : List Rule) (failed : Bool)
    (lists : List (List Rule)) : Prop :=
  match c with
  | .subscribe | .unsubscribe _ => lists = []
  | .load _ => ∃ added, after = before ++ added ∧ lists = grownBy before added
  | _ => lists = bif failed then [] else [after]

namespace RuleStore

/-- A single change as its listeners see it: it keeps the listeners, and it hands out the rules
after it once if it succeeded and nothing if it failed. -/
structure TellsOnce {α : Type} (s : RuleStore) (c : Change α) : Prop where
  listeners : c.store.listeners = s.listeners
  next : c.store.nextListener = s.nextListener
  published : c.published = bif c.failure?.isSome then [] else [c.store.rules]

theorem refuse_tellsOnce {α : Type} (s : RuleStore) (e : Error) :
    s.TellsOnce (s.refuse e : Change α) := ⟨rfl, rfl, rfl⟩

theorem publish_tellsOnce {α : Type} (s : RuleStore) (rules : List Rule) (a : α) :
    s.TellsOnce (s.publish rules a) := ⟨rfl, rfl, rfl⟩

theorem add_cases (s : RuleStore) (r : Rule) :
    ((s.add r).answer = .ok () ∧ (s.add r).store = { s with rules := s.rules ++ [r] } ∧
        (s.add r).published = [s.rules ++ [r]]) ∨
      (∃ e, (s.add r).answer = .error e ∧ (s.add r).store = s ∧ (s.add r).published = []) := by
  unfold add
  split
  · exact .inr ⟨_, rfl, rfl, rfl⟩
  · split
    · exact .inr ⟨_, rfl, rfl, rfl⟩
    · exact .inl ⟨rfl, rfl, rfl⟩

theorem add_tellsOnce (s : RuleStore) (r : Rule) : s.TellsOnce (s.add r) := by
  rcases add_cases s r with ⟨answer, store, published⟩ | ⟨e, answer, store, published⟩
  · refine ⟨by rw [store], by rw [store], ?_⟩
    simp [Change.failure?, answer, store, published]
  · refine ⟨by rw [store], by rw [store], ?_⟩
    simp [Change.failure?, answer, published]

theorem addFresh_tellsOnce (s : RuleStore) (code : Int) (pattern : String) :
    s.TellsOnce (s.addFresh code pattern) := by
  unfold addFresh
  dsimp only
  generalize s.ids.fresh = drawn
  obtain ⟨id, ids⟩ := drawn
  dsimp only
  cases Rule.make id code pattern with
  | error e => exact ⟨rfl, rfl, rfl⟩
  | ok r =>
    have added := add_tellsOnce { s with ids := ids } r
    refine ⟨added.listeners, added.next, ?_⟩
    dsimp only
    rw [failure?_answer_map]
    exact added.published

theorem remove_tellsOnce (s : RuleStore) (id : String) : s.TellsOnce (s.remove id) := by
  unfold remove
  split
  · exact publish_tellsOnce s _ ()
  · exact refuse_tellsOnce s _

theorem update_tellsOnce (s : RuleStore) (id : String) (code : Int) (pattern : String) :
    s.TellsOnce (s.update id code pattern) := by
  unfold update
  split
  · exact refuse_tellsOnce s _
  · split
    · exact publish_tellsOnce s _ _
    · exact refuse_tellsOnce s _

theorem loadFrom_grownBy (i : Nat) (s : RuleStore) (pub : List (List Rule))
    (specs : List RuleSpec) :
    (s.loadFrom i pub specs).store.listeners = s.listeners ∧
      (s.loadFrom i pub specs).store.nextListener = s.nextListener ∧
      ∃ added, (s.loadFrom i pub specs).store.rules = s.rules ++ added ∧
        (s.loadFrom i pub specs).published = pub ++ grownBy s.rules added := by
  induction specs generalizing i s pub with
  | nil => exact ⟨rfl, rfl, [], by simp [loadFrom], by simp [loadFrom, grownBy]⟩
  | cons spec rest ih =>
    unfold loadFrom
    cases spec.toRule s.ids with
    | error e => exact ⟨rfl, rfl, [], by simp, by simp [grownBy]⟩
    | ok made =>
      obtain ⟨r, ids⟩ := made
      dsimp only
      rcases add_cases { s with ids := ids } r with
        ⟨answer, store, published⟩ | ⟨e, answer, store, published⟩
      · rw [answer]
        dsimp only
        rw [store, published]
        obtain ⟨listeners, next, added, rules, told⟩ :=
          ih (i + 1) { s with ids := ids, rules := s.rules ++ [r] } (pub ++ [s.rules ++ [r]])
        refine ⟨listeners, next, r :: added, ?_, ?_⟩
        · simpa using rules
        · rw [told]
          simp [grownBy]
      · rw [answer]
        dsimp only
        rw [store]
        exact ⟨rfl, rfl, [], by simp, by simp [grownBy]⟩

theorem perform_handsOut (s : RuleStore) (c : StoreCall) :
    c.HandsOut s.rules (s.perform c).store.rules (s.perform c).failure.isSome
      (s.perform c).published := by
  cases c <;> simp only [StoreCall.HandsOut, perform, CallEffect.ofChange, load]
  case add r held => exact (add_tellsOnce s r).published
  case addFresh code pattern => exact (addFresh_tellsOnce s code pattern).published
  case remove id => exact (remove_tellsOnce s id).published
  case update id code pattern => exact (update_tellsOnce s id code pattern).published
  case clear => exact (publish_tellsOnce s [] ()).published
  case load specs =>
    obtain ⟨-, -, added, rules, told⟩ := loadFrom_grownBy 0 s [] specs
    exact ⟨added, rules, by simpa using told⟩

theorem perform_quiet (s : RuleStore) {c : StoreCall} (noSub : c.subscribes = false)
    (noDrop : c.dropped? = none) :
    (s.perform c).store.listeners = s.listeners ∧
      (s.perform c).store.nextListener = s.nextListener := by
  cases c <;> simp only [StoreCall.subscribes, StoreCall.dropped?, reduceCtorEq] at noSub noDrop <;>
    simp only [perform, CallEffect.ofChange, load]
  case add r held => exact ⟨(add_tellsOnce s r).listeners, (add_tellsOnce s r).next⟩
  case addFresh code pattern =>
    exact ⟨(addFresh_tellsOnce s code pattern).listeners, (addFresh_tellsOnce s code pattern).next⟩
  case remove id => exact ⟨(remove_tellsOnce s id).listeners, (remove_tellsOnce s id).next⟩
  case update id code pattern =>
    exact ⟨(update_tellsOnce s id code pattern).listeners,
      (update_tellsOnce s id code pattern).next⟩
  case clear => exact ⟨rfl, rfl⟩
  case load specs =>
    obtain ⟨listeners, next, -⟩ := loadFrom_grownBy 0 s [] specs
    exact ⟨listeners, next⟩

theorem StoreCall.kinds (c : StoreCall) :
    c = .subscribe ∨ (∃ n, c = .unsubscribe n) ∨ (c.subscribes = false ∧ c.dropped? = none) := by
  cases c with
  | subscribe => exact .inl rfl
  | unsubscribe n => exact .inr (.inl ⟨n, rfl⟩)
  | _ => exact .inr (.inr ⟨rfl, rfl⟩)

/-- Over calls in which every unsubscribe names a listener already numbered, the listeners after
the calls are those before and those the calls subscribed, less every listener some call
unsubscribed; the calls' subscribes number their listeners on from the last number. -/
theorem run_listeners (s : RuleStore) (calls : List StoreCall)
    (issued : StoreCall.issuedFrom s.nextListener calls = true) :
    (s.run calls).1.listeners =
        (s.listeners ++ List.range' (s.nextListener + 1) (calls.countP StoreCall.subscribes)).filter
          (· ∉ calls.filterMap StoreCall.dropped?) ∧
      (s.run calls).1.nextListener = s.nextListener + calls.countP StoreCall.subscribes := by
  induction calls generalizing s with
  | nil =>
    refine ⟨?_, rfl⟩
    rw [List.filter_eq_self.mpr]
    · simp [run]
    · intro m _
      simp
  | cons c rest ih =>
    simp only [StoreCall.issuedFrom, Bool.and_eq_true] at issued
    obtain ⟨named, later⟩ := issued
    have step : (s.run (c :: rest)).1 = ((s.perform c).store.run rest).1 := rfl
    rw [step]
    rcases StoreCall.kinds c with rfl | ⟨n, rfl⟩ | ⟨noSub, noDrop⟩
    · -- the subscribe's listener comes after those before it
      obtain ⟨listeners, next⟩ := ih (s.perform .subscribe).store later
      refine ⟨?_, ?_⟩
      · rw [listeners]
        simp [perform, subscribe, StoreCall.subscribes, StoreCall.dropped?, List.countP_cons,
          List.range'_succ]
      · rw [next]
        simp [perform, subscribe, StoreCall.subscribes, List.countP_cons]
        omega
    · -- the unsubscribed listener is numbered, so no later subscribe brings its number back
      have numbered : n ≤ s.nextListener := by simpa [StoreCall.dropped?] using named
      obtain ⟨listeners, next⟩ :=
        ih (s.perform (.unsubscribe n)).store
          (by simpa [perform, unsubscribe, StoreCall.subscribes] using later)
      refine ⟨?_, ?_⟩
      · rw [listeners]
        simp only [perform, unsubscribe, StoreCall.subscribes, StoreCall.dropped?,
          List.countP_cons, Bool.false_eq_true, if_false, Nat.add_zero, List.filterMap_cons,
          List.filter_append, List.filter_filter]
        congr 1
        · apply List.filter_congr
          intro m _
          by_cases same : m = n <;> simp [same]
        · apply List.filter_congr
          intro m fresh
          have differ : m ≠ n := by
            rw [List.mem_range'_1] at fresh
            omega
          simp [differ]
      · rw [next]
        simp [perform, unsubscribe, StoreCall.subscribes]
    · obtain ⟨kept, numbered⟩ := perform_quiet s noSub noDrop
      obtain ⟨listeners, next⟩ :=
        ih (s.perform c).store (by simpa [numbered, noSub] using later)
      refine ⟨?_, ?_⟩
      · rw [listeners, kept, numbered]
        simp [noSub, noDrop]
      · rw [next, numbered]
        simp [noSub]

end RuleStore

namespace RuleStore

theorem empty_run_listeners (source : IdSource) {calls : List StoreCall} (issued : StoreCall.Issued calls) :
    ((empty source).run calls).1.listeners = StoreCall.listening calls := by
  have run := (run_listeners (empty source) calls issued).1
  simpa [empty, StoreCall.listening] using run

theorem notifications_perform (s : RuleStore) (c : StoreCall) :
    (s.perform c).store.notifications (s.perform c).published =
      (s.perform c).published.flatMap fun rules => s.listeners.map (·, rules) := by
  rcases StoreCall.kinds c with rfl | ⟨n, rfl⟩ | ⟨noSub, noDrop⟩
  · rfl
  · rfl
  · rw [notifications, (perform_quiet s noSub noDrop).1]

end RuleStore

/-- After calls from a new store in which every unsubscribe is one that a subscribe handed out,
the next call tells the listeners subscribed and not yet unsubscribed, in the order they
subscribed, once for each list it hands out: the rules after a change that succeeded, nothing
for one that failed, and the rules after each form that a load added. The n-th subscribe
registers listener n. -/
theorem calls_tell_subscribed_listeners (source : IdSource) (calls : List StoreCall)
    (issued : StoreCall.Issued calls) (c : StoreCall) :
    let s := ((RuleStore.empty source).run calls).1
    let e := s.perform c
    e.store.notifications e.published =
        e.published.flatMap (fun rules => (StoreCall.listening calls).map (·, rules)) ∧
      c.HandsOut s.rules e.store.rules e.failure.isSome e.published ∧
      (c = .subscribe → s.subscribe.1 = calls.countP StoreCall.subscribes + 1) := by
  intro s e
  refine ⟨?_, RuleStore.perform_handsOut s c, fun _ => ?_⟩
  · rw [RuleStore.notifications_perform, RuleStore.empty_run_listeners source issued]
  · have numbered := (RuleStore.run_listeners (RuleStore.empty source) calls issued).2
    simp only [RuleStore.subscribe, s, numbered]
    simp [RuleStore.empty]

theorem clear_tells_listener_left :
    let calls := [StoreCall.subscribe, .subscribe, .addFresh 1 "a.test", .unsubscribe 1,
      .unsubscribe 1]
    StoreCall.Issued calls ∧
      let s := ((RuleStore.empty .sequential).run calls).1
      let e := s.perform .clear
      e.store.notifications e.published =
          e.published.flatMap (fun rules => (StoreCall.listening calls).map (·, rules)) ∧
        StoreCall.clear.HandsOut s.rules e.store.rules e.failure.isSome e.published ∧
        (StoreCall.clear = .subscribe →
          s.subscribe.1 = calls.countP StoreCall.subscribes + 1) :=
  ⟨by decide, calls_tell_subscribed_listeners .sequential _ (by decide) .clear⟩

end HeaderAudit
