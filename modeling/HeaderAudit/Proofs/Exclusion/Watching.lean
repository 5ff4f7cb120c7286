import HeaderAudit.Exclusion.Watch
import HeaderAudit.Proofs.Exclusion.Listeners
/-!
A reader watching the rule store takes published lists in order, and may never take the rules the
store holds.
-/

namespace HeaderAudit

def toldTo (n : Nat) (notes : List (Nat × List Rule)) : List (List Rule) :=
  notes.filterMap fun note => if note.1 = n then some note.2 else none

theorem toldTo_map_pair (n : Nat) (listeners : List Nat) (rules : List Rule) :
    toldTo n (listeners.map (·, rules)) = List.replicate (listeners.count n) rules := by
  induction listeners with
  | nil => rfl
  | cons m rest ih =>
    by_cases same : m = n
    · subst same
      simpa [toldTo, List.replicate_succ] using ih
    · simpa [toldTo, same] using ih

theorem toldTo_flatMap (n : Nat) (listeners : List Nat) (once : listeners.count n = 1)
    (published : List (List Rule)) :
    toldTo n (published.flatMap fun rules => listeners.map (·, rules)) = published := by
  induction published with
  | nil => rfl
  | cons rules rest ih =>
    rw [List.flatMap_cons, toldTo, List.filterMap_append, ← toldTo, ← toldTo, ih,
      toldTo_map_pair, once]
    rfl

theorem Watch.hear_held (w : Watch) (notes : List (Nat × List Rule)) :
    (w.hear notes).channel.held =
      w.channel.held ++ (toldTo w.listener notes).take (w.channel.capacity - w.channel.held.length) := by
  induction notes generalizing w with
  | nil => simp [Watch.hear, toldTo]
  | cons note notes ih =>
    rw [Watch.hear_cons]
    by_cases mine : note.1 = w.listener
    · rw [if_pos mine, ih]
      have told : toldTo w.listener (note :: notes) = note.2 :: toldTo w.listener notes := by
        simp [toldTo, mine]
      simp only [told, Channel.held_offer, Channel.capacity_offer]
      have full := w.channel.bounded
      split
      · -- there is room: the list is kept, and the room left is one less
        rename_i room
        obtain ⟨k, more⟩ : ∃ k, w.channel.capacity - w.channel.held.length = k + 1 :=
          ⟨w.channel.capacity - w.channel.held.length - 1, by omega⟩
        have left : w.channel.capacity - (w.channel.held ++ [note.2]).length = k := by
          simp only [List.length_append, List.length_singleton]
          omega
        rw [left, more, List.take_succ_cons, List.append_assoc, List.singleton_append]
      · -- the channel is full: the list is dropped, and so is every later one
        rename_i noRoom
        have none : w.channel.capacity - w.channel.held.length = 0 := by omega
        rw [none]
        rfl
    · rw [if_neg mine, ih]
      have told : toldTo w.listener (note :: notes) = toldTo w.listener notes := by
        simp [toldTo, mine]
      rw [told]

theorem Watch.hear_of_untold (w : Watch) (notes : List (Nat × List Rule))
    (untold : ∀ note ∈ notes, note.1 ≠ w.listener) : w.hear notes = w := by
  induction notes with
  | nil => rfl
  | cons note notes ih =>
    rw [Watch.hear_cons, if_neg (untold note List.mem_cons_self)]
    exact ih fun other mem => untold other (List.mem_cons_of_mem _ mem)

theorem getLast?_grownBy (base : List Rule) {added : List Rule} (nonempty : added ≠ []) :
    (grownBy base added).getLast? = some (base ++ added) := by
  induction added generalizing base with
  | nil => exact absurd rfl nonempty
  | cons r rest ih =>
    cases rest with
    | nil => simp [grownBy]
    | cons r' rest' =>
      rw [grownBy, List.getLast?_cons, ih (base ++ [r]) (by simp)]
      simp

namespace RuleStore

theorem perform_published_last (s : RuleStore) (c : StoreCall)
    (told : (s.perform c).published ≠ []) :
    (s.perform c).published.getLast? = some (s.perform c).store.rules := by
  have hands := perform_handsOut s c
  cases c <;> simp only [StoreCall.HandsOut] at hands
  case subscribe => exact absurd hands told
  case unsubscribe => exact absurd hands told
  case load specs =>
    obtain ⟨added, after, lists⟩ := hands
    have grown : added ≠ [] := by
      rintro rfl
      exact told (by rw [lists]; rfl)
    rw [lists, after, getLast?_grownBy _ grown]
  all_goals
    cases failed : (RuleStore.perform _ _).failure.isSome
    · rw [failed] at hands
      rw [hands]
      rfl
    · rw [failed] at hands
      exact absurd hands told

theorem perform_rules_of_quiet (s : RuleStore) (c : StoreCall)
    (quiet : (s.perform c).published = []) : (s.perform c).store.rules = s.rules := by
  cases c with
  | add r held =>
    simp only [perform, CallEffect.ofChange] at quiet ⊢
    rcases add_cases s r with ⟨-, -, published⟩ | ⟨-, -, store, -⟩
    · rw [published] at quiet
      cases quiet
    · rw [store]
  | addFresh code pattern =>
    simp only [perform, CallEffect.ofChange] at quiet ⊢
    unfold addFresh at quiet ⊢
    dsimp only at quiet ⊢
    generalize s.ids.fresh = drawn at quiet ⊢
    obtain ⟨id, ids⟩ := drawn
    dsimp only at quiet ⊢
    cases made : Rule.make id code pattern with
    | error e => rfl
    | ok r =>
      rw [made] at quiet
      dsimp only at quiet ⊢
      -- the fresh id aside, adding under it is adding
      rcases add_cases { s with ids := ids } r with ⟨-, -, published⟩ | ⟨-, -, store, -⟩
      · simp only [published] at quiet
        cases quiet
      · simp only [store]
  | remove id =>
    simp only [perform, CallEffect.ofChange] at quiet ⊢
    unfold remove at quiet ⊢
    split
    · rename_i present
      simp only [present, if_true, publish] at quiet
      cases quiet
    · rfl
  | update id code pattern =>
    simp only [perform, CallEffect.ofChange] at quiet ⊢
    unfold update at quiet ⊢
    split
    · rfl
    · split
      · rename_i made present
        simp only [made, present, if_true, publish] at quiet
        cases quiet
      · rfl
  | clear => cases quiet
  | load specs =>
    simp only [perform, CallEffect.ofChange, load] at quiet ⊢
    obtain ⟨-, -, added, rules, told⟩ := loadFrom_grownBy 0 s [] specs
    have none : added = [] := by
      cases added with
      | nil => rfl
      | cons r rest =>
        rw [told] at quiet
        simp [grownBy] at quiet
    rw [rules, none, List.append_nil]
  | subscribe => rfl
  | unsubscribe n => rfl

end RuleStore

/-- A step of a watched store: a call on the store, or the reader taking a list. -/
inductive WatchStep where
  | call (c : StoreCall)
  | take

def WatchStep.calls : List WatchStep → List StoreCall
  | [] => []
  | .call c :: rest => c :: calls rest
  | .take :: rest => calls rest

/-- A store watched by one reader, with the lists the reader took and, as a record, every list
the store published since the watch began. -/
structure Watched where
  store : RuleStore
  watch : Watch
  taken : List (List Rule)
  published : List (List Rule)

namespace Watched

def begin (s : RuleStore) (buffer : Int) : Watched :=
  ⟨(s.watch buffer).2, (s.watch buffer).1, [], []⟩

/-- One step: a call offers the lists it publishes to the watch; the reader takes the oldest
list held, if there is one. -/
def step (x : Watched) : WatchStep → Watched
  | .call c =>
    let e := x.store.perform c
    ⟨e.store, x.watch.hear (e.store.notifications e.published), x.taken, x.published ++ e.published⟩
  | .take =>
    match x.watch.receive with
    | (some rules, w) => ⟨x.store, w, x.taken ++ [rules], x.published⟩
    | (none, w) => { x with watch := w }

def run (x : Watched) (steps : List WatchStep) : Watched := steps.foldl step x

def cancel (x : Watched) : Watched :=
  { x with store := (x.watch.cancel x.store).2, watch := (x.watch.cancel x.store).1 }

/-- What holds along every run of a watched store: every listener is numbered, the watch's
listener is subscribed exactly once, the lists taken and those held are, in order, among the
lists published, and the last list published is the store's rules. -/
structure Sound (x : Watched) : Prop where
  numbered : ∀ n ∈ x.store.listeners, n ≤ x.store.nextListener
  once : x.store.listeners.count x.watch.listener = 1
  ordered : (x.taken ++ x.watch.channel.held).Sublist x.published
  current : x.published ≠ [] → x.published.getLast? = some x.store.rules

theorem Sound.issued {x : Watched} (sound : x.Sound) : x.watch.listener ≤ x.store.nextListener :=
  sound.numbered _ (List.count_pos_iff.mp (by rw [sound.once]; exact Nat.one_pos))

theorem begin_sound (s : RuleStore) (numbered : ∀ n ∈ s.listeners, n ≤ s.nextListener)
    (buffer : Int) : (begin s buffer).Sound where
  numbered := by
    intro n mem
    simp only [begin, RuleStore.watch, RuleStore.subscribe, List.mem_append,
      List.mem_singleton] at mem ⊢
    rcases mem with old | rfl
    · exact Nat.le_succ_of_le (numbered n old)
    · exact Nat.le_refl _
  once := by
    have fresh : s.nextListener + 1 ∉ s.listeners := fun mem => by
      have below := numbered _ mem
      omega
    simp [begin, RuleStore.watch, RuleStore.subscribe, List.count_eq_zero_of_not_mem fresh]
  ordered := by simp [begin, RuleStore.watch, Channel.make]
  current := fun none => absurd rfl none

end Watched

theorem RuleStore.perform_count (s : RuleStore) (c : StoreCall) {n : Nat}
    (numbered : ∀ m ∈ s.listeners, m ≤ s.nextListener) (issued : n ≤ s.nextListener) :
    (∀ m ∈ (s.perform c).store.listeners, m ≤ (s.perform c).store.nextListener) ∧
      n ≤ (s.perform c).store.nextListener ∧
      (s.perform c).store.listeners.count n =
        if c.dropped? = some n then 0 else s.listeners.count n := by
  rcases StoreCall.kinds c with rfl | ⟨k, rfl⟩ | ⟨noSub, noDrop⟩
  · -- the new listener's number is larger than every number before it
    simp only [perform, subscribe]
    refine ⟨?_, Nat.le_succ_of_le issued, ?_⟩
    · intro m mem
      rcases List.mem_append.mp mem with old | new
      · exact Nat.le_succ_of_le (numbered m old)
      · exact Nat.le_of_eq (List.mem_singleton.mp new)
    · have other : s.nextListener + 1 ≠ n := by omega
      simp [StoreCall.dropped?, List.count_append, other]
  · simp only [perform, unsubscribe, StoreCall.dropped?, Option.some.injEq]
    refine ⟨fun m mem => numbered m (List.mem_filter.mp mem).1, issued, ?_⟩
    split
    · rename_i same
      subst same
      exact List.count_eq_zero.mpr fun mem => by simp at mem
    · rename_i other
      rw [List.count_filter (by simpa using Ne.symm other)]
  · obtain ⟨kept, next⟩ := perform_quiet s noSub noDrop
    rw [kept, next, noDrop]
    exact ⟨numbered, issued, (if_neg (Option.some_ne_none n).symm).symm⟩

namespace Watched

theorem step_take_cases (x : Watched) :
    (x.watch.channel.held = [] ∧ x.step .take = x) ∨
      ∃ rules rest, x.watch.channel.held = rules :: rest ∧ x.watch.channel.receive.2.held = rest ∧
        x.step .take =
          ⟨x.store, { x.watch with channel := x.watch.channel.receive.2 }, x.taken ++ [rules],
            x.published⟩ := by
  cases held : x.watch.channel.held with
  | nil =>
    have none := Channel.receive_of_held_nil _ held
    refine .inl ⟨rfl, ?_⟩
    simp only [step, Watch.receive, none]
  | cons rules rest =>
    obtain ⟨first, after⟩ := Channel.receive_of_held_cons _ held
    refine .inr ⟨rules, rest, rfl, after, ?_⟩
    simp only [step, Watch.receive, first]

@[simp] theorem listener_step (x : Watched) (st : WatchStep) :
    (x.step st).watch.listener = x.watch.listener := by
  cases st with
  | call c => exact Watch.listener_hear _ _
  | take =>
    rcases step_take_cases x with ⟨-, same⟩ | ⟨rules, rest, -, -, took⟩
    · rw [same]
    · rw [took]

@[simp] theorem capacity_step (x : Watched) (st : WatchStep) :
    (x.step st).watch.channel.capacity = x.watch.channel.capacity := by
  cases st with
  | call c => exact Watch.capacity_hear _ _
  | take =>
    rcases step_take_cases x with ⟨-, same⟩ | ⟨rules, rest, -, -, took⟩
    · rw [same]
    · rw [took]
      obtain ⟨capacity, held, closed, positive, bounded⟩ := x.watch.channel
      cases held <;> rfl

theorem held_step_call (x : Watched) (once : x.store.listeners.count x.watch.listener = 1)
    (c : StoreCall) :
    (x.step (.call c)).watch.channel.held = x.watch.channel.held ++
      (x.store.perform c).published.take (x.watch.channel.capacity - x.watch.channel.held.length) := by
  show (x.watch.hear _).channel.held = _
  rw [Watch.hear_held, RuleStore.notifications_perform, toldTo_flatMap _ _ once]

theorem step_call_sound (x : Watched) (sound : x.Sound) (c : StoreCall)
    (alone : c.dropped? ≠ some x.watch.listener) : (x.step (.call c)).Sound := by
  obtain ⟨numbered, -, once⟩ := RuleStore.perform_count x.store c sound.numbered sound.issued
  rw [if_neg alone, sound.once] at once
  have held := held_step_call x sound.once c
  refine ⟨numbered, by rw [listener_step]; exact once, ?_, ?_⟩
  · -- the lists kept are among those the call published, after the earlier ones
    rw [held, ← List.append_assoc]
    exact sound.ordered.append (List.take_sublist _ _)
  · intro told
    change x.published ++ (x.store.perform c).published ≠ [] at told
    show (x.published ++ (x.store.perform c).published).getLast? = some (x.store.perform c).store.rules
    by_cases quiet : (x.store.perform c).published = []
    · rw [quiet, List.append_nil] at told ⊢
      rw [RuleStore.perform_rules_of_quiet x.store c quiet]
      exact sound.current told
    · rw [List.getLast?_append, RuleStore.perform_published_last x.store c quiet]
      rfl

theorem step_take_sound (x : Watched) (sound : x.Sound) : (x.step .take).Sound := by
  rcases step_take_cases x with ⟨-, same⟩ | ⟨rules, rest, held, after, took⟩
  · rw [same]
    exact sound
  · rw [took]
    refine ⟨sound.numbered, sound.once, ?_, sound.current⟩
    -- the list taken moves from the front of the channel to the end of what was taken
    have moved : x.taken ++ [rules] ++ rest = x.taken ++ x.watch.channel.held := by
      rw [held]
      simp
    show (x.taken ++ [rules] ++ x.watch.channel.receive.2.held).Sublist x.published
    rw [after, moved]
    exact sound.ordered

theorem run_cons (x : Watched) (st : WatchStep) (steps : List WatchStep) :
    x.run (st :: steps) = (x.step st).run steps :=
  rfl

theorem store_step_take (x : Watched) : (x.step .take).store = x.store := by
  rcases step_take_cases x with ⟨-, same⟩ | ⟨rules, rest, -, -, took⟩
  · rw [same]
  · rw [took]

@[simp] theorem listener_run (x : Watched) (steps : List WatchStep) :
    (x.run steps).watch.listener = x.watch.listener := by
  induction steps generalizing x with
  | nil => rfl
  | cons st steps ih => rw [run_cons, ih, listener_step]

@[simp] theorem capacity_run (x : Watched) (steps : List WatchStep) :
    (x.run steps).watch.channel.capacity = x.watch.channel.capacity := by
  induction steps generalizing x with
  | nil => rfl
  | cons st steps ih => rw [run_cons, ih, capacity_step]

theorem store_run (x : Watched) (steps : List WatchStep) :
    (x.run steps).store = (x.store.run (WatchStep.calls steps)).1 := by
  induction steps generalizing x with
  | nil => rfl
  | cons st steps ih =>
    rw [run_cons, ih]
    cases st with
    | call c => rfl
    | take => rw [store_step_take]; rfl

theorem run_sound (x : Watched) (sound : x.Sound) (steps : List WatchStep)
    (alone : ∀ c, WatchStep.call c ∈ steps → c.dropped? ≠ some x.watch.listener) :
    (x.run steps).Sound := by
  induction steps generalizing x with
  | nil => exact sound
  | cons st steps ih =>
    have first : (x.step st).Sound := by
      cases st with
      | call c => exact step_call_sound x sound c (alone c List.mem_cons_self)
      | take => exact step_take_sound x sound
    rw [run_cons]
    refine ih (x.step st) first fun c mem => ?_
    rw [listener_step]
    exact alone c (List.mem_cons_of_mem _ mem)

/-- What holds once the watch has ended: every listener is numbered, the watch's listener was
handed out and is subscribed no more, and the channel is closed. -/
structure Ended (x : Watched) : Prop where
  numbered : ∀ n ∈ x.store.listeners, n ≤ x.store.nextListener
  issued : x.watch.listener ≤ x.store.nextListener
  gone : x.watch.listener ∉ x.store.listeners
  closed : x.watch.channel.closed = true

theorem Sound.cancel_ended {x : Watched} (sound : x.Sound) : x.cancel.Ended where
  numbered n mem := sound.numbered n (List.mem_filter.mp mem).1
  issued := sound.issued
  gone mem := by simp [cancel, Watch.cancel, RuleStore.unsubscribe] at mem
  closed := rfl

theorem Ended.step_call {x : Watched} (ended : x.Ended) (c : StoreCall) :
    (x.step (.call c)).watch = x.watch ∧ (x.step (.call c)).Ended := by
  have same : (x.step (.call c)).watch = x.watch := by
    show x.watch.hear _ = x.watch
    rw [RuleStore.notifications_perform]
    refine Watch.hear_of_untold _ _ fun note mem => ?_
    obtain ⟨rules, -, m, listed, rfl⟩ : ∃ rules ∈ (x.store.perform c).published,
        ∃ m ∈ x.store.listeners, (m, rules) = note := by
      simpa using mem
    exact fun told => ended.gone (told ▸ listed)
  obtain ⟨numbered, issued, count⟩ := RuleStore.perform_count x.store c ended.numbered ended.issued
  have none : (x.store.perform c).store.listeners.count x.watch.listener = 0 := by
    rw [count, List.count_eq_zero.mpr ended.gone, ite_self]
  refine ⟨same, numbered, ?_, ?_, ?_⟩
  · rw [listener_step]
    exact issued
  · rw [listener_step]
    exact List.count_eq_zero.mp none
  · rw [same]
    exact ended.closed

theorem Ended.run_calls {x : Watched} (ended : x.Ended) (calls : List StoreCall) :
    (x.run (calls.map .call)).watch = x.watch ∧ (x.run (calls.map .call)).Ended := by
  induction calls generalizing x with
  | nil => exact ⟨rfl, ended⟩
  | cons c calls ih =>
    obtain ⟨same, next⟩ := ended.step_call c
    obtain ⟨kept, last⟩ := ih next
    rw [List.map_cons, run_cons]
    exact ⟨kept.trans same, last⟩

end Watched

/-- A reader watching the store while calls change it, in any interleaving of calls and takes,
none of which unsubscribes the watch's own listener. The lists taken and those still held are,
in order, among the lists the calls published, the last of which is the store's rules, and the
calls change the store as they would without the watch. A call never waits: it keeps in the
channel the first of its lists that fit and drops the rest, so only a reader that missed no
list is sure, once the channel is empty, to have taken the store's rules last. After the watch
ends, its listener is subscribed no more, its channel is closed, and later calls leave the watch
as it is. -/
theorem watch_takes_published_lists_in_order (s : RuleStore)
    (numbered : ∀ n ∈ s.listeners, n ≤ s.nextListener) (buffer : Int) (steps : List WatchStep)
    (alone : ∀ c, WatchStep.call c ∈ steps → c.dropped? ≠ some (s.nextListener + 1)) :
    let x := (Watched.begin s buffer).run steps
    (x.taken ++ x.watch.channel.held).Sublist x.published ∧
      x.store = ((s.watch buffer).2.run (WatchStep.calls steps)).1 ∧
      (x.published ≠ [] → x.published.getLast? = some x.store.rules) ∧
      (x.watch.channel.held = [] → x.taken.length = x.published.length → x.published ≠ [] →
        x.taken.getLast? = some x.store.rules) ∧
      (∀ c, (x.step (.call c)).watch.channel.held = x.watch.channel.held ++
        (x.store.perform c).published.take ((max buffer 1).toNat - x.watch.channel.held.length)) ∧
      (∀ more : List StoreCall, (x.cancel.run (more.map .call)).watch = x.cancel.watch ∧
        x.cancel.watch.channel.closed = true ∧ x.watch.listener ∉ x.cancel.store.listeners) := by
  intro x
  have sound : x.Sound := Watched.run_sound _ (Watched.begin_sound s numbered buffer) steps alone
  have capacity : x.watch.channel.capacity = (max buffer 1).toNat := by
    rw [Watched.capacity_run]
    rfl
  refine ⟨sound.ordered, Watched.store_run _ _, sound.current, ?_, ?_, ?_⟩
  · -- with nothing held and nothing missed, the lists taken are all those published
    intro empty missed told
    have all : x.taken = x.published := by
      have ordered := sound.ordered
      rw [empty, List.append_nil] at ordered
      exact ordered.eq_of_length missed
    rw [all]
    exact sound.current told
  · intro c
    rw [← capacity]
    exact Watched.held_step_call x sound.once c
  · intro more
    have ended := sound.cancel_ended
    exact ⟨(ended.run_calls more).1, ended.closed, ended.gone⟩

theorem watch_on_new_store_takes_in_order :
    (∀ n ∈ (RuleStore.empty .sequential).listeners, n ≤ (RuleStore.empty .sequential).nextListener) ∧
      (∀ c, WatchStep.call c ∈ [.call (.addFresh 1 "a.test"), .take, .call (.addFresh 1 "b.test")] →
        c.dropped? ≠ some ((RuleStore.empty .sequential).nextListener + 1)) ∧
      let x := (Watched.begin (RuleStore.empty .sequential) 8).run
        [.call (.addFresh 1 "a.test"), .take, .call (.addFresh 1 "b.test")]
      (x.taken ++ x.watch.channel.held).Sublist x.published ∧
        x.store = (((RuleStore.empty .sequential).watch 8).2.run
          (WatchStep.calls [.call (.addFresh 1 "a.test"), .take, .call (.addFresh 1 "b.test")])).1 ∧
        (x.published ≠ [] → x.published.getLast? = some x.store.rules) ∧
        (x.watch.channel.held = [] → x.taken.length = x.published.length → x.published ≠ [] →
          x.taken.getLast? = some x.store.rules) ∧
        (∀ c, (x.step (.call c)).watch.channel.held = x.watch.channel.held ++
          (x.store.perform c).published.take ((max 8 1 : Int).toNat - x.watch.channel.held.length)) ∧
        (∀ more : List StoreCall, (x.cancel.run (more.map .call)).watch = x.cancel.watch ∧
          x.cancel.watch.channel.closed = true ∧ x.watch.listener ∉ x.cancel.store.listeners) := by
  have numbered : ∀ n ∈ (RuleStore.empty .sequential).listeners, n ≤ (RuleStore.empty .sequential).nextListener := by
    simp [RuleStore.empty]
  have alone : ∀ c, WatchStep.call c ∈
      [.call (.addFresh 1 "a.test"), .take, .call (.addFresh 1 "b.test")] →
        c.dropped? ≠ some ((RuleStore.empty .sequential).nextListener + 1) := by
    intro c mem
    simp only [List.mem_cons, WatchStep.call.injEq, reduceCtorEq, List.not_mem_nil, false_or,
      or_false] at mem
    rcases mem with rfl | rfl <;> simp [StoreCall.dropped?]
  exact ⟨numbered, alone, watch_takes_published_lists_in_order (RuleStore.empty .sequential) numbered 8 _ alone⟩

/-- A watch with room for one list, through two changes the reader does not keep up with: it
takes the first list, then finds the channel empty, and the store's rules were never taken. -/
theorem watch_misses_current_rules :
    let x := (Watched.begin (RuleStore.empty .sequential) 1).run
      [.call (.addFresh 1 "a.test"), .call (.addFresh 1 "b.test"), .take, .take]
    x.watch.channel.held = [] ∧ x.published.length = 2 ∧ x.taken.length = 1 ∧
      x.taken.getLast? ≠ some x.store.rules := by
  decide +kernel

end HeaderAudit
