import HeaderAudit.Runtime.Standard
import HeaderAudit.Proofs.Storage.Keyed
/-!
A batch that is not cancelled takes its items one at a time, each to exactly one fate.
-/

namespace HeaderAudit

def Progress.tally (fates : List Fate) (last : String) : Progress :=
  ⟨fates.length, fates.countP (· = .analyzed), fates.countP (· = .excluded),
    fates.countP (· = .skipped), fates.countP (· = .failed), last⟩

theorem Progress.step_tally (fates : List Fate) (last ref : String) (f : Fate) :
    (Progress.tally fates last).step ref f = Progress.tally (fates ++ [f]) ref := by
  cases f <;> simp [step, tally, List.countP_append]

theorem Progress.tally_counted (fates : List Fate) (last : String) :
    (tally fates last).analyzed + (tally fates last).excluded + (tally fates last).skipped +
      (tally fates last).failed = fates.length := by
  induction fates with
  | nil => rfl
  | cons f rest ih =>
    simp only [tally, List.countP_cons, List.length_cons] at ih ⊢
    cases f <;> simp <;> omega

theorem AllowedOrder.eq_range_of_one {n : Nat} {order : List Nat} (allowed : AllowedOrder 1 n order) :
    order = List.range n := by
  have length : order.length = n := by simpa using allowed.perm.length_eq
  have nodup : order.Nodup := allowed.perm.nodup_iff.mpr List.nodup_range
  -- by strong induction on places: a smaller item at place p would also finish at its own place
  have fixed : ∀ p (h : p < order.length), order[p] = p := by
    intro p
    induction p using Nat.strong_induction_on with
    | _ p ih =>
      intro h
      have early : order[p] < p + 1 := allowed.started p _ (List.getElem?_eq_getElem h)
      rcases Nat.lt_or_ge order[p] p with smaller | _
      · have twice : order[order[p]] = order[p] := ih _ smaller (by omega)
        have same := nodup.getElem_inj_iff.mp twice
        omega
      · omega
  apply List.ext_getElem (by simp [length])
  intro p h₁ h₂
  rw [fixed p h₁, List.getElem_range]

namespace Scheduler

theorem filterMap_range_getElem? {α : Type} (xs : List α) :
    (List.range xs.length).filterMap (xs[·]?) = xs := by
  induction xs with
  | nil => rfl
  | cons x xs ih =>
    rw [List.length_cons, List.range_succ_eq_map, List.filterMap_cons, List.filterMap_map]
    simp only [List.getElem?_cons_zero, Function.comp_def, List.getElem?_cons_succ]
    rw [ih]

theorem arrange_one {α : Type} (sched : Scheduler) (xs : List α) : sched.arrange 1 xs = xs := by
  rw [arrange, (sched.allowed 1 xs.length le_rfl).eq_range_of_one, filterMap_range_getElem?]

theorem arrange_perm {α : Type} (sched : Scheduler) {w : Nat} (pool : 1 ≤ w) (xs : List α) :
    (sched.arrange w xs).Perm xs := by
  have perm := ((sched.allowed w xs.length pool).perm.filterMap (xs[·]?))
  rw [filterMap_range_getElem?] at perm
  exact perm

theorem arrange_singleton {α : Type} (sched : Scheduler) {w : Nat} (pool : 1 ≤ w) (x : α) :
    sched.arrange w [x] = [x] :=
  List.perm_singleton.mp (sched.arrange_perm pool [x])

end Scheduler

namespace Analyzer

variable {σ : Type}

/-- Items taken in turn from a store and network: the fate of each, the entries stored, and the
store and network after them. An item without a loader, or whose loader fails, is skipped; a
record whose endpoint a rule covers is excluded; a record whose entry the store refuses has
failed; and a record whose entry the store takes is analysed. Only the last changes the store. -/
inductive Takes (a : Analyzer) (idna : IdnaLookup) (rules : Option RuleStore) :
    List (WorkItem σ) → ResultStore → σ → List Fate → List StoredEntry → ResultStore → σ → Prop
  | nil (store : ResultStore) (net : σ) : Takes a idna rules [] store net [] [] store net
  | unloadable {it : WorkItem σ} {rest : List (WorkItem σ)} {store store' : ResultStore}
      {net net' : σ} {fates : List Fate} {entries : List StoredEntry}
      (noLoader : it.load = none) (tail : Takes a idna rules rest store net fates entries store' net') :
      Takes a idna rules (it :: rest) store net (.skipped :: fates) entries store' net'
  | unreadable {it : WorkItem σ} {rest : List (WorkItem σ)} {store store' : ResultStore}
      {net net₁ net' : σ} {fates : List Fate} {entries : List StoredEntry}
      {load : σ → Outcome Record × σ} {e : Error}
      (loader : it.load = some load) (fails : load net = (.error e, net₁))
      (tail : Takes a idna rules rest store net₁ fates entries store' net') :
      Takes a idna rules (it :: rest) store net (.skipped :: fates) entries store' net'
  | covered {it : WorkItem σ} {rest : List (WorkItem σ)} {store store' : ResultStore}
      {net net₁ net' : σ} {fates : List Fate} {entries : List StoredEntry}
      {load : σ → Outcome Record × σ} {r : Record}
      (loader : it.load = some load) (loads : load net = (.ok r, net₁))
      (excludes : excluded idna rules r.method r.url = true)
      (tail : Takes a idna rules rest store net₁ fates entries store' net') :
      Takes a idna rules (it :: rest) store net (.excluded :: fates) entries store' net'
  | refused {it : WorkItem σ} {rest : List (WorkItem σ)} {store store' : ResultStore}
      {net net₁ net' : σ} {fates : List Fate} {entries : List StoredEntry}
      {load : σ → Outcome Record × σ} {r : Record} {e : Error}
      (loader : it.load = some load) (loads : load net = (.ok r, net₁))
      (kept : excluded idna rules r.method r.url = false)
      (refuses : store.put (some (Entry.ofRecord a.registry r).stored) = .error e)
      (tail : Takes a idna rules rest store net₁ fates entries store' net') :
      Takes a idna rules (it :: rest) store net (.failed :: fates) entries store' net'
  | stored {it : WorkItem σ} {rest : List (WorkItem σ)} {store store₁ store' : ResultStore}
      {net net₁ net' : σ} {fates : List Fate} {entries : List StoredEntry}
      {load : σ → Outcome Record × σ} {r : Record}
      (loader : it.load = some load) (loads : load net = (.ok r, net₁))
      (kept : excluded idna rules r.method r.url = false)
      (takes : store.put (some (Entry.ofRecord a.registry r).stored) = .ok store₁)
      (tail : Takes a idna rules rest store₁ net₁ fates entries store' net') :
      Takes a idna rules (it :: rest) store net (.analyzed :: fates)
        ((Entry.ofRecord a.registry r).stored :: entries) store' net'

variable {a : Analyzer} {idna : IdnaLookup} {rules : Option RuleStore}

@[simp] theorem excluded_some (s : RuleStore) (method url : String) :
    excluded idna (some s) method url = s.excludes idna method url := rfl

theorem takes_cons {it : WorkItem σ} {rest : List (WorkItem σ)} {store store₁ store' : ResultStore}
    {net net₁ net' : σ} {f : Fate} {fates : List Fate} {entries : List StoredEntry}
    (step : a.process idna rules it store net = (f, store₁, net₁))
    (tail : a.Takes idna rules rest store₁ net₁ fates entries store' net') :
    ∃ entries', a.Takes idna rules (it :: rest) store net (f :: fates) entries' store' net' := by
  unfold process at step
  cases loader : it.load with
  | none =>
    rw [loader] at step
    cases step
    exact ⟨entries, .unloadable loader tail⟩
  | some load =>
    rw [loader] at step
    dsimp only at step
    rcases loads : load net with ⟨result, net₂⟩
    rw [loads] at step
    cases result with
    | error e =>
      cases step
      exact ⟨entries, .unreadable loader loads tail⟩
    | ok r =>
      dsimp only at step
      cases excludes : excluded idna rules r.method r.url with
      | true =>
        rw [if_pos excludes] at step
        cases step
        exact ⟨entries, .covered loader loads excludes tail⟩
      | false =>
        rw [if_neg (by simp [excludes])] at step
        cases put : store.put (some (Entry.ofRecord a.registry r).stored) with
        | error e =>
          rw [put] at step
          cases step
          exact ⟨entries, .refused loader loads excludes put tail⟩
        | ok s =>
          rw [put] at step
          cases step
          exact ⟨_, .stored loader loads excludes put tail⟩

theorem Takes.determ {items : List (WorkItem σ)} {store : ResultStore} {net : σ}
    {fates₁ fates₂ : List Fate} {entries₁ entries₂ : List StoredEntry} {s₁ s₂ : ResultStore} {n₁ n₂ : σ}
    (first : a.Takes idna rules items store net fates₁ entries₁ s₁ n₁)
    (second : a.Takes idna rules items store net fates₂ entries₂ s₂ n₂) :
    fates₁ = fates₂ ∧ entries₁ = entries₂ ∧ s₁ = s₂ ∧ n₁ = n₂ := by
  induction first generalizing fates₂ entries₂ s₂ n₂ with
  | nil => cases second; exact ⟨rfl, rfl, rfl, rfl⟩
  | unloadable noLoader _ ih =>
    cases second with
    | unloadable _ tail₂ =>
      obtain ⟨rfl, rfl, rfl, rfl⟩ := ih tail₂
      exact ⟨rfl, rfl, rfl, rfl⟩
    | _ => simp_all
  | unreadable loader fails _ ih =>
    cases second with
    | unreadable loader₂ fails₂ tail₂ =>
      cases loader.symm.trans loader₂
      cases fails.symm.trans fails₂
      obtain ⟨rfl, rfl, rfl, rfl⟩ := ih tail₂
      exact ⟨rfl, rfl, rfl, rfl⟩
    | _ => simp_all
  | covered loader loads _ _ ih =>
    cases second with
    | covered loader₂ loads₂ _ tail₂ =>
      cases loader.symm.trans loader₂
      cases loads.symm.trans loads₂
      obtain ⟨rfl, rfl, rfl, rfl⟩ := ih tail₂
      exact ⟨rfl, rfl, rfl, rfl⟩
    | _ => simp_all
  | refused loader loads _ _ _ ih =>
    cases second with
    | refused loader₂ loads₂ _ _ tail₂ =>
      cases loader.symm.trans loader₂
      cases loads.symm.trans loads₂
      obtain ⟨rfl, rfl, rfl, rfl⟩ := ih tail₂
      exact ⟨rfl, rfl, rfl, rfl⟩
    | _ => simp_all
  | stored loader loads _ takes _ ih =>
    cases second with
    | stored loader₂ loads₂ _ takes₂ tail₂ =>
      cases loader.symm.trans loader₂
      cases loads.symm.trans loads₂
      cases takes.symm.trans takes₂
      obtain ⟨rfl, rfl, rfl, rfl⟩ := ih tail₂
      exact ⟨rfl, rfl, rfl, rfl⟩
    | _ => simp_all

theorem runItems_takes (items : List (WorkItem σ)) (pre : List Fate) (last : String)
    (seen : List Progress) (store : ResultStore) (net : σ) :
    let out := a.runItems idna rules items (Progress.tally pre last, seen) store net
    ∃ fates entries, a.Takes idna rules items store net fates entries out.2.1 out.2.2 ∧
      out.1.2 = (items.mapIdx fun k it =>
        Progress.tally (pre ++ fates.take (k + 1)) it.ref).reverse ++ seen ∧
      out.1.1.summary = (Progress.tally (pre ++ fates) last).summary := by
  induction items generalizing pre last seen store net with
  | nil => exact ⟨[], [], .nil store net, by simp [runItems], by simp [runItems]⟩
  | cons it rest ih =>
    rcases step : a.process idna rules it store net with ⟨f, store₁, net₁⟩
    have unfolded : a.runItems idna rules (it :: rest) (Progress.tally pre last, seen) store net =
        a.runItems idna rules rest (Progress.tally (pre ++ [f]) it.ref,
          Progress.tally (pre ++ [f]) it.ref :: seen) store₁ net₁ := by
      simp only [runItems, step, Progress.step_tally]
    obtain ⟨fates, entries, takes, progress, summary⟩ :=
      ih (pre ++ [f]) it.ref (Progress.tally (pre ++ [f]) it.ref :: seen) store₁ net₁
    obtain ⟨entries', takes'⟩ := takes_cons step takes
    refine ⟨f :: fates, entries', ?_, ?_, ?_⟩
    · rw [unfolded]
      exact takes'
    · rw [unfolded, progress]
      simp [List.mapIdx_cons]
    · rw [unfolded, summary]
      simp [Progress.tally, Progress.summary, List.countP_append]

theorem Takes.store_eq {items : List (WorkItem σ)} {store store' : ResultStore} {net net' : σ}
    {fates : List Fate} {entries : List StoredEntry}
    (takes : a.Takes idna rules items store net fates entries store' net') :
    store' = entries.foldl ResultStore.insert store := by
  induction takes with
  | nil => rfl
  | unloadable _ _ ih => exact ih
  | unreadable _ _ _ ih => exact ih
  | covered _ _ _ _ ih => exact ih
  | refused _ _ _ _ _ ih => exact ih
  | stored _ _ _ put _ ih => rw [ih, ResultStore.eq_insert_of_put put, List.foldl_cons]

theorem Takes.get_last {items : List (WorkItem σ)} {store store' : ResultStore} {net net' : σ}
    {fates : List Fate} {entries : List StoredEntry}
    (takes : a.Takes idna rules items store net fates entries store' net') (lawful : store.Lawful)
    (key : String) :
    store'.get key = match (entries.filter (·.key == key)).getLast? with
      | some e => store.reread e
      | none => store.get key := by
  rw [takes.store_eq]
  exact ResultStore.get_foldl_insert store lawful entries key

theorem Takes.length_fates {items : List (WorkItem σ)} {store store' : ResultStore}
    {net net' : σ} {fates : List Fate} {entries : List StoredEntry}
    (takes : a.Takes idna rules items store net fates entries store' net') :
    fates.length = items.length := by
  induction takes with
  | nil => rfl
  | unloadable _ _ ih => simp [ih]
  | unreadable _ _ _ ih => simp [ih]
  | covered _ _ _ _ ih => simp [ih]
  | refused _ _ _ _ _ ih => simp [ih]
  | stored _ _ _ _ _ ih => simp [ih]

theorem run_uncancelled (sched : Scheduler) (items : List (WorkItem σ)) (store : ResultStore) (net : σ) :
    a.run sched idna rules false items store net =
      let out := a.runItems idna rules (sched.arrange a.workers items) (Progress.zero, [])
        (if a.resetBeforeRun then store.clear else store) net
      (⟨out.1.1.summary, out.1.2.reverse, none⟩, out.2.1, out.2.2) := by
  cases reset : a.resetBeforeRun <;> simp [run, reset]

theorem analyzeOne_as_batch (sched : Scheduler) (r : Record) (store : ResultStore) (net : σ) :
    let one := { a with resetBeforeRun := false }.run sched idna rules false [WorkItem.ofRecord r] store net
    (a.analyzeOne idna rules r store).2 = one.2.1 ∧
      ((∃ e, (a.analyzeOne idna rules r store).1 = .ok (e, true)) ↔ one.1.summary.excluded = 1) := by
  -- a batch of one item takes it whatever the order
  have alone : sched.arrange a.workers [(WorkItem.ofRecord r : WorkItem σ)] = [WorkItem.ofRecord r] :=
    sched.arrange_singleton a.positive _
  dsimp only
  rw [run_uncancelled]
  dsimp only
  rw [alone]
  cases excludes : excluded idna rules r.method r.url with
  | true =>
    simp [analyzeOne, runItems, process, WorkItem.ofRecord, excludes, Progress.step, Progress.zero,
      Progress.summary]
  | false =>
    cases put : store.put (some (Entry.ofRecord a.registry r).stored) <;>
      simp [analyzeOne, runItems, process, WorkItem.ofRecord, excludes, put, Progress.step,
        Progress.zero, Progress.summary]

/-- A batch on one worker that is not cancelled takes its items in order, each to one fate on
the store and network the items before it left. After each item it reports the counts of the fates so far; it
counts every item once; and it leaves under each key the last analysed entry with that key, or
what the start store held there. Analysing one record does to the store what a batch of that
record alone does. -/
theorem run_classifies_items_in_order (a : Analyzer) (sched : Scheduler) (idna : IdnaLookup)
    (rules : Option RuleStore) (items : List (WorkItem σ)) (store : ResultStore) (lawful : store.Lawful) (net : σ)
    (record : Record) (single : a.workers = 1) :
    let start := if a.resetBeforeRun then store.clear else store
    let out := a.run sched idna rules false items store net
    (∃ fates entries, a.Takes idna rules items start net fates entries out.2.1 out.2.2 ∧
      out.1.failure = none ∧
      out.1.progress = items.mapIdx (fun k it => Progress.tally (fates.take (k + 1)) it.ref) ∧
      out.1.summary = (Progress.tally fates "").summary ∧
      out.1.summary.analyzed + out.1.summary.excluded + out.1.summary.skipped +
        out.1.summary.failed = items.length ∧
      out.2.1 = entries.foldl ResultStore.insert start ∧
      ∀ key, out.2.1.get key = match (entries.filter (·.key == key)).getLast? with
        | some e => start.reread e
        | none => start.get key) ∧
    let one := { a with resetBeforeRun := false }.run sched idna rules false [WorkItem.ofRecord record]
      store net
    (a.analyzeOne idna rules record store).2 = one.2.1 ∧
      ((∃ e, (a.analyzeOne idna rules record store).1 = .ok (e, true)) ↔
        one.1.summary.excluded = 1) := by
  intro start out
  have ran : out = (⟨(a.runItems idna rules items (Progress.tally [] "", []) start net).1.1.summary,
      (a.runItems idna rules items (Progress.tally [] "", []) start net).1.2.reverse, none⟩,
      (a.runItems idna rules items (Progress.tally [] "", []) start net).2) := by
    show a.run sched idna rules false items store net = _
    rw [run_uncancelled, single, sched.arrange_one]
    rfl
  obtain ⟨fates, entries, takes, progress, summary⟩ :=
    @runItems_takes σ a idna rules items [] "" [] start net
  simp only [List.nil_append, List.append_nil] at progress summary
  refine ⟨⟨fates, entries, ?_, ?_, ?_, ?_, ?_, ?_, ?_⟩, analyzeOne_as_batch sched record store net⟩
  · rw [ran]
    exact takes
  · rw [ran]
  · rw [ran, progress, List.reverse_reverse]
  · rw [ran, summary]
  · have counted := Progress.tally_counted fates ""
    rw [ran, summary, ← takes.length_fates]
    exact counted
  · rw [ran]
    exact takes.store_eq
  · -- emptying a store keeps its engine
    have startLawful : start.Lawful := by
      dsimp only [start]
      split
      · exact lawful.clear
      · exact lawful
    intro key
    rw [ran]
    exact takes.get_last startLawful key

theorem one_worker_batch_counts_each_item :
    let a : Analyzer := ⟨Registry.standard, false, 1, le_rfl⟩
    let items : List (WorkItem Unit) := [⟨"none", none⟩, WorkItem.ofRecord default]
    let out := a.run Scheduler.inOrder .standard none false items (.memory []) ()
    a.workers = 1 ∧
      out.1.summary.analyzed + out.1.summary.excluded + out.1.summary.skipped + out.1.summary.failed = 2 := by
  intro a items out
  obtain ⟨⟨fates, entries, -, -, -, -, counted, -⟩, -⟩ :=
    run_classifies_items_in_order a Scheduler.inOrder .standard none items (.memory []) trivial () default rfl
  exact ⟨rfl, counted⟩

end Analyzer

end HeaderAudit
