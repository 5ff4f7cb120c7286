import HeaderAudit.Scan.Application
import HeaderAudit.Settings.Load
import HeaderAudit.Proofs.Exclusion.Codec
import HeaderAudit.Proofs.Exclusion.Matching
import HeaderAudit.Proofs.Outcome
/-!
Starting the application from settings: validation, the seed rules, and the duplicate ids validation
does not look at.
-/
namespace HeaderAudit

namespace Settings

/-- What validation asks of the settings besides their seed rules: a known store kind, with a
database path for `sqlite`, at least one worker, and crawl limits that are not negative. -/
structure Bounded (s : Settings) : Prop where
  store : Text.lower s.store.kind = "memory" ∨ Text.lower s.store.kind = "sqlite" ∧ Text.trim s.store.path ≠ ""
  workers : 1 ≤ s.analyzer.workers
  depth : 0 ≤ s.crawl.maxDepth
  pages : 0 ≤ s.crawl.maxPages

theorem validate_eq_ok (s : Settings) (source : IdSource) :
    s.validate source = .ok () ↔
      s.Bounded ∧ ∀ spec ∈ s.exclusions.getD [], ∃ made, spec.toRule (IdSupply.start source) = .ok made := by
  constructor
  · intro valid
    dsimp only [validate, bind, Except.bind, pure, Except.pure, throw, throwThe, MonadExceptOf.throw] at valid
    -- the runs that reach the seed loop, where each seed rule is made
    split_ifs at valid
    all_goals
      split at valid
      · cases valid
      rename_i loop
      refine ⟨⟨?_, by omega, by omega, by omega⟩, ?_⟩
      swap
      · intro spec member
        rw [← List.zipIdx_map_fst 0 (s.exclusions.getD [])] at member
        obtain ⟨x, listed, rfl⟩ := List.mem_map.mp member
        have goes := (forIn_eq_ok (fun x b r ran => by split at ran <;> cases ran; rfl) _).mp loop
        obtain ⟨r, ran⟩ := goes x listed
        split at ran
        · rename_i made kept
          exact ⟨made, kept⟩
        · cases ran
    -- the store kind of each: `memory`, or `sqlite` with a path
    · exact .inl ‹_›
    · exact .inr ⟨‹_›, ‹_›⟩
  · rintro ⟨bounded, seeds⟩
    have workers := bounded.workers
    have depth := bounded.depth
    have pages := bounded.pages
    dsimp only [validate, bind, Except.bind, pure, Except.pure, throw, throwThe, MonadExceptOf.throw]
    rcases bounded.store with memory | ⟨sqlite, path⟩
    case' inl => rw [if_pos memory]
    case' inr =>
      rw [if_neg (show ¬ Text.lower s.store.kind = "memory" by rw [sqlite]; decide), if_pos sqlite,
        if_neg path]
    all_goals
      rw [if_neg (show ¬ s.analyzer.workers < 1 by omega),
        if_neg (show ¬ (s.crawl.maxDepth < 0 ∨ s.crawl.maxPages < 0) by omega)]
      split
      · -- the seed loop cannot fail, since every seed rule is made
        rename_i loop
        refine (forIn_error (P := fun _ => False) _ ?_ loop).elim
        intro x listed b e refused
        split at refused
        · cases refused
        · rename_i e' failed
          obtain ⟨made, kept⟩ := seeds x.1 (List.fst_mem_of_mem_zipIdx listed)
          rw [kept] at failed
          cases failed
      · rfl

theorem invalidConfig_of_validate {s : Settings} {source : IdSource} {e : Error}
    (failed : s.validate source = .error e) :
    Fault.invalidConfig ∈ e.faults := by
  dsimp only [validate, bind, Except.bind, pure, Except.pure, throw, throwThe, MonadExceptOf.throw] at failed
  split_ifs at failed
  -- each scalar check refuses with the settings fault alone
  any_goals
    cases failed
    exact List.mem_singleton_self _
  -- the seed loop refuses with the settings fault as the cause of the rule's failure
  all_goals
    split at failed
    · rename_i loop
      cases failed
      refine forIn_error (P := fun e => Fault.invalidConfig ∈ e.faults) _ ?_ loop
      intro x _ b e refused
      split at refused
      · cases refused
      · cases refused
        exact List.mem_cons_self
    · cases failed

section Load

variable {decode : String → Settings → Except String Settings} {source : IdSource}

theorem ofText_eq_ok {path text : String} {s : Settings} :
    ofText decode source path text = .ok s ↔ decode text defaults = .ok s ∧ s.validate source = .ok () := by
  unfold ofText
  dsimp only
  split
  · rename_i decoded read
    rw [read, Except.ok.injEq]
    simp only [bind, Except.bind, pure, Except.pure]
    cases valid : decoded.validate source with
    | error e =>
      constructor
      · intro refused
        cases refused
      · rintro ⟨rfl, passed⟩
        rw [valid] at passed
        cases passed
    | ok u =>
      constructor
      · intro started
        cases started
        exact ⟨rfl, valid⟩
      · rintro ⟨rfl, -⟩
        rfl
  · rename_i m refused
    rw [refused]
    simp [bind, Except.bind, throw, throwThe, MonadExceptOf.throw]

theorem load_eq_ok {w : Workspace} {path : String} {s : Settings} :
    load decode source w path = .ok s ↔ ∃ text, w.readFile path = .ok text ∧
      decode text defaults = .ok s ∧ s.validate source = .ok () := by
  rw [load, Outcome.bind_eq_ok_iff]
  exact exists_congr fun text => and_congr Outcome.mapError_eq_ok_iff ofText_eq_ok

end Load

end Settings

namespace RuleSpec

theorem toRule_blank_eq_ok {s : RuleSpec} (blank : s.id = "") {ids ids' : IdSupply} {r : Rule} :
    s.toRule ids = .ok (r, ids') ↔ ∃ k, RuleKind.parse s.kind = .ok k ∧ Text.trim ids.fresh.1 ≠ "" ∧
      Text.trim s.pattern ≠ "" ∧ r = ⟨ids.fresh.1, k, s.pattern⟩ ∧ ids' = ids.fresh.2 := by
  unfold toRule
  cases read : RuleKind.parse s.kind with
  | error e => simp [bind, Except.bind]
  | ok k =>
    simp only [bind, Except.bind, if_pos blank, Rule.fresh]
    rw [Rule.make_code]
    -- the drawn id is checked first, then the pattern
    by_cases drawnBlank : Text.trim ids.fresh.1 = ""
    · simp [drawnBlank, Except.map]
    · by_cases kept : Text.trim s.pattern = ""
      · simp [drawnBlank, kept, Except.map]
      · simp [drawnBlank, kept, Except.map, eq_comm]

end RuleSpec

/-! ### The seed rules -/

/-- How a stored form seeds a rule from an id supply: under its own id when it has one, or else
under the supply's next id, which it uses up. -/
inductive Seed : IdSupply → RuleSpec → Rule → IdSupply → Prop where
  | named {ids : IdSupply} {spec : RuleSpec} {k : RuleKind} (named : spec.id ≠ "")
      (read : RuleKind.parse spec.kind = .ok k) (idKept : Text.trim spec.id ≠ "")
      (patternKept : Text.trim spec.pattern ≠ "") : Seed ids spec ⟨spec.id, k, spec.pattern⟩ ids
  | fresh {ids : IdSupply} {spec : RuleSpec} {k : RuleKind} (blank : spec.id = "")
      (read : RuleKind.parse spec.kind = .ok k) (idKept : Text.trim ids.fresh.1 ≠ "")
      (patternKept : Text.trim spec.pattern ≠ "") :
      Seed ids spec ⟨ids.fresh.1, k, spec.pattern⟩ ids.fresh.2

/-- The rules that stored forms seed, in order, drawing fresh ids one after another. -/
inductive Seeds : IdSupply → List RuleSpec → List Rule → Prop where
  | nil (ids : IdSupply) : Seeds ids [] []
  | cons {ids ids' : IdSupply} {spec : RuleSpec} {r : Rule} {specs : List RuleSpec} {rules : List Rule}
      (seed : Seed ids spec r ids') (rest : Seeds ids' specs rules) :
      Seeds ids (spec :: specs) (r :: rules)

namespace Seed

variable {ids ids' : IdSupply} {spec : RuleSpec} {r : Rule}

theorem iff_toRule : Seed ids spec r ids' ↔ spec.toRule ids = .ok (r, ids') := by
  constructor
  · intro seed
    cases seed with
    | named named read idKept patternKept =>
      exact (RuleSpec.toRule_eq_ok named).mpr ⟨_, read, idKept, patternKept, rfl, rfl⟩
    | fresh blank read idKept patternKept =>
      exact (RuleSpec.toRule_blank_eq_ok blank).mpr ⟨_, read, idKept, patternKept, rfl, rfl⟩
  · intro made
    by_cases blank : spec.id = ""
    · obtain ⟨k, read, idKept, patternKept, rfl, rfl⟩ := (RuleSpec.toRule_blank_eq_ok blank).mp made
      exact .fresh blank read idKept patternKept
    · obtain ⟨k, read, idKept, patternKept, rfl, rfl⟩ := (RuleSpec.toRule_eq_ok blank).mp made
      exact .named blank read idKept patternKept

theorem id_ne (seed : Seed ids spec r ids') : r.id ≠ "" := by
  cases seed with
  | named named => exact named
  | fresh _ _ idKept => exact RuleSpec.ne_empty_of_trim idKept

theorem source (seed : Seed ids spec r ids') : ids'.source = ids.source := by
  cases seed <;> rfl

theorem redraw (seed : Seed ids spec r ids') (other : IdSupply) (drawn : other.source.Fresh) :
    ∃ r' other', Seed other spec r' other' := by
  cases seed with
  | named named read idKept patternKept => exact ⟨_, _, .named named read idKept patternKept⟩
  | fresh blank read _ patternKept => exact ⟨_, _, .fresh blank read (drawn.nonblank other.next) patternKept⟩

theorem unique {r' : Rule} {ids'' : IdSupply} (seed : Seed ids spec r ids') (again : Seed ids spec r' ids'') :
    r = r' ∧ ids' = ids'' := by
  have same := iff_toRule.mp seed
  rw [iff_toRule.mp again, Except.ok.injEq, Prod.mk.injEq] at same
  exact ⟨same.1.symm, same.2.symm⟩

end Seed

theorem seeds_of_made {source : IdSource} {specs : List RuleSpec}
    (made : ∀ spec ∈ specs, ∃ p, spec.toRule (IdSupply.start source) = .ok p) (ids : IdSupply)
    (drawn : ids.source.Fresh) : ∃ rules, Seeds ids specs rules := by
  -- each form seeds from the supply the one before left, which draws from the same source
  induction specs generalizing ids with
  | nil => exact ⟨[], .nil ids⟩
  | cons spec specs ih =>
    obtain ⟨⟨r, ids'⟩, first⟩ := made spec List.mem_cons_self
    obtain ⟨r', ids'', seed⟩ := (Seed.iff_toRule.mpr first).redraw ids drawn
    obtain ⟨rules, rest⟩ :=
      ih (fun x later => made x (List.mem_cons_of_mem spec later)) ids'' (seed.source ▸ drawn)
    exact ⟨r' :: rules, .cons seed rest⟩

theorem Seeds.unique {ids : IdSupply} {specs : List RuleSpec} {rules rules' : List Rule}
    (seeds : Seeds ids specs rules) (again : Seeds ids specs rules') : rules = rules' := by
  induction seeds generalizing rules' with
  | nil => cases again; rfl
  | cons seed rest ih =>
    cases again with
    | cons seed' rest' =>
      obtain ⟨rfl, rfl⟩ := seed.unique seed'
      rw [ih rest']

theorem Seeds.made {ids : IdSupply} {specs : List RuleSpec} {rules : List Rule} (seeds : Seeds ids specs rules)
    {source : IdSource} (drawn : source.Fresh) :
    ∀ spec ∈ specs, ∃ p, spec.toRule (IdSupply.start source) = .ok p := by
  induction seeds with
  | nil => exact fun _ absent => absurd absent List.not_mem_nil
  | cons seed rest ih =>
    intro spec member
    rcases List.mem_cons.mp member with rfl | later
    · obtain ⟨r', ids', again⟩ := seed.redraw (IdSupply.start source) drawn
      exact ⟨(r', ids'), Seed.iff_toRule.mp again⟩
    · exact ih spec later

namespace RuleStore

theorem loadFrom_made {i : Nat} {s : RuleStore} {pub : List (List Rule)} {spec : RuleSpec}
    {specs : List RuleSpec} {r : Rule} {ids : IdSupply} (made : spec.toRule s.ids = .ok (r, ids))
    (named : r.id ≠ "") :
    s.loadFrom i pub (spec :: specs) =
      if ∃ x ∈ s.rules, x.id = r.id then
        ⟨.error (Error.wrap ("exclusion rule " ++ toString i ++ ": ") (Error.withDetail .duplicateRule r.id)),
          { s with ids := ids }, pub⟩
      else { s with ids := ids, rules := s.rules ++ [r] }.loadFrom (i + 1) (pub ++ [s.rules ++ [r]]) specs := by
  simp only [loadFrom, made]
  rcases add_cases_of_named { s with ids := ids } named with ⟨listed, refused⟩ | ⟨fresh, added⟩
  · rw [refused, if_pos listed]
    rfl
  · rw [added, if_neg fresh]
    rfl

theorem loadFrom_seeds {ids : IdSupply} {specs : List RuleSpec} {rules : List Rule}
    (seeds : Seeds ids specs rules) {i : Nat} {s : RuleStore} {pub : List (List Rule)}
    (drawn : s.ids = ids) (distinct : (s.rules.map (·.id)).Nodup) :
    (((s.rules ++ rules).map (·.id)).Nodup →
      (s.loadFrom i pub specs).answer = .ok () ∧ (s.loadFrom i pub specs).store.rules = s.rules ++ rules) ∧
    (¬ ((s.rules ++ rules).map (·.id)).Nodup →
      ∃ e, (s.loadFrom i pub specs).answer = .error e ∧ e.faults = [.duplicateRule]) := by
  induction seeds generalizing i s pub with
  | nil ids =>
    rw [List.append_nil]
    exact ⟨fun _ => ⟨rfl, rfl⟩, fun repeated => absurd distinct repeated⟩
  | cons seed rest ih =>
    rename_i ids ids' spec r specs rules
    have made := Seed.iff_toRule.mp seed
    rw [← drawn] at made
    rw [loadFrom_made made seed.id_ne]
    split
    · -- the id is taken: loading stops with the duplicate, and the ids were never distinct
      rename_i listed
      have taken : ¬ ((s.rules ++ r :: rules).map (·.id)).Nodup := by
        obtain ⟨x, present, same⟩ := listed
        rw [List.map_append, List.nodup_append]
        rintro ⟨-, -, apart⟩
        exact apart _ (List.mem_map_of_mem present) _ (List.mem_map_of_mem List.mem_cons_self) same
      exact ⟨fun unique => absurd unique taken, fun _ => ⟨_, rfl, rfl⟩⟩
    · -- the id is new: the rule is appended and loading goes on from the next form
      rename_i fresh
      have distinct' : ((s.rules ++ [r]).map (·.id)).Nodup := by
        rw [List.map_append, List.nodup_append]
        refine ⟨distinct, List.nodup_cons.mpr ⟨List.not_mem_nil, List.nodup_nil⟩, ?_⟩
        intro a old b new same
        rw [List.map_singleton, List.mem_singleton] at new
        obtain ⟨x, present, rfl⟩ := List.mem_map.mp old
        exact fresh ⟨x, present, same.trans new⟩
      have step := @ih (i + 1) { s with ids := ids', rules := s.rules ++ [r] } (pub ++ [s.rules ++ [r]]) rfl
        distinct'
      rw [List.append_assoc, List.singleton_append] at step
      exact step

theorem load_seeds {source : IdSource} {specs : List RuleSpec} {rules : List Rule}
    (seeds : Seeds (IdSupply.start source) specs rules) :
    ((rules.map (·.id)).Nodup →
      ((empty source).load specs).answer = .ok () ∧ ((empty source).load specs).store.rules = rules) ∧
    (¬ (rules.map (·.id)).Nodup →
      ∃ e, ((empty source).load specs).answer = .error e ∧ e.faults = [.duplicateRule]) :=
  loadFrom_seeds (s := empty source) seeds rfl List.nodup_nil

end RuleStore

namespace App

variable {rt : Runtime} {w : Workspace} {s : Settings}

theorem make_of_invalid {store : Option ResultStore} {e : Error} (failed : s.validate rt.ids = .error e) :
    make rt w s store = .error e := by
  dsimp only [make, bind, Except.bind]
  rw [failed]

theorem make_of_loaded {st : ResultStore} (valid : s.validate rt.ids = .ok ())
    (loaded : ((RuleStore.empty rt.ids).load (s.exclusions.getD [])).answer = .ok ()) :
    make rt w s (some st) =
      .ok ⟨s, Registry.standard, ((RuleStore.empty rt.ids).load (s.exclusions.getD [])).store, st,
        ⟨Registry.standard, s.analyzer.resetBeforeRun,
          if s.analyzer.workers ≤ 0 then 1 else s.analyzer.workers.toNat, by split <;> omega⟩,
        JobBoard.empty rt.ids s.jobRetention⟩ := by
  dsimp only [make, bind, Except.bind]
  rw [valid]
  generalize (RuleStore.empty rt.ids).load (s.exclusions.getD []) = c at loaded ⊢
  obtain ⟨answer, rules, published⟩ := c
  cases loaded
  rfl

theorem make_of_refused {store : Option ResultStore} {e : Error} (valid : s.validate rt.ids = .ok ())
    (refused : ((RuleStore.empty rt.ids).load (s.exclusions.getD [])).answer = .error e) :
    make rt w s store = .error (Error.wrap "load exclusions: " e) := by
  dsimp only [make, bind, Except.bind]
  rw [valid]
  generalize (RuleStore.empty rt.ids).load (s.exclusions.getD []) = c at refused ⊢
  obtain ⟨answer, rules, published⟩ := c
  cases refused
  rfl

end App

/-- Starting the application from settings, with any YAML decoder and a source of fresh ids.
Validated settings seed their rules in order, each under its own id or the next fresh one; the
application then starts with exactly those rules and the results store given when the seed rules'
ids are distinct, and otherwise fails with the duplicate rule alone, which is no settings failure.
Settings that fail validation fail the start with that settings failure. Reading the settings file
succeeds exactly when the file reads, decodes over the defaults and validates. -/
theorem startup_follows_validation (rt : Runtime) (drawn : rt.ids.Fresh) (w : Workspace) (s : Settings)
    (st : ResultStore) :
    (s.validate rt.ids = .ok () → ∃ rules, Seeds (IdSupply.start rt.ids) (s.exclusions.getD []) rules ∧
      ((rules.map (·.id)).Nodup →
        ∃ a, App.make rt w s (some st) = .ok a ∧ a.rules.rules = rules ∧ a.store = st) ∧
      (¬ (rules.map (·.id)).Nodup → ∃ e, App.make rt w s (some st) = .error e ∧ e.faults = [.duplicateRule])) ∧
    (∀ e, s.validate rt.ids = .error e → App.make rt w s (some st) = .error e ∧ Fault.invalidConfig ∈ e.faults) ∧
    ∀ path settings, Settings.load rt.yaml.settings rt.ids w path = .ok settings ↔
      ∃ text, w.readFile path = .ok text ∧ rt.yaml.settings text Settings.defaults = .ok settings ∧
        settings.validate rt.ids = .ok () := by
  refine ⟨fun valid => ?_, fun e failed => ⟨App.make_of_invalid failed, Settings.invalidConfig_of_validate failed⟩,
    fun path settings => Settings.load_eq_ok⟩
  obtain ⟨-, made⟩ := (Settings.validate_eq_ok s rt.ids).mp valid
  obtain ⟨rules, seeds⟩ := seeds_of_made made (IdSupply.start rt.ids) drawn
  have loading := RuleStore.load_seeds seeds
  refine ⟨rules, seeds, fun distinct => ?_, fun repeated => ?_⟩
  · obtain ⟨loaded, held⟩ := loading.1 distinct
    exact ⟨_, App.make_of_loaded valid loaded, held, rfl⟩
  · obtain ⟨e, refused, faults⟩ := loading.2 repeated
    exact ⟨_, App.make_of_refused valid refused, faults⟩

theorem startup_seeds_named_and_fresh_rules :
    Runtime.standard.ids.Fresh ∧
      ∃ a, App.make .standard ⟨[]⟩
          { Settings.defaults with exclusions := some [⟨"a", "host", "x.test"⟩, ⟨"", "path", "/admin/*"⟩] }
          (some (.memory [])) = .ok a ∧
        a.rules.rules = [⟨"a", .host, "x.test"⟩, ⟨IdSource.render 1, .path, "/admin/*"⟩] := by
  have seeds : Seeds (IdSupply.start .sequential) [⟨"a", "host", "x.test"⟩, ⟨"", "path", "/admin/*"⟩]
      [⟨"a", .host, "x.test"⟩, ⟨IdSource.render 1, .path, "/admin/*"⟩] :=
    .cons (.named (by decide) (RuleKind.parse_of_name (by decide)) (by decide) (by decide))
      (.cons (.fresh rfl (RuleKind.parse_of_name (by decide)) (IdSource.trim_render 1) (by decide)) (.nil _))
  have valid : ({ Settings.defaults with
      exclusions := some [⟨"a", "host", "x.test"⟩, ⟨"", "path", "/admin/*"⟩] } : Settings).validate
        Runtime.standard.ids = .ok () :=
    (Settings.validate_eq_ok _ _).mpr
      ⟨⟨.inl (by decide), by decide, by decide, by decide⟩, seeds.made IdSource.sequential_fresh⟩
  obtain ⟨rules, seeded, started, -⟩ :=
    (startup_follows_validation .standard IdSource.sequential_fresh ⟨[]⟩ _ (.memory [])).1 valid
  rw [seeded.unique seeds] at started
  obtain ⟨a, made, held, -⟩ := started (by decide)
  exact ⟨IdSource.sequential_fresh, a, made, held⟩

/-- Two seed rules of one id pass validation, each on its own, yet the application refuses to start
with the duplicate rule, and not with invalid settings. -/
theorem startup_refuses_validated_duplicate_seeds :
    { Settings.defaults with exclusions := some [⟨"a", "host", "x"⟩, ⟨"a", "host", "y"⟩] }.validate
        Runtime.standard.ids = .ok () ∧
      App.make .standard ⟨[]⟩ { Settings.defaults with exclusions := some [⟨"a", "host", "x"⟩, ⟨"a", "host", "y"⟩] }
        (some (.memory [])) =
        .error ⟨[.duplicateRule], "load exclusions: exclusion rule 1: exclusion: rule id already exists: a"⟩ := by
  have first : Seed (IdSupply.start .sequential) ⟨"a", "host", "x"⟩ ⟨"a", .host, "x"⟩ (IdSupply.start .sequential) :=
    .named (by decide) (RuleKind.parse_of_name (by decide)) (by decide) (by decide)
  have second : Seed (IdSupply.start .sequential) ⟨"a", "host", "y"⟩ ⟨"a", .host, "y"⟩ (IdSupply.start .sequential) :=
    .named (by decide) (RuleKind.parse_of_name (by decide)) (by decide) (by decide)
  have valid : ({ Settings.defaults with
      exclusions := some [⟨"a", "host", "x"⟩, ⟨"a", "host", "y"⟩] } : Settings).validate Runtime.standard.ids = .ok () :=
    (Settings.validate_eq_ok _ _).mpr
      ⟨⟨.inl (by decide), by decide, by decide, by decide⟩,
        (Seeds.cons first (.cons second (.nil _))).made IdSource.sequential_fresh⟩
  refine ⟨valid, ?_⟩
  -- the first rule enters the empty store, and the second is refused for its id
  have refused : ((RuleStore.empty Runtime.standard.ids).load [⟨"a", "host", "x"⟩, ⟨"a", "host", "y"⟩]).answer =
      .error (Error.wrap ("exclusion rule " ++ toString 1 ++ ": ") (Error.withDetail .duplicateRule "a")) := by
    rw [RuleStore.load, RuleStore.loadFrom_made (Seed.iff_toRule.mp first) (by decide),
      if_neg (by simp [RuleStore.empty]), RuleStore.loadFrom_made (Seed.iff_toRule.mp second) (by decide),
      if_pos ⟨_, List.mem_singleton_self _, rfl⟩]
  rw [App.make_of_refused valid refused, Except.error.injEq]
  simp only [Error.wrap, Error.withDetail, Error.mk.injEq]
  decide

end HeaderAudit
