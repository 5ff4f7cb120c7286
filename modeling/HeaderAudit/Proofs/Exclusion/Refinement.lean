import HeaderAudit.Proofs.Exclusion.Calls
/-!
The rule store refines the plain list of rules, keeping its ids distinct and its rules well formed.
-/

namespace HeaderAudit

theorem Rule.make_code (id : String) (k : RuleKind) (pattern : String) :
    Rule.make id k.code pattern =
      if Text.trim id = "" then .error (Error.ofFault .blankId)
      else if Text.trim pattern = "" then .error (Error.ofFault .blankPattern)
      else .ok ⟨id, k, pattern⟩ := by
  simp only [Rule.make, RuleKind.ofCode?_code]

theorem Rule.make_wellFormed {id pattern : String} {code : Int} {r : Rule}
    (made : Rule.make id code pattern = .ok r) : r.WellFormed := by
  unfold Rule.make at made
  split at made
  · cases made
  · rename_i idKept
    split at made
    · cases made
    · split at made
      · cases made
      · rename_i patternKept
        cases made
        exact ⟨idKept, patternKept⟩

theorem Rule.fresh_inv {ids ids' : IdSupply} {k : RuleKind} {pattern : String} {r : Rule}
    (made : Rule.fresh ids k pattern = .ok (r, ids')) :
    Rule.make (ids.source.draw ids.next) k.code pattern = .ok r ∧ ids' = ⟨ids.source, ids.next + 1⟩ := by
  unfold Rule.fresh IdSupply.fresh at made
  dsimp only at made
  cases result : Rule.make (ids.source.draw ids.next) k.code pattern with
  | error e =>
    rw [result] at made
    cases made
  | ok rule =>
    rw [result] at made
    cases made
    exact ⟨rfl, rfl⟩

theorem RuleSpec.toRule_inv {spec : RuleSpec} {ids ids' : IdSupply} {r : Rule}
    (made : spec.toRule ids = .ok (r, ids')) :
    ∃ k, RuleKind.parse spec.kind = .ok k ∧
      ((spec.id = "" ∧ Rule.fresh ids k spec.pattern = .ok (r, ids')) ∨
        (spec.id ≠ "" ∧ Rule.make spec.id k.code spec.pattern = .ok r ∧ ids' = ids)) := by
  unfold RuleSpec.toRule at made
  cases kind : RuleKind.parse spec.kind with
  | error e =>
    rw [kind] at made
    cases made
  | ok k =>
    rw [kind] at made
    dsimp only [bind, Except.bind] at made
    refine ⟨k, rfl, ?_⟩
    split at made
    · exact .inl ⟨‹_›, made⟩
    · cases result : Rule.make spec.id k.code spec.pattern with
      | error e =>
        rw [result] at made
        cases made
      | ok rule =>
        rw [result] at made
        cases made
        exact .inr ⟨‹_›, rfl, rfl⟩

theorem Rule.fresh_wellFormed {ids ids' : IdSupply} {k : RuleKind} {pattern : String}
    {r : Rule} (made : Rule.fresh ids k pattern = .ok (r, ids')) : r.WellFormed :=
  Rule.make_wellFormed (Rule.fresh_inv made).1

theorem RuleSpec.toRule_wellFormed {spec : RuleSpec} {ids ids' : IdSupply} {r : Rule}
    (made : spec.toRule ids = .ok (r, ids')) : r.WellFormed := by
  obtain ⟨k, -, ⟨-, fresh⟩ | ⟨-, named, -⟩⟩ := RuleSpec.toRule_inv made
  · exact Rule.fresh_wellFormed fresh
  · exact Rule.make_wellFormed named

theorem RuleSpec.toRule_source {spec : RuleSpec} {ids ids' : IdSupply} {r : Rule}
    (made : spec.toRule ids = .ok (r, ids')) : ids'.source = ids.source := by
  obtain ⟨k, -, ⟨-, fresh⟩ | ⟨-, -, rfl⟩⟩ := RuleSpec.toRule_inv made
  · rw [(Rule.fresh_inv fresh).2]
  · rfl

theorem filter_id_eq_eraseP {rules : List Rule} (distinct : (rules.map (·.id)).Nodup)
    (id : String) : rules.filter (·.id != id) = rules.eraseP (·.id == id) := by
  induction rules with
  | nil => rfl
  | cons x rest ih =>
    rw [List.map_cons, List.nodup_cons] at distinct
    obtain ⟨unseen, distinct⟩ := distinct
    by_cases same : x.id = id
    · -- no later rule has the id of the first
      have others : rest.filter (·.id != id) = rest := by
        apply List.filter_eq_self.mpr
        intro y member
        have differ : y.id ≠ id := fun e => unseen (same ▸ e ▸ List.mem_map_of_mem member)
        simpa using differ
      rw [List.filter_cons_of_neg (by simpa using same),
        List.eraseP_cons_of_pos (by simpa using same), others]
    · rw [List.filter_cons_of_pos (by simpa using same),
        List.eraseP_cons_of_neg (by simpa using same), ih distinct]

theorem map_replace_eq_set {rules : List Rule} (distinct : (rules.map (·.id)).Nodup)
    (id : String) (r : Rule) :
    rules.map (fun x => if x.id == id then r else x) =
      rules.set (rules.findIdx (·.id == id)) r := by
  induction rules with
  | nil => rfl
  | cons x rest ih =>
    rw [List.map_cons, List.nodup_cons] at distinct
    obtain ⟨unseen, distinct⟩ := distinct
    rw [List.map_cons, List.findIdx_cons]
    by_cases same : x.id = id
    · -- the first rule with the id is the only one
      have others : rest.map (fun x => if x.id == id then r else x) = rest := by
        refine (List.map_congr_left ?_).trans (List.map_id' rest)
        intro y member
        have differ : y.id ≠ id := fun e => unseen (same ▸ e ▸ List.mem_map_of_mem member)
        simp [differ]
      have hit : (x.id == id) = true := by simpa using same
      simp only [hit, cond_true, if_true, List.set_cons_zero, others]
    · have miss : (x.id == id) = false := by simpa using same
      simp only [miss, cond_false, Bool.false_eq_true, if_false, List.set_cons_succ,
        ih distinct]

namespace RuleStore

theorem any_id_iff (rules : List Rule) (id : String) :
    rules.any (·.id == id) = true ↔ ∃ x ∈ rules, x.id = id := by
  simp

theorem sound_of_rules_eq_nil {s : RuleStore} (none : s.rules = []) : s.Sound := by
  refine ⟨?_, ?_⟩
  · rw [none]
    exact List.nodup_nil
  · intro r member
    rw [none] at member
    cases member

theorem failure?_answer_map {α β : Type} (c : Change α) (f : α → β) :
    (⟨c.answer.map f, c.store, c.published⟩ : Change β).failure? = c.failure? := by
  unfold Change.failure?
  cases c.answer <;> rfl

theorem add_view (s : RuleStore) (r : Rule) :
    ((s.add r).store.view, (s.add r).failure?) = s.view.add r := by
  unfold RuleStore.add RuleList.add RuleStore.view
  by_cases blank : r.id = ""
  · rw [if_pos blank, if_pos blank]
    rfl
  · rw [if_neg blank, if_neg blank]
    by_cases listed : ∃ x ∈ s.rules, x.id = r.id
    · rw [if_pos ((any_id_iff _ _).mpr listed), if_pos listed]
      rfl
    · rw [if_neg (mt (any_id_iff _ _).mp listed), if_neg listed]
      rfl

theorem addFresh_view (s : RuleStore) (code : Int) (pattern : String) :
    ((s.addFresh code pattern).store.view, (s.addFresh code pattern).failure?) =
      s.view.addFresh code pattern := by
  unfold RuleStore.addFresh RuleList.addFresh RuleStore.view
  dsimp only
  generalize s.ids.fresh = drawn
  obtain ⟨id, ids⟩ := drawn
  dsimp only
  cases Rule.make id code pattern with
  | error e => rfl
  | ok r =>
    dsimp only
    rw [failure?_answer_map]
    exact add_view { s with ids := ids } r

theorem remove_view {s : RuleStore} (distinct : (s.rules.map (·.id)).Nodup) (id : String) :
    ((s.remove id).store.view, (s.remove id).failure?) = s.view.remove id := by
  unfold RuleStore.remove RuleList.remove RuleStore.view
  by_cases listed : ∃ x ∈ s.rules, x.id = id
  · rw [if_pos ((any_id_iff _ _).mpr listed), if_pos listed, filter_id_eq_eraseP distinct]
    rfl
  · rw [if_neg (mt (any_id_iff _ _).mp listed), if_neg listed]
    rfl

theorem update_view {s : RuleStore} (distinct : (s.rules.map (·.id)).Nodup) (id : String)
    (code : Int) (pattern : String) :
    ((s.update id code pattern).store.view, (s.update id code pattern).failure?) =
      s.view.update id code pattern := by
  unfold RuleStore.update RuleList.update RuleStore.view
  cases Rule.make id code pattern with
  | error e => rfl
  | ok r =>
    dsimp only
    by_cases listed : ∃ x ∈ s.rules, x.id = id
    · rw [if_pos ((any_id_iff _ _).mpr listed), if_pos listed, map_replace_eq_set distinct]
      rfl
    · rw [if_neg (mt (any_id_iff _ _).mp listed), if_neg listed]
      rfl

theorem loadFrom_view (i : Nat) (s : RuleStore) (pub : List (List Rule)) (specs : List RuleSpec) :
    ((s.loadFrom i pub specs).store.view, (s.loadFrom i pub specs).failure?) =
      s.view.loadFrom i specs := by
  induction specs generalizing i s pub with
  | nil => rfl
  | cons spec rest ih =>
    unfold RuleStore.loadFrom RuleList.loadFrom RuleStore.view
    dsimp only
    cases spec.toRule s.ids with
    | error e => rfl
    | ok made =>
      obtain ⟨r, ids⟩ := made
      dsimp only
      have added : (({ s with ids := ids }.add r).store.view,
          ({ s with ids := ids }.add r).failure?) = { s.view with ids := ids }.add r :=
        add_view { s with ids := ids } r
      unfold RuleStore.view at added
      rw [← added]
      unfold Change.failure?
      cases ({ s with ids := ids }.add r).answer with
      | error e => rfl
      | ok u => exact ih (i + 1) _ _

theorem perform_view {s : RuleStore} (distinct : (s.rules.map (·.id)).Nodup) (c : StoreCall) :
    ((s.perform c).store.view, (s.perform c).failure) = s.view.perform c := by
  cases c <;> simp only [RuleStore.perform, RuleList.perform, CallEffect.ofChange]
  case add r held => exact add_view s r
  case addFresh code pattern => exact addFresh_view s code pattern
  case remove id => exact remove_view distinct id
  case update id code pattern => exact update_view distinct id code pattern
  case clear => rfl
  case load specs => exact loadFrom_view 0 s [] specs
  case subscribe => rfl
  case unsubscribe n => rfl

theorem add_sound {s : RuleStore} (sound : s.Sound) {r : Rule}
    (held : r.id = "" ∨ r.WellFormed) : (s.add r).store.Sound := by
  unfold RuleStore.add
  by_cases blank : r.id = ""
  · rw [if_pos blank]
    exact sound
  rw [if_neg blank]
  by_cases listed : s.rules.any (·.id == r.id) = true
  · rw [if_pos listed]
    exact sound
  rw [if_neg listed]
  have unseen : r.id ∉ s.rules.map (·.id) := by
    intro member
    obtain ⟨x, present, same⟩ := List.mem_map.mp member
    exact listed ((any_id_iff _ _).mpr ⟨x, present, same⟩)
  constructor
  · show ((s.rules ++ [r]).map (·.id)).Nodup
    rw [List.map_append, List.nodup_append]
    refine ⟨sound.1, List.nodup_cons.mpr ⟨List.not_mem_nil, List.nodup_nil⟩, ?_⟩
    intro a old b new
    rw [List.map_singleton, List.mem_singleton] at new
    subst new
    exact fun same => unseen (same ▸ old)
  · intro x member
    rcases List.mem_append.mp member with old | new
    · exact sound.2 x old
    · rw [List.mem_singleton] at new
      subst new
      exact held.resolve_left blank

theorem addFresh_sound {s : RuleStore} (sound : s.Sound) (code : Int) (pattern : String) :
    (s.addFresh code pattern).store.Sound := by
  unfold RuleStore.addFresh
  generalize s.ids.fresh = drawn
  obtain ⟨id, ids⟩ := drawn
  dsimp only
  cases made : Rule.make id code pattern with
  | error e => exact sound
  | ok r => exact add_sound (s := { s with ids := ids }) sound (.inr (Rule.make_wellFormed made))

theorem remove_sound {s : RuleStore} (sound : s.Sound) (id : String) :
    (s.remove id).store.Sound := by
  unfold RuleStore.remove
  split
  · constructor
    · exact sound.1.sublist (List.filter_sublist.map _)
    · intro x member
      exact sound.2 x (List.mem_filter.mp member).1
  · exact sound

theorem update_sound {s : RuleStore} (sound : s.Sound) (id : String) (code : Int)
    (pattern : String) : (s.update id code pattern).store.Sound := by
  unfold RuleStore.update
  cases made : Rule.make id code pattern with
  | error e => exact sound
  | ok r =>
    dsimp only
    split
    · have keepsId : ∀ x ∈ s.rules, (if x.id == id then r else x).id = x.id := by
        intro x _
        by_cases same : x.id = id
        · rw [if_pos (by simpa using same), Rule.make_id id code pattern r made, same]
        · rw [if_neg (by simpa using same)]
      constructor
      · have ids : ((s.rules.map fun x => if x.id == id then r else x).map (·.id)) =
            s.rules.map (·.id) := by
          rw [List.map_map]
          exact List.map_congr_left keepsId
        show ((s.rules.map fun x => if x.id == id then r else x).map (·.id)).Nodup
        rw [ids]
        exact sound.1
      · intro x member
        obtain ⟨y, present, replaced⟩ := List.mem_map.mp member
        subst replaced
        split
        · exact Rule.make_wellFormed made
        · exact sound.2 y present
    · exact sound

theorem loadFrom_sound (i : Nat) {s : RuleStore} (sound : s.Sound) (pub : List (List Rule))
    (specs : List RuleSpec) : (s.loadFrom i pub specs).store.Sound := by
  induction specs generalizing i s pub with
  | nil => exact sound
  | cons spec rest ih =>
    unfold RuleStore.loadFrom
    cases made : spec.toRule s.ids with
    | error e => exact sound
    | ok made' =>
      obtain ⟨r, ids⟩ := made'
      dsimp only
      have added : ({ s with ids := ids }.add r).store.Sound :=
        add_sound (s := { s with ids := ids }) sound (.inr (RuleSpec.toRule_wellFormed made))
      split
      · exact added
      · exact ih (i + 1) added _

theorem perform_sound {s : RuleStore} (sound : s.Sound) (c : StoreCall) :
    (s.perform c).store.Sound := by
  cases c <;> simp only [RuleStore.perform, CallEffect.ofChange]
  case add r held => exact add_sound sound held
  case addFresh code pattern => exact addFresh_sound sound code pattern
  case remove id => exact remove_sound sound id
  case update id code pattern => exact update_sound sound id code pattern
  case clear => exact sound_of_rules_eq_nil rfl
  case load specs => exact loadFrom_sound 0 sound [] specs
  case subscribe => exact sound
  case unsubscribe n => exact sound

theorem run_view {s : RuleStore} (sound : s.Sound) (calls : List StoreCall) :
    ((s.run calls).1.view, (s.run calls).2) = s.view.run calls ∧ (s.run calls).1.Sound := by
  induction calls generalizing s with
  | nil => exact ⟨rfl, sound⟩
  | cons c rest ih =>
    obtain ⟨later, soundAfter⟩ := ih (perform_sound sound c)
    have first := perform_view sound.1 c
    refine ⟨?_, soundAfter⟩
    simp only [RuleStore.run, RuleList.run]
    rw [← first]
    dsimp only
    rw [← later]

theorem add_cases_of_named (s : RuleStore) {r : Rule} (named : r.id ≠ "") :
    ((∃ x ∈ s.rules, x.id = r.id) ∧ s.add r = s.refuse (Error.withDetail .duplicateRule r.id)) ∨
      ((¬ ∃ x ∈ s.rules, x.id = r.id) ∧ s.add r = s.publish (s.rules ++ [r]) ()) := by
  unfold RuleStore.add
  rw [if_neg named]
  by_cases listed : ∃ x ∈ s.rules, x.id = r.id
  · exact .inl ⟨listed, by rw [if_pos ((RuleStore.any_id_iff _ _).mpr listed)]⟩
  · exact .inr ⟨listed, by rw [if_neg (mt (RuleStore.any_id_iff _ _).mp listed)]⟩

end RuleStore

/-- From the empty store, with fresh ids from any source, every run of calls ends in a store whose
reads answer from the plain list the same calls leave, whose calls failed as those on the list
did, and whose rules have distinct ids, none blank, and patterns that are not blank. -/
theorem store_run_refines_rule_list (source : IdSource) (calls : List StoreCall) :
    ((RuleStore.empty source).run calls).1.ReadsFrom ((RuleList.empty source).run calls).1.rules ∧
      ((RuleStore.empty source).run calls).2 = ((RuleList.empty source).run calls).2 ∧
      ((RuleStore.empty source).run calls).1.Sound := by
  obtain ⟨same, sound⟩ :=
    RuleStore.run_view (RuleStore.sound_of_rules_eq_nil (s := RuleStore.empty source) rfl) calls
  have rules : ((RuleStore.empty source).run calls).1.rules = ((RuleList.empty source).run calls).1.rules :=
    congrArg (fun p => p.1.rules) same
  refine ⟨⟨rules, ?_, ?_, ?_⟩, congrArg Prod.snd same, sound⟩
  · intro id
    unfold RuleStore.get?
    rw [rules]
  · unfold RuleStore.size
    rw [rules]
  · intro idna method url
    unfold RuleStore.excludes
    rw [rules]

end HeaderAudit
