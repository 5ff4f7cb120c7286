import HeaderAudit.Proofs.Json.RoundTrip
import HeaderAudit.Proofs.Exclusion.Refinement
/-!
The stored form of exclusion rules, and rules read back from their JSON text.
-/

namespace HeaderAudit

namespace RuleKind

theorem parse_name (k : RuleKind) : parse k.name = .ok k := by
  cases k <;> rfl

theorem name_of_parse {s : String} {k : RuleKind} (read : parse s = .ok k) :
    k.name = Text.upper (Text.trim s) := by
  unfold parse at read
  dsimp only at read
  -- each kind is read from its own name, and any other text is refused
  split_ifs at read with host path endpoint
  · cases read
    exact host.symm
  · cases read
    exact path.symm
  · cases read
    exact endpoint.symm

theorem parse_of_name {s : String} {k : RuleKind} (named : Text.upper (Text.trim s) = k.name) :
    parse s = .ok k := by
  unfold parse
  dsimp only
  rw [named]
  cases k <;> rfl

end RuleKind

namespace Rule

theorem make_eq_ok {id pattern : String} {code : Int} {r : Rule} :
    make id code pattern = .ok r ↔ ∃ k, RuleKind.ofCode? code = some k ∧ Text.trim id ≠ "" ∧
      Text.trim pattern ≠ "" ∧ r = ⟨id, k, pattern⟩ := by
  constructor
  · intro made
    unfold make at made
    split at made
    · cases made
    · rename_i idKept
      split at made
      · cases made
      · rename_i k coded
        split at made
        · cases made
        · rename_i patternKept
          cases made
          exact ⟨k, coded, idKept, patternKept, rfl⟩
  · rintro ⟨k, coded, idKept, patternKept, rfl⟩
    simp [make, idKept, coded, patternKept]

theorem make_self {id pattern : String} {code : Int} {r : Rule} (made : make id code pattern = .ok r) :
    make r.id r.kind.code r.pattern = .ok r := by
  obtain ⟨k, -, idKept, patternKept, rfl⟩ := make_eq_ok.mp made
  exact make_eq_ok.mpr ⟨k, RuleKind.ofCode?_code k, idKept, patternKept, rfl⟩

end Rule

namespace RuleSpec

theorem toRule_named {s : RuleSpec} (named : s.id ≠ "") (ids : IdSupply) :
    s.toRule ids = (do
      let k ← RuleKind.parse s.kind
      (Rule.make s.id k.code s.pattern).map (·, ids)) := by
  simp [toRule, named]

theorem toRule_eq_ok {s : RuleSpec} (named : s.id ≠ "") {ids ids' : IdSupply} {r : Rule} :
    s.toRule ids = .ok (r, ids') ↔ ∃ k, RuleKind.parse s.kind = .ok k ∧ Text.trim s.id ≠ "" ∧
      Text.trim s.pattern ≠ "" ∧ r = ⟨s.id, k, s.pattern⟩ ∧ ids' = ids := by
  rw [toRule_named named]
  cases read : RuleKind.parse s.kind with
  | error e => simp [bind, Except.bind]
  | ok k =>
    simp only [bind, Except.bind, Except.ok.injEq, exists_eq_left']
    cases made : Rule.make s.id k.code s.pattern with
    | error e =>
      simp only [Except.map, reduceCtorEq, false_iff, not_and]
      intro idKept patternKept same
      have remade := Rule.make_eq_ok.mpr ⟨k, RuleKind.ofCode?_code k, idKept, patternKept, same⟩
      rw [made] at remade
      cases remade
    | ok rule =>
      obtain ⟨k', coded, idKept, patternKept, rfl⟩ := Rule.make_eq_ok.mp made
      rw [RuleKind.ofCode?_code, Option.some.injEq] at coded
      subst coded
      simp [Except.map, idKept, patternKept, eq_comm]

theorem spec_of_toRule {s : RuleSpec} (named : s.id ≠ "") {ids ids' : IdSupply} {r : Rule}
    (made : s.toRule ids = .ok (r, ids')) : r.spec = { s with kind := Text.upper (Text.trim s.kind) } := by
  obtain ⟨k, read, -, -, rfl, -⟩ := (toRule_eq_ok named).mp made
  rw [Rule.spec, RuleKind.name_of_parse read]

theorem ne_empty_of_trim {t : String} (kept : Text.trim t ≠ "") : t ≠ "" := by
  rintro rfl
  exact kept rfl

theorem toRule_spec {id pattern : String} {code : Int} {r : Rule}
    (made : Rule.make id code pattern = .ok r) (ids : IdSupply) : r.spec.toRule ids = .ok (r, ids) := by
  obtain ⟨k, -, idKept, patternKept, rfl⟩ := Rule.make_eq_ok.mp made
  rw [Rule.spec]
  exact (toRule_eq_ok (s := ⟨id, k.name, pattern⟩) (ne_empty_of_trim idKept)).mpr
    ⟨k, RuleKind.parse_name k, idKept, patternKept, rfl, rfl⟩

theorem toRule_ok_iff {s : RuleSpec} (named : s.id ≠ "") (ids : IdSupply) :
    (∃ made, s.toRule ids = .ok made) ↔
      (∃ k, RuleKind.parse s.kind = .ok k) ∧ Text.trim s.id ≠ "" ∧ Text.trim s.pattern ≠ "" := by
  constructor
  · rintro ⟨⟨r, ids'⟩, made⟩
    obtain ⟨k, read, idKept, patternKept, -, -⟩ := (toRule_eq_ok named).mp made
    exact ⟨⟨k, read⟩, idKept, patternKept⟩
  · rintro ⟨⟨k, read⟩, idKept, patternKept⟩
    exact ⟨_, (toRule_eq_ok named).mpr ⟨k, read, idKept, patternKept, rfl, rfl⟩⟩

theorem ofJson_specJson {s : RuleSpec} (named : s.id ≠ "") : ofJson (Rule.specJson s) = .ok s := by
  obtain ⟨id, kind, pattern⟩ := s
  simp [ofJson, Rule.specJson, named, Json.record, Json.fill, Json.fieldFor, Json.textField]

end RuleSpec

namespace Rule

theorem readsBack_toJson (r : Rule) : r.toJson.ReadsBack := by
  apply Json.readsBack_obj
  intro m member
  -- every member of a rule's object is text; the id is one only when there is one
  simp only [List.mem_append] at member
  rcases member with named | kept
  · split at named
    · cases named
    · rw [List.mem_singleton] at named
      rw [named]
      exact Json.readsBack_str _
  · simp only [List.mem_cons, List.not_mem_nil, or_false] at kept
    rcases kept with rfl | rfl <;> exact Json.readsBack_str _

theorem ofJson_toJson {id pattern : String} {code : Int} {r : Rule}
    (made : make id code pattern = .ok r) : ofJson r.toJson = .ok r := by
  have named : r.spec.id ≠ "" := by
    obtain ⟨-, -, idKept, -, rfl⟩ := make_eq_ok.mp made
    exact RuleSpec.ne_empty_of_trim idKept
  have read : RuleSpec.ofJson r.toJson = .ok r.spec := RuleSpec.ofJson_specJson named
  simp only [ofJson, read, bind, Except.bind, named, if_false]
  -- the stored form names the rule's own kind, and the rule makes itself again
  rw [spec, RuleKind.parse_name]
  exact make_self made

end Rule

/-! ### Objects without an id -/

namespace Json

theorem fill_keeps {α : Type} (fields : List String) (set : String → Json → α → Step α)
    (P : α → Prop) (members : List (String × Json))
    (step : ∀ m ∈ members, ∀ f a, fieldFor fields m.1 = some f → P a → ∃ a', set f m.2 a = .ok a' ∧ P a')
    {start : α} (holds : P start) : ∃ v, fill fields set start members = .ok ⟨v, none⟩ ∧ P v := by
  induction members generalizing start with
  | nil => exact ⟨start, rfl, holds⟩
  | cons m members ih =>
    obtain ⟨key, value⟩ := m
    rw [fill]
    split
    · exact ih (fun m member => step m (List.mem_cons_of_mem _ member)) holds
    · rename_i f found
      obtain ⟨a', read, kept⟩ := step (key, value) List.mem_cons_self f start found holds
      rw [read]
      exact ih (fun m member => step m (List.mem_cons_of_mem _ member)) kept

end Json

namespace RuleSpec

theorem equalFold_of_fieldFor_id {key : String}
    (found : Json.fieldFor ["id", "type", "pattern"] key = some "id") : Text.equalFold "id" key = true := by
  unfold Json.fieldFor at found
  split at found
  · cases found
    exact Text.equalFold_refl _
  · have chosen := List.find?_some found
    exact chosen

theorem ofJson_unnamed {members : List (String × Json)}
    (texts : ∀ m ∈ members, m.2 = .null ∨ ∃ t, m.2 = .str t)
    (unnamed : ∀ m ∈ members, Text.equalFold "id" m.1 = true → m.2 = .null ∨ m.2 = .str "") :
    ∃ s, ofJson (.obj members) = .ok s ∧ s.id = "" := by
  -- the reader of each member, as `ofJson` gives it to `Json.record`
  have filled := Json.fill_keeps ["id", "type", "pattern"]
    (fun f v s =>
      if f = "id" then Json.textField "RuleSpec" "id" v s fun t => { s with id := t }
      else if f = "type" then Json.textField "RuleSpec" "type" v s fun t => { s with kind := t }
      else Json.textField "RuleSpec" "pattern" v s fun t => { s with pattern := t })
    (fun s : RuleSpec => s.id = "") members ?step (rfl : (⟨"", "", ""⟩ : RuleSpec).id = "")
  · obtain ⟨s, read, blank⟩ := filled
    refine ⟨s, ?_, blank⟩
    simp only [ofJson, Json.record]
    rw [read]
  · intro m member f s found blank
    by_cases named : f = "id"
    · -- a member read into the id leaves it empty
      subst named
      rcases unnamed m member (equalFold_of_fieldFor_id found) with empty | empty
      · exact ⟨s, by simp [empty, Json.textField], blank⟩
      · exact ⟨{ s with id := "" }, by simp [empty, Json.textField], rfl⟩
    · rw [if_neg named]
      rcases texts m member with empty | ⟨t, text⟩
      · refine ⟨s, ?_, blank⟩
        split <;> simp [empty, Json.textField]
      · split
        · exact ⟨{ s with kind := t }, by simp [text, Json.textField], blank⟩
        · exact ⟨{ s with pattern := t }, by simp [text, Json.textField], blank⟩

end RuleSpec

namespace Rule

theorem ofJson_unnamed {members : List (String × Json)}
    (texts : ∀ m ∈ members, m.2 = .null ∨ ∃ t, m.2 = .str t)
    (unnamed : ∀ m ∈ members, Text.equalFold "id" m.1 = true → m.2 = .null ∨ m.2 = .str "") :
    ofJson (.obj members) = .error (Error.ofFault .blankId) := by
  obtain ⟨s, read, blank⟩ := RuleSpec.ofJson_unnamed texts unnamed
  simp [ofJson, read, blank, bind, Except.bind, throw, throwThe, MonadExceptOf.throw]

end Rule

/-- The rule codec. A made rule written as JSON text parses back to its object, which decodes as
the rule, and its stored form makes it again. A stored form that names an id makes a rule exactly
when its kind reads and its id and pattern are not blank, and the rule is stored as that form
with the kind trimmed and in capitals. An object of text members whose members named `id`,
ignoring case, are null or empty is refused for its blank id. -/
theorem rule_codec_round_trip :
    (∀ (id : String) (code : Int) (pattern : String) (r : Rule), Rule.make id code pattern = .ok r →
      Json.parse (Json.render r.toJson) = .ok r.toJson ∧ Rule.ofJson r.toJson = .ok r ∧
        ∀ ids, r.spec.toRule ids = .ok (r, ids)) ∧
    (∀ (s : RuleSpec) (ids : IdSupply), s.id ≠ "" →
      ((∃ made, s.toRule ids = .ok made) ↔
        (∃ k, RuleKind.parse s.kind = .ok k) ∧ Text.trim s.id ≠ "" ∧ Text.trim s.pattern ≠ "") ∧
      ∀ r ids', s.toRule ids = .ok (r, ids') → r.spec = { s with kind := Text.upper (Text.trim s.kind) }) ∧
    (∀ members : List (String × Json), (∀ m ∈ members, m.2 = .null ∨ ∃ t, m.2 = .str t) →
      (∀ m ∈ members, Text.equalFold "id" m.1 = true → m.2 = .null ∨ m.2 = .str "") →
      Rule.ofJson (.obj members) = .error (Error.ofFault .blankId)) :=
  ⟨fun _ _ _ r made => ⟨Json.parse_render (Rule.readsBack_toJson r), Rule.ofJson_toJson made,
      RuleSpec.toRule_spec made⟩,
    fun _ ids named => ⟨RuleSpec.toRule_ok_iff named ids, fun _ _ made => RuleSpec.spec_of_toRule named made⟩,
    fun _ texts unnamed => Rule.ofJson_unnamed texts unnamed⟩

theorem rule_codec_reads_admin_path_rule :
    Rule.make "r1" 2 "/admin/*" = .ok ⟨"r1", .path, "/admin/*"⟩ ∧
      Rule.ofJson (Rule.toJson ⟨"r1", .path, "/admin/*"⟩) = .ok ⟨"r1", .path, "/admin/*"⟩ ∧
      Rule.spec ⟨"r1", .path, "/admin/*"⟩ = ⟨"r1", Text.upper (Text.trim " Path "), "/admin/*"⟩ ∧
      Rule.ofJson (.obj [("type", .str "HOST"), ("pattern", .str "a")]) = .error (Error.ofFault .blankId) := by
  obtain ⟨written, stored, unnamed⟩ := rule_codec_round_trip
  have made : Rule.make "r1" 2 "/admin/*" = .ok ⟨"r1", .path, "/admin/*"⟩ := rfl
  have parsed : RuleKind.parse " Path " = .ok .path := by
    rw [RuleKind.parse, if_neg (by decide), if_pos (by decide)]
  have kept : RuleSpec.toRule ⟨"r1", " Path ", "/admin/*"⟩ (IdSupply.start .sequential) =
      .ok (⟨"r1", .path, "/admin/*"⟩, IdSupply.start .sequential) :=
    (RuleSpec.toRule_eq_ok (by decide)).mpr ⟨.path, parsed, by decide, by decide, rfl, rfl⟩
  refine ⟨made, (written _ _ _ _ made).2.1, (stored _ (IdSupply.start .sequential) (by decide)).2 _ _ kept,
    unnamed _ ?texts ?unnamed⟩
  case texts =>
    intro m member
    simp only [List.mem_cons, List.not_mem_nil, or_false] at member
    rcases member with rfl | rfl
    · exact .inr ⟨_, rfl⟩
    · exact .inr ⟨_, rfl⟩
  case unnamed =>
    intro m member named
    simp only [List.mem_cons, List.not_mem_nil, or_false] at member
    rcases member with rfl | rfl <;> exact absurd named (by decide)

end HeaderAudit
