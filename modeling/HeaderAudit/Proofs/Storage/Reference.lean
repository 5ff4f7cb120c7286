import HeaderAudit.Proofs.Storage.Keyed
import HeaderAudit.Proofs.Storage.Rows
/-!
Stores of analyses answer as the plain map they stand for.
-/

namespace HeaderAudit

namespace StoredEntry

/-- An entry as a reader compares it: absent verdicts read as no verdicts, and absent header
lines as no lines. -/
def view (e : StoredEntry) : StoredEntry :=
  { e with results := some (e.results.getD []), headerLines := some (e.headerLines.getD []) }

/-- The entry as JSON writes it: the bytes of the texts it reads as, each stray byte replaced by
U+FFFD. -/
def repaired (e : StoredEntry) : StoredEntry := e.text.stored

def Decodable (e : StoredEntry) : Prop := (e.text.results.getD .empty).Decodable

/-- An entry that a table store gives back: its texts are UTF-8, so JSON writes them unchanged,
and its verdicts come back from their JSON text. -/
def Storable (e : StoredEntry) : Prop := e.repaired = e ∧ e.Decodable

end StoredEntry

/-- A call on a store of analyses. -/
inductive ResultCall where
  | put (e : Option StoredEntry)
  | get (key : String)
  | list
  | clear

/-- The answer to a call that succeeds. -/
inductive ResultAnswer where
  | done
  | found (e : StoredEntry)
  | listed (es : List StoredEntry)

def ResultAnswer.view : ResultAnswer → ResultAnswer
  | done => done
  | found e => found e.view
  | listed es => listed (es.map StoredEntry.view)

def ResultCall.repaired : ResultCall → ResultCall
  | .put (some e) => .put (some e.repaired)
  | c => c

namespace ResultStore

/-- Makes one call: its answer and the store after it. A refused entry leaves the store as it
was. -/
def call (s : ResultStore) : ResultCall → Outcome ResultAnswer × ResultStore
  | .put e =>
    match s.put e with
    | .ok s' => (.ok .done, s')
    | .error err => (.error err, s)
  | .get key => ((s.get key).map .found, s)
  | .list => (.ok (.listed s.list), s)
  | .clear => (.ok .done, s.clear)

def answers (s : ResultStore) : List ResultCall → List (Outcome ResultAnswer)
  | [] => []
  | c :: cs => (s.call c).1 :: (s.call c).2.answers cs

end ResultStore

/-- The plain map a store of analyses stands for: the entries stored since the last clearing, in
the order they were stored. -/
structure ResultLog where
  puts : List StoredEntry

namespace ResultLog

def empty : ResultLog := ⟨[]⟩

def latest (log : ResultLog) (key : String) : Option StoredEntry :=
  (log.puts.filter (·.key == key)).getLast?

def keys (log : ResultLog) : List String := (log.puts.map StoredEntry.key).eraseDups

def listed (log : ResultLog) : List StoredEntry := log.keys.filterMap log.latest

def call (log : ResultLog) : ResultCall → Outcome ResultAnswer × ResultLog
  | .put none => (.error ResultStore.keyRequired, log)
  | .put (some e) =>
    if e.key = "" then (.error ResultStore.keyRequired, log) else (.ok .done, ⟨log.puts ++ [e]⟩)
  | .get key =>
    (match log.latest key with
      | some e => .ok (.found e)
      | none => .error (Error.withDetail .notFound key), log)
  | .list => (.ok (.listed log.listed), log)
  | .clear => (.ok .done, empty)

def answers (log : ResultLog) : List ResultCall → List (Outcome ResultAnswer)
  | [] => []
  | c :: cs => (log.call c).1 :: (log.call c).2.answers cs

theorem latest_append (log : ResultLog) (e : StoredEntry) (key : String) :
    (⟨log.puts ++ [e]⟩ : ResultLog).latest key = if e.key = key then some e else log.latest key := by
  by_cases same : e.key = key
  · simp [latest, same]
  · simp [latest, same]

theorem key_of_latest {log : ResultLog} {key : String} {e : StoredEntry} (found : log.latest key = some e) :
    e.key = key := by
  have mem := List.mem_of_getLast? found
  simpa using (List.mem_filter.mp mem).2

theorem mem_keys {log : ResultLog} {key : String} : key ∈ log.keys ↔ key ∈ log.puts.map StoredEntry.key :=
  List.mem_eraseDups

theorem latest_of_mem_keys {log : ResultLog} {key : String} (mem : key ∈ log.keys) :
    ∃ e, log.latest key = some e := by
  obtain ⟨e, stored, named⟩ := List.mem_map.mp (mem_keys.mp mem)
  have kept : e ∈ log.puts.filter (·.key == key) := List.mem_filter.mpr ⟨stored, by simp [named]⟩
  cases last : log.latest key with
  | none =>
    rw [latest, List.getLast?_eq_none_iff] at last
    rw [last] at kept
    cases kept
  | some x => exact ⟨x, rfl⟩

theorem keys_append (log : ResultLog) (e : StoredEntry) :
    (⟨log.puts ++ [e]⟩ : ResultLog).keys =
      if e.key ∈ log.keys then log.keys else log.keys ++ [e.key] := by
  simp only [keys, List.map_append, List.map_cons, List.map_nil, List.eraseDups_append]
  by_cases seen : e.key ∈ log.puts.map StoredEntry.key
  · have gone : [e.key].removeAll (log.puts.map StoredEntry.key) = [] := by
      simp only [List.removeAll, List.filter_cons, List.filter_nil, List.elem_eq_mem, seen,
        decide_true, Bool.not_true, Bool.false_eq_true, if_false]
    simp [gone, List.mem_eraseDups, seen]
  · have kept : [e.key].removeAll (log.puts.map StoredEntry.key) = [e.key] := by
      simp only [List.removeAll, List.filter_cons, List.filter_nil, List.elem_eq_mem, seen,
        decide_false, Bool.not_false, if_true]
    simp [kept, List.mem_eraseDups, seen, List.eraseDups_cons]

theorem mem_of_latest {log : ResultLog} {key : String} {e : StoredEntry} (found : log.latest key = some e) :
    e ∈ log.puts :=
  (List.mem_filter.mp (List.mem_of_getLast? found)).1

theorem puts_call (log : ResultLog) (c : ResultCall) :
    ∀ e ∈ (log.call c).2.puts, e ∈ log.puts ∨ c = .put (some e) := by
  intro e mem
  cases c with
  | put x =>
    cases x with
    | none => exact .inl mem
    | some x =>
      simp only [call] at mem
      split at mem
      · exact .inl mem
      · rcases List.mem_append.mp mem with old | new
        · exact .inl old
        · simp only [List.mem_singleton] at new
          exact .inr (by rw [new])
  | get key => exact .inl mem
  | list => exact .inl mem
  | clear => cases mem

theorem mem_puts_of_mem_listed {log : ResultLog} {e : StoredEntry} (mem : e ∈ log.listed) :
    e ∈ log.puts := by
  obtain ⟨key, -, found⟩ := List.mem_filterMap.mp mem
  exact mem_of_latest found

section Listing
variable {α : Type} (key : α → String) (f : StoredEntry → α)

theorem upsert_listed (keeps : ∀ e, key (f e) = e.key) (log : ResultLog) (e : StoredEntry) :
    ResultStore.upsert key (f e) (log.listed.map f) = (⟨log.puts ++ [e]⟩ : ResultLog).listed.map f := by
  have later := latest_append log e
  unfold listed
  rw [keys_append]
  by_cases seen : e.key ∈ log.keys
  · -- the key keeps its place, and its entry becomes `e`
    obtain ⟨x, found⟩ := latest_of_mem_keys seen
    have present : ((log.keys.filterMap log.latest).map f).any (key · == key (f e)) = true := by
      rw [List.any_eq_true]
      refine ⟨f x, List.mem_map.mpr ⟨x, List.mem_filterMap.mpr ⟨e.key, seen, found⟩, rfl⟩, ?_⟩
      simp [keeps, key_of_latest found]
    rw [ResultStore.upsert, if_pos present, if_pos seen, List.map_map, List.map_filterMap,
      List.map_filterMap]
    apply List.filterMap_congr
    intro k _
    rw [later k]
    by_cases same : e.key = k
    · subst same
      simp [found, keeps, key_of_latest found]
    · cases held : log.latest k with
      | none => simp [same]
      | some y =>
        have other : y.key ≠ e.key := fun named => same (named ▸ key_of_latest held)
        simp [same, keeps, other]
  · -- the key is new, so the entry goes at the end
    have absent : ((log.keys.filterMap log.latest).map f).any (key · == key (f e)) = false := by
      rw [List.any_eq_false]
      intro y mem same
      obtain ⟨x, listedX, rfl⟩ := List.mem_map.mp mem
      obtain ⟨k, kept, found⟩ := List.mem_filterMap.mp listedX
      have named : x.key = e.key := by simpa [keeps] using same
      rw [key_of_latest found] at named
      exact seen (named ▸ kept)
    rw [ResultStore.upsert, if_neg (by simp [absent]), if_neg seen, List.filterMap_append,
      List.map_append]
    have earlier : log.keys.filterMap (⟨log.puts ++ [e]⟩ : ResultLog).latest =
        log.keys.filterMap log.latest := by
      apply List.filterMap_congr
      intro k kept
      have other : e.key ≠ k := fun same => seen (same ▸ kept)
      rw [later k, if_neg other]
    rw [earlier]
    simp [later]

theorem foldl_upsert (keeps : ∀ e, key (f e) = e.key) (log : ResultLog) (rest : List StoredEntry) :
    rest.foldl (fun xs e => ResultStore.upsert key (f e) xs) (log.listed.map f) =
      (⟨log.puts ++ rest⟩ : ResultLog).listed.map f := by
  induction rest generalizing log with
  | nil => simp
  | cons e rest ih =>
    rw [List.foldl_cons, upsert_listed key f keeps, ih]
    simp

theorem foldl_upsert_nil (keeps : ∀ e, key (f e) = e.key) (log : ResultLog) :
    log.puts.foldl (fun xs e => ResultStore.upsert key (f e) xs) [] = log.listed.map f :=
  foldl_upsert key f keeps empty log.puts

end Listing

end ResultLog

namespace ResultStore

/-- The store of the kind of `s` that holds what a map holds: the map's entries stored in turn
into an emptied store. -/
def holding (s : ResultStore) (log : ResultLog) : ResultStore := log.puts.foldl insert s.clear

def Gives (s : ResultStore) (e : StoredEntry) : Prop := (s.reread e).map StoredEntry.view = .ok e.view

/-- Two stores that no call tells apart: memory stores of the same entries, or tables on one
engine whose writes leave the same rows. -/
inductive Alike : ResultStore → ResultStore → Prop
  | memory (es : List StoredEntry) : Alike (memory es) (memory es)
  | table (db : Database) {ws ws' : List Write} (rows : db.scan ws = db.scan ws') :
      Alike (table db ws) (table db ws')

theorem foldl_insert_memory (entries es : List StoredEntry) :
    entries.foldl insert (memory es) =
      memory (entries.foldl (fun xs e => upsert StoredEntry.key e.held xs) es) := by
  induction entries generalizing es with
  | nil => rfl
  | cons e rest ih => exact ih _

theorem foldl_insert_table (entries : List StoredEntry) (db : Database) (ws : List Write) :
    entries.foldl insert (table db ws) = table db (ws ++ entries.map fun e => .upsert (StoredRow.ofEntry e)) := by
  induction entries generalizing ws with
  | nil => simp
  | cons e rest ih => simp [insert, ih]

theorem Lawful.call {s : ResultStore} (lawful : s.Lawful) (c : ResultCall) : (s.call c).2.Lawful := by
  cases c with
  | put e =>
    cases stored : s.put e with
    | ok s' =>
      have after : (s.call (.put e)).2 = s' := by simp only [ResultStore.call, stored]
      rw [after]
      cases e with
      | none => cases stored
      | some e =>
        rw [eq_insert_of_put stored]
        exact lawful.insert e
    | error err =>
      have after : (s.call (.put e)).2 = s := by simp only [ResultStore.call, stored]
      rw [after]
      exact lawful
  | get key => exact lawful
  | list => exact lawful
  | clear => exact lawful.clear

theorem Lawful.foldl_insert {s : ResultStore} (lawful : s.Lawful) (entries : List StoredEntry) :
    (entries.foldl ResultStore.insert s).Lawful := by
  induction entries generalizing s with
  | nil => exact lawful
  | cons e rest ih => exact ih (lawful.insert e)

theorem Lawful.holding {s : ResultStore} (lawful : s.Lawful) (log : ResultLog) : (s.holding log).Lawful :=
  Lawful.foldl_insert (Lawful.clear lawful) log.puts

theorem get_clear {s : ResultStore} (lawful : s.Lawful) (key : String) :
    s.clear.get key = .error (Error.withDetail .notFound key) := by
  cases s with
  | memory es => rfl
  | table db ws =>
    have engine : db.Lawful := lawful
    rw [clear, get_table engine, engine.scan_wipe]
    rfl

namespace Alike

variable {s t : ResultStore}

theorem refl (s : ResultStore) : Alike s s := by
  cases s with
  | memory es => exact .memory es
  | table db ws => exact .table db rfl

theorem insert (lawful : s.Lawful) (alike : Alike s t) (e : StoredEntry) : Alike (s.insert e) (t.insert e) := by
  cases alike with
  | memory es => exact .memory _
  | table db rows =>
    have engine : db.Lawful := lawful
    exact .table db (by rw [engine.scan_upsert, engine.scan_upsert, rows])

theorem get (lawful : s.Lawful) (alike : Alike s t) (key : String) : s.get key = t.get key := by
  cases alike with
  | memory es => rfl
  | table db rows =>
    have engine : db.Lawful := lawful
    rw [get_table engine, get_table engine, rows]

theorem list (alike : Alike s t) : s.list = t.list := by
  cases alike with
  | memory es => rfl
  | table db rows => simp only [ResultStore.list, rows]

theorem clear (lawful : s.Lawful) (alike : Alike s t) : Alike s.clear t.clear := by
  cases alike with
  | memory es => exact .memory []
  | table db rows =>
    have engine : db.Lawful := lawful
    exact .table db (by rw [engine.scan_wipe, engine.scan_wipe])

theorem call (lawful : s.Lawful) (alike : Alike s t) (c : ResultCall) :
    (s.call c).1 = (t.call c).1 ∧ Alike (s.call c).2 (t.call c).2 := by
  cases c with
  | put e =>
    cases e with
    | none => exact ⟨rfl, alike⟩
    | some e =>
      by_cases blank : e.key = ""
      · simp only [ResultStore.call, put_some, blank, if_true, true_and]
        exact alike
      · simp only [ResultStore.call, put_some, blank, if_false, true_and]
        exact alike.insert lawful e
  | get key => exact ⟨by simp only [ResultStore.call, alike.get lawful key], alike⟩
  | list => exact ⟨by simp only [ResultStore.call, alike.list], alike⟩
  | clear => exact ⟨rfl, alike.clear lawful⟩

theorem answers (lawful : s.Lawful) (alike : Alike s t) (calls : List ResultCall) :
    s.answers calls = t.answers calls := by
  induction calls generalizing s t with
  | nil => rfl
  | cons c cs ih =>
    obtain ⟨answer, after⟩ := alike.call lawful c
    simp only [ResultStore.answers, answer, ih (lawful.call c) after]

theorem foldl_insert (lawful : s.Lawful) (alike : Alike s t) (entries : List StoredEntry) :
    Alike (entries.foldl ResultStore.insert s) (entries.foldl ResultStore.insert t) := by
  induction entries generalizing s t with
  | nil => exact alike
  | cons e rest ih => exact ih (lawful.insert e) (alike.insert lawful e)

theorem foldl_clear (lawful : s.Lawful) (entries : List StoredEntry) :
    Alike (entries.foldl ResultStore.insert s.clear).clear s.clear := by
  cases s with
  | memory es =>
    rw [ResultStore.clear, foldl_insert_memory]
    exact .memory []
  | table db ws =>
    have engine : db.Lawful := lawful
    rw [ResultStore.clear, foldl_insert_table, ResultStore.clear]
    exact .table db (by rw [engine.scan_wipe, engine.scan_wipe])

end Alike

theorem holding_append (s : ResultStore) (log : ResultLog) (e : StoredEntry) :
    s.holding ⟨log.puts ++ [e]⟩ = (s.holding log).insert e := by
  simp [holding]

theorem get_holding (s : ResultStore) (lawful : s.Lawful) (log : ResultLog) (key : String) :
    (s.holding log).get key = match log.latest key with
      | some e => s.reread e
      | none => .error (Error.withDetail .notFound key) := by
  rw [holding, get_foldl_insert _ lawful.clear]
  simp only [reread_clear, ResultLog.latest]
  cases (log.puts.filter (·.key == key)).getLast? with
  | some e => rfl
  | none => exact get_clear lawful key

theorem list_holding (s : ResultStore) (lawful : s.Lawful) (log : ResultLog) :
    (s.holding log).list = log.listed.filterMap fun e => (s.reread e).toOption := by
  cases s with
  | memory es =>
    simp only [holding, clear, foldl_insert_memory, list, reread]
    rw [ResultLog.foldl_upsert_nil StoredEntry.key StoredEntry.held (fun _ => rfl)]
    simp [Except.toOption]
  | table db ws =>
    have engine : db.Lawful := lawful
    have written : log.puts.map (fun e => Write.upsert (StoredRow.ofEntry e)) =
        (log.puts.map StoredRow.ofEntry).map .upsert := by
      rw [List.map_map]
      rfl
    simp only [holding, clear, foldl_insert_table, list, reread]
    rw [written, engine.scan_upserts, engine.scan_wipe, List.foldl_map,
      ResultLog.foldl_upsert_nil StoredRow.key StoredRow.ofEntry (fun _ => rfl), List.filterMap_map]
    apply List.filterMap_congr
    intro e _
    simp only [Function.comp_apply]
    cases (StoredRow.ofEntry e).toEntry <;> rfl

theorem view_held (e : StoredEntry) : e.held.view = e.view := by
  obtain ⟨key, method, url, code, line, results, lines⟩ := e
  cases lines with
  | none => rfl
  | some ls => cases ls <;> rfl

theorem Gives.reread {s : ResultStore} {e : StoredEntry} (back : s.Gives e) :
    ∃ x, s.reread e = .ok x ∧ x.view = e.view := by
  rw [Gives] at back
  cases read : s.reread e with
  | error err =>
    rw [read] at back
    cases back
  | ok x =>
    rw [read] at back
    have shown : (Except.ok x.view : Outcome StoredEntry) = .ok e.view := back
    exact ⟨x, rfl, Except.ok.inj shown⟩

theorem memory_gives (es : List StoredEntry) (e : StoredEntry) : (memory es).Gives e := by
  rw [Gives, reread]
  exact congrArg Except.ok (view_held e)

theorem view_filled_stored (e : StoredEntry) :
    ({ e.text with results := some (e.text.results.getD .empty) } : Entry).stored.view = e.repaired.view := by
  obtain ⟨key, method, url, code, line, results, lines⟩ := e
  cases results <;> rfl

theorem table_gives (db : Database) (ws : List Write) (e : StoredEntry) (storable : e.Storable) :
    (table db ws).Gives e := by
  rw [Gives, reread, StoredRow.toEntry_ofEntry e storable.2]
  show Except.ok (({ e.text with results := some (e.text.results.getD .empty) } : Entry).stored.view) = _
  rw [view_filled_stored, storable.1]

theorem view_filterMap_reread (s : ResultStore) (es : List StoredEntry) (gives : ∀ e ∈ es, s.Gives e) :
    (es.filterMap fun e => (s.reread e).toOption).map StoredEntry.view = es.map StoredEntry.view := by
  induction es with
  | nil => rfl
  | cons e rest ih =>
    obtain ⟨x, read, same⟩ := (gives e (by simp)).reread
    have later := ih (fun y mem => gives y (List.mem_cons_of_mem e mem))
    have head : (s.reread e).toOption = some x := by
      rw [read]
      rfl
    simp only [List.filterMap_cons, head, List.map_cons, same, later]

theorem call_holding (s : ResultStore) (lawful : s.Lawful) (log : ResultLog) (c : ResultCall) :
    Alike ((s.holding log).call c).2 (s.holding (log.call c).2) := by
  cases c with
  | put e =>
    cases e with
    | none => exact .refl _
    | some e =>
      by_cases blank : e.key = ""
      · simp only [call, ResultLog.call, put_some, blank, if_true]
        exact .refl _
      · simp only [call, ResultLog.call, put_some, blank, if_false, holding_append]
        exact .refl _
  | get key => exact .refl _
  | list => exact .refl _
  | clear => exact Alike.foldl_clear lawful log.puts

theorem call_holding_answer (s : ResultStore) (lawful : s.Lawful) (log : ResultLog) (c : ResultCall)
    (gives : ∀ e ∈ log.puts, s.Gives e) :
    ((s.holding log).call c).1.map ResultAnswer.view = (log.call c).1.map ResultAnswer.view := by
  cases c with
  | put e =>
    cases e with
    | none => rfl
    | some e =>
      simp only [call, ResultLog.call, put_some]
      by_cases blank : e.key = "" <;> simp [blank]
  | get key =>
    simp only [call, ResultLog.call, get_holding s lawful]
    cases found : log.latest key with
    | none => rfl
    | some e =>
      obtain ⟨x, read, same⟩ := (gives e (ResultLog.mem_of_latest found)).reread
      have answered : ((s.reread e).map ResultAnswer.found).map ResultAnswer.view =
          .ok (ResultAnswer.found e).view := by
        rw [read]
        show (Except.ok (ResultAnswer.found x).view : Outcome ResultAnswer) = _
        rw [ResultAnswer.view, ResultAnswer.view, same]
      exact answered
  | list =>
    have shown := view_filterMap_reread s log.listed
      (fun e mem => gives e (ResultLog.mem_puts_of_mem_listed mem))
    show (Except.ok (ResultAnswer.listed (s.holding log).list).view : Outcome ResultAnswer) =
      .ok (ResultAnswer.listed log.listed).view
    rw [list_holding s lawful, ResultAnswer.view, ResultAnswer.view, shown]
  | clear => rfl

theorem answers_holding (s : ResultStore) (lawful : s.Lawful) (log : ResultLog) (calls : List ResultCall)
    (gives : ∀ e ∈ log.puts, s.Gives e)
    (givesStored : ∀ e, ResultCall.put (some e) ∈ calls → s.Gives e) :
    ((s.holding log).answers calls).map (·.map ResultAnswer.view) =
      (log.answers calls).map (·.map ResultAnswer.view) := by
  induction calls generalizing log with
  | nil => rfl
  | cons c cs ih =>
    simp only [answers, ResultLog.answers, List.map_cons]
    -- the store after the call answers the later calls as the store holding the map after it
    rw [call_holding_answer s lawful log c gives,
      (call_holding s lawful log c).answers ((lawful.holding log).call c)]
    congr 1
    apply ih
    · -- the map after the call holds what it held and what the call stored
      intro e mem
      rcases ResultLog.puts_call log c e mem with old | stored
      · exact gives e old
      · exact givesStored e (by simp [stored])
    · intro e mem
      exact givesStored e (List.mem_cons_of_mem c mem)

-- A table store writes an entry's texts as JSON, so it cannot tell an entry from the entry as
-- JSON writes it.

theorem ofEntry_repaired (e : StoredEntry) : StoredRow.ofEntry e.repaired = StoredRow.ofEntry e := by
  simp only [StoredRow.ofEntry, StoredEntry.repaired, Entry.text_stored]
  rfl

theorem call_table (db : Database) (ws : List Write) (c : ResultCall) :
    ∃ ws', ((table db ws).call c).2 = table db ws' := by
  cases c with
  | put e =>
    cases e with
    | none => exact ⟨ws, rfl⟩
    | some e =>
      by_cases blank : e.key = ""
      · exact ⟨ws, by simp [call, put_some, blank]⟩
      · exact ⟨ws ++ [.upsert (StoredRow.ofEntry e)], by simp [call, put_some, blank, insert]⟩
  | get key => exact ⟨ws, rfl⟩
  | list => exact ⟨ws, rfl⟩
  | clear => exact ⟨ws ++ [.wipe], rfl⟩

theorem call_table_repaired (db : Database) (ws : List Write) (c : ResultCall) :
    (table db ws).call c.repaired = (table db ws).call c := by
  cases c with
  | put e =>
    cases e with
    | none => rfl
    | some e =>
      simp only [ResultCall.repaired, call, put_some, insert, ofEntry_repaired]
      rfl
  | get key => rfl
  | list => rfl
  | clear => rfl

theorem answers_table_repaired (db : Database) (ws : List Write) (calls : List ResultCall) :
    (table db ws).answers (calls.map ResultCall.repaired) = (table db ws).answers calls := by
  induction calls generalizing ws with
  | nil => rfl
  | cons c cs ih =>
    obtain ⟨ws', after⟩ := call_table db ws c
    simp only [List.map_cons, answers, call_table_repaired, after, ih]

end ResultStore

namespace StoredEntry

@[simp] theorem text_repaired (e : StoredEntry) : e.repaired.text = e.text := Entry.text_stored e.text

theorem repaired_storable {e : StoredEntry} (decodable : e.Decodable) : e.repaired.Storable := by
  refine ⟨?_, ?_⟩
  · rw [repaired, text_repaired]
    rfl
  · rw [Decodable, text_repaired]
    exact decodable

end StoredEntry

theorem ResultCall.mem_map_repaired {calls : List ResultCall} {e : StoredEntry}
    (mem : ResultCall.put (some e) ∈ calls.map ResultCall.repaired) :
    ∃ x, ResultCall.put (some x) ∈ calls ∧ e = x.repaired := by
  obtain ⟨c, held, same⟩ := List.mem_map.mp mem
  cases c with
  | put x =>
    cases x with
    | none => cases same
    | some x =>
      cases same
      exact ⟨x, held, rfl⟩
  | get key => cases same
  | list => cases same
  | clear => cases same

/-- Both kinds of store, fresh, answer every sequence of calls as the plain map does, entries
compared as a reader sees them. The memory store does so always. The table store, on an engine
that keeps a row's id when its key is written again and gives new keys growing ids, answers as the
map of the entries as JSON writes them, each stray byte of their texts read as U+FFFD, when their
verdicts come back from JSON; so it answers as the map itself when every entry stored has UTF-8
texts and verdicts that come back from their text. -/
theorem stores_answer_as_map (db : Database) (lawful : db.Lawful) (calls : List ResultCall) :
    ((ResultStore.memory []).answers calls).map (·.map ResultAnswer.view) =
        (ResultLog.empty.answers calls).map (·.map ResultAnswer.view) ∧
      ((∀ e, ResultCall.put (some e) ∈ calls → e.Decodable) →
        ((ResultStore.table db []).answers calls).map (·.map ResultAnswer.view) =
          (ResultLog.empty.answers (calls.map ResultCall.repaired)).map (·.map ResultAnswer.view)) ∧
      ((∀ e, ResultCall.put (some e) ∈ calls → e.Storable) →
        ((ResultStore.table db []).answers calls).map (·.map ResultAnswer.view) =
          (ResultLog.empty.answers calls).map (·.map ResultAnswer.view)) := by
  have tableLawful : (ResultStore.table db []).Lawful := lawful
  -- the fresh table is alike the emptied one that holds the empty map
  have fresh : ResultStore.Alike (.table db []) ((ResultStore.table db []).holding .empty) :=
    .table db (by rw [lawful.scan_nil]; exact (lawful.scan_wipe []).symm)
  have repairs : (∀ e, ResultCall.put (some e) ∈ calls → e.Decodable) →
      ((ResultStore.table db []).answers calls).map (·.map ResultAnswer.view) =
        (ResultLog.empty.answers (calls.map ResultCall.repaired)).map (·.map ResultAnswer.view) := by
    intro decodable
    rw [← ResultStore.answers_table_repaired, fresh.answers tableLawful]
    -- every entry the repaired calls store is one the table store gives back
    apply ResultStore.answers_holding (.table db []) tableLawful .empty _ (fun _ held => by cases held)
    intro e mem
    obtain ⟨x, stored, rfl⟩ := ResultCall.mem_map_repaired mem
    exact ResultStore.table_gives db [] _ (StoredEntry.repaired_storable (decodable x stored))
  refine ⟨?_, repairs, fun storable => ?_⟩
  · exact ResultStore.answers_holding (.memory []) trivial .empty calls (fun _ held => by cases held)
      (fun e _ => ResultStore.memory_gives [] e)
  · have unchanged : calls.map ResultCall.repaired = calls := by
      conv_rhs => rw [← List.map_id calls]
      apply List.map_congr_left
      intro c held
      cases c with
      | put x =>
        cases x with
        | none => rfl
        | some x => exact congrArg (fun y => ResultCall.put (some y)) (storable x held).1
      | get key => rfl
      | list => rfl
      | clear => rfl
    have answered := repairs fun e stored => (storable e stored).2
    rwa [unchanged] at answered

theorem table_store_answers_as_map_for_judged_entry :
    let t : Entry :=
      ⟨"k", "GET", "https://a.test/", 200, "", some ⟨[("x", Verdict.pass "OK" "b")]⟩, none⟩
    let calls := [ResultCall.put (some t.stored), .get "k", .list, .clear, .get "k"]
    let stray : StoredEntry := { t.stored with headerLines := some [[0x41, 0xFF]] }
    let strayCalls := [ResultCall.put (some stray), .get "k"]
    Database.inMemory.Lawful ∧
    ((∀ x, ResultCall.put (some x) ∈ calls → x.Storable) ∧
      ((ResultStore.table .inMemory []).answers calls).map (·.map ResultAnswer.view) =
        (ResultLog.empty.answers calls).map (·.map ResultAnswer.view)) ∧
    ((∀ x, ResultCall.put (some x) ∈ strayCalls → x.Decodable) ∧
      ((ResultStore.table .inMemory []).answers strayCalls).map (·.map ResultAnswer.view) =
        (ResultLog.empty.answers (strayCalls.map ResultCall.repaired)).map (·.map ResultAnswer.view)) := by
  intro t calls stray strayCalls
  have decodable : t.stored.Decodable := by
    rw [StoredEntry.Decodable, Entry.text_stored]
    decide
  have storable : ∀ x, ResultCall.put (some x) ∈ calls → x.Storable := by
    intro x mem
    simp only [calls, List.mem_cons, ResultCall.put.injEq, Option.some.injEq, reduceCtorEq,
      List.not_mem_nil, or_false] at mem
    subst mem
    exact ⟨by rw [StoredEntry.repaired, Entry.text_stored], decodable⟩
  have strayDecodable : ∀ x, ResultCall.put (some x) ∈ strayCalls → x.Decodable := by
    intro x mem
    simp only [strayCalls, List.mem_cons, ResultCall.put.injEq, Option.some.injEq, reduceCtorEq,
      List.not_mem_nil, or_false] at mem
    subst mem
    exact decodable
  exact ⟨Database.inMemory_lawful,
    ⟨storable, (stores_answer_as_map .inMemory Database.inMemory_lawful calls).2.2 storable⟩,
    ⟨strayDecodable, (stores_answer_as_map .inMemory Database.inMemory_lawful strayCalls).2.1 strayDecodable⟩⟩

/-- A fresh table store takes an entry whose one verdict has no status and then cannot give it
back: looking its key up fails and listing leaves it out, where the map and the memory store give
it back. -/
theorem table_store_loses_unjudged_entry :
    let e : StoredEntry := Entry.stored
      ⟨"k", "GET", "https://a.test/", 200, "", some ⟨[("x", Verdict.empty)]⟩, some ["A: b"]⟩
    let calls := [ResultCall.put (some e), .get "k", .list]
    ResultLog.empty.answers calls = [.ok .done, .ok (.found e), .ok (.listed [e])] ∧
      (ResultStore.memory []).answers calls = [.ok .done, .ok (.found e), .ok (.listed [e])] ∧
      (ResultStore.table .inMemory []).answers calls =
        [.ok .done, .error (Error.wrap "decode results for k: " (Error.ofFault .missingStatus)),
          .ok (.listed [])] := by
  intro e calls
  have unread : (StoredRow.ofEntry e).toEntry =
      .error (Error.wrap "decode results for k: " (Error.ofFault .missingStatus)) :=
    StoredRow.toEntry_ofEntry_of_unjudged e _ (by rw [Entry.text_stored])
      ⟨("x", Verdict.empty), by simp, rfl⟩
  have lines : e.headerLines = some [Bytes.ofString "A: b"] := rfl
  refine ⟨rfl, ?_, ?_⟩
  · have held : e.held = e := StoredEntry.held_eq_self (by rw [lines]; simp)
    have key : e.key = "k" := rfl
    simp [calls, ResultStore.answers, ResultStore.call, ResultStore.put_some, key, ResultStore.insert,
      ResultStore.upsert, ResultStore.get, ResultStore.list, held, Except.map]
  · have key : e.key = "k" := rfl
    have rowKey : (StoredRow.ofEntry e).key = "k" := rfl
    simp [calls, ResultStore.answers, ResultStore.call, ResultStore.put_some, key, ResultStore.insert,
      ResultStore.upsert, ResultStore.get, ResultStore.list, Database.inMemory, Database.replay, rowKey, unread,
      Except.map]

end HeaderAudit
