import Mathlib
import HeaderAudit.Storage.ResultStore
/-!
Keyed storage of analyses: a key holds what was stored under it last.
-/

namespace HeaderAudit

def StoredEntry.held (e : StoredEntry) : StoredEntry :=
  { e with headerLines := match e.headerLines with
    | some [] => none
    | ls => ls }

theorem StoredEntry.held_eq_self {e : StoredEntry} (kept : e.headerLines ≠ some []) : e.held = e := by
  obtain ⟨key, method, url, code, line, results, lines⟩ := e
  cases lines with
  | none => rfl
  | some ls =>
    cases ls with
    | nil => exact absurd rfl kept
    | cons l rest => rfl

namespace ResultStore

section Upsert
variable {α : Type} (key : α → String)

theorem find?_upsert_self (x : α) (xs : List α) :
    (upsert key x xs).find? (key · == key x) = some x := by
  unfold upsert
  split
  · rename_i present
    -- the first item with the key is the one replaced
    induction xs with
    | nil => simp at present
    | cons y ys ih =>
      by_cases same : key y = key x
      · simp [same]
      · have later : ys.any (key · == key x) = true := by simpa [same] using present
        simpa [same] using ih later
  · rename_i absent
    have missing : xs.find? (key · == key x) = none := by
      simpa [List.find?_eq_none] using absent
    simp [List.find?_append, missing]

theorem find?_replace_other (x : α) (xs : List α) {k : String} (other : key x ≠ k) :
    (xs.map fun y => if key y == key x then x else y).find? (key · == k) =
      xs.find? (key · == k) := by
  induction xs with
  | nil => rfl
  | cons y ys ih =>
    by_cases same : key y = key x
    · have skip : (key x == k) = false := beq_false_of_ne other
      simp only [List.map_cons, List.find?_cons, same, beq_self_eq_true, if_true, skip, ih]
    · simp only [List.map_cons, List.find?_cons, same, beq_false_of_ne, Bool.false_eq_true,
        if_false, ih, ne_eq, not_false_eq_true]

theorem find?_upsert_other (x : α) (xs : List α) {k : String} (other : key x ≠ k) :
    (upsert key x xs).find? (key · == k) = xs.find? (key · == k) := by
  unfold upsert
  split
  · exact find?_replace_other key x xs other
  · simp [List.find?_append, other]

def lastWithKey (xs : List α) (k : String) : Option α := (xs.filter (key · == k)).getLast?

/-- What upserting items in turn leaves: each key once, in the order the keys first came, with
the last item that came under it. -/
def keyedListing (xs : List α) : List α := (xs.map key).eraseDups.filterMap (lastWithKey key xs)

theorem lastWithKey_append (xs : List α) (x : α) (k : String) :
    lastWithKey key (xs ++ [x]) k = if key x = k then some x else lastWithKey key xs k := by
  by_cases same : key x = k <;> simp [lastWithKey, same]

theorem key_of_lastWithKey {xs : List α} {k : String} {x : α} (found : lastWithKey key xs k = some x) :
    key x = k := by
  simpa using (List.mem_filter.mp (List.mem_of_getLast? found)).2

theorem lastWithKey_of_mem {xs : List α} {k : String} (mem : k ∈ xs.map key) :
    ∃ x, lastWithKey key xs k = some x := by
  obtain ⟨y, held, rfl⟩ := List.mem_map.mp mem
  cases last : lastWithKey key xs (key y) with
  | some x => exact ⟨x, rfl⟩
  | none =>
    rw [lastWithKey, List.getLast?_eq_none_iff, List.filter_eq_nil_iff] at last
    exact absurd (by simp) (last y held)

theorem eraseDups_append_single (ks : List String) (k : String) :
    (ks ++ [k]).eraseDups = if k ∈ ks then ks.eraseDups else ks.eraseDups ++ [k] := by
  rw [List.eraseDups_append]
  by_cases seen : k ∈ ks
  · have gone : [k].removeAll ks = [] := by simp [List.removeAll, seen]
    simp [gone, seen]
  · have kept : [k].removeAll ks = [k] := by simp [List.removeAll, seen]
    simp [kept, seen, List.eraseDups_cons]

theorem upsert_keyedListing (xs : List α) (x : α) :
    upsert key x (keyedListing key xs) = keyedListing key (xs ++ [x]) := by
  have later := lastWithKey_append key xs x
  unfold keyedListing
  rw [List.map_append, List.map_singleton, eraseDups_append_single]
  by_cases seen : key x ∈ xs.map key
  · -- the key keeps its place, and its item becomes `x`
    obtain ⟨y, found⟩ := lastWithKey_of_mem key seen
    have present : ((xs.map key).eraseDups.filterMap (lastWithKey key xs)).any
        (key · == key x) = true := by
      rw [List.any_eq_true]
      exact ⟨y, List.mem_filterMap.mpr ⟨key x, List.mem_eraseDups.mpr seen, found⟩,
        by simp [key_of_lastWithKey key found]⟩
    rw [upsert, if_pos present, if_pos seen, List.map_filterMap]
    apply List.filterMap_congr
    intro k _
    rw [later k]
    by_cases same : key x = k
    · subst same
      simp [found, key_of_lastWithKey key found]
    · cases held : lastWithKey key xs k with
      | none => simp [same]
      | some z =>
        have other : key z ≠ key x := fun named => same (named ▸ key_of_lastWithKey key held)
        simp [same, other]
  · -- the key is new, so the item goes at the end
    have absent : ((xs.map key).eraseDups.filterMap (lastWithKey key xs)).any
        (key · == key x) = false := by
      rw [List.any_eq_false]
      intro y mem same
      obtain ⟨k, kept, found⟩ := List.mem_filterMap.mp mem
      have named : key y = key x := by simpa using same
      rw [key_of_lastWithKey key found] at named
      exact seen (named ▸ List.mem_eraseDups.mp kept)
    rw [upsert, if_neg (by simp [absent]), if_neg seen, List.filterMap_append]
    have earlier : (xs.map key).eraseDups.filterMap (lastWithKey key (xs ++ [x])) =
        (xs.map key).eraseDups.filterMap (lastWithKey key xs) := by
      apply List.filterMap_congr
      intro k kept
      have other : key x ≠ k := fun same => seen (same ▸ List.mem_eraseDups.mp kept)
      rw [later k, if_neg other]
    rw [earlier]
    simp [later]

theorem foldl_upsert_keyedListing (xs ys : List α) :
    ys.foldl (fun acc y => upsert key y acc) (keyedListing key xs) = keyedListing key (xs ++ ys) := by
  induction ys generalizing xs with
  | nil => simp
  | cons y ys ih =>
    rw [List.foldl_cons, upsert_keyedListing, ih]
    simp

theorem foldl_upsert_nil (xs : List α) :
    xs.foldl (fun acc y => upsert key y acc) [] = keyedListing key xs :=
  foldl_upsert_keyedListing key [] xs

theorem find?_keyedListing (xs : List α) (k : String) :
    (keyedListing key xs).find? (key · == k) = lastWithKey key xs k := by
  induction xs using List.reverseRecOn with
  | nil => rfl
  | append_singleton xs x ih =>
    rw [← upsert_keyedListing, lastWithKey_append]
    by_cases same : key x = k
    · subst same
      rw [if_pos rfl]
      exact find?_upsert_self key x _
    · rw [if_neg same, find?_upsert_other key x _ same, ih]

end Upsert

def Lawful : ResultStore → Prop
  | memory _ => True
  | table db _ => db.Lawful

def insert (s : ResultStore) (e : StoredEntry) : ResultStore :=
  match s with
  | memory es => memory (upsert StoredEntry.key e.held es)
  | table db ws => table db (ws ++ [.upsert (StoredRow.ofEntry e)])

/-- What a store of this kind gives back for an entry it took: the entry as the memory store
holds it, or the entry decoded from its row. -/
def reread (s : ResultStore) (e : StoredEntry) : Outcome StoredEntry :=
  match s with
  | memory _ => .ok e.held
  | table _ _ => (StoredRow.ofEntry e).toEntry

theorem Lawful.insert {s : ResultStore} (lawful : s.Lawful) (e : StoredEntry) : (s.insert e).Lawful := by
  cases s <;> exact lawful

theorem Lawful.clear {s : ResultStore} (lawful : s.Lawful) : s.clear.Lawful := by
  cases s <;> exact lawful

theorem get_table {db : Database} (lawful : db.Lawful) (ws : List Write) (key : String) :
    (table db ws).get key = match (db.scan ws).find? (·.key == key) with
      | some r => r.toEntry
      | none => .error (Error.withDetail .notFound key) := by
  cases found : (db.scan ws).find? (·.key == key) <;> simp only [get, lawful.select_eq, found]

theorem put_some (s : ResultStore) (e : StoredEntry) :
    s.put (some e) = if e.key = "" then .error keyRequired else .ok (s.insert e) := by
  cases s <;> rfl

theorem eq_insert_of_put {s s' : ResultStore} {e : StoredEntry} (put : s.put (some e) = .ok s') :
    s' = s.insert e := by
  rw [put_some] at put
  split at put
  · cases put
  · cases put
    rfl

@[simp] theorem reread_insert (s : ResultStore) (e e' : StoredEntry) :
    (s.insert e').reread e = s.reread e := by
  cases s <;> rfl

@[simp] theorem reread_clear (s : ResultStore) (e : StoredEntry) : s.clear.reread e = s.reread e := by
  cases s <;> rfl

theorem get_insert_self (s : ResultStore) (lawful : s.Lawful) (e : StoredEntry) :
    (s.insert e).get e.key = s.reread e := by
  cases s with
  | memory es =>
    have found := find?_upsert_self StoredEntry.key e.held es
    simp only [insert, get, reread]
    rw [show e.key = e.held.key from rfl, found]
  | table db ws =>
    have engine : db.Lawful := lawful
    have found := find?_upsert_self StoredRow.key (StoredRow.ofEntry e) (db.scan ws)
    rw [insert, get_table engine, engine.scan_upsert, show e.key = (StoredRow.ofEntry e).key from rfl, found]
    rfl

theorem get_insert_other (s : ResultStore) (lawful : s.Lawful) (e : StoredEntry) {k : String}
    (other : e.key ≠ k) : (s.insert e).get k = s.get k := by
  cases s with
  | memory es =>
    simp only [insert, get, find?_upsert_other StoredEntry.key e.held es other]
  | table db ws =>
    have engine : db.Lawful := lawful
    rw [insert, get_table engine, get_table engine, engine.scan_upsert,
      find?_upsert_other StoredRow.key (StoredRow.ofEntry e) _ other]

theorem get_foldl_insert (s : ResultStore) (lawful : s.Lawful) (entries : List StoredEntry) (key : String) :
    (entries.foldl insert s).get key = match (entries.filter (·.key == key)).getLast? with
      | some e => s.reread e
      | none => s.get key := by
  induction entries generalizing s with
  | nil => rfl
  | cons e later ih =>
    rw [List.foldl_cons, ih _ (lawful.insert e)]
    -- a later entry with the key wins; otherwise the key holds what storing `e` left there
    cases last : (later.filter (·.key == key)).getLast? with
    | some x =>
      have kept : ((e :: later).filter (·.key == key)).getLast? = some x := by
        rw [List.filter_cons]
        split
        · rw [List.getLast?_cons, last]
          rfl
        · exact last
      rw [kept]
      exact reread_insert s x e
    | none =>
      by_cases same : e.key = key
      · have only : ((e :: later).filter (·.key == key)).getLast? = some e := by
          rw [List.filter_cons, if_pos (by simpa using same), List.getLast?_cons, last]
          rfl
        rw [only]
        subst same
        exact get_insert_self s lawful e
      · have none : ((e :: later).filter (·.key == key)).getLast? = none := by
          rw [List.filter_cons, if_neg (by simpa using same)]
          exact last
        rw [none]
        exact get_insert_other s lawful e same

end ResultStore

theorem Database.inMemory_lawful : Database.inMemory.Lawful where
  scan_nil := rfl
  scan_upsert ws r := by
    simp only [Database.inMemory, Database.replay, List.foldl_append, List.foldl_cons, List.foldl_nil]
  scan_wipe ws := by
    simp only [Database.inMemory, Database.replay, List.foldl_append, List.foldl_cons, List.foldl_nil]
  select_eq _ _ := rfl

theorem Database.Lawful.scan_upserts {db : Database} (engine : db.Lawful) (ws : List Write)
    (rows : List StoredRow) :
    db.scan (ws ++ rows.map .upsert) =
      rows.foldl (fun xs r => ResultStore.upsert StoredRow.key r xs) (db.scan ws) := by
  induction rows using List.reverseRecOn with
  | nil => simp
  | append_singleton rows r ih =>
    rw [List.map_append, ← List.append_assoc, List.map_singleton, engine.scan_upsert, ih, List.foldl_append]
    rfl

end HeaderAudit
