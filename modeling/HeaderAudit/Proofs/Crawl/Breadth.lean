import Mathlib
import HeaderAudit.Runtime.Standard
/-!
The crawl lists addresses breadth first, in layers by distance, within its depth and page limits.
-/
namespace HeaderAudit.Crawl

def OnHost (root : Address) (u : String) : Prop :=
  ∃ v, Address.parse u = .ok v ∧ Address.sameHost root v = true

def fetchAll {σ : Type} (fetch : String → σ → List String × σ) : List String → σ → List (List String) × σ
  | [], net => ([], net)
  | page :: rest, net =>
    let (links, net) := fetch page net
    let (later, net) := fetchAll fetch rest net
    (links :: later, net)

namespace Frontier

def keys (c : Frontier) : List String := c.depths.map Prod.fst

def listing (c : Frontier) : List (String × Nat) := c.depths.reverse

/-- The bookkeeping of a crawl agrees: every listed address has its distance recorded, once. -/
structure Sound (c : Frontier) : Prop where
  keys : c.keys = c.found.toList.reverse
  distinct : c.found.toList.Nodup

theorem mem_keys {c : Frontier} (sound : c.Sound) {u : String} : u ∈ c.keys ↔ u ∈ c.found.toList := by
  rw [sound.keys, List.mem_reverse]

theorem listing_fst {c : Frontier} (sound : c.Sound) : c.listing.map Prod.fst = c.found.toList := by
  rw [listing, List.map_reverse, ← keys, sound.keys, List.reverse_reverse]

theorem depthOf_of_mem {c : Frontier} (sound : c.Sound) {e : String × Nat} (held : e ∈ c.depths) :
    c.depthOf e.1 = e.2 := by
  have distinct : (c.depths.map Prod.fst).Nodup := by
    rw [← keys, sound.keys]
    exact List.nodup_reverse.mpr sound.distinct
  obtain ⟨first, found⟩ : ∃ x, c.depths.find? (·.1 == e.1) = some x :=
    Option.isSome_iff_exists.mp (List.find?_isSome.mpr ⟨e, held, by simp⟩)
  have same : first = e :=
    List.inj_on_of_nodup_map distinct (List.mem_of_find?_eq_some found) held
      (by simpa using List.find?_some found)
  simp [depthOf, found, same]

theorem full_mono {limits : CrawlLimits} {c c' : Frontier} (grown : c.found.size ≤ c'.found.size)
    (full : c.full limits = true) : c'.full limits = true := by
  unfold Frontier.full at full ⊢
  simp only [decide_eq_true_eq] at full ⊢
  exact ⟨full.1, le_trans full.2 (by exact_mod_cast grown)⟩

/-- What listing links does: `c'` is `c` with `new` listed at distance `d`, where `new` holds, in
order, links on the target's host that were not listed, and every link on the host is listed
unless the list is full. -/
structure Adds (limits : CrawlLimits) (c c' : Frontier) (d : Nat) (links new : List String) : Prop where
  root : c'.root = c.root
  found : c'.found.toList = c.found.toList ++ new
  depths : c'.depths = (new.map (·, d)).reverse ++ c.depths
  sublist : new.Sublist links
  onHost : ∀ u ∈ new, OnHost c.root u
  fresh : ∀ u ∈ new, u ∉ c.keys
  distinct : new.Nodup
  complete : ∀ u ∈ links, OnHost c.root u → u ∈ c'.keys ∨ c'.full limits = true
  bounded : 0 < limits.maxPages → (c'.found.size : Int) ≤ max (c.found.size : Int) limits.maxPages

namespace Adds

variable {limits : CrawlLimits} {d : Nat}

theorem size {c c' : Frontier} {links new : List String} (adds : Adds limits c c' d links new) :
    c'.found.size = c.found.size + new.length := by
  rw [← Array.length_toList, adds.found, List.length_append, Array.length_toList]

theorem keys_eq {c c' : Frontier} {links new : List String} (adds : Adds limits c c' d links new) :
    c'.keys = new.reverse ++ c.keys := by
  simp [keys, adds.depths, List.map_reverse, Function.comp_def]

theorem mem_keys {c c' : Frontier} {links new : List String} (adds : Adds limits c c' d links new)
    {u : String} (held : u ∈ c.keys) : u ∈ c'.keys := by
  rw [adds.keys_eq]
  exact List.mem_append_right _ held

theorem none {c : Frontier} {links : List String}
    (passed : ∀ u ∈ links, OnHost c.root u → u ∈ c.keys ∨ c.full limits = true) :
    Adds limits c c d links [] where
  root := rfl
  found := by simp
  depths := by simp
  sublist := List.nil_sublist links
  onHost := by simp
  fresh := by simp
  distinct := List.nodup_nil
  complete := passed
  bounded := fun _ => le_max_left _ _

theorem single {c : Frontier} {link : String} (onHost : OnHost c.root link) (fresh : link ∉ c.keys)
    (room : c.full limits = false) :
    Adds limits c { c with found := c.found.push link, depths := (link, d) :: c.depths } d [link] [link] where
  root := rfl
  found := by simp
  depths := by simp
  sublist := List.Sublist.refl _
  onHost := by simpa using onHost
  fresh := by simpa using fresh
  distinct := List.nodup_singleton link
  complete := by
    intro u held _
    left
    simp only [List.mem_singleton] at held
    simp [keys, held]
  bounded := by
    intro positive
    simp only [full, gt_iff_lt, ge_iff_le, decide_eq_false_iff_not, not_and, not_le] at room
    have below := room positive
    simp only [Array.size_push]
    omega

theorem trans {c c₁ c₂ : Frontier} {links₁ links₂ new₁ new₂ : List String}
    (first : Adds limits c c₁ d links₁ new₁) (second : Adds limits c₁ c₂ d links₂ new₂) :
    Adds limits c c₂ d (links₁ ++ links₂) (new₁ ++ new₂) where
  root := second.root.trans first.root
  found := by rw [second.found, first.found, List.append_assoc]
  depths := by simp [second.depths, first.depths, List.map_append, List.reverse_append]
  sublist := first.sublist.append second.sublist
  onHost := by
    intro u held
    rcases List.mem_append.mp held with early | late
    · exact first.onHost u early
    · exact first.root ▸ second.onHost u late
  fresh := by
    intro u held
    rcases List.mem_append.mp held with early | late
    · exact first.fresh u early
    · exact fun old => second.fresh u late (first.mem_keys old)
  distinct := by
    refine List.nodup_append.mpr ⟨first.distinct, second.distinct, ?_⟩
    -- the second batch is fresh after the first was listed
    intro u early v late same
    apply second.fresh v late
    rw [first.keys_eq, ← same]
    exact List.mem_append_left _ (List.mem_reverse.mpr early)
  complete := by
    intro u held onHost
    rcases List.mem_append.mp held with early | late
    · rcases first.complete u early onHost with listed | full
      · exact .inl (second.mem_keys listed)
      · exact .inr (full_mono (by rw [second.size]; omega) full)
    · exact second.complete u late (first.root ▸ onHost)
  bounded := by
    intro positive
    have one := first.bounded positive
    have two := second.bounded positive
    omega

end Adds

theorem add_adds (limits : CrawlLimits) (d : Nat) (c : Frontier) (links : List String) :
    ∃ new, Adds limits c (c.add limits d links) d links new := by
  induction links generalizing c with
  | nil => exact ⟨[], Adds.none (by simp)⟩
  | cons link rest ih =>
    by_cases full : c.full limits = true
    · -- a full list takes no more links
      refine ⟨[], ?_⟩
      rw [add, if_pos full]
      exact Adds.none fun _ _ _ => .inr full
    · have room : c.full limits = false := by simpa using full
      -- the link itself is listed or passed over; the rest follow from the crawl after it
      have passOver : ∀ c' : Frontier, (link ∉ c.keys → ¬ OnHost c.root link) → c' = c.add limits d rest →
          ∃ new, Adds limits c c' d (link :: rest) new := by
        rintro c' passed rfl
        obtain ⟨new, adds⟩ := ih c
        refine ⟨new, ((Adds.none ?_ : Adds limits c c d [link] []).trans adds)⟩
        intro u held onHost
        rw [List.mem_singleton.mp held] at onHost ⊢
        by_cases listed : link ∈ c.keys
        · exact .inl listed
        · exact absurd onHost (passed listed)
      rw [add, if_neg full]
      split
      · rename_i failed
        refine passOver _ (fun _ ⟨v, parsed, _⟩ => ?_) rfl
        rw [failed] at parsed
        cases parsed
      · rename_i u parsed
        split
        · rename_i skipped
          refine passOver _ (fun unlisted ⟨v, parsed', same⟩ => ?_) rfl
          rw [parsed] at parsed'
          cases parsed'
          simp only [Bool.not_eq_true'] at skipped
          rcases skipped with other | listed
          · rw [same] at other
            cases other
          · apply unlisted
            simpa [keys] using listed
        · rename_i kept
          simp only [Bool.not_eq_true', not_or] at kept
          obtain ⟨sameHost, unlisted⟩ := kept
          have fresh : link ∉ c.keys := by simpa [keys] using unlisted
          have single := Adds.single (d := d) ⟨u, parsed, by simpa using sameHost⟩ fresh room
          obtain ⟨new, adds⟩ := ih { c with found := c.found.push link, depths := (link, d) :: c.depths }
          exact ⟨link :: new, single.trans adds⟩

theorem add_progress (limits : CrawlLimits) (d : Nat) (c : Frontier) (links : List String) :
    (c.add limits d links).progress = c.progress := by
  induction links generalizing c with
  | nil => rfl
  | cons link rest ih =>
    rw [add]
    split
    · rfl
    · split
      · exact ih c
      · split
        · exact ih c
        · exact ih _

namespace Adds

variable {limits : CrawlLimits} {d : Nat}

theorem sound {c c' : Frontier} {links new : List String} (adds : Adds limits c c' d links new)
    (sound : c.Sound) : c'.Sound where
  keys := by rw [adds.keys_eq, sound.keys, adds.found, List.reverse_append]
  distinct := by
    rw [adds.found]
    refine List.nodup_append.mpr ⟨sound.distinct, adds.distinct, ?_⟩
    intro u old v new same
    exact adds.fresh v new (same ▸ (Frontier.mem_keys sound).mpr old)

theorem withProgress {c c' : Frontier} {links new : List String} (adds : Adds limits c c' d links new)
    (progress : Array (Nat × Nat)) : Adds limits c { c' with progress := progress } d links new :=
  ⟨adds.root, adds.found, adds.depths, adds.sublist, adds.onHost, adds.fresh, adds.distinct,
    adds.complete, adds.bounded⟩

theorem listing_eq {c c' : Frontier} {links new : List String} (adds : Adds limits c c' d links new) :
    c'.listing = c.listing ++ new.map (·, d) := by
  rw [listing, adds.depths, List.reverse_append, List.reverse_reverse, listing]

end Adds

/-- The progress of a crawl that has read its first `n` listed pages: one report for each, the
pages read and the pages listed then, never fewer listed than read nor more than are listed now,
and the count of listed pages never falling. -/
structure Reported (n : Nat) (c : Frontier) : Prop where
  counts : c.progress.toList.map Prod.fst = List.range' 1 n
  within : ∀ r ∈ c.progress.toList, r.1 ≤ r.2 ∧ r.2 ≤ c.found.size
  rising : (c.progress.toList.map Prod.snd).Pairwise (· ≤ ·)

theorem Reported.push {n : Nat} {c c' : Frontier} (reported : Reported n c) (listed : n < c.found.size)
    (progress : c'.progress = c.progress) (grown : c.found.size ≤ c'.found.size) :
    Reported (n + 1) { c' with progress := c'.progress.push (n + 1, c'.found.size) } where
  counts := by
    simp only [Array.toList_push, List.map_append, List.map_cons, List.map_nil, progress,
      reported.counts, List.range'_concat, Nat.one_mul, Nat.add_comm 1 n]
  within := by
    intro r held
    simp only [Array.toList_push, progress, List.mem_append, List.mem_singleton] at held
    rcases held with old | rfl
    · have ⟨low, high⟩ := reported.within r old
      exact ⟨low, le_trans high grown⟩
    · exact ⟨by omega, le_refl _⟩
  rising := by
    simp only [Array.toList_push, progress, List.map_append, List.map_cons, List.map_nil]
    refine List.pairwise_append.mpr ⟨reported.rising, List.pairwise_singleton _ _, ?_⟩
    intro t old t' last
    rw [List.mem_singleton.mp last]
    obtain ⟨r, held, rfl⟩ := List.mem_map.mp old
    exact le_trans (reported.within r held).2 grown

end Frontier

theorem length_fetchAll {σ : Type} (fetch : String → σ → List String × σ) (pages : List String)
    (net : σ) : (fetchAll fetch pages net).1.length = pages.length := by
  induction pages generalizing net with
  | nil => rfl
  | cons page rest ih => simp [fetchAll, ih]

theorem fetchAll_append {σ : Type} (fetch : String → σ → List String × σ) (first later : List String)
    (net : σ) : fetchAll fetch (first ++ later) net =
      ((fetchAll fetch first net).1 ++ (fetchAll fetch later (fetchAll fetch first net).2).1,
        (fetchAll fetch later (fetchAll fetch first net).2).2) := by
  induction first generalizing net with
  | nil => rfl
  | cons page rest ih => simp [fetchAll, ih]

theorem exists_mem_zip_of_mem_right {α β : Type} (xs : List α) {ys : List β} {y : β}
    (same : xs.length = ys.length) (held : y ∈ ys) : ∃ x, (x, y) ∈ xs.zip ys := by
  induction xs generalizing ys with
  | nil =>
    cases ys with
    | nil => cases held
    | cons => simp at same
  | cons x xs ih =>
    cases ys with
    | nil => cases held
    | cons y' ys =>
      rcases List.mem_cons.mp held with rfl | later
      · exact ⟨x, by simp⟩
      · obtain ⟨x', mem⟩ := ih (by simpa using same) later
        exact ⟨x', by simp [mem]⟩

namespace Frontier

section Reading
variable {σ : Type} (fetch : String → σ → List String × σ) (limits : CrawlLimits)

theorem readPages_adds (d : Nat) (pages : List String) (i : Nat) (c : Frontier) (net : σ) :
    ∃ new, Adds limits c (readPages fetch limits d pages i c net).1 (d + 1)
        (fetchAll fetch pages net).1.flatten new ∧
      (readPages fetch limits d pages i c net).2 = (fetchAll fetch pages net).2 := by
  induction pages generalizing i c net with
  | nil => exact ⟨[], Adds.none (by simp [fetchAll]), rfl⟩
  | cons page rest ih =>
    rcases fetched : fetch page net with ⟨links, net'⟩
    obtain ⟨new, adds⟩ := add_adds limits (d + 1) c links
    obtain ⟨later, laterAdds, reached⟩ := ih (i + 1)
      { c.add limits (d + 1) links with
        progress := (c.add limits (d + 1) links).progress.push
          (i + 1, (c.add limits (d + 1) links).found.size) } net'
    refine ⟨new ++ later, ?_, ?_⟩
    · simp only [readPages, fetchAll, fetched, List.flatten_cons]
      exact (adds.withProgress _).trans laterAdds
    · simp only [readPages, fetchAll, fetched]
      exact reached

theorem readPages_reported (d : Nat) (pages : List String) (i : Nat) (c : Frontier) (net : σ)
    (reported : Reported i c) (listed : i + pages.length ≤ c.found.size) :
    Reported (i + pages.length) (readPages fetch limits d pages i c net).1 := by
  induction pages generalizing i c net with
  | nil => exact reported
  | cons page rest ih =>
    rcases fetched : fetch page net with ⟨links, net'⟩
    obtain ⟨new, adds⟩ := add_adds limits (d + 1) c links
    have pushed := reported.push (by simp at listed; omega)
      (add_progress limits (d + 1) c links) (by rw [adds.size]; omega)
    have later := ih (i + 1) _ net' pushed (by simp at listed ⊢; rw [adds.size]; omega)
    simp only [readPages, fetched]
    rw [List.length_cons, show i + (rest.length + 1) = i + 1 + rest.length by omega]
    exact later

/-- A crawl that has read, distance by distance, the pages nearer than `d`: the first `i` listed,
fetched in turn from the transport `start`, with the pages at distance `d` listed after them. -/
structure Layered (root : Address) (start : σ) (d i : Nat) (c : Frontier) (net : σ) : Prop where
  sound : c.Sound
  rooted : c.root = root
  first : c.listing.head? = some (root.render, 0)
  ordered : (c.listing.map Prod.snd).Pairwise (· ≤ ·)
  nearer : ∀ e ∈ c.listing.take i, e.2 < d
  frontier : ∀ e ∈ c.listing.drop i, e.2 = d
  read : (fetchAll fetch (c.found.toList.take i) start).2 = net
  linked : ∀ e ∈ c.listing.tail,
    ∃ pl ∈ (c.listing.take i).zip (fetchAll fetch (c.found.toList.take i) start).1,
      e.1 ∈ pl.2 ∧ e.2 = pl.1.2 + 1
  complete : ∀ pl ∈ (c.listing.take i).zip (fetchAll fetch (c.found.toList.take i) start).1,
    ∀ u ∈ pl.2, OnHost root u → u ∈ c.found.toList ∨ c.full limits = true
  onHost : ∀ u ∈ c.found.toList.tail, OnHost root u
  reported : Reported i c
  bounded : 0 < limits.maxPages → (c.found.size : Int) ≤ max 1 limits.maxPages
  within : i ≤ c.found.size

namespace Layered

variable {fetch limits} {root : Address} {start net : σ} {d i : Nat} {c : Frontier}

theorem length_listing (layered : Layered fetch limits root start d i c net) :
    c.listing.length = c.found.size := by
  have lengths := congrArg List.length (listing_fst layered.sound)
  rw [List.length_map, Array.length_toList] at lengths
  exact lengths

theorem depth_le (layered : Layered fetch limits root start d i c net) :
    ∀ e ∈ c.listing, e.2 ≤ d := by
  intro e held
  rw [← List.take_append_drop i c.listing] at held
  rcases List.mem_append.mp held with early | late
  · exact Nat.le_of_lt (layered.nearer e early)
  · exact Nat.le_of_eq (layered.frontier e late)

theorem listing_ne_nil (layered : Layered fetch limits root start d i c net) : c.listing ≠ [] :=
  fun empty => by simpa [empty] using layered.first

theorem found_ne_nil (layered : Layered fetch limits root start d i c net) : c.found.toList ≠ [] := by
  rw [← listing_fst layered.sound]
  simpa using layered.listing_ne_nil

theorem length_frontier (layered : Layered fetch limits root start d i c net) :
    i + (c.found.toList.drop i).length = c.found.size := by
  simp only [List.length_drop, Array.length_toList]
  have := layered.within
  omega

/-- The pages listed so far are fetched as the pages read before, then those of the frontier. -/
theorem fetchAll_found (layered : Layered fetch limits root start d i c net) :
    fetchAll fetch c.found.toList start =
      ((fetchAll fetch (c.found.toList.take i) start).1 ++ (fetchAll fetch (c.found.toList.drop i) net).1,
        (fetchAll fetch (c.found.toList.drop i) net).2) := by
  conv_lhs => rw [← List.take_append_drop i c.found.toList]
  rw [fetchAll_append, layered.read]

theorem zip_found (layered : Layered fetch limits root start d i c net) :
    c.listing.zip (fetchAll fetch c.found.toList start).1 =
      (c.listing.take i).zip (fetchAll fetch (c.found.toList.take i) start).1 ++
        (c.listing.drop i).zip (fetchAll fetch (c.found.toList.drop i) net).1 := by
  have lengths : (c.listing.take i).length = (fetchAll fetch (c.found.toList.take i) start).1.length := by
    rw [length_fetchAll, List.length_take, List.length_take, layered.length_listing, Array.length_toList]
  rw [layered.fetchAll_found, ← List.zip_append lengths, List.take_append_drop]

/-- A link that reading the frontier adds comes from a page of the frontier, at distance `d`. -/
theorem frontier_source (layered : Layered fetch limits root start d i c net) {c' : Frontier}
    {new : List String}
    (adds : Adds limits c c' (d + 1) (fetchAll fetch (c.found.toList.drop i) net).1.flatten new) :
    ∀ u ∈ new, ∃ pl ∈ (c.listing.drop i).zip (fetchAll fetch (c.found.toList.drop i) net).1,
      u ∈ pl.2 ∧ pl.1.2 = d := by
  intro u held
  obtain ⟨links, inLists, inLinks⟩ := List.mem_flatten.mp (adds.sublist.subset held)
  obtain ⟨e, paired⟩ := exists_mem_zip_of_mem_right (c.listing.drop i)
    (by rw [length_fetchAll, List.length_drop, List.length_drop, layered.length_listing,
      Array.length_toList])
    inLists
  exact ⟨(e, links), paired, inLinks, layered.frontier e (List.of_mem_zip paired).1⟩

/-- Reading the frontier's pages keeps the crawl layered, one distance further on. -/
theorem readLevel (layered : Layered fetch limits root start d i c net) :
    Layered fetch limits root start (d + 1) c.found.size
      (readPages fetch limits d (c.found.toList.drop i) i c net).1
      (readPages fetch limits d (c.found.toList.drop i) i c net).2 := by
  obtain ⟨new, adds, reached⟩ := readPages_adds fetch limits d (c.found.toList.drop i) i c net
  have reported := readPages_reported fetch limits d (c.found.toList.drop i) i c net
    layered.reported (Nat.le_of_eq layered.length_frontier)
  have fromFrontier := layered.frontier_source adds
  generalize (readPages fetch limits d (c.found.toList.drop i) i c net) = after at adds reached reported
  obtain ⟨c', net'⟩ := after
  simp only at adds reached reported ⊢
  have lengthEq := layered.length_listing
  have listing' : c'.listing = c.listing ++ new.map (·, d + 1) := adds.listing_eq
  have found' : c'.found.toList = c.found.toList ++ new := adds.found
  have taken : c'.listing.take c.found.size = c.listing := by
    rw [listing', ← lengthEq]
    exact List.take_left' rfl
  have takenFound : c'.found.toList.take c.found.size = c.found.toList := by
    rw [found', ← Array.length_toList]
    exact List.take_left' rfl
  have dropped : c'.listing.drop c.found.size = new.map (·, d + 1) := by
    rw [listing', ← lengthEq]
    exact List.drop_left' rfl
  refine ⟨adds.sound layered.sound, adds.root.trans layered.rooted, ?_, ?_, ?_, ?_, ?_, ?_, ?_, ?_,
    layered.length_frontier ▸ reported, ?_, ?_⟩
  · rw [listing', List.head?_append_of_ne_nil _ layered.listing_ne_nil]
    exact layered.first
  · -- the new pages, one step further than every page before them, come last
    rw [listing', List.map_append, List.pairwise_append]
    refine ⟨layered.ordered, ?_, ?_⟩
    · rw [List.map_map, List.pairwise_map]
      exact List.pairwise_of_forall fun _ _ => le_refl _
    · intro a old b late
      obtain ⟨e, held, rfl⟩ := List.mem_map.mp old
      simp only [List.map_map, Function.comp_def, List.mem_map] at late
      obtain ⟨_, _, rfl⟩ := late
      exact Nat.le_succ_of_le (layered.depth_le e held)
  · intro e held
    rw [taken] at held
    exact Nat.lt_succ_of_le (layered.depth_le e held)
  · intro e held
    rw [dropped] at held
    obtain ⟨u, _, rfl⟩ := List.mem_map.mp held
    rfl
  · rw [takenFound, layered.fetchAll_found]
    exact reached.symm
  · intro e held
    rw [takenFound, taken, layered.zip_found]
    rw [listing', List.tail_append_of_ne_nil layered.listing_ne_nil] at held
    rcases List.mem_append.mp held with old | late
    · obtain ⟨pl, paired, inLinks, deeper⟩ := layered.linked e old
      exact ⟨pl, List.mem_append_left _ paired, inLinks, deeper⟩
    · obtain ⟨u, inNew, rfl⟩ := List.mem_map.mp late
      obtain ⟨pl, paired, inLinks, atD⟩ := fromFrontier u inNew
      exact ⟨pl, List.mem_append_right _ paired, inLinks, by rw [atD]⟩
  · intro pl held u inLinks onHost
    rw [takenFound, taken, layered.zip_found] at held
    rcases List.mem_append.mp held with old | late
    · rcases layered.complete pl old u inLinks onHost with listed | full
      · exact .inl (found' ▸ List.mem_append_left _ listed)
      · exact .inr (full_mono (by rw [adds.size]; omega) full)
    · have inFlat : u ∈ (fetchAll fetch (c.found.toList.drop i) net).1.flatten :=
        List.mem_flatten.mpr ⟨pl.2, (List.of_mem_zip late).2, inLinks⟩
      rcases adds.complete u inFlat (layered.rooted ▸ onHost) with listed | full
      · exact .inl ((Frontier.mem_keys (adds.sound layered.sound)).mp listed)
      · exact .inr full
  · intro u held
    rw [found', List.tail_append_of_ne_nil layered.found_ne_nil] at held
    rcases List.mem_append.mp held with old | late
    · exact layered.onHost u old
    · exact layered.rooted ▸ adds.onHost u late
  · intro positive
    have before := layered.bounded positive
    have now := adds.bounded positive
    omega
  · rw [adds.size]
    omega

end Layered

theorem start_layered (root : Address) (net : σ) :
    Layered fetch limits root net 0 0 (Frontier.start root) net where
  sound := ⟨rfl, List.nodup_singleton _⟩
  rooted := rfl
  first := rfl
  ordered := List.pairwise_singleton _ _
  nearer := by simp
  frontier := by simp [start, listing]
  read := rfl
  linked := by simp [start, listing]
  complete := by simp
  onHost := by simp [start]
  reported := ⟨rfl, by simp [start], by simp [start]⟩
  bounded := fun _ => le_max_left _ _
  within := Nat.zero_le _

theorem readLevels_layered {root : Address} {start : σ} (levels : Nat) :
    ∀ (d i : Nat) (c : Frontier) (net : σ), Layered fetch limits root start d i c net →
      ∃ i', Layered fetch limits root start (d + levels) i' (readLevels fetch limits levels d i c net).1
        (readLevels fetch limits levels d i c net).2 := by
  induction levels with
  | zero => exact fun d i c net layered => ⟨i, layered⟩
  | succ levels ih =>
    intro d i c net layered
    obtain ⟨i', final⟩ := ih (d + 1) c.found.size _ _ layered.readLevel
    refine ⟨i', ?_⟩
    simp only [readLevels, layered.length_frontier]
    rw [show d + (levels + 1) = d + 1 + levels by omega]
    exact final

end Reading

def withinDepth (limits : CrawlLimits) (c : Frontier) : List String :=
  c.found.toList.filter fun u => (c.depthOf u : Int) ≤ limits.maxDepth

theorem map_depthOf {c : Frontier} (sound : c.Sound) :
    c.found.toList.map c.depthOf = c.listing.map Prod.snd := by
  rw [← listing_fst sound, List.map_map]
  apply List.map_congr_left
  intro e held
  exact depthOf_of_mem sound (List.mem_reverse.mp held)

section Final
variable {σ : Type} {fetch : String → σ → List String × σ} {limits : CrawlLimits} {root : Address}
  {start net : σ} {i : Nat} {c : Frontier}

theorem Layered.withinDepth_eq {n : Nat} (layered : Layered fetch limits root start n i c net)
    (last : (n : Int) = limits.maxDepth + 1) : c.withinDepth limits = c.found.toList.take i := by
  have distances : ∀ e ∈ c.listing, c.depthOf e.1 = e.2 :=
    fun e held => depthOf_of_mem layered.sound (List.mem_reverse.mp held)
  have lengthTaken : ((c.listing.take i).map Prod.fst).length = i := by
    rw [List.length_map, List.length_take, layered.length_listing]
    exact Nat.min_eq_left layered.within
  have split : c.found.toList = (c.listing.take i).map Prod.fst ++ (c.listing.drop i).map Prod.fst := by
    rw [← List.map_append, List.take_append_drop, listing_fst layered.sound]
  rw [withinDepth, split, List.take_left' lengthTaken, List.filter_append,
    List.filter_eq_self.mpr ?near, List.filter_eq_nil_iff.mpr ?far, List.append_nil]
  case near =>
    -- the pages read lie nearer than the last distance
    intro u held
    obtain ⟨e, early, rfl⟩ := List.mem_map.mp held
    rw [distances e (List.mem_of_mem_take early)]
    have := layered.nearer e early
    simp only [decide_eq_true_eq]
    omega
  case far =>
    -- the pages listed after them lie one step beyond the limit
    intro u held
    obtain ⟨e, late, rfl⟩ := List.mem_map.mp held
    rw [distances e (List.mem_of_mem_drop late), layered.frontier e late]
    have beyond : ¬ ((n : Int) ≤ limits.maxDepth) := by omega
    simpa using beyond

/-- What a finished crawl from `root` guarantees, whatever the pages' links: `net'` is the
transport after fetching, in order, the listed pages within the depth limit from `net`, and the
links of each are those paired with it by `fetchAll`. -/
structure BreadthFirst (fetch : String → σ → List String × σ) (limits : CrawlLimits)
    (root : Address) (net : σ) (c : Frontier) (net' : σ) : Prop where
  distinct : c.found.toList.Nodup
  first : c.found.toList.head? = some root.render
  rootDepth : c.depthOf root.render = 0
  onHost : ∀ u ∈ c.found.toList.tail, OnHost root u
  ordered : (c.found.toList.map c.depthOf).Pairwise (· ≤ ·)
  shallow : ∀ u ∈ c.found.toList, (c.depthOf u : Int) ≤ limits.maxDepth + 1
  read : (fetchAll fetch (c.withinDepth limits) net).2 = net'
  linked : ∀ u ∈ c.found.toList.tail,
    ∃ pl ∈ (c.withinDepth limits).zip (fetchAll fetch (c.withinDepth limits) net).1,
      u ∈ pl.2 ∧ c.depthOf u = c.depthOf pl.1 + 1
  complete : ∀ pl ∈ (c.withinDepth limits).zip (fetchAll fetch (c.withinDepth limits) net).1,
    ∀ u ∈ pl.2, OnHost root u → u ∈ c.found.toList ∨ c.full limits = true
  bounded : 0 < limits.maxPages → (c.found.size : Int) ≤ max 1 limits.maxPages
  reported : Reported (c.withinDepth limits).length c

theorem zip_take_listing {c : Frontier} (sound : c.Sound) (i : Nat) (lists : List (List String)) :
    ((c.listing.take i).zip lists).map (Prod.map Prod.fst id) = (c.found.toList.take i).zip lists := by
  rw [← listing_fst sound, ← List.map_take, List.zip_map_left]

theorem Layered.breadthFirst {n : Nat} (layered : Layered fetch limits root start n i c net)
    (last : (n : Int) = limits.maxDepth + 1) : BreadthFirst fetch limits root start c net := by
  have within := layered.withinDepth_eq last
  have distances : ∀ e ∈ c.listing, c.depthOf e.1 = e.2 :=
    fun e held => depthOf_of_mem layered.sound (List.mem_reverse.mp held)
  have counted : (c.withinDepth limits).length = i := by
    rw [within, List.length_take, Array.length_toList]
    exact Nat.min_eq_left layered.within
  have tail : c.found.toList.tail = c.listing.tail.map Prod.fst := by
    rw [← listing_fst layered.sound, List.map_tail]
  -- the read pages paired with their links, first as listed entries and then by address
  have pairs := zip_take_listing layered.sound i (fetchAll fetch (c.found.toList.take i) start).1
  refine ⟨layered.sound.distinct, ?_, ?_, layered.onHost, ?_, ?_, within ▸ layered.read, ?_, ?_,
    layered.bounded, counted ▸ layered.reported⟩
  · rw [← listing_fst layered.sound, List.head?_map, layered.first]
    rfl
  · exact distances _ (List.mem_of_mem_head? layered.first)
  · rw [map_depthOf layered.sound]
    exact layered.ordered
  · intro u held
    rw [← listing_fst layered.sound] at held
    obtain ⟨e, listed, rfl⟩ := List.mem_map.mp held
    rw [distances e listed]
    have := layered.depth_le e listed
    omega
  · intro u held
    rw [tail] at held
    obtain ⟨e, later, rfl⟩ := List.mem_map.mp held
    obtain ⟨pl, paired, inLinks, deeper⟩ := layered.linked e later
    have early : pl.1 ∈ c.listing := List.mem_of_mem_take (List.of_mem_zip paired).1
    refine ⟨Prod.map Prod.fst id pl, ?_, inLinks, ?_⟩
    · rw [within, ← pairs]
      exact List.mem_map_of_mem paired
    · rw [Prod.map_fst, distances e (List.mem_of_mem_tail later), distances pl.1 early]
      exact deeper
  · intro pl held u inLinks onHost
    rw [within, ← pairs] at held
    obtain ⟨pl', paired, rfl⟩ := List.mem_map.mp held
    exact layered.complete pl' paired u inLinks onHost

end Final

end Frontier

/-- Enumerating a target either reports that the target is not an address to crawl, or crawls
it breadth first: for every depth limit from 0 and every assignment of links to pages, the
list returned and the progress reported are those of a crawl that is `BreadthFirst`. -/
theorem enumerate_crawls_breadth_first {σ : Type} (idna : IdnaLookup) (fetch : String → σ → List String × σ)
    (limits : CrawlLimits) (target : String) (net : σ) (depthLimit : 0 ≤ limits.maxDepth) :
    match Address.target idna target "https" with
    | .error e => enumerateWith idna fetch limits target net = (.error (Error.wrap "spider target: " e), net)
    | .ok root => ∃ c net', enumerateWith idna fetch limits target net =
        (.ok (c.found.toList, c.progress.toList), net') ∧ Frontier.BreadthFirst fetch limits root net c net' := by
  cases accepted : Address.target idna target "https" with
  | error e => rw [enumerateWith, accepted]
  | ok root =>
    obtain ⟨i, layered⟩ := Frontier.readLevels_layered fetch limits (limits.maxDepth + 1).toNat 0 0 _ net
      (Frontier.start_layered fetch limits root net)
    refine ⟨_, _, by rw [enumerateWith, accepted], layered.breadthFirst ?_⟩
    omega

/-- A site of two levels: the target links two of its pages and another host, and the first of
those pages links a third. -/
def twoLevelSite (page : String) (net : Unit) : List String × Unit :=
  if page = "https://ab--c/" then (["https://ab--c/a", "https://other.test/", "https://ab--c/b"], net)
  else if page = "https://ab--c/a" then (["https://ab--c/c"], net)
  else ([], net)

theorem enumerate_two_level_site_breadth_first :
    (Address.canonicalize .standard "ab--c" "https").toOption = some "https://ab--c/" ∧
    0 ≤ (⟨1, 0⟩ : CrawlLimits).maxDepth ∧
    match Address.target .standard "ab--c" "https" with
    | .error e =>
      enumerateWith .standard twoLevelSite ⟨1, 0⟩ "ab--c" () = (.error (Error.wrap "spider target: " e), ())
    | .ok root => ∃ c net', enumerateWith .standard twoLevelSite ⟨1, 0⟩ "ab--c" () =
        (.ok (c.found.toList, c.progress.toList), net') ∧ Frontier.BreadthFirst twoLevelSite ⟨1, 0⟩ root () c net' :=
  ⟨by decide +kernel, by decide,
    enumerate_crawls_breadth_first .standard twoLevelSite ⟨1, 0⟩ "ab--c" () (by decide)⟩

/-- The target, /a and /b are read; /c, a link of /a, is listed at depth 2 and not read, and the
other host is passed over. -/
example : (enumerateWith .standard twoLevelSite ⟨1, 0⟩ "ab--c" ()).1.toOption =
    some (["https://ab--c/", "https://ab--c/a", "https://ab--c/b", "https://ab--c/c"],
      [(1, 3), (2, 4), (3, 4)]) := by
  decide +kernel

end HeaderAudit.Crawl
