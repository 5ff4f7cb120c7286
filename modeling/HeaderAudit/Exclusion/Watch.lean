import HeaderAudit.Exclusion.Store
/-!
Watching the rule store. A watch subscribes a listener that offers every list published to it to a
buffered channel of fixed capacity, at least one; an offer to a full channel is dropped, so a change
never waits for the reader.
-/
namespace HeaderAudit

/-- A buffered channel of rule lists: the lists it holds, oldest first, never more than its
capacity, which is positive. -/
structure Channel where
  capacity : Nat
  held : List (List Rule)
  closed : Bool
  positive : 0 < capacity
  bounded : held.length ≤ capacity

namespace Channel

def make (buffer : Int) : Channel :=
  ⟨(max buffer 1).toNat, [], false, by omega, by simp⟩

def offer (ch : Channel) (rules : List Rule) : Channel :=
  if room : ch.held.length < ch.capacity then
    { ch with held := ch.held ++ [rules], bounded := by rw [List.length_append, List.length_singleton]; exact room }
  else ch

def receive (ch : Channel) : Option (List Rule) × Channel :=
  match ch with
  | ⟨capacity, rules :: rest, closed, positive, bounded⟩ =>
    (some rules, ⟨capacity, rest, closed, positive, by simp at bounded; omega⟩)
  | ⟨_, [], _, _, _⟩ => (none, ch)

def close (ch : Channel) : Channel := { ch with closed := true }

theorem receive_of_held_nil (ch : Channel) (empty : ch.held = []) : ch.receive = (none, ch) := by
  obtain ⟨capacity, held, closed, positive, bounded⟩ := ch
  subst empty
  rfl

theorem receive_of_held_cons (ch : Channel) {rules : List Rule} {rest : List (List Rule)}
    (held : ch.held = rules :: rest) : ch.receive.1 = some rules ∧ ch.receive.2.held = rest := by
  obtain ⟨capacity, held', closed, positive, bounded⟩ := ch
  subst held
  exact ⟨rfl, rfl⟩

theorem held_offer (ch : Channel) (rules : List Rule) :
    (ch.offer rules).held = if ch.held.length < ch.capacity then ch.held ++ [rules] else ch.held := by
  unfold offer
  split <;> rfl

@[simp] theorem capacity_offer (ch : Channel) (rules : List Rule) :
    (ch.offer rules).capacity = ch.capacity := by
  unfold offer
  split <;> rfl

end Channel

/-- A watch: the listener it subscribed and the channel that listener offers to. -/
structure Watch where
  listener : Nat
  channel : Channel

def RuleStore.watch (s : RuleStore) (buffer : Int) : Watch × RuleStore :=
  let (n, s) := s.subscribe
  (⟨n, Channel.make buffer⟩, s)

namespace Watch

def hear (w : Watch) (notes : List (Nat × List Rule)) : Watch :=
  notes.foldl (fun w note =>
    if note.1 = w.listener then { w with channel := w.channel.offer note.2 } else w) w

def receive (w : Watch) : Option (List Rule) × Watch :=
  (w.channel.receive.1, { w with channel := w.channel.receive.2 })

def cancel (w : Watch) (s : RuleStore) : Watch × RuleStore :=
  ({ w with channel := w.channel.close }, s.unsubscribe w.listener)

theorem hear_cons (w : Watch) (note : Nat × List Rule) (notes : List (Nat × List Rule)) :
    w.hear (note :: notes) =
      (if note.1 = w.listener then { w with channel := w.channel.offer note.2 } else w).hear notes :=
  rfl

@[simp] theorem listener_hear (w : Watch) (notes : List (Nat × List Rule)) :
    (w.hear notes).listener = w.listener := by
  induction notes generalizing w with
  | nil => rfl
  | cons note notes ih =>
    rw [hear_cons, ih]
    split <;> rfl

@[simp] theorem capacity_hear (w : Watch) (notes : List (Nat × List Rule)) :
    (w.hear notes).channel.capacity = w.channel.capacity := by
  induction notes generalizing w with
  | nil => rfl
  | cons note notes ih =>
    rw [hear_cons, ih]
    split
    · exact Channel.capacity_offer _ _
    · rfl

end Watch

end HeaderAudit
