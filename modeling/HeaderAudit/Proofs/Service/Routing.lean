import Mathlib
import HeaderAudit.Service.Api
/-!
The service answers by its route table for every lawful router: `404` for a path with no route,
and `405` with an `Allow` value per method of the path's routes for a method none of them takes.
-/

namespace HeaderAudit

namespace HeaderMap

/-- Every value a header map holds under a name, in order. -/
def valuesOf (m : HeaderMap) (name : String) : List String :=
  ((m.entries.find? (·.1 == canonicalName name)).map (·.2)).getD []

theorem get?_eq_head?_valuesOf (m : HeaderMap) (name : String) :
    m.get? name = (m.valuesOf name).head? := by
  unfold get? valuesOf
  cases m.entries.find? (·.1 == canonicalName name) <;> rfl

theorem find?_map_append (k value : String) (es : List (String × List String)) :
    ((es.map fun e => if e.1 == k then (k, e.2 ++ [value]) else e).find? (·.1 == k)).map (·.2) =
      (es.find? (·.1 == k)).map (·.2 ++ [value]) := by
  induction es with
  | nil => rfl
  | cons e es ih =>
    by_cases named : (e.1 == k) = true
    · simp only [List.map_cons, named, if_true, List.find?_cons, beq_self_eq_true, Option.map_some]
    · simp only [List.map_cons, named, Bool.false_eq_true, if_false, List.find?_cons]
      exact ih

/-- Adding a value under a name puts it after the values the name holds. -/
theorem valuesOf_add (m : HeaderMap) (name value : String) :
    (m.add name value).valuesOf name = m.valuesOf name ++ [value] := by
  unfold add valuesOf
  by_cases held : m.entries.any (·.1 == canonicalName name) = true
  · rw [if_pos held, find?_map_append]
    obtain ⟨e, found⟩ :=
      Option.isSome_iff_exists.mp (List.find?_isSome.mpr (List.any_eq_true.mp held))
    simp [found]
  · have missing : m.entries.find? (·.1 == canonicalName name) = none := by
      rw [List.find?_eq_none]
      intro e member named
      exact held (List.any_eq_true.mpr ⟨e, member, named⟩)
    rw [if_neg held, List.find?_append, missing]
    simp

theorem valuesOf_foldl_add (m : HeaderMap) (name : String) (values : List String) :
    (values.foldl (fun m v => m.add name v) m).valuesOf name = m.valuesOf name ++ values := by
  induction values generalizing m with
  | nil => simp
  | cons v values ih =>
    rw [List.foldl_cons, ih, valuesOf_add, List.append_assoc, List.singleton_append]

end HeaderMap

namespace Service

theorem allow_baseHeaders : baseHeaders.valuesOf "Allow" = [] := by decide

theorem Router.inOrder_lawful : Router.inOrder.Lawful where
  serves req route known first := by
    simp only [Router.inOrder, known, Bool.not_true, Bool.false_eq_true, if_false, first]
  missing req known empty := by
    simp only [Router.inOrder, known, empty, Bool.not_true, Bool.false_eq_true, if_false, List.find?_nil,
      List.isEmpty_nil, if_true]
  refuses req known routed none := by
    refine ⟨_, ?_, List.Perm.refl _⟩
    simp only [Router.inOrder, known, none, Bool.not_true, Bool.false_eq_true, if_false,
      List.isEmpty_eq_false_iff.mpr routed]
  unknown req unknown := by
    simp only [Router.inOrder, unknown, Bool.not_false, if_true]

namespace Server

variable {σ : Type} (s : Server) (rt : Runtime) (t : Transport σ) (req : Incoming) (net : σ)
  (routed : rt.router.Lawful)
include routed

theorem handle_serves {route : Route} (known : knownMethods.contains req.method = true)
    (first : (routesOfRequest req).find? (·.methods.contains req.method) = some route) :
    s.handle rt t req net = s.serve rt t req route net := by
  simp only [Server.handle, routed.serves req route known first]

theorem handle_missing (known : knownMethods.contains req.method = true)
    (empty : routesOfRequest req = []) :
    s.handle rt t req net = (Reply.notFound baseHeaders, s, net) := by
  simp only [Server.handle, routed.missing req known empty]

/-- A method that none of the routes of a path takes is refused with `405` and no body, leaving
the server and the network as they were, with an `Allow` value for each method the path's routes
take, in some order. -/
theorem handle_refuses (known : knownMethods.contains req.method = true)
    (routes : routesOfRequest req ≠ [])
    (untaken : (routesOfRequest req).find? (·.methods.contains req.method) = none) :
    ∃ reply, s.handle rt t req net = (reply, s, net) ∧ reply.status = 405 ∧ reply.body = "" ∧
      (reply.headers.valuesOf "Allow").Perm ((routesOfRequest req).flatMap Route.methods) := by
  obtain ⟨allow, refused, listed⟩ := routed.refuses req known routes untaken
  refine ⟨⟨405, allow.foldl (fun m v => m.add "Allow" v) baseHeaders, ""⟩,
    by simp only [Server.handle, refused], rfl, rfl, ?_⟩
  rw [HeaderMap.valuesOf_foldl_add, allow_baseHeaders, List.nil_append]
  exact listed

theorem handle_unknown (unknown : knownMethods.contains req.method = false) :
    s.handle rt t req net = (⟨405, baseHeaders, ""⟩, s, net) := by
  simp only [Server.handle, routed.unknown req unknown, List.foldl_nil]

end Server

end Service

end HeaderAudit
