import Mathlib.Algebra.Order.BigOperators.Group.List
import Mathlib.Algebra.Order.Ring.Nat
import Mathlib.Data.List.Nodup
import Mathlib.Logic.Relation

/-! A breadth-first search of a finite graph comes to each node that the first one reaches, and
comes to it once.
-/

namespace Library.BreadthFirst

variable {Node : Type} [DecidableEq Node]

/-- The new nodes that a search comes to from a queue, in order, or none if it runs out of
steps.
-/
def visits (next : Node → List Node) : Nat → List Node → List Node → Option (List Node)
  | 0, _, _ => none
  | _ + 1, [], _ => some []
  | steps + 1, node :: queue, seen =>
      if node ∈ seen then visits next steps queue seen
      else
        (visits next steps (queue ++ (next node).filter (fun other => other ∉ seen ++ [node]))
          (seen ++ [node])).map (fun order => node :: order)

def edges (next : Node → List Node) (nodes seen : List Node) : Nat :=
  (nodes.map (fun node => if node ∈ seen then 0 else (next node).length)).sum

/-- A step leads from a node to one of the next ones. -/
abbrev Leads (next : Node → List Node) (first last : Node) : Prop :=
  Relation.ReflTransGen (fun node other => other ∈ next node) first last

variable {next : Node → List Node} {steps : Nat} {queue seen order : List Node}

/-- A search comes to no node twice, and to none that it has seen; by induction on the
search.
-/
theorem visits_nodup (found : visits next steps queue seen = some order)
    : order.Nodup ∧ ∀ node ∈ order, node ∉ seen := by
  fun_induction visits next steps queue seen generalizing order with
  | case1 => cases found
  | case2 =>
      cases found
      exact ⟨List.nodup_nil, List.forall_mem_nil _⟩
  | case3 steps node queue seen known ih => exact ih found
  | case4 steps node queue seen new ih =>
      obtain ⟨later, searched, rfl⟩ := Option.map_eq_some_iff.mp found
      obtain ⟨distinct, unseen⟩ := ih searched
      have own : node ∉ later := fun again => unseen node again (by simp)
      refine ⟨List.nodup_cons.mpr ⟨own, distinct⟩, ?_⟩
      refine List.forall_mem_cons.mpr ⟨new, ?_⟩
      exact fun other member known => unseen other member (List.mem_append_left _ known)

theorem visits_reached (found : visits next steps queue seen = some order) {node : Node}
    (visited : node ∈ order)
    : ∃ first ∈ queue, Leads next first node := by
  fun_induction visits next steps queue seen generalizing order with
  | case1 => cases found
  | case2 =>
      cases found
      exact absurd visited List.not_mem_nil
  | case3 steps first queue seen known ih =>
      obtain ⟨start, queued, leads⟩ := ih found visited
      exact ⟨start, List.mem_cons_of_mem _ queued, leads⟩
  | case4 steps first queue seen new ih =>
      obtain ⟨later, searched, rfl⟩ := Option.map_eq_some_iff.mp found
      rcases List.mem_cons.mp visited with rfl | visited
      · exact ⟨node, List.mem_cons_self, .refl⟩
      · obtain ⟨start, queued, leads⟩ := ih searched visited
        rcases List.mem_append.mp queued with queued | added
        · exact ⟨start, List.mem_cons_of_mem _ queued, leads⟩
        · exact ⟨first, List.mem_cons_self, .head (List.mem_of_mem_filter added) leads⟩

theorem visits_closed (found : visits next steps queue seen = some order)
    : (∀ node ∈ queue, node ∈ order ∨ node ∈ seen)
      ∧ ∀ node ∈ order, ∀ other ∈ next node, other ∈ order ∨ other ∈ seen := by
  fun_induction visits next steps queue seen generalizing order with
  | case1 => cases found
  | case2 =>
      cases found
      exact ⟨List.forall_mem_nil _, List.forall_mem_nil _⟩
  | case3 steps node queue seen known ih =>
      obtain ⟨queued, closed⟩ := ih found
      exact ⟨List.forall_mem_cons.mpr ⟨.inr known, queued⟩, closed⟩
  | case4 steps node queue seen new ih =>
      obtain ⟨later, searched, rfl⟩ := Option.map_eq_some_iff.mp found
      obtain ⟨queued, closed⟩ := ih searched
      have settle (other : Node) (reached : other ∈ later ∨ other ∈ seen ++ [node])
          : other ∈ node :: later ∨ other ∈ seen := by
        rcases reached with after | known
        · exact .inl (List.mem_cons_of_mem _ after)
        · rcases List.mem_append.mp known with old | own
          · exact .inr old
          · exact .inl (List.mem_singleton.mp own ▸ List.mem_cons_self)
      refine ⟨?_, ?_⟩
      · refine List.forall_mem_cons.mpr ⟨.inl List.mem_cons_self, ?_⟩
        exact fun other waiting => settle other (queued other (List.mem_append_left _ waiting))
      · refine List.forall_mem_cons.mpr ⟨?_, ?_⟩
        · intro other follows
          by_cases known : other ∈ seen ++ [node]
          · exact settle other (.inr known)
          · refine settle other (queued other (List.mem_append_right _ ?_))
            exact List.mem_filter.mpr ⟨follows, decide_eq_true known⟩
        · exact fun first member other follows =>
            settle other (closed first member other follows)

theorem mem_visits_iff {first node : Node} (found : visits next steps [first] [] = some order)
    : node ∈ order ↔ Leads next first node := by
  obtain ⟨queued, closed⟩ := visits_closed found
  constructor
  · intro visited
    obtain ⟨start, member, leads⟩ := visits_reached found visited
    exact List.mem_singleton.mp member ▸ leads
  · intro leads
    induction leads with
    | refl => exact (queued first List.mem_cons_self).resolve_right List.not_mem_nil
    | tail _ follows ih => exact (closed _ ih _ follows).resolve_right List.not_mem_nil

theorem edges_append_le (next : Node → List Node) (nodes seen : List Node) (node : Node)
    : edges next nodes (seen ++ [node]) ≤ edges next nodes seen := by
  refine List.sum_le_sum ?_
  intro other _
  by_cases known : other ∈ seen
  · simp [known]
  · rw [if_neg known]
    split <;> simp

/-- The edges of a node count until it is seen, by induction on the nodes. -/
theorem edges_append {nodes : List Node} {node : Node} (member : node ∈ nodes)
    (new : node ∉ seen)
    : (next node).length + edges next nodes (seen ++ [node]) ≤ edges next nodes seen := by
  induction nodes with
  | nil => exact absurd member List.not_mem_nil
  | cons first nodes ih =>
      have split (seen : List Node) : edges next (first :: nodes) seen
          = (if first ∈ seen then 0 else (next first).length) + edges next nodes seen :=
        List.sum_cons
      rw [split, split]
      by_cases same : first = node
      · have rest := edges_append_le next nodes seen node
        simp only [same, new, List.mem_append, List.mem_singleton, or_true, if_true, if_false]
        omega
      · have counted := ih ((List.mem_cons.mp member).resolve_left (Ne.symm same))
        simp only [List.mem_append, List.mem_singleton, same, or_false]
        omega

/-- Where only finitely many nodes lead on, a search ends within as many steps as it has edges to
follow.
-/
theorem visits_ends {nodes : List Node} (leaves : ∀ node, node ∉ nodes → next node = [])
    (enough : queue.length + edges next nodes seen < steps)
    : ∃ order, visits next steps queue seen = some order := by
  fun_induction visits next steps queue seen with
  | case1 => exact absurd enough (Nat.not_lt_zero _)
  | case2 => exact ⟨[], rfl⟩
  | case3 steps node queue seen known ih =>
      rw [List.length_cons] at enough
      exact ih (by omega)
  | case4 steps node queue seen new ih =>
      rw [List.length_cons] at enough
      have kept := List.length_filter_le (fun other => decide (other ∉ seen ++ [node])) (next node)
      have bound : (next node).length + edges next nodes (seen ++ [node])
          ≤ edges next nodes seen := by
        by_cases member : node ∈ nodes
        · exact edges_append member new
        · rw [leaves node member, List.length_nil, Nat.zero_add]
          exact edges_append_le next nodes seen node
      obtain ⟨order, found⟩ := ih (by rw [List.length_append]; omega)
      exact ⟨node :: order, by rw [found]; rfl⟩

end Library.BreadthFirst
