import Blockhost.Services.NodePlacement
import Mathlib.Order.Lattice

/-! The node that a placement selects is a best one: it meets every condition, and no other
node that does has more memory free.
-/

namespace Blockhost

open Library

/-- The memory of a node that its active workloads leave free. -/
def freeRamMb (settings : Settings) (db : Database) (now : Instant) (node : Node) : Int :=
  node.totalRamMb - placementRamMb settings db now node.id

/-- A node that a placement may select. -/
structure Eligible (settings : Settings) (db : Database) (now : Instant) (requiredRamMb : Int)
    (requiredTier : NodeTier) (node : Node)
    : Prop where
  stored : node ∈ db.nodes.rows
  online : node.status = .online
  tier : node.tier = requiredTier
  fresh : isNodeHeartbeatFresh node now = true
  roomy : max requiredRamMb 512 ≤ freeRamMb settings db now node

/-- What a choice among candidates has seen: it never falls, is no less than the free memory of
any candidate that passes, and is the earlier choice or that of such a candidate.
-/
structure Leads (settings : Settings) (db : Database) (now : Instant) (requiredRamMb : Int)
    (candidates : List Node) (before after : BestNode)
    : Prop where
  grows : before.bestFree ≤ after.bestFree
  covers
    : ∀ node ∈ candidates, isNodeHeartbeatFresh node now = true
      → requiredRamMb ≤ freeRamMb settings db now node
      → freeRamMb settings db now node ≤ after.bestFree
  chosen
    : after = before
      ∨ ∃ node ∈ candidates, isNodeHeartbeatFresh node now = true
        ∧ requiredRamMb ≤ freeRamMb settings db now node
        ∧ after = ⟨some node, freeRamMb settings db now node⟩

variable {settings : Settings} {db : Database} {now : Instant} {requiredRamMb : Int}
variable {requiredTier : NodeTier}

theorem leads_considerNode (choice : BestNode) (node : Node)
    : Leads settings db now requiredRamMb [node] choice
        (considerNode settings db now requiredRamMb choice node) := by
  unfold considerNode BestNode.offer
  split
  · rename_i fresh
    split
    · rename_i short
      refine ⟨Int.le_refl _, ?_, .inl rfl⟩
      intro other member _ enough
      cases List.mem_singleton.mp member
      exact absurd short (Int.not_lt.mpr enough)
    · rename_i enough
      split
      · rename_i better
        refine ⟨Int.le_of_lt better, ?_, ?_⟩
        · intro other member _ _
          cases List.mem_singleton.mp member
          exact Int.le_refl _
        · exact .inr ⟨node, List.mem_singleton_self node, fresh, Int.not_lt.mp enough, rfl⟩
      · rename_i worse
        refine ⟨Int.le_refl _, ?_, .inl rfl⟩
        intro other member _ _
        cases List.mem_singleton.mp member
        exact Int.not_lt.mp worse
  · rename_i stale
    refine ⟨Int.le_refl _, ?_, .inl rfl⟩
    intro other member fresh
    cases List.mem_singleton.mp member
    exact absurd fresh stale

theorem Leads.append {first second : List Node} {before middle after : BestNode}
    (earlier : Leads settings db now requiredRamMb first before middle)
    (later : Leads settings db now requiredRamMb second middle after)
    : Leads settings db now requiredRamMb (first ++ second) before after := by
  refine ⟨Int.le_trans earlier.grows later.grows, ?_, ?_⟩
  · intro node member fresh enough
    rcases List.mem_append.mp member with inFirst | inSecond
    · exact Int.le_trans (earlier.covers node inFirst fresh enough) later.grows
    · exact later.covers node inSecond fresh enough
  · rcases later.chosen with kept | ⟨node, member, chosen⟩
    · rw [kept]
      rcases earlier.chosen with same | ⟨node, member, chosen⟩
      · exact .inl same
      · exact .inr ⟨node, List.mem_append_left _ member, chosen⟩
    · exact .inr ⟨node, List.mem_append_right _ member, chosen⟩

/-- By induction on the candidates. -/
theorem leads_foldl (settings : Settings) (db : Database) (now : Instant) (requiredRamMb : Int)
    (candidates : List Node) (choice : BestNode)
    : Leads settings db now requiredRamMb candidates choice
        (candidates.foldl (considerNode settings db now requiredRamMb) choice) := by
  induction candidates generalizing choice with
  | nil =>
      exact ⟨Int.le_refl _, fun _ member => absurd member List.not_mem_nil, .inl rfl⟩
  | cons node rest ih => exact (leads_considerNode choice node).append (ih _)

theorem eligible_iff {node : Node}
    : Eligible settings db now requiredRamMb requiredTier node
      ↔ node ∈ db.nodes.rows.filter
          (fun node => node.status = .online && node.tier = requiredTier)
        ∧ isNodeHeartbeatFresh node now = true
        ∧ requiredRamMb ≤ freeRamMb settings db now node
        ∧ 512 ≤ freeRamMb settings db now node := by
  rw [List.mem_filter, Bool.and_eq_true, decide_eq_true_eq, decide_eq_true_eq]
  constructor
  · rintro ⟨stored, online, tier, fresh, roomy⟩
    exact ⟨⟨stored, online, tier⟩, fresh, max_le_iff.mp roomy⟩
  · rintro ⟨⟨stored, online, tier⟩, fresh, roomy⟩
    exact ⟨stored, online, tier, fresh, max_le_iff.mpr roomy⟩

theorem selectBestNodeOfTier_some {node : Node}
    (selected : selectBestNodeOfTier settings db now requiredRamMb requiredTier = some node)
    : Eligible settings db now requiredRamMb requiredTier node
      ∧ ∀ other, Eligible settings db now requiredRamMb requiredTier other
        → freeRamMb settings db now other ≤ freeRamMb settings db now node := by
  unfold selectBestNodeOfTier at selected
  dsimp only at selected
  split at selected
  · cases selected
  · rename_i enough
    obtain ⟨_, covers, chosen⟩ :=
      leads_foldl settings db now requiredRamMb
        (db.nodes.rows.filter (fun node => node.status = .online && node.tier = requiredTier)) {}
    rcases chosen with none | ⟨best, member, fresh, required, chosen⟩
    · rw [none] at selected
      cases selected
    · rw [chosen] at selected enough covers
      cases selected
      refine ⟨eligible_iff.mpr ⟨member, fresh, required, Int.not_lt.mp enough⟩, ?_⟩
      intro other eligible
      obtain ⟨candidate, fresh, required, _⟩ := eligible_iff.mp eligible
      exact covers other candidate fresh required

theorem selectBestNodeOfTier_none
    (missing : selectBestNodeOfTier settings db now requiredRamMb requiredTier = none)
    (node : Node)
    : ¬ Eligible settings db now requiredRamMb requiredTier node := by
  intro eligible
  obtain ⟨candidate, fresh, required, floor⟩ := eligible_iff.mp eligible
  have leads :=
    leads_foldl settings db now requiredRamMb
      (db.nodes.rows.filter (fun node => node.status = .online && node.tier = requiredTier)) {}
  have covered := leads.covers node candidate fresh required
  unfold selectBestNodeOfTier at missing
  dsimp only at missing
  split at missing
  · rename_i short
    omega
  · rename_i enough
    rcases leads.chosen with none | ⟨best, _, _, _, chosen⟩
    · rw [none] at enough
      exact enough (by decide)
    · rw [chosen] at missing
      cases missing

/-- A placement selects an eligible node with the most memory free, and none exactly when no
node is eligible.
-/
theorem selectBestNode_is_argmax (settings : Settings) (db : Database) (now : Instant)
    (requiredRamMb : Int) (requiredTier : NodeTier)
    : (∀ node, selectBestNodeOfTier settings db now requiredRamMb requiredTier = some node
        → Eligible settings db now requiredRamMb requiredTier node
          ∧ ∀ other, Eligible settings db now requiredRamMb requiredTier other
            → freeRamMb settings db now other ≤ freeRamMb settings db now node)
      ∧ (selectBestNodeOfTier settings db now requiredRamMb requiredTier = none
        ↔ ∀ node, ¬ Eligible settings db now requiredRamMb requiredTier node) := by
  refine ⟨fun node => selectBestNodeOfTier_some, selectBestNodeOfTier_none, ?_⟩
  intro none
  cases selected : selectBestNodeOfTier settings db now requiredRamMb requiredTier with
  | none => rfl
  | some node => exact absurd (selectBestNodeOfTier_some selected).1 (none node)

end Blockhost
