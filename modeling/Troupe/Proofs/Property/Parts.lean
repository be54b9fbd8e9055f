import Troupe.Proofs.Cbor.Grammar
import Troupe.Proofs.Entries
import Troupe.Proofs.Store.Copies

/-!
# Parts of maps

A part of a map has some of its entries, in the order that they have there.  Written
back into the map it changes nothing, and it can be sent wherever the map can: it
repeats no key, is not longer and does not nest deeper.
-/

namespace Troupe
namespace Entries

variable {α : Type} {entries part : Entries α}

theorem unique_part (hunique : Unique entries) (hpart : part.Sublist entries) : Unique part :=
  hunique.sublist (hpart.map Prod.fst)

theorem get?_part (hunique : Unique entries) (hpart : part.Sublist entries) {key : String}
    {value : α} (h : get? part key = some value) : get? entries key = some value := by
  have hmem : (key, value) ∈ entries := hpart.subset (mem_of_get? h)
  exact get?_of_mem hunique hmem

theorem overlay_part (hunique : Unique entries) (hpart : part.Sublist entries) :
    overlay entries part = entries := by
  have hsame : forall entry : String × α, entry ∈ entries ->
      (entry.1, (get? part entry.1).getD entry.2) = entry := by
    intro entry hmem
    cases hfound : get? part entry.1 with
    | none => rfl
    | some value =>
        have hvalue := get?_part hunique hpart hfound
        rw [get?_of_mem hunique hmem] at hvalue
        rw [← Option.some.inj hvalue]
        rfl
  rw [overlay]
  exact (List.map_congr_left hsame).trans (List.map_id' entries)

theorem displaced_part (default : α) (hunique : Unique entries) (hpart : part.Sublist entries) :
    displaced default entries part = part := by
  have hsame : forall entry : String × α, entry ∈ part ->
      (entry.1, (get? entries entry.1).getD default) = entry := by
    intro entry hmem
    rw [get?_of_mem hunique (hpart.subset hmem)]
    rfl
  rw [displaced]
  exact (List.map_congr_left hsame).trans (List.map_id' part)

end Entries

variable {entries part : List (String × Tree)}

theorem Tree.uniqueKeys_part (h : (Tree.map entries).UniqueKeys) (hpart : part.Sublist entries) :
    (Tree.map part).UniqueKeys := by
  refine ⟨Entries.unique_part h.left hpart, Tree.uniqueKeysEntries_iff.mpr fun t hmem => ?_⟩
  have hvalues : (Entries.values part).Sublist (Entries.values entries) := hpart.map Prod.snd
  exact Tree.uniqueKeysEntries_iff.mp h.right t (hvalues.subset hmem)

theorem Tree.depthEntries_part (hpart : part.Sublist entries) :
    Tree.depthEntries part ≤ Tree.depthEntries entries := by
  induction hpart with
  | slnil => exact Nat.le_refl _
  | cons entry _ ih => exact ih.trans (Nat.le_max_right _ _)
  | cons_cons entry _ ih => exact max_le_max (Nat.le_refl _) ih

theorem Tree.depth_part (hpart : part.Sublist entries) :
    (Tree.map part).depth ≤ (Tree.map entries).depth := by
  rw [Tree.depth, Tree.depth]
  exact Nat.succ_le_succ (Tree.depthEntries_part hpart)

namespace Cbor

theorem measuredEntries_part (hpart : part.Sublist entries) (h : MeasuredEntries entries) :
    MeasuredEntries part := by
  induction hpart with
  | slnil => exact h
  | cons entry _ ih => exact ih h.right.right
  | cons_cons entry _ ih => exact ⟨h.left, h.right.left, ih h.right.right⟩

theorem measured_part (hpart : part.Sublist entries) (h : Measured (Tree.map entries)) :
    Measured (Tree.map part) :=
  ⟨Nat.lt_of_le_of_lt hpart.length_le h.left, measuredEntries_part hpart h.right⟩

end Cbor
end Troupe
