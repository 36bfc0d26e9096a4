import Mathlib

/-!
# In the order in which they are first seen

Names of extractors are kept without repetition, each where it was first seen. `FirstSeen log names`
says that `names` is such a list for the names that came up, which are those of `log` in their order.
One more name changes the list only if it is new (`FirstSeen.concat`), and this is how all such lists
are made.
-/

namespace Codebook

variable {α : Type} [DecidableEq α]

/-- The list `seen` has what is in `log`, in the order in which it is first seen there. -/
structure FirstSeen (log seen : List α) : Prop where
  mem_iff : ∀ a, a ∈ seen ↔ a ∈ log
  ordered : seen.Pairwise fun a b => log.idxOf a < log.idxOf b

namespace FirstSeen

variable {log seen : List α}

theorem nil : FirstSeen ([] : List α) [] :=
  ⟨fun _ => Iff.rfl, .nil⟩

/-- Nothing is there twice. -/
theorem nodup (h : FirstSeen log seen) : seen.Nodup := by
  refine h.ordered.imp ?_
  intro a b hlt heq
  rw [heq] at hlt
  exact lt_irrefl _ hlt

/-- What was seen before keeps its order. -/
theorem ordered_append (h : FirstSeen log seen) (more : List α) :
    seen.Pairwise fun a b => (log ++ more).idxOf a < (log ++ more).idxOf b := by
  refine h.ordered.imp_of_mem ?_
  intro a b ha hb hlt
  rw [List.idxOf_append_of_mem ((h.mem_iff a).mp ha),
    List.idxOf_append_of_mem ((h.mem_iff b).mp hb)]
  exact hlt

/-- Seeing one more adds it at the end, unless it was seen before. -/
theorem concat (h : FirstSeen log seen) (a : α) :
    FirstSeen (log ++ [a]) (if a ∈ seen then seen else seen ++ [a]) := by
  by_cases ha : a ∈ seen
  · rw [if_pos ha]
    have halog : a ∈ log := (h.mem_iff a).mp ha
    refine ⟨?_, h.ordered_append [a]⟩
    intro b
    rw [h.mem_iff, List.mem_append, List.mem_singleton]
    constructor
    · exact Or.inl
    · rintro (hb | rfl)
      · exact hb
      · exact halog
  · rw [if_neg ha]
    have halog : a ∉ log := fun hmem => ha ((h.mem_iff a).mpr hmem)
    refine ⟨?_, ?_⟩
    · intro b
      rw [List.mem_append, List.mem_append, h.mem_iff]
    · refine List.pairwise_append.mpr ⟨h.ordered_append [a], List.pairwise_singleton _ _, ?_⟩
      intro b hb c hc
      obtain rfl := List.mem_singleton.mp hc
      -- what was seen before stands in `log`, and the new one behind it
      have hblog : b ∈ log := (h.mem_iff b).mp hb
      have hlt : log.idxOf b < log.length := List.idxOf_lt_length_iff.mpr hblog
      rw [List.idxOf_append_of_mem hblog, List.idxOf_append_of_notMem halog]
      omega

end FirstSeen

end Codebook
