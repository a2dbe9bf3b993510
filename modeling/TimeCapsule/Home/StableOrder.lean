import TimeCapsule.Home.ListRendering
import TimeCapsule.Home.SortOrder

/-!
# What a sort does to the screen

A sort action sorts both arrays, and then throws `filtered` away and restricts `original` anew.
Since a stable sort commutes with a filter, the result is the same as if only the list on screen had
been sorted: `sort_reorders` says so for every store whose dates parse and whose list on screen is
the view of `original`.
-/

namespace TimeCapsule.Home
open Foundation

namespace Store

/-- Both arrays are reordered: `original` is sorted with ties as before, and the list on screen is
the stable sort of the one before, so it shows the same capsules. -/
structure Reordered (action : SortAction) (p : Process) (m m' : TimeCapsulePreviewModel) : Prop where
  original : StableSort (action.Before p) m.original m'.original
  filtered : m'.filtered = m.filtered.mergeSort fun a b => decide (action.Before p a b)
  shown : m'.filtered.Perm m.filtered

/-- A sort action returns and reorders both arrays. -/
theorem sort_reorders (action : SortAction) (s : Store) (viewed : s.Viewed)
    (parses : ∀ c ∈ s.model.original, Parses s.process c) :
    ∃ t, s.step (.sort action) = some t ∧ Reordered action s.process s.model t.model := by
  have listed : ∀ c ∈ s.model.filtered, c ∈ s.model.original := by
    rw [viewed]
    exact fun c hc => List.mem_of_mem_filter hc
  have reads (c : TimeCapsulePreview) (hc : c ∈ s.model.original) : action.Reads s.process c := by
    cases action with
    | createdDateAsc | createdDateDesc => exact (parses c hc).1
    | _ => exact trivial
  obtain ⟨t, ht⟩ := Option.isSome_iff_exists.1 ((sort_isSome s action).2
    ⟨fun _ => reads, fun _ c hc => reads c (listed c hc)⟩)
  obtain ⟨stable, filtered⟩ := sort_stable ht parses
  have screen : StableSort (action.Before s.process) s.model.filtered t.model.filtered := by
    rw [filtered, viewed]
    exact stable.filter _
  exact ⟨t, ht, stable, screen.eq_mergeSort (fun a b c => SortAction.Before.trans)
    SortAction.Before.total, screen.perm⟩

/-- Two closed capsules with one created date, under a selection that hides the opened one. -/
theorem sort_reorders_ties :
    ∃ t,
      step ⟨{ original := [⟨1, 1, false, "t", "가족", "", "", ""⟩, ⟨2, 1, true, "u", "기억", "", "", ""⟩,
                ⟨3, 1, false, "s", "가족", "", "", ""⟩]
              filtered := [⟨1, 1, false, "t", "가족", "", "", ""⟩, ⟨3, 1, false, "s", "가족", "", "", ""⟩]
              selectedState := some .closed },
          ⟨fun _ _ => some 0, ⟨"", ""⟩, fun _ => 0⟩⟩ (.sort .createdDateDesc) = some t ∧
        Reordered .createdDateDesc ⟨fun _ _ => some 0, ⟨"", ""⟩, fun _ => 0⟩
          { original := [⟨1, 1, false, "t", "가족", "", "", ""⟩, ⟨2, 1, true, "u", "기억", "", "", ""⟩,
              ⟨3, 1, false, "s", "가족", "", "", ""⟩]
            filtered := [⟨1, 1, false, "t", "가족", "", "", ""⟩, ⟨3, 1, false, "s", "가족", "", "", ""⟩]
            selectedState := some .closed } t.model :=
  sort_reorders .createdDateDesc _ (by decide) (by decide)

end Store

end TimeCapsule.Home
