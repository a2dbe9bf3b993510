import TimeCapsule.Home.HomeSteps

/-!
# No capsule is listed twice

If no single answer lists an id twice, no array of the store ever does. A merge asks only that the
ids of the left list are distinct (`Keyed.nodup_mergeOn`); every other handler overwrites an array
with an answer, or permutes or thins it out.
-/

namespace TimeCapsule.Home
open Foundation

/-- The ids of a list are pairwise distinct. -/
def Distinct (l : List TimeCapsulePreview) : Prop := (l.map TimeCapsulePreview.id).Nodup

instance : DecidablePred Distinct := fun l =>
  inferInstanceAs (Decidable (l.map TimeCapsulePreview.id).Nodup)

section Distinct
variable {l r : List TimeCapsulePreview}

/-- A sublist lists no id twice either. -/
lemma Distinct.sublist (h : Distinct l) (sub : List.Sublist r l) : Distinct r :=
  List.Nodup.sublist (sub.map _) h

/-- The order does not matter. -/
lemma Distinct.perm (h : Distinct l) (perm : r.Perm l) : Distinct r :=
  (perm.map _).nodup_iff.2 h

end Distinct

namespace Store

/-- Both arrays have pairwise distinct ids. -/
def DistinctIds (s : Store) : Prop := Distinct s.model.original ∧ Distinct s.model.filtered

instance : DecidablePred DistinctIds := fun _ => inferInstanceAs (Decidable (_ ∧ _))

/-- A filtered store has distinct ids if its `original` has. -/
lemma distinct_filter {m : TimeCapsulePreviewModel} (h : Distinct m.original) :
    Distinct m.filter.original ∧ Distinct m.filter.filtered := by
  rw [TimeCapsulePreviewModel.filter_original, TimeCapsulePreviewModel.filter_filtered]
  exact ⟨h, h.sublist List.filter_sublist⟩

/-- Every handler keeps the ids distinct if the list it is given has distinct ids. -/
lemma step_distinctIds (s : Store) (e : StoreEvent) (h : s.DistinctIds)
    (distinct : Distinct e.capsules) : Run.After step DistinctIds s e := by
  obtain ⟨original, filtered⟩ := h
  intro t ht
  have change := step_change ht
  rw [DistinctIds]
  generalize t.model = m at change
  cases change with
  | tag => exact distinct_filter original
  | state => exact distinct_filter original
  | sort perm => exact distinct_filter (original.perm perm)
  | @fetch r =>
    have merged : Distinct (combineArrays s.model.original r) := by
      rw [combineArrays_eq]
      exact Keyed.nodup_mergeOn original
    exact distinct_filter merged
  | removeDuplicate =>
    exact ⟨original.sublist (removingDuplicates_sublist _),
      filtered.sublist (removingDuplicates_sublist _)⟩
  | firstFetch => exact distinct_filter distinct
  | confirmedDeletion => exact ⟨distinct, filtered⟩
  | pageInfo => exact ⟨original, filtered⟩

/-- If every answer lists pairwise distinct ids, the ids in `original` and those in `filtered` are
pairwise distinct in every state. -/
theorem ids_distinct (p : Process) (es : List StoreEvent)
    (answers : ∀ e ∈ es, Distinct e.capsules) : Run.Always step DistinctIds (launch p) es := by
  have steps : Run.Steps step (fun _ e => Distinct e.capsules) (launch p) es :=
    Run.Steps.of_events answers
  exact Run.always_of_steps step_distinctIds ⟨List.nodup_nil, List.nodup_nil⟩ steps

/-- Answers that overlap and disagree about the title of a shared id, with a refresh in between. -/
theorem ids_distinct_overlapping :
    Run.Always step DistinctIds (launch ⟨fun _ _ => none, ⟨"", ""⟩, fun _ => 0⟩)
      [.fetchTimeCapsulePreviews [⟨1, 1, false, "t", "가족", "", "", ""⟩,
          ⟨2, 1, true, "u", "기억", "", "", ""⟩],
        .confirmedDeletion [⟨2, 1, true, "v", "기억", "", "", ""⟩],
        .fetchTimeCapsulePreviews [⟨1, 1, false, "w", "가족", "", "", ""⟩,
          ⟨2, 1, true, "w", "기억", "", "", ""⟩], .removeDuplicate, .sort .nameDesc] :=
  ids_distinct _ _ (by decide)

end Store

end TimeCapsule.Home
