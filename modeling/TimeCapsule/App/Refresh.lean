import TimeCapsule.App.App

/-!
# Refreshing the list

What the refresh on `viewWillAppear` makes of a full list. The merge goes by id and keeps the entry
it has, so a refresh brings new capsules but no news of known ones: `refresh_current_iff` says that
the list is current afterwards exactly if nothing in the store was out of date.
-/

namespace TimeCapsule
open Foundation Home Login

namespace Home.TimeCapsulePreviewModel

/-- A capsule is held as it is here and in no other version, and is shown if the selection shows
it. -/
def Current (m : TimeCapsulePreviewModel) (c : TimeCapsulePreview) : Prop :=
  c ∈ m.original ∧ (∀ x ∈ m.original, x.id = c.id → x = c) ∧
    (c ∈ m.filtered ↔ Shows m.selectedTag m.selectedState c)

instance (m : TimeCapsulePreviewModel) : DecidablePred m.Current := fun c =>
  inferInstanceAs (Decidable (c ∈ m.original ∧ (∀ x ∈ m.original, x.id = c.id → x = c) ∧
    (c ∈ m.filtered ↔ Shows m.selectedTag m.selectedState c)))

variable {m : TimeCapsulePreviewModel}

/-- After a filter the selection decides what is shown. -/
lemma mem_filter_filtered {c : TimeCapsulePreview} (h : c ∈ m.filter.original) :
    c ∈ m.filter.filtered ↔ Shows m.filter.selectedTag m.filter.selectedState c := by
  rw [filter_original] at h
  simp [view, h]

/-- A merging fetch makes all of a list current just when the store disagrees with none of it. -/
lemma fetchTimeCapsulePreviews_current_iff {r : List TimeCapsulePreview}
    (distinct : (r.map TimeCapsulePreview.id).Nodup) :
    (∀ c ∈ r, (m.fetchTimeCapsulePreviews r).Current c) ↔
      ∀ c ∈ r, ∀ x ∈ m.original, x.id = c.id → x = c := by
  rw [← Keyed.mergeOn_current_iff distinct]
  have original := fetchTimeCapsulePreviews_original (m := m) r
  constructor
  · intro current c hc
    obtain ⟨mem, unique, _⟩ := current c hc
    exact ⟨original ▸ mem, original ▸ unique⟩
  · intro current c hc
    obtain ⟨mem, unique⟩ := current c hc
    rw [← original] at mem unique
    exact ⟨mem, unique, mem_filter_filtered mem⟩

end Home.TimeCapsulePreviewModel

namespace App

/-- Handling the full list that `fetchdata` asked for leaves all its capsules current if and only if
no capsule of the store differs from the listed one with its id. -/
theorem refresh_current_iff {a b : App} {i : Nat} {token : String}
    {json : TimeCapsulePreviewResponse}
    (answered : a.home.fetches[i]? = some ⟨⟨token, .fetchdata⟩, some (.decoded json)⟩)
    (distinct : (json.result.map TimeCapsulePreview.id).Nodup)
    (h : a.step (.home (.fetch (.deliver i))) = some b) :
    (∀ c ∈ json.result, b.home.store.model.Current c) ↔
      ∀ c ∈ json.result, ∀ x ∈ a.home.store.model.original, x.id = c.id → x = c := by
  have model : b.home.store.model = a.home.store.model.fetchTimeCapsulePreviews json.result := by
    simp only [step, HomeScreen.step, Wire.step, answered] at h
    cases h
    rfl
  rw [model]
  exact TimeCapsulePreviewModel.fetchTimeCapsulePreviews_current_iff distinct

/-- The first list of a process is current: the store is empty. -/
theorem first_refresh_current :
    (({} : TimeCapsulePreviewModel).fetchTimeCapsulePreviews
      [⟨1, 1, false, "t", "가족", "", "", ""⟩]).Current ⟨1, 1, false, "t", "가족", "", "", ""⟩ :=
  (refresh_current_iff (i := 0)
    (a := { session := .launch ∅, home := {
      store := .launch ⟨fun _ _ => none, ⟨"", ""⟩, fun _ => 0⟩
      fetches := [⟨⟨"r", .fetchdata⟩,
        some (.decoded ⟨true, "200", "OK", [⟨1, 1, false, "t", "가족", "", "", ""⟩]⟩)⟩] } })
    rfl (by decide) rfl).2 (by decide) _ (by simp)

/-- A capsule is listed as closed, then as opened: the second list is dropped. -/
theorem refresh_not_current :
    ¬ ∀ (keychain : Keychain) (p : Process) (es : List AppEvent) (a b : App) (i : Nat)
      (token : String) (json : TimeCapsulePreviewResponse),
      Run.exec step (launch keychain p) es = some a →
      a.home.fetches[i]? = some ⟨⟨token, .fetchdata⟩, some (.decoded json)⟩ →
      (json.result.map TimeCapsulePreview.id).Nodup →
      a.step (.home (.fetch (.deliver i))) = some b →
      ∀ c ∈ json.result, b.home.store.model.Current c := by
  intro h
  have current := h ((∅ : Keychain).save "r" .refreshToken) ⟨fun _ _ => none, ⟨"", ""⟩, fun _ => 0⟩
    [.home (.fetch (.reply 0
        (.decoded ⟨true, "200", "OK", [⟨1, 1, false, "t", "가족", "", "", ""⟩]⟩))),
      .home (.fetch (.deliver 0)), .home .viewWillAppear,
      .home (.fetch (.reply 0
        (.decoded ⟨true, "200", "OK", [⟨1, 1, true, "t", "가족", "", "", ""⟩]⟩)))]
    _ _ 0 _ _ rfl rfl (by decide) rfl
  revert current
  decide

end App

end TimeCapsule
