import TimeCapsule.Home.Distinct

/-!
# Merging many lists

What a sequence of merging fetches makes of an empty store. The kept entry of an id is the first one
that any of the lists brings, so as long as the lists do not contradict each other, neither their
order nor their repetition matters (`fetchAll_insensitive`): a retry or an overlapping page is
harmless.
-/

namespace TimeCapsule.Home
open Foundation

namespace TimeCapsulePreviewModel

/-- Handle lists one at a time, from the empty store with a selection. -/
def fetchAll (selectedTag : Option (Fin K.String.tags.length)) (selectedState : Option CapsuleToggle)
    (lists : List (List TimeCapsulePreview)) : TimeCapsulePreviewModel :=
  lists.foldl fetchTimeCapsulePreviews { selectedTag, selectedState }

/-- Different lists agree on every id that they share. -/
def AgreeOnShared (lists : List (List TimeCapsulePreview)) : Prop :=
  ∀ l ∈ lists, ∀ l' ∈ lists, l ≠ l' → ∀ c ∈ l, ∀ d ∈ l', c.id = d.id → c = d

instance : DecidablePred AgreeOnShared := fun lists =>
  inferInstanceAs (Decidable (∀ l ∈ lists, ∀ l' ∈ lists, _ → ∀ c ∈ l, ∀ d ∈ l', _ → _))

example : AgreeOnShared [[⟨1, 1, false, "t", "가족", "", "", ""⟩],
    [⟨2, 1, false, "u", "기억", "", "", ""⟩, ⟨1, 1, false, "t", "가족", "", "", ""⟩]] := by decide

variable {selectedTag : Option (Fin K.String.tags.length)} {selectedState : Option CapsuleToggle}
  {lists lists' : List (List TimeCapsulePreview)}

/-- A sequence of fetches merges the lists into `original`, and shows what the selection shows of
it. -/
lemma foldl_fetch (m : TimeCapsulePreviewModel) (viewed : m.filtered = m.view m.original)
    (lists : List (List TimeCapsulePreview)) :
    (lists.foldl fetchTimeCapsulePreviews m).original =
        Keyed.mergeAll TimeCapsulePreview.id m.original lists ∧
      (lists.foldl fetchTimeCapsulePreviews m).filtered =
        m.view (lists.foldl fetchTimeCapsulePreviews m).original := by
  induction lists generalizing m with
  | nil => exact ⟨rfl, viewed⟩
  | cons l lists ih =>
    have view : (m.fetchTimeCapsulePreviews l).view = m.view := by
      funext r
      simp only [TimeCapsulePreviewModel.view, fetchTimeCapsulePreviews, filter_selectedTag,
        filter_selectedState]
    have fetched : (m.fetchTimeCapsulePreviews l).filtered =
        (m.fetchTimeCapsulePreviews l).view (m.fetchTimeCapsulePreviews l).original := by
      rw [view]
      exact fetchTimeCapsulePreviews_filtered l
    obtain ⟨original, filtered⟩ := ih (m.fetchTimeCapsulePreviews l) fetched
    rw [fetchTimeCapsulePreviews_original] at original
    rw [view] at filtered
    exact ⟨original, filtered⟩

/-- From the empty store a sequence of fetches merges the lists. -/
lemma fetchAll_original : (fetchAll selectedTag selectedState lists).original =
    Keyed.mergeAll TimeCapsulePreview.id [] lists :=
  (foldl_fetch _ rfl lists).1

/-- From the empty store a sequence of fetches shows what the selection shows of the merge. -/
lemma fetchAll_filtered : (fetchAll selectedTag selectedState lists).filtered =
    (fetchAll selectedTag selectedState lists).original.filter
      fun c => decide (Shows selectedTag selectedState c) :=
  (foldl_fetch _ rfl lists).2

/-- The ids after a sequence of fetches are those of the lists. -/
lemma mem_ids_fetchAll {id : Int} :
    id ∈ (fetchAll selectedTag selectedState lists).original.map TimeCapsulePreview.id ↔
      ∃ l ∈ lists, id ∈ l.map TimeCapsulePreview.id := by
  rw [fetchAll_original, Keyed.key_mem_mergeAll]
  simp

/-- No id is listed twice after a sequence of fetches. -/
lemma distinct_fetchAll : Distinct (fetchAll selectedTag selectedState lists).original := by
  rw [fetchAll_original]
  exact Keyed.nodup_mergeAll (l := []) List.nodup_nil

/-- Lists that agree on the ids they share have the same first entry under each id. -/
lemma AgreeOnShared.lookup (agree : AgreeOnShared lists) (id : Int) :
    ∀ l ∈ lists, ∀ l' ∈ lists, ∀ c ∈ Keyed.lookup TimeCapsulePreview.id id l,
      ∀ d ∈ Keyed.lookup TimeCapsulePreview.id id l', c = d := by
  intro l hl l' hl' c hc d hd
  by_cases same : l = l'
  · subst same
    exact Option.mem_unique hc hd
  · obtain ⟨hcl, hcid⟩ := Keyed.of_lookup hc
    obtain ⟨hdl, hdid⟩ := Keyed.of_lookup hd
    exact agree l hl l' hl' same c hcl d hdl (hcid.trans hdid.symm)

/-- What two sequences of the lists of a family have in common: the ids, each once; and if the lists
agree on the ids they share, both arrays up to order. -/
def Insensitive (selectedTag : Option (Fin K.String.tags.length))
    (selectedState : Option CapsuleToggle) (family es fs : List (List TimeCapsulePreview)) : Prop :=
  (Distinct (fetchAll selectedTag selectedState es).original ∧
    Distinct (fetchAll selectedTag selectedState fs).original ∧
    ∀ id, id ∈ (fetchAll selectedTag selectedState es).original.map TimeCapsulePreview.id ↔
      id ∈ (fetchAll selectedTag selectedState fs).original.map TimeCapsulePreview.id) ∧
  (AgreeOnShared family →
    (fetchAll selectedTag selectedState es).original.Perm
      (fetchAll selectedTag selectedState fs).original ∧
    (fetchAll selectedTag selectedState es).filtered.Perm
      (fetchAll selectedTag selectedState fs).filtered)

/-- Neither the order nor the repetition of the lists of a family matters. -/
theorem fetchAll_insensitive (selectedTag : Option (Fin K.String.tags.length))
    (selectedState : Option CapsuleToggle) {family es fs : List (List TimeCapsulePreview)}
    (hes : ∀ l, l ∈ es ↔ l ∈ family) (hfs : ∀ l, l ∈ fs ↔ l ∈ family) :
    Insensitive selectedTag selectedState family es fs := by
  have same (l : List TimeCapsulePreview) : l ∈ es ↔ l ∈ fs := (hes l).trans (hfs l).symm
  apply And.intro
  · refine ⟨distinct_fetchAll, distinct_fetchAll, fun id => ?_⟩
    rw [mem_ids_fetchAll, mem_ids_fetchAll]
    simp only [same]
  · intro agree
    have agree' : AgreeOnShared es := fun l hl l' hl' =>
      agree l ((hes l).1 hl) l' ((hes l').1 hl')
    have original : (fetchAll selectedTag selectedState es).original.Perm
        (fetchAll selectedTag selectedState fs).original := by
      rw [fetchAll_original, fetchAll_original]
      exact Keyed.mergeAll_perm same agree'.lookup
    refine ⟨original, ?_⟩
    rw [fetchAll_filtered, fetchAll_filtered]
    exact original.filter _

/-- Two overlapping lists, in both orders and with a retry of the second one. -/
theorem fetchAll_insensitive_retry :
    Insensitive none (some .closed)
      [[⟨1, 1, false, "t", "가족", "", "", ""⟩],
        [⟨2, 1, false, "u", "기억", "", "", ""⟩, ⟨1, 1, false, "t", "가족", "", "", ""⟩]]
      [[⟨1, 1, false, "t", "가족", "", "", ""⟩],
        [⟨2, 1, false, "u", "기억", "", "", ""⟩, ⟨1, 1, false, "t", "가족", "", "", ""⟩]]
      [[⟨2, 1, false, "u", "기억", "", "", ""⟩, ⟨1, 1, false, "t", "가족", "", "", ""⟩],
        [⟨1, 1, false, "t", "가족", "", "", ""⟩],
        [⟨2, 1, false, "u", "기억", "", "", ""⟩, ⟨1, 1, false, "t", "가족", "", "", ""⟩]] := by
  apply fetchAll_insensitive
  · exact fun l => Iff.rfl
  · intro l
    simp only [List.mem_cons, List.not_mem_nil, or_false]
    tauto

end TimeCapsulePreviewModel

end TimeCapsule.Home
