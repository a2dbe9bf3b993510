import TimeCapsule.Home.HomeSteps

/-!
# How long a sort order lasts

A sort leaves both arrays in the order of its key, but nothing records which key that was: a merge
appends, and an overwrite takes over the order of the answer. `order_kept_iff` says which runs keep
the order up to the next sort.

The key of a date is what the shared formatter parses under the settings of the sort. The created
date sets both of them; the deadline sets the format only, so its key depends on the time zone that
was set last.
-/

namespace TimeCapsule.Home
open Foundation

/-! ## The keys -/

/-- Both date strings of a capsule parse. -/
def Parses (p : Process) (c : TimeCapsulePreview) : Prop :=
  createdKey p c ≠ ⊥ ∧ deadlineKey p c ≠ ⊥

instance (p : Process) : DecidablePred (Parses p) := fun _ => inferInstanceAs (Decidable (_ ∧ _))

/-- By the key of a sort action the first capsule may stand before the second. -/
def SortAction.Before (p : Process) : SortAction → TimeCapsulePreview → TimeCapsulePreview → Prop
  | .createdDateAsc, a, b => createdKey p a ≤ createdKey p b
  | .createdDateDesc, a, b => createdKey p b ≤ createdKey p a
  | .deadlineAsc, a, b => deadlineKey p a ≤ deadlineKey p b
  | .deadlineDesc, a, b => deadlineKey p b ≤ deadlineKey p a
  | .nameAsc, a, b => a.title ≤ b.title
  | .nameDesc, a, b => b.title ≤ a.title

instance (p : Process) : ∀ action a b, Decidable (SortAction.Before p action a b)
  | .createdDateAsc, a, b => inferInstanceAs (Decidable (createdKey p a ≤ createdKey p b))
  | .createdDateDesc, a, b => inferInstanceAs (Decidable (createdKey p b ≤ createdKey p a))
  | .deadlineAsc, a, b => inferInstanceAs (Decidable (deadlineKey p a ≤ deadlineKey p b))
  | .deadlineDesc, a, b => inferInstanceAs (Decidable (deadlineKey p b ≤ deadlineKey p a))
  | .nameAsc, a, b => inferInstanceAs (Decidable (a.title ≤ b.title))
  | .nameDesc, a, b => inferInstanceAs (Decidable (b.title ≤ a.title))

/-- A list is sorted by the key of a sort action. -/
abbrev Sorted (action : SortAction) (p : Process) (l : List TimeCapsulePreview) : Prop :=
  l.Pairwise (action.Before p)

/-- The order of each key is transitive. -/
lemma SortAction.Before.trans {p : Process} {action : SortAction} {a b c : TimeCapsulePreview}
    (h1 : action.Before p a b) (h2 : action.Before p b c) : action.Before p a c := by
  cases action with
  | createdDateAsc | deadlineAsc | nameAsc => exact le_trans h1 h2
  | createdDateDesc | deadlineDesc | nameDesc => exact le_trans h2 h1

/-- The order of each key is total. -/
lemma SortAction.Before.total {p : Process} {action : SortAction} (a b : TimeCapsulePreview) :
    action.Before p a b ∨ action.Before p b a := by
  cases action with
  | createdDateAsc | deadlineAsc | nameAsc => exact le_total _ _
  | createdDateDesc | deadlineDesc | nameDesc => exact le_total _ _

/-! ## The comparisons -/

/-- On capsules whose dates parse, the comparison of a sort action decides its order, from the
process of the sort on. -/
lemma lt_decides (action : SortAction) (p : Process) :
    ∃ J : Process → Prop, J p ∧ EffSort.Decides action.lt (action.Before p) J (Parses p) := by
  -- reading dates keeps what the keys depend on, so every read has the key at `p`
  have created : ∀ q (c : TimeCapsulePreview) (d : Date) q', q.date = p.date → Parses p c →
      c.createdDate q = some (d, q') → q'.date = p.date ∧ createdKey p c = d := by
    intro q c d q' hq _ h
    obtain ⟨date, key⟩ := createdDate_inv h
    refine ⟨date.trans hq, ?_⟩
    rw [← key]
    simp only [createdKey, hq]
  have deadline : ∀ q (c : TimeCapsulePreview) (d : Date) q',
      (q.date = p.date ∧ q.dateFormatter.timeZone = p.dateFormatter.timeZone) → Parses p c →
      c.deadlineDate q = some (d, q') →
      (q'.date = p.date ∧ q'.dateFormatter.timeZone = p.dateFormatter.timeZone) ∧
        deadlineKey p c = d := by
    rintro q c d q' ⟨date, zone⟩ parses h
    have same : deadlineKey q c = deadlineKey p c := by simp only [deadlineKey, date, zone]
    obtain ⟨date', zone', key⟩ := deadlineDate_inv (same ▸ parses.2) h
    exact ⟨⟨date'.trans date, zone'.trans zone⟩, same ▸ key⟩
  have order (x y : Date) : decide (x < y) = true ↔ ¬ (y : WithBot Date) ≤ x := by
    rw [WithBot.coe_le_coe, not_le, decide_eq_true_iff]
  cases action with
  | createdDateAsc =>
    refine ⟨fun q => q.date = p.date, rfl, EffSort.decides_of_reads created ?_⟩
    rintro a b x y hx hy
    simpa only [SortAction.Before, hx, hy] using order x y
  | createdDateDesc =>
    refine ⟨fun q => q.date = p.date, rfl, EffSort.decides_of_reads created ?_⟩
    rintro a b x y hx hy
    simpa only [SortAction.Before, hx, hy] using order y x
  | deadlineAsc =>
    refine ⟨_, ⟨rfl, rfl⟩, EffSort.decides_of_reads deadline ?_⟩
    rintro a b x y hx hy
    simpa only [SortAction.Before, hx, hy] using order x y
  | deadlineDesc =>
    refine ⟨_, ⟨rfl, rfl⟩, EffSort.decides_of_reads deadline ?_⟩
    rintro a b x y hx hy
    simpa only [SortAction.Before, hx, hy] using order y x
  | nameAsc =>
    refine ⟨fun _ => True, trivial, fun q a b v q' _ _ _ h => ⟨trivial, ?_⟩⟩
    cases EffSort.pure_eq_some.1 h
    rw [SortAction.Before, not_le, decide_eq_true_iff]
  | nameDesc =>
    refine ⟨fun _ => True, trivial, fun q a b v q' _ _ _ h => ⟨trivial, ?_⟩⟩
    cases EffSort.pure_eq_some.1 h
    rw [SortAction.Before, not_le, decide_eq_true_iff]

/-! ## Keeping the order -/

namespace Store

/-- Both arrays are sorted. -/
def InOrder (action : SortAction) (p : Process) (s : Store) : Prop :=
  Sorted action p s.model.original ∧ Sorted action p s.model.filtered

instance (action : SortAction) (p : Process) : DecidablePred (InOrder action p) := fun _ =>
  inferInstanceAs (Decidable (_ ∧ _))

/-- The capsules that a merge adds are sorted and continue the order of `original`; a list that
replaces `original` is sorted. -/
def KeepsOrder (action : SortAction) (p : Process) (s : Store) : StoreEvent → Prop
  | .fetchTimeCapsulePreviews timeCapsules =>
    let added := Keyed.newOn TimeCapsulePreview.id
      (s.model.original.map TimeCapsulePreview.id) timeCapsules
    Sorted action p added ∧ ∀ a ∈ s.model.original, ∀ b ∈ added, action.Before p a b
  | .firstFetch timeCapsules => Sorted action p timeCapsules
  | .confirmedDeletion timeCapsules => Sorted action p timeCapsules
  | _ => True

instance (action : SortAction) (p : Process) (s : Store) : DecidablePred (KeepsOrder action p s)
  | .fetchTimeCapsulePreviews _ => inferInstanceAs (Decidable (_ ∧ ∀ a ∈ _, ∀ b ∈ _, _))
  | .firstFetch _ | .confirmedDeletion _ => inferInstanceAs (Decidable (List.Pairwise _ _))
  | .handleTagButtonTap _ | .toggleCapsuleViewButton _ | .sort _ | .removeDuplicate
  | .pageInfo _ _ => inferInstanceAs (Decidable True)

variable {action : SortAction} {p : Process}

/-- A filtered store is sorted if its `original` is. -/
lemma sorted_filter {m : TimeCapsulePreviewModel} (h : Sorted action p m.original) :
    Sorted action p m.filter.original ∧ Sorted action p m.filter.filtered := by
  rw [TimeCapsulePreviewModel.filter_original, TimeCapsulePreviewModel.filter_filtered]
  exact ⟨h, h.filter _⟩

/-- A sort puts `original` in order, with ties as before, and shows what the selection shows of
it. -/
lemma sort_stable {s t : Store} (h : s.step (.sort action) = some t)
    (parses : ∀ c ∈ s.model.original, Parses s.process c) :
    StableSort (action.Before s.process) s.model.original t.model.original ∧
      t.model.filtered = s.model.view t.model.original := by
  obtain ⟨⟨m, q⟩, hm, h⟩ := Option.bind_eq_some_iff.1 h
  cases h
  rw [TimeCapsulePreviewModel.perform_eq] at hm
  obtain ⟨original, p1, ho, hm⟩ := EffSort.bind_eq_some.1 hm
  obtain ⟨filtered, p2, _, hm⟩ := EffSort.bind_eq_some.1 hm
  cases EffSort.pure_eq_some.1 hm
  obtain ⟨J, init, decides⟩ := lt_decides action s.process
  dsimp only
  rw [TimeCapsulePreviewModel.filter_original, TimeCapsulePreviewModel.filter_filtered]
  exact ⟨EffSort.sort_stable decides (fun a b c => SortAction.Before.trans) SortAction.Before.total
    init parses ho, rfl⟩

/-- A sort sorts. -/
lemma sort_inOrder {s t : Store} (h : s.step (.sort action) = some t)
    (parses : ∀ c ∈ s.model.original, Parses s.process c) : t.InOrder action s.process := by
  obtain ⟨stable, filtered⟩ := sort_stable h parses
  rw [InOrder, filtered]
  exact ⟨stable.sorted, stable.sorted.filter _⟩

/-- An event other than a sort keeps the order just when what it adds or assigns is in order. -/
lemma step_inOrder_iff (s : Store) (e : StoreEvent) (sort : ∀ action, e ≠ .sort action)
    (h : s.InOrder action p) :
    Run.After step (InOrder action p) s e ↔ KeepsOrder action p s e := by
  obtain ⟨original, filtered⟩ := h
  constructor
  · intro after
    cases e with
    | fetchTimeCapsulePreviews r =>
      have sorted := (after _ rfl).1
      simp only [TimeCapsulePreviewModel.fetchTimeCapsulePreviews_original] at sorted
      exact (List.pairwise_append.1 sorted).2
    | firstFetch r =>
      have sorted := (after _ rfl).1
      rw [TimeCapsulePreviewModel.firstFetch_original] at sorted
      exact sorted
    | confirmedDeletion r => exact (after _ rfl).1
    | _ => exact trivial
  · intro keeps t ht
    have change := step_change ht
    rw [InOrder]
    generalize t.model = m at change
    cases change with
    | tag => exact sorted_filter original
    | state => exact sorted_filter original
    | sort => exact absurd rfl (sort _)
    | @fetch r =>
      have merged : Sorted action p (combineArrays s.model.original r) := by
        rw [combineArrays_eq]
        exact List.pairwise_append.2 ⟨original, keeps⟩
      exact sorted_filter merged
    | removeDuplicate =>
      exact ⟨original.sublist (removingDuplicates_sublist _),
        filtered.sublist (removingDuplicates_sublist _)⟩
    | firstFetch => exact sorted_filter keeps
    | confirmedDeletion => exact ⟨keeps, filtered⟩
    | pageInfo => exact ⟨original, filtered⟩

/-- After a sort both arrays are in order, and up to the next sort they stay so just as long as
every merge continues the order and every overwrite brings a sorted list. -/
theorem order_kept_iff {s t : Store} (sorted : s.step (.sort action) = some t)
    (parses : ∀ c ∈ s.model.original, Parses s.process c) {es : List StoreEvent}
    (until_sort : ∀ e ∈ es, ∀ action, e ≠ .sort action) :
    Run.Always step (InOrder action s.process) t es ↔
      Run.Steps step (KeepsOrder action s.process) t es :=
  Run.always_iff_steps_on (J := fun _ => True) (fun _ _ _ _ _ _ => trivial)
    (fun u e he _ => step_inOrder_iff u e (until_sort e he)) trivial (sort_inOrder sorted parses)

/-- Two capsules in descending order of their names, and a third one that continues it. -/
theorem order_kept_descending :
    Run.Always step
      (InOrder .nameDesc ⟨fun _ _ => some 0, ⟨"", ""⟩, fun _ => 0⟩)
      ⟨{ original := [⟨2, 1, true, "v", "기억", "", "", ""⟩, ⟨1, 1, false, "t", "가족", "", "", ""⟩]
         filtered := [⟨2, 1, true, "v", "기억", "", "", ""⟩, ⟨1, 1, false, "t", "가족", "", "", ""⟩] },
        ⟨fun _ _ => some 0, ⟨"", ""⟩, fun _ => 0⟩⟩
      [.toggleCapsuleViewButton .closed, .fetchTimeCapsulePreviews
        [⟨2, 1, true, "z", "기억", "", "", ""⟩, ⟨3, 1, false, "s", "기억", "", "", ""⟩],
        .toggleCapsuleViewButton .closed] :=
  (order_kept_iff
    (s := ⟨{ original := [⟨1, 1, false, "t", "가족", "", "", ""⟩,
        ⟨2, 1, true, "v", "기억", "", "", ""⟩] },
      ⟨fun _ _ => some 0, ⟨"", ""⟩, fun _ => 0⟩⟩)
    (by rfl) (by decide) (by simp)).2 (by decide)

/-- The list is sorted by name, and the next page brings a name that belongs before the others. -/
theorem order_not_kept :
    ¬ ∀ (p : Process) (es fs : List StoreEvent) (s t : Store) (action : SortAction),
      Run.exec step (launch p) es = some s →
      s.step (.sort action) = some t →
      (∀ e ∈ es ++ fs, ∀ c ∈ e.capsules, Parses p c ∧ Parses s.process c) →
      (∀ e ∈ fs, ∀ action, e ≠ .sort action) →
      Run.Always step (fun u => Sorted action s.process u.model.filtered) t fs := by
  intro h
  have run := h ⟨fun _ _ => some 0, ⟨"", ""⟩, fun _ => 0⟩
    [.fetchTimeCapsulePreviews [⟨1, 1, false, "t", "가족", "", "", ""⟩]]
    [.fetchTimeCapsulePreviews [⟨2, 1, false, "s", "가족", "", "", ""⟩]]
    _ _ .nameAsc rfl rfl (by decide) (by simp)
  revert run
  decide

end Store

end TimeCapsule.Home
