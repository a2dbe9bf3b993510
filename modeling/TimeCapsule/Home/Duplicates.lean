import TimeCapsule.Home.Distinct

/-!
# The two notions of a duplicate

`combineArrays` drops a capsule whose id is there already, `removingDuplicates` one that is equal to
an earlier capsule in all fields. The first is the merge `reference`, whatever is repeated inside
the lists or across them (`combineArrays_reference`). The second does the same just on lists that do
not hold two versions of one capsule (`duplicates_agree_iff`).
-/

namespace TimeCapsule.Home

/-! ## The merge by id -/

/-- `l` followed by the entries of `r` whose id occurs neither in `l` nor at an earlier position of
`r`. -/
def reference (l r : List TimeCapsulePreview) : List TimeCapsulePreview :=
  l ++ (r.zipIdx.filter fun x => decide (x.1.id ∉ l.map TimeCapsulePreview.id ∧
    x.1.id ∉ (r.take x.2).map TimeCapsulePreview.id)).map Prod.fst

/-- The merge loop computes the reference; it keeps the left list in front, has the ids of both
lists, and is associative. -/
theorem combineArrays_reference (l r s : List TimeCapsulePreview) :
    combineArrays l r = reference l r ∧
      l <+: combineArrays l r ∧
      (∀ id, id ∈ (combineArrays l r).map TimeCapsulePreview.id ↔
        id ∈ l.map TimeCapsulePreview.id ∨ id ∈ r.map TimeCapsulePreview.id) ∧
      combineArrays (combineArrays l r) s = combineArrays l (combineArrays r s) := by
  simp only [combineArrays_eq]
  refine ⟨?_, List.prefix_append _ _, fun id => Keyed.key_mem_mergeOn, Keyed.mergeOn_assoc l r s⟩
  rw [Keyed.mergeOn, Keyed.newOn_eq_filter, reference]

example : combineArrays [⟨1, 1, false, "t", "가족", "", "", ""⟩]
    [⟨2, 1, false, "u", "기억", "", "", ""⟩, ⟨1, 1, true, "t", "가족", "", "", ""⟩,
      ⟨2, 1, true, "u", "기억", "", "", ""⟩] =
    [⟨1, 1, false, "t", "가족", "", "", ""⟩, ⟨2, 1, false, "u", "기억", "", "", ""⟩] := by decide

/-! ## Equal entries -/

/-- Entries with the same id are equal. -/
def OneVersion (l : List TimeCapsulePreview) : Prop := ∀ c ∈ l, ∀ d ∈ l, c.id = d.id → c = d

instance : DecidablePred OneVersion := fun l =>
  inferInstanceAs (Decidable (∀ c ∈ l, ∀ d ∈ l, _ → _))

variable {l : List TimeCapsulePreview}

/-- Merging into the empty list keeps the first entry of each id. -/
lemma combineArrays_nil (l : List TimeCapsulePreview) :
    combineArrays [] l = Keyed.newOn TimeCapsulePreview.id [] l := by
  rw [combineArrays_eq, Keyed.mergeOn, List.map_nil, List.nil_append]

/-- With one version of each capsule, ids are equal just when the entries are. -/
lemma OneVersion.removingDuplicates_eq (one : OneVersion l) :
    removingDuplicates l = combineArrays [] l := by
  rw [combineArrays_nil, Home.removingDuplicates_eq]
  apply Keyed.newOn_congr_key
  · intro c _
    simp
  · intro c hc d hd
    exact ⟨fun e => congrArg TimeCapsulePreview.id e, fun e => one c hc d hd e⟩

/-- Without equal entries a list has distinct ids just when it held one version of each capsule. -/
lemma distinct_removingDuplicates_iff : Distinct (removingDuplicates l) ↔ OneVersion l := by
  constructor
  · intro distinct c hc d hd same
    exact List.inj_on_of_nodup_map distinct (mem_removingDuplicates.2 hc)
      (mem_removingDuplicates.2 hd) same
  · intro one
    rw [one.removingDuplicates_eq, combineArrays_nil]
    exact Keyed.nodup_newOn

/-- Removing duplicates keeps what the merge keeps just when the list holds one version of each
capsule. -/
lemma removingDuplicates_eq_combineArrays_iff :
    removingDuplicates l = combineArrays [] l ↔ OneVersion l := by
  constructor
  · intro same
    rw [← distinct_removingDuplicates_iff, same, combineArrays_nil]
    exact Keyed.nodup_newOn
  · exact OneVersion.removingDuplicates_eq

/-- Both ways of removing duplicates keep the same entries of a list, and in a store that has
removed its duplicates no id occurs twice. -/
def DuplicatesAgree (l : List TimeCapsulePreview) (m : TimeCapsulePreviewModel) : Prop :=
  removingDuplicates l = combineArrays [] l ∧
    Distinct m.removeDuplicate.original ∧ Distinct m.removeDuplicate.filtered

/-- The two notions of a duplicate agree just on lists that hold one version of each capsule. -/
theorem duplicates_agree_iff (l : List TimeCapsulePreview) (m : TimeCapsulePreviewModel) :
    DuplicatesAgree l m ↔ OneVersion l ∧ OneVersion m.original ∧ OneVersion m.filtered :=
  and_congr removingDuplicates_eq_combineArrays_iff
    (and_congr distinct_removingDuplicates_iff distinct_removingDuplicates_iff)

/-- A capsule that has been opened between two answers. -/
theorem duplicates_disagree :
    ¬ ∀ (l : List TimeCapsulePreview) (m : TimeCapsulePreviewModel), DuplicatesAgree l m := by
  intro h
  have agree := (h [⟨1, 1, false, "t", "가족", "", "", ""⟩, ⟨1, 1, true, "t", "가족", "", "", ""⟩] {}).1
  revert agree
  decide

end TimeCapsule.Home
