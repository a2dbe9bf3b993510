import TimeCapsule.Home.Store
import TimeCapsule.Home.TimeCapsulePreviewCollectionViewCell

/-!
# Drawing the list

The store together with the configuration of the cells: whatever has been merged, sorted and
filtered, a cell may be configured for each displayed row. The only trap on the way is the forced
unwrap in `createdDate`, which comparisons by the created date and the progress of every cell run
into. `draws_iff` says which runs it spares.
-/

namespace TimeCapsule.Home
open Foundation

inductive ListEvent where
  | store (e : StoreEvent)
  | configuration (row : Nat)
deriving DecidableEq, Repr

namespace Store

/-- A step of the store, or the configuration of the cell of a row, if the row is displayed. -/
def draw (days : Date → Date → Option Int) (s : Store) : ListEvent → Option Store
  | .store e => s.step e
  | .configuration row =>
    match s.model.filtered[row]? with
    | some data => do
      let (_, process) ← TimeCapsulePreviewCollectionViewCell.configuration days data s.process
      some { s with process }
    | none => some s

end Store

/-- What a comparison needs to know of an entry: if it asks for the created date, that it parses. -/
def SortAction.Reads (p : Process) : SortAction → TimeCapsulePreview → Prop
  | .createdDateAsc, c | .createdDateDesc, c => createdKey p c ≠ ⊥
  | .deadlineAsc, _ | .deadlineDesc, _ | .nameAsc, _ | .nameDesc, _ => True

instance (p : Process) : ∀ action, DecidablePred (SortAction.Reads p action)
  | .createdDateAsc, c | .createdDateDesc, c => inferInstanceAs (Decidable (createdKey p c ≠ ⊥))
  | .deadlineAsc, _ | .deadlineDesc, _ | .nameAsc, _ | .nameDesc, _ =>
    inferInstanceAs (Decidable True)

namespace Store

/-- A sort finds at most one entry in an array, or can compare all of them; a displayed capsule has
a created date that parses. -/
def ReadsDates (s : Store) : ListEvent → Prop
  | .store (.sort action) =>
    (2 ≤ s.model.original.length → ∀ c ∈ s.model.original, action.Reads s.process c) ∧
      (2 ≤ s.model.filtered.length → ∀ c ∈ s.model.filtered, action.Reads s.process c)
  | .configuration row => ∀ data ∈ s.model.filtered[row]?, createdKey s.process data ≠ ⊥
  | _ => True

end Store

/-! ## The comparisons -/

/-- What two readings are compared for does not matter to whether they can be made. -/
lemma compare_isSome {get : TimeCapsulePreview → Main Date} (f : Date → Date → Bool)
    (keeps : ∀ c, KeepsDate (get c)) {K : TimeCapsulePreview → Prop} {p : Process}
    (returns : ∀ q c, q.date = p.date → ((get c q).isSome ↔ K c)) :
    EffSort.DefinedOn (fun a b => do pure (f (← get a) (← get b))) (fun q => q.date = p.date) K := by
  constructor
  · intro q a b hq
    rw [EffSort.bind_isSome]
    constructor
    · rintro ⟨x, q1, hx, h⟩
      obtain ⟨y, q2, hy, _⟩ := EffSort.bind_isSome.1 h
      have hq1 : q1.date = p.date := (keeps a q x q1 hx).trans hq
      exact ⟨(returns q a hq).1 (by simp [hx]), (returns q1 b hq1).1 (by simp [hy])⟩
    · rintro ⟨ha, hb⟩
      obtain ⟨⟨x, q1⟩, hx⟩ := Option.isSome_iff_exists.1 ((returns q a hq).2 ha)
      have hq1 : q1.date = p.date := (keeps a q x q1 hx).trans hq
      obtain ⟨⟨y, q2⟩, hy⟩ := Option.isSome_iff_exists.1 ((returns q1 b hq1).2 hb)
      exact ⟨x, q1, hx, EffSort.bind_isSome.2 ⟨y, q2, hy, rfl⟩⟩
  · intro q a b v q' hq h
    have kept := (keeps a).bind fun x => (keeps b).bind fun y => keepsDate_pure (f x y)
    exact (kept q v q' h).trans hq

/-- The comparison of a sort action returns just on entries that it can read. -/
lemma lt_defined (action : SortAction) (p : Process) :
    EffSort.DefinedOn action.lt (fun q => q.date = p.date) (action.Reads p) := by
  have created : ∀ q (c : TimeCapsulePreview), q.date = p.date →
      ((c.createdDate q).isSome ↔ createdKey p c ≠ ⊥) := by
    intro q c hq
    rw [createdDate_isSome, createdKey_congr hq]
  have deadline : ∀ q (c : TimeCapsulePreview), q.date = p.date →
      ((c.deadlineDate q).isSome ↔ True) :=
    fun q c _ => iff_true_intro (returns_deadlineDate c q)
  have name (f : TimeCapsulePreview → TimeCapsulePreview → Bool) :
      EffSort.DefinedOn (fun a b => pure (f a b)) (fun q : Process => q.date = p.date)
        fun _ => True := by
    constructor
    · exact fun q a b _ => ⟨fun _ => ⟨trivial, trivial⟩, fun _ => rfl⟩
    · exact fun q a b v q' hq h => (keepsDate_pure (f a b) q v q' h).trans hq
  cases action with
  | createdDateAsc => exact compare_isSome (fun x y => decide (x < y)) keepsDate_createdDate created
  | createdDateDesc => exact compare_isSome (fun x y => decide (x > y)) keepsDate_createdDate created
  | deadlineAsc => exact compare_isSome (fun x y => decide (x < y)) keepsDate_deadlineDate deadline
  | deadlineDesc => exact compare_isSome (fun x y => decide (x > y)) keepsDate_deadlineDate deadline
  | nameAsc => exact name fun a b => decide (a.title < b.title)
  | nameDesc => exact name fun a b => decide (a.title > b.title)

namespace Store
variable {days : Date → Date → Option Int}

/-- A sort returns just when it can read what it compares in both arrays. -/
lemma sort_isSome (s : Store) (action : SortAction) :
    (s.step (.sort action)).isSome ↔ s.ReadsDates (.store (.sort action)) := by
  have defined := lt_defined action s.process
  have sorted : (s.step (.sort action)).isSome ↔
      (TimeCapsulePreviewModel.sortBy action s.model s.process).isSome := by
    rw [step, TimeCapsulePreviewModel.perform_eq]
    cases TimeCapsulePreviewModel.sortBy action s.model s.process <;> simp
  rw [sorted, ReadsDates, ← EffSort.sort_isSome_iff defined rfl]
  constructor
  · intro h
    obtain ⟨original, p1, ho, h⟩ := EffSort.bind_isSome.1 h
    obtain ⟨filtered, p2, hf, _⟩ := EffSort.bind_isSome.1 h
    refine ⟨by simp [ho], ?_⟩
    exact (EffSort.sort_isSome_iff defined (EffSort.sort_keeps defined rfl ho)).1 (by simp [hf])
  · rintro ⟨ho, reads⟩
    obtain ⟨⟨original, p1⟩, ho⟩ := Option.isSome_iff_exists.1 ho
    have hf := (EffSort.sort_isSome_iff defined (EffSort.sort_keeps defined rfl ho)).2 reads
    obtain ⟨⟨filtered, p2⟩, hf⟩ := Option.isSome_iff_exists.1 hf
    exact EffSort.bind_isSome.2 ⟨original, p1, ho, EffSort.bind_isSome.2 ⟨filtered, p2, hf, rfl⟩⟩

/-- A step returns just when the created dates it asks for parse. -/
lemma draw_isSome_iff (s : Store) (e : ListEvent) : (s.draw days e).isSome ↔ s.ReadsDates e := by
  cases e with
  | store e =>
    cases e with
    | sort action => exact sort_isSome s action
    | _ => exact iff_of_true rfl trivial
  | configuration row =>
    simp only [draw, ReadsDates]
    cases s.model.filtered[row]? with
    | none => simp
    | some data =>
      simp only [Option.mem_some_iff, forall_eq']
      have parses : (TimeCapsulePreviewCollectionViewCell.configuration days data
          s.process).isSome ↔ createdKey s.process data ≠ ⊥ :=
        TimeCapsulePreviewCollectionViewCell.configuration_isSome
      rw [← parses]
      cases TimeCapsulePreviewCollectionViewCell.configuration days data s.process <;> simp

/-- Whatever is merged, sorted, filtered and displayed, a run meets no failing forced unwrap just
when every sort can read the created dates that it compares, and every displayed capsule has one. -/
theorem draws_iff (days : Date → Date → Option Int) (p : Process) (es : List ListEvent) :
    (Run.exec (draw days) (launch p) es).isSome ↔ Run.Steps (draw days) ReadsDates (launch p) es :=
  Run.exec_isSome_iff_steps (J := fun _ => True) (fun _ _ _ _ _ => trivial)
    (fun s e _ => draw_isSome_iff s e) trivial

/-- An opened capsule whose timestamp has no fraction of a second is merged, and its cell traps. -/
theorem draws_not :
    ¬ ∀ (days : Date → Date → Option Int) (p : Process) (es : List ListEvent),
      (Run.exec (draw days) (launch p) es).isSome := by
  intro h
  have run := h (fun _ _ => some 0) ⟨fun _ _ => none, ⟨"", ""⟩, fun _ => 0⟩
    [.store (.fetchTimeCapsulePreviews
        [⟨1, 1, true, "t", "가족", "2024-11-13T00:00:00", "", "2024-12-31T00:00:00"⟩]),
      .configuration 0]
  revert run
  decide

end Store

end TimeCapsule.Home
