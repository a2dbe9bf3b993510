import TimeCapsule.Home.TimeCapsulePreview

/-!
# The cell of a capsule

`TimeCapsulePreviewCollectionViewCell.configuration(data:delegate:)`. Its progress bar asks for the
created date of every capsule, of an opened one too.
-/

namespace TimeCapsule.Home
open Foundation

/-- The colours of a cell. -/
inductive UIColor where
  | available
  | unavailable
  | gray6
deriving DecidableEq, Repr

/-- What a configured cell shows, and the capsule it keeps for its delete button. -/
structure TimeCapsulePreviewCollectionViewCell where
  timeCapsulePreview : TimeCapsulePreview
  titleLabel : String
  progress : Int × Int
  tintColor : UIColor
  statusLabel : String
  textColor : UIColor
  lightImage : String
deriving DecidableEq, Repr

namespace TimeCapsulePreviewCollectionViewCell

def configuration (days : Date → Date → Option Int) (data : TimeCapsulePreview) :
    Main TimeCapsulePreviewCollectionViewCell := do
  let progress ← data.progress days
  if data.isOpened then
    pure {
      timeCapsulePreview := data
      titleLabel := data.title
      -- the progress that was computed is overwritten
      progress := (1, 1)
      tintColor := .available
      statusLabel := "열람 가능"
      textColor := .available
      lightImage := "AvailableLight" }
  else
    let dDay ← data.d_Day days
    pure {
      timeCapsulePreview := data
      titleLabel := data.title
      progress
      tintColor := .unavailable
      statusLabel := dDay
      textColor := .gray6
      lightImage := "UnavailableLight" }

variable {days : Date → Date → Option Int} {data : TimeCapsulePreview} {p q : Process}
  {cell : TimeCapsulePreviewCollectionViewCell}

/-- A cell is configured just when the created date of its capsule parses. -/
lemma configuration_isSome : (configuration days data p).isSome ↔ createdKey p data ≠ ⊥ := by
  rw [← progress_isSome days]
  constructor
  · intro h
    obtain ⟨progress, p1, hp, _⟩ := EffSort.bind_isSome.1 h
    simp [hp]
  · intro h
    obtain ⟨⟨progress, p1⟩, hp⟩ := Option.isSome_iff_exists.1 h
    refine EffSort.bind_isSome.2 ⟨progress, p1, hp, ?_⟩
    cases data.isOpened with
    | true => rfl
    | false => exact (returns_d_Day days data).bind (fun _ => returns_pure _) p1

/-- A configured cell keeps its capsule. -/
lemma configuration_data (h : configuration days data p = some (cell, q)) :
    cell.timeCapsulePreview = data := by
  obtain ⟨progress, p1, _, h⟩ := EffSort.bind_eq_some.1 h
  cases opened : data.isOpened with
  | true =>
    simp only [opened, if_true] at h
    cases EffSort.pure_eq_some.1 h
    rfl
  | false =>
    simp only [opened, Bool.false_eq_true, if_false] at h
    obtain ⟨dDay, p2, _, h⟩ := EffSort.bind_eq_some.1 h
    cases EffSort.pure_eq_some.1 h
    rfl

end TimeCapsulePreviewCollectionViewCell

end TimeCapsule.Home
