import TimeCapsule.Foundation.API
import TimeCapsule.Foundation.Process

/-!
# Capsule previews

The decoded capsule of `Home/Model/TimeCapsulePreview.swift` with its date properties, and the
envelopes in which the capsule endpoints answer.
-/

namespace TimeCapsule.Home
open Foundation

/-- The tags a capsule can carry, in the order of the tag buttons (`K.String.tags`). -/
def K.String.tags : List String :=
  ["기억", "성장", "감사", "목표", "행복", "모험", "가족", "친구", "배움", "위로"]

/-- Which capsules the open/closed buttons select; `rawValue` is the button's tag. -/
inductive CapsuleToggle where
  | closed
  | opend
deriving DecidableEq, Repr

def CapsuleToggle.rawValue : CapsuleToggle → Nat
  | .closed => 0
  | .opend => 1

/-- A capsule as the server lists it. -/
structure TimeCapsulePreview where
  id : Int
  userId : Int
  isOpened : Bool
  title : String
  tagName : String
  createdAt : String
  now : String
  deadline : String
deriving DecidableEq, Repr

namespace TimeCapsulePreview

/-- The options that it sets are those of `iSOdateFormatter`, which parses nothing. -/
def isoToDate (dateString : String) : Main (Option Date) := dateFrom dateString

def stringToDate (dateString : String) : Main (Option Date) := do
  setDateFormat "yyyy-MM-dd'T'HH:mm:ss.SSSSSSSSS"
  setTimeZone "Asia/Seoul"
  dateFrom dateString

def parseDeadline (dateString : String) : Main (Option Date) := do
  setDateFormat "yyyy-MM-dd'T'HH:mm:ss"
  dateFrom dateString

def createdDate (c : TimeCapsulePreview) : Main Date := do
  unwrap (← stringToDate c.createdAt)

def deadlineDate (c : TimeCapsulePreview) : Main Date := do
  match ← parseDeadline c.deadline with
  | some date => pure date
  | none => currentDate

/-- `days` stands for `calendar.dateComponents([.day], from: …, to: …).day`. -/
def d_Day (days : Date → Date → Option Int) (c : TimeCapsulePreview) : Main String := do
  match days (← currentDate) (← c.deadlineDate) with
  | some dDay => pure (if dDay + 1 > 0 then "D-" ++ toString (dDay + 1) else "열람 가능")
  | none => pure "날짜 계산 오류"

/-- The numerator and the denominator of the quotient of floats. -/
def progress (days : Date → Date → Option Int) (c : TimeCapsulePreview) : Main (Int × Int) := do
  let totalDays := days (← c.createdDate) (← c.deadlineDate)
  let elapsedDays := days (← c.createdDate) (← currentDate)
  match totalDays, elapsedDays with
  | some total, some elapsed => pure (if total == 0 then (1, 1) else (elapsed + 1, total + 1))
  | _, _ => pure (0, 1)

end TimeCapsulePreview

abbrev TimeCapsulePreviewResponse := Response (List TimeCapsulePreview)

structure TimeCapsulePreviewResult where
  capsuleList : List TimeCapsulePreview
  hasNext : Bool
  cursor : Int
deriving DecidableEq, Repr

abbrev TimeCapsulePreviewPaginationResponse := Response TimeCapsulePreviewResult

abbrev DeleteResponse := Response String

/-! ## Reading dates -/

/-- The created date; a string that does not parse has none. -/
def createdKey (p : Process) (c : TimeCapsulePreview) : WithBot Date :=
  match p.date ⟨"yyyy-MM-dd'T'HH:mm:ss.SSSSSSSSS", "Asia/Seoul"⟩ c.createdAt with
  | some date => date
  | none => ⊥

/-- The deadline in the time zone that is set; a string that does not parse has none. -/
def deadlineKey (p : Process) (c : TimeCapsulePreview) : WithBot Date :=
  match p.date ⟨"yyyy-MM-dd'T'HH:mm:ss", p.dateFormatter.timeZone⟩ c.deadline with
  | some date => date
  | none => ⊥

section Keys
variable {p q : Process} {c : TimeCapsulePreview} {d : Date}

/-- The created date does not depend on the settings that it finds. -/
lemma createdDate_inv (h : c.createdDate p = some (d, q)) :
    q.date = p.date ∧ createdKey p c = d := by
  obtain ⟨parsed, p1, hp, h⟩ := EffSort.bind_eq_some.1 h
  cases hp
  cases hd : p.date ⟨"yyyy-MM-dd'T'HH:mm:ss.SSSSSSSSS", "Asia/Seoul"⟩ c.createdAt with
  | none =>
    simp only [hd, unwrap] at h
    cases h
  | some date =>
    simp only [hd, unwrap] at h
    cases EffSort.pure_eq_some.1 h
    exact ⟨rfl, by simp only [createdKey, hd]⟩

/-- A deadline that parses is read in the time zone that is set, and leaves it alone. -/
lemma deadlineDate_inv (parses : deadlineKey p c ≠ ⊥) (h : c.deadlineDate p = some (d, q)) :
    q.date = p.date ∧ q.dateFormatter.timeZone = p.dateFormatter.timeZone ∧
      deadlineKey p c = d := by
  obtain ⟨parsed, p1, hp, h⟩ := EffSort.bind_eq_some.1 h
  cases hp
  cases hd : p.date ⟨"yyyy-MM-dd'T'HH:mm:ss", p.dateFormatter.timeZone⟩ c.deadline with
  | none => simp [deadlineKey, hd] at parses
  | some date =>
    simp only [hd] at h
    cases EffSort.pure_eq_some.1 h
    exact ⟨rfl, rfl, by simp only [deadlineKey, hd]⟩

/-- The created date is computed just when its string parses. -/
lemma createdDate_isSome : (c.createdDate p).isSome ↔ createdKey p c ≠ ⊥ := by
  have eq : c.createdDate p = unwrap (p.date ⟨"yyyy-MM-dd'T'HH:mm:ss.SSSSSSSSS", "Asia/Seoul"⟩
    c.createdAt) { p with dateFormatter := ⟨"yyyy-MM-dd'T'HH:mm:ss.SSSSSSSSS", "Asia/Seoul"⟩ } := rfl
  rw [eq, createdKey]
  cases p.date ⟨"yyyy-MM-dd'T'HH:mm:ss.SSSSSSSSS", "Asia/Seoul"⟩ c.createdAt with
  | none => simp [unwrap]
  | some date => simp [unwrap, pure, StateT.pure]

/-- The deadline always is: a string that does not parse reads as the current date. -/
lemma returns_deadlineDate (c : TimeCapsulePreview) : Returns c.deadlineDate := by
  apply Returns.bind (fun _ => rfl)
  intro date
  cases date with
  | none => exact fun _ => rfl
  | some date => exact returns_pure date

/-- The created date has the same key in every state of a process. -/
lemma createdKey_congr (h : q.date = p.date) : createdKey q c = createdKey p c := by
  simp only [createdKey, h]

lemma keepsDate_createdDate (c : TimeCapsulePreview) : KeepsDate c.createdDate := by
  refine KeepsDate.bind ?_ keepsDate_unwrap
  apply (keepsDate_setDateFormat _).bind
  intro _
  exact (keepsDate_setTimeZone _).bind fun _ => keepsDate_dateFrom _

lemma keepsDate_deadlineDate (c : TimeCapsulePreview) : KeepsDate c.deadlineDate := by
  apply KeepsDate.bind ((keepsDate_setDateFormat _).bind fun _ => keepsDate_dateFrom _)
  intro date
  cases date with
  | none => exact keepsDate_currentDate
  | some date => exact keepsDate_pure date

/-- The remaining days are always computed. -/
lemma returns_d_Day (days : Date → Date → Option Int) (c : TimeCapsulePreview) :
    Returns (c.d_Day days) := by
  apply Returns.bind (fun _ => rfl)
  intro now
  apply (returns_deadlineDate c).bind
  intro deadline
  cases days now deadline with
  | none => exact returns_pure _
  | some dDay => exact returns_pure _

/-- The progress is computed just when the created date is. -/
lemma progress_isSome (days : Date → Date → Option Int) :
    (c.progress days p).isSome ↔ createdKey p c ≠ ⊥ := by
  constructor
  · intro h
    obtain ⟨created, p1, h1, _⟩ := EffSort.bind_isSome.1 h
    exact createdDate_isSome.1 (by simp [h1])
  · intro parses
    obtain ⟨⟨created, p1⟩, h1⟩ := Option.isSome_iff_exists.1 (createdDate_isSome.2 parses)
    refine EffSort.bind_isSome.2 ⟨created, p1, h1, ?_⟩
    obtain ⟨⟨deadline, p2⟩, h2⟩ := Option.isSome_iff_exists.1 (returns_deadlineDate c p1)
    refine EffSort.bind_isSome.2 ⟨deadline, p2, h2, ?_⟩
    -- the second reading of the created date parses as the first one does
    have date : p2.date = p.date := by
      rw [keepsDate_deadlineDate c p1 deadline p2 h2, keepsDate_createdDate c p created p1 h1]
    have again := createdDate_isSome.2 (createdKey_congr date ▸ parses)
    obtain ⟨⟨created', p3⟩, h3⟩ := Option.isSome_iff_exists.1 again
    refine EffSort.bind_isSome.2 ⟨created', p3, h3, ?_⟩
    refine EffSort.bind_isSome.2 ⟨_, _, rfl, ?_⟩
    cases days created deadline with
    | none => rfl
    | some total => cases days created' (p3.clock 0) <;> rfl

end Keys

end TimeCapsule.Home
