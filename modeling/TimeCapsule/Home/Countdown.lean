import TimeCapsule.Home.ListScreen
import TimeCapsule.Lib.Truncate

/-!
# Countdown and progress

What a cell says about the time that is left, at a given time. Everything here is computed under a
clock that has stopped, which makes the date properties functions of the time
(`deadlineDate_stopped`, `d_Day_stopped`, `progress_stopped`).

Days are truncated toward zero, so the day before the deadline and the day after it count alike, and
the label stays a day longer than the countdown should (`countdown_ends_iff`). The label of an
expired capsule and its tap disagree (`openable_iff`), and the progress is a fraction just for the
deadlines and times of `progress_fraction_iff`.
-/

namespace TimeCapsule.Foundation

/-- A process whose clock has stopped. -/
def Process.stopped (p : Process) (now : Date) : Process := { p with clock := fun _ => now }

/-- `dateComponents([.day], from:, to:)` in whole days of 86400 seconds. -/
def wholeDays (start finish : Date) : Option Int := some (truncate ((finish - start) / 86400))

end TimeCapsule.Foundation

namespace TimeCapsule.Home
open Foundation

/-! ## Under a stopped clock -/

/-- A process that has read a created date last. -/
def afterCreated (p : Process) : Process :=
  { p with dateFormatter := ⟨"yyyy-MM-dd'T'HH:mm:ss.SSSSSSSSS", "Asia/Seoul"⟩ }

/-- A process that has read a deadline last. -/
def afterDeadline (p : Process) : Process :=
  { p with dateFormatter.dateFormat := "yyyy-MM-dd'T'HH:mm:ss" }

/-- The text of a number of days. -/
def dDayText : Option Int → String
  | some dDay => if dDay + 1 > 0 then "D-" ++ toString (dDay + 1) else "열람 가능"
  | none => "날짜 계산 오류"

/-- The quotient of two numbers of days. -/
def progressOf : Option Int → Option Int → Int × Int
  | some total, some elapsed => if total == 0 then (1, 1) else (elapsed + 1, total + 1)
  | _, _ => (0, 1)

section Stopped
variable {p : Process} {c : TimeCapsulePreview} {created now : Date} {days : Date → Date → Option Int}

/-- The created date is what its string parses to. -/
lemma createdDate_eq (h : createdKey p c = created) :
    c.createdDate p = some (created, afterCreated p) := by
  have parses : p.date (afterCreated p).dateFormatter c.createdAt = some created := by
    unfold createdKey at h
    split at h
    · next date hd =>
      cases h
      exact hd
    · cases h
  have eq : c.createdDate p =
      unwrap (p.date (afterCreated p).dateFormatter c.createdAt) (afterCreated p) := rfl
  rw [eq, parses]
  rfl

/-- The deadline is what its string parses to in the time zone that is set, else the current
date. -/
lemma deadlineDate_stopped : c.deadlineDate (p.stopped now) =
    some ((deadlineKey p c).unbotD now, afterDeadline (p.stopped now)) := by
  unfold TimeCapsulePreview.deadlineDate
  rw [EffSort.bind_of_eq_some (q := afterDeadline (p.stopped now))
    (a := p.date ⟨"yyyy-MM-dd'T'HH:mm:ss", p.dateFormatter.timeZone⟩ c.deadline) rfl, deadlineKey]
  cases p.date ⟨"yyyy-MM-dd'T'HH:mm:ss", p.dateFormatter.timeZone⟩ c.deadline <;> rfl

/-- The label of a deadline. -/
lemma d_Day_stopped : c.d_Day days (p.stopped now) =
    some (dDayText (days now ((deadlineKey p c).unbotD now)), afterDeadline (p.stopped now)) := by
  unfold TimeCapsulePreview.d_Day
  rw [EffSort.bind_of_eq_some (a := now) (q := p.stopped now) rfl,
    EffSort.bind_of_eq_some deadlineDate_stopped]
  cases days now ((deadlineKey p c).unbotD now) <;> rfl

/-- The progress reads the deadline in the time zone of the created date. -/
lemma progress_stopped (h : createdKey p c = created) : c.progress days (p.stopped now) =
    some (progressOf (days created ((deadlineKey (afterCreated p) c).unbotD now)) (days created now),
      (afterCreated p).stopped now) := by
  have first : c.createdDate (p.stopped now) = some (created, (afterCreated p).stopped now) :=
    createdDate_eq h
  have second : c.createdDate (afterDeadline ((afterCreated p).stopped now)) =
      some (created, (afterCreated p).stopped now) := createdDate_eq h
  unfold TimeCapsulePreview.progress
  rw [EffSort.bind_of_eq_some first, EffSort.bind_of_eq_some deadlineDate_stopped]
  dsimp only
  rw [EffSort.bind_of_eq_some second,
    EffSort.bind_of_eq_some (a := now) (q := (afterCreated p).stopped now) rfl]
  cases days created ((deadlineKey (afterCreated p) c).unbotD now) with
  | none => rfl
  | some total => cases days created now <;> rfl

end Stopped

/-! ## The countdown -/

/-- What `d_Day` reads at a time. -/
def label (p : Process) (c : TimeCapsulePreview) (now : Date) : Option String :=
  (c.d_Day wholeDays (p.stopped now)).map Prod.fst

/-- At a time the label is the open one exactly if the deadline has come; before that it is a number
of days, at least 1, and no larger one at any later time before the deadline. -/
structure CountsDown (p : Process) (c : TimeCapsulePreview) (deadline now : Date) : Prop where
  openable : label p c now = some "열람 가능" ↔ deadline ≤ now
  counts : now < deadline → ∃ n : Int, 1 ≤ n ∧ label p c now = some ("D-" ++ toString n) ∧
    ∀ later, now ≤ later → later < deadline →
      ∃ m : Int, 1 ≤ m ∧ m ≤ n ∧ label p c later = some ("D-" ++ toString m)

section Countdown
variable {p : Process} {c : TimeCapsulePreview} {deadline now : Date}

/-- A number of days is not the open label. -/
lemma days_ne_open (n : Int) : "D-" ++ toString n ≠ "열람 가능" := by
  intro h
  have first := congrArg (fun s : String => s.toList.head?) h
  simp at first

/-- The open label stands for a full day and more behind the deadline. -/
lemma dDayText_eq_open_iff {dDay : Int} : dDayText (some dDay) = "열람 가능" ↔ dDay ≤ -1 := by
  simp only [dDayText]
  split
  · next counting => exact iff_of_false (days_ne_open _) (by omega)
  · next expired => exact iff_of_true rfl (by omega)

/-- Up to then the label is a number of days. -/
lemma dDayText_of_nonneg {dDay : Int} (h : 0 ≤ dDay) :
    dDayText (some dDay) = "D-" ++ toString (dDay + 1) :=
  if_pos (by omega)

/-- The label of a capsule whose deadline parses. -/
lemma label_eq (parses : deadlineKey p c = deadline) :
    label p c now = some (dDayText (some (truncate ((deadline - now) / 86400)))) := by
  rw [label, d_Day_stopped, parses]
  rfl

/-- The label is the open one from a day after the deadline on. -/
lemma label_open_iff (parses : deadlineKey p c = deadline) :
    label p c now = some "열람 가능" ↔ deadline + 86400 ≤ now := by
  rw [label_eq parses, Option.some.injEq, dDayText_eq_open_iff, truncate_le_iff (by decide),
    div_le_iff₀ (by norm_num)]
  constructor <;> intro h <;> push_cast at * <;> linarith

/-- Before the deadline the label is a number of days. -/
lemma label_counting (parses : deadlineKey p c = deadline) (h : now < deadline) :
    label p c now = some ("D-" ++ toString (truncate ((deadline - now) / 86400) + 1)) ∧
      0 ≤ truncate ((deadline - now) / 86400) := by
  have nonneg : 0 ≤ truncate ((deadline - now) / 86400) :=
    truncate_nonneg (div_nonneg (sub_nonneg.2 h.le) (by norm_num))
  rw [label_eq parses, dDayText_of_nonneg nonneg]
  exact ⟨rfl, nonneg⟩

/-- The countdown is right at a time just when the deadline is ahead, or a day has passed since. -/
theorem countdown_ends_iff (parses : deadlineKey p c = deadline) :
    CountsDown p c deadline now ↔ now < deadline ∨ deadline + 86400 ≤ now := by
  constructor
  · rintro ⟨openable, _⟩
    rw [label_open_iff parses] at openable
    exact (lt_or_ge now deadline).imp id openable.2
  · intro h
    refine ⟨?_, fun before => ?_⟩
    · rw [label_open_iff parses]
      constructor
      · intro expired
        linarith
      · intro passed
        exact h.resolve_left passed.not_gt
    · obtain ⟨text, nonneg⟩ := label_counting parses before
      refine ⟨_, by omega, text, fun later after before => ?_⟩
      obtain ⟨text, nonneg⟩ := label_counting parses before
      have fewer : truncate ((deadline - later) / 86400) ≤ truncate ((deadline - now) / 86400) := by
        apply truncate_mono
        gcongr
      exact ⟨_, by omega, by omega, text⟩

/-- One second before a deadline the countdown is right. -/
theorem countdown_ends_before :
    CountsDown ⟨fun _ string => if string = "2024-12-24T00:00:00" then some 1734966000 else none,
        ⟨"yyyy-MM-dd'T'HH:mm:ss", "Asia/Seoul"⟩, fun _ => 0⟩
      ⟨1, 1, false, "t", "가족", "2024-12-01T00:00:00.000000000", "", "2024-12-24T00:00:00"⟩
      1734966000 1734965999 :=
  (countdown_ends_iff (by simp [deadlineKey])).2 (.inl (by norm_num))

/-- At the deadline a day is still counted. -/
theorem countdown_not_ended :
    ¬ ∀ (p : Process) (c : TimeCapsulePreview) (deadline now : Date),
      deadlineKey p c = deadline → CountsDown p c deadline now := by
  intro h
  have openable := (h
    ⟨fun _ string => if string = "2024-12-24T00:00:00" then some 1734966000 else none,
      ⟨"yyyy-MM-dd'T'HH:mm:ss", "Asia/Seoul"⟩, fun _ => 0⟩
    ⟨1, 1, false, "t", "가족", "2024-12-01T00:00:00.000000000", "", "2024-12-24T00:00:00"⟩
    1734966000 1734966000 (by simp [deadlineKey])).openable
  rw [@label_open_iff _ _ 1734966000 _ (by simp [deadlineKey])] at openable
  norm_num at openable

end Countdown

/-! ## What says openable -/

/-- The cell that is configured for a capsule at a time reads the open label. -/
def SaysOpen (days : Date → Date → Option Int) (p : Process) (c : TimeCapsulePreview) (now : Date) :
    Prop :=
  ∃ cell q, TimeCapsulePreviewCollectionViewCell.configuration days c (p.stopped now) =
    some (cell, q) ∧ cell.statusLabel = "열람 가능"

/-- A tap on a row presents the detail view of its capsule. -/
def ListScreen.Opens (s : ListScreen) (row : Nat) : Prop :=
  ∃ data ∈ s.home.store.model.filtered[row]?, ∃ t ∈ s.didSelectItemAt row,
    t.presented = s.presented ++ [data.id]

/-- The calendar does not count a full day from the deadline to the current time. -/
def NotPast (days : Date → Date → Option Int) (p : Process) (c : TimeCapsulePreview) (now : Date) :
    Prop :=
  ∀ dDay ∈ days now ((deadlineKey (afterCreated p) c).unbotD now), 0 < dDay + 1

section Openable
variable {days : Date → Date → Option Int} {p : Process} {c : TimeCapsulePreview} {now : Date}

/-- The label of a number of days is the open one if the days are used up. -/
lemma dDayText_eq_open {d : Option Int} : dDayText d = "열람 가능" ↔ ¬ ∀ dDay ∈ d, 0 < dDay + 1 := by
  cases d with
  | none => simp [dDayText]
  | some dDay =>
    rw [dDayText_eq_open_iff]
    simp only [Option.mem_some_iff, forall_eq']
    omega

/-- A cell reads the open label of an opened capsule, and of one whose days are used up. -/
lemma saysOpen_iff (parses : createdKey p c ≠ ⊥) :
    SaysOpen days p c now ↔ c.isOpened = true ∨ ¬ NotPast days p c now := by
  obtain ⟨created, parses⟩ := WithBot.ne_bot_iff_exists.1 parses
  unfold SaysOpen TimeCapsulePreviewCollectionViewCell.configuration
  rw [EffSort.bind_of_eq_some (progress_stopped parses.symm)]
  cases opened : c.isOpened with
  | true =>
    rw [if_pos rfl]
    exact iff_of_true ⟨_, _, rfl, rfl⟩ (.inl rfl)
  | false =>
    rw [if_neg Bool.false_ne_true, EffSort.bind_of_eq_some d_Day_stopped]
    constructor
    · rintro ⟨cell, q, configured, text⟩
      cases EffSort.pure_eq_some.1 configured
      exact .inr (dDayText_eq_open.1 text)
    · rintro (opened | past)
      · cases opened
      · exact ⟨_, _, rfl, dDayText_eq_open.2 past⟩

/-- A tap opens the detail view of an opened capsule. -/
lemma opens_iff {s : ListScreen} {row : Nat} (shown : s.home.store.model.filtered[row]? = some c) :
    s.Opens row ↔ c.isOpened = true := by
  simp only [ListScreen.Opens, ListScreen.didSelectItemAt, shown, Option.mem_some_iff,
    exists_eq_left']
  cases c.isOpened with
  | true => simp
  | false => simp

/-- The cell of a capsule and its tap agree just when the capsule is opened, or no full day has been
counted since its deadline. -/
theorem openable_iff {s : ListScreen} {row : Nat}
    (shown : s.home.store.model.filtered[row]? = some c) (parses : createdKey p c ≠ ⊥) :
    (SaysOpen days p c now ↔ s.Opens row) ↔ c.isOpened = true ∨ NotPast days p c now := by
  rw [saysOpen_iff parses, opens_iff shown]
  tauto

/-- On the day before its deadline the cell of a closed capsule does not read openable. -/
theorem openable_before :
    SaysOpen wholeDays
        ⟨fun _ string => if string = "2024-12-24T00:00:00" then some 1734966000 else some 1732978800,
          ⟨"", "Asia/Seoul"⟩, fun _ => 0⟩
        ⟨1, 1, false, "t", "가족", "2024-12-01T00:00:00.000000000", "", "2024-12-24T00:00:00"⟩
        1734900000 ↔
      ListScreen.Opens (.appear { store := ⟨{ filtered :=
        [⟨1, 1, false, "t", "가족", "2024-12-01T00:00:00.000000000", "", "2024-12-24T00:00:00"⟩] },
        ⟨fun _ _ => none, ⟨"", ""⟩, fun _ => 0⟩⟩ }) 0 := by
  refine (openable_iff rfl ?_).2 (.inr ?_)
  · simp [createdKey]
  · intro dDay h
    simp only [wholeDays, deadlineKey, afterCreated, Option.mem_some_iff] at h
    have nonneg : (0 : Int) ≤ dDay := h ▸ truncate_nonneg (by norm_num)
    omega

/-- A day after its deadline a capsule that the server has not opened yet reads openable, and does
not open. -/
theorem openable_expired :
    ¬ ∀ (days : Date → Date → Option Int) (p : Process) (c : TimeCapsulePreview) (now : Date)
        (s : ListScreen) (row : Nat), s.home.store.model.filtered[row]? = some c →
      createdKey p c ≠ ⊥ → (SaysOpen days p c now ↔ s.Opens row) := by
  intro h
  have parses : createdKey
      ⟨fun _ string => if string = "2024-12-24T00:00:00" then some 1734966000 else some 1732978800,
        ⟨"", "Asia/Seoul"⟩, fun _ => 0⟩
      ⟨1, 1, false, "t", "가족", "2024-12-01T00:00:00.000000000", "", "2024-12-24T00:00:00"⟩ ≠ ⊥ := by
    simp [createdKey]
  have agree := h wholeDays _ _ 1735052400 (.appear { store := ⟨{ filtered :=
    [⟨1, 1, false, "t", "가족", "2024-12-01T00:00:00.000000000", "", "2024-12-24T00:00:00"⟩] },
    ⟨fun _ _ => none, ⟨"", ""⟩, fun _ => 0⟩⟩ }) 0 rfl parses
  rw [saysOpen_iff parses, opens_iff rfl] at agree
  have notPast := not_not.1 fun past => absurd (agree.1 (.inr past)) Bool.false_ne_true
  -- a full day is minus one day to go
  have day : truncate ((1734966000 - 1735052400 : Rat) / 86400) = -1 := by norm_num [truncate]
  have positive := notPast (-1) (by simp [wholeDays, deadlineKey, afterCreated, day])
  omega

end Openable

/-! ## The progress -/

/-- The two numbers of the quotient at a time. -/
def progressAt (p : Process) (c : TimeCapsulePreview) (now : Date) : Option (Int × Int) :=
  (c.progress wholeDays (p.stopped now)).map Prod.fst

/-- Their quotient, as an exact number. -/
def quotient (r : Int × Int) : Rat := r.1 / r.2

/-- At a time the progress is a quotient between 0 and 1, and at no later time a smaller one. -/
def IsFraction (p : Process) (c : TimeCapsulePreview) (now : Date) : Prop :=
  ∃ r, progressAt p c now = some r ∧ r.2 ≠ 0 ∧ 0 ≤ quotient r ∧ quotient r ≤ 1 ∧
    ∀ later, now ≤ later →
      ∃ r', progressAt p c later = some r' ∧ r'.2 ≠ 0 ∧ quotient r ≤ quotient r'

section Progress
variable {p : Process} {c : TimeCapsulePreview} {created deadline now : Date}

/-- The progress of a capsule whose dates parse. -/
lemma progressAt_eq (hc : createdKey p c = created) (hd : deadlineKey (afterCreated p) c = deadline) :
    progressAt p c now = some (progressOf (some (truncate ((deadline - created) / 86400)))
      (some (truncate ((now - created) / 86400)))) := by
  rw [progressAt, progress_stopped hc, hd]
  rfl

/-- After the creation no days are negative. -/
lemma elapsed_nonneg (begun : created ≤ now) : 0 ≤ truncate ((now - created) / 86400) :=
  truncate_nonneg (div_nonneg (sub_nonneg.2 begun) (by norm_num))

/-- A deadline less than a day from the creation has no days. -/
lemma total_eq_zero_iff :
    truncate ((deadline - created) / 86400) = 0 ↔ |deadline - created| < 86400 := by
  rw [truncate_eq_zero_iff, abs_div, div_lt_one] <;> norm_num

/-- So many whole days lie between two dates. -/
lemma le_days_iff {n : Int} (hn : 0 < n) {start finish : Date} :
    n ≤ truncate ((finish - start) / 86400) ↔ start + 86400 * n ≤ finish := by
  rw [le_truncate_iff hn, le_div_iff₀ (by norm_num), le_sub_iff_add_le, mul_comm, add_comm]

/-- As many days have passed as there are just when no further day has been completed since the
deadline. -/
lemma elapsed_le_total_iff (begun : created ≤ now) (days : created + 86400 ≤ deadline) :
    truncate ((now - created) / 86400) ≤ truncate ((deadline - created) / 86400) ↔
      ∀ k : Nat, created + 86400 * k ≤ now → created + 86400 * k ≤ deadline := by
  constructor
  · intro within k passed
    obtain rfl | hk := Nat.eq_zero_or_pos k
    · simp only [Nat.cast_zero, mul_zero, add_zero]
      linarith
    · have pos : (0 : Int) < k := Int.natCast_pos.2 hk
      have passed : (k : Int) ≤ truncate ((now - created) / 86400) := by
        rw [le_days_iff pos]
        exact_mod_cast passed
      exact_mod_cast (le_days_iff pos).1 (passed.trans within)
  · intro each
    obtain ⟨k, hk⟩ := Int.eq_ofNat_of_zero_le (elapsed_nonneg begun)
    rw [hk]
    obtain rfl | pos := Nat.eq_zero_or_pos k
    · exact truncate_nonneg (div_nonneg (by linarith) (by norm_num))
    · have pos : (0 : Int) < k := Int.natCast_pos.2 pos
      have passed := (le_days_iff pos).1 hk.ge
      exact (le_days_iff pos).2 (by exact_mod_cast each k (by exact_mod_cast passed))

/-- A quotient of shifted numbers of days is a fraction just when there is a day and no more days
have passed. -/
lemma quotient_unit_iff {total elapsed : Int} (h : 0 ≤ elapsed) :
    (total + 1 ≠ 0 ∧ 0 ≤ quotient (elapsed + 1, total + 1) ∧
      quotient (elapsed + 1, total + 1) ≤ 1) ↔ 0 ≤ total ∧ elapsed ≤ total := by
  have numerator : (0 : Rat) < (elapsed + 1 : Int) := by exact_mod_cast (by omega : 0 < elapsed + 1)
  constructor
  · rintro ⟨nonzero, nonneg, le_one⟩
    have positive : 0 < total + 1 := by
      by_contra notPos
      have denominator : ((total + 1 : Int) : Rat) < 0 := by
        exact_mod_cast lt_of_le_of_ne (not_lt.1 notPos) nonzero
      exact nonneg.not_gt (div_neg_of_pos_of_neg numerator denominator)
    have denominator : (0 : Rat) < (total + 1 : Int) := by exact_mod_cast positive
    have le : ((elapsed + 1 : Int) : Rat) ≤ (total + 1 : Int) := (div_le_one denominator).1 le_one
    have le : elapsed + 1 ≤ total + 1 := by exact_mod_cast le
    omega
  · rintro ⟨day, within⟩
    have denominator : (0 : Rat) < (total + 1 : Int) := by exact_mod_cast (by omega : 0 < total + 1)
    refine ⟨by omega, (div_pos numerator denominator).le, (div_le_one denominator).2 ?_⟩
    exact_mod_cast (by omega : elapsed + 1 ≤ total + 1)

/-- Later quotients are no smaller. -/
lemma quotient_le {total elapsed later : Int} (h : 0 ≤ total) (le : elapsed ≤ later) :
    quotient (elapsed + 1, total + 1) ≤ quotient (later + 1, total + 1) := by
  have denominator : (0 : Rat) < (total + 1 : Int) := by exact_mod_cast (by omega : 0 < total + 1)
  apply (div_le_div_iff_of_pos_right denominator).2
  exact_mod_cast (by omega : elapsed + 1 ≤ later + 1)

/-- After the creation the progress is a fraction that does not decrease just when the deadline is
less than a day from the creation, or at least a day after it and no further day has been completed
since. -/
theorem progress_fraction_iff (hc : createdKey p c = created)
    (hd : deadlineKey (afterCreated p) c = deadline) (begun : created ≤ now) :
    IsFraction p c now ↔ |deadline - created| < 86400 ∨ created + 86400 ≤ deadline ∧
      ∀ k : Nat, created + 86400 * k ≤ now → created + 86400 * k ≤ deadline := by
  have day : 1 ≤ truncate ((deadline - created) / 86400) ↔ created + 86400 ≤ deadline := by
    rw [le_days_iff one_pos, Int.cast_one, mul_one]
  by_cases zero : truncate ((deadline - created) / 86400) = 0
  · -- the special case of the code covers a deadline within a day of the creation
    have one (t : Date) : progressAt p c t = some (1, 1) := by
      rw [progressAt_eq hc hd, zero]
      rfl
    refine iff_of_true ⟨(1, 1), one now, ?_⟩ (.inl (total_eq_zero_iff.1 zero))
    refine ⟨by decide, by norm_num [quotient], by norm_num [quotient], fun later _ => ?_⟩
    exact ⟨(1, 1), one later, by decide, le_rfl⟩
  · have pair (t : Date) : progressAt p c t = some (truncate ((t - created) / 86400) + 1,
        truncate ((deadline - created) / 86400) + 1) := by
      rw [progressAt_eq hc hd, progressOf, if_neg (by simpa using zero)]
    constructor
    · rintro ⟨r, hr, unit⟩
      cases hr.symm.trans (pair now)
      obtain ⟨nonneg, within⟩ :=
        (quotient_unit_iff (elapsed_nonneg begun)).1 ⟨unit.1, unit.2.1, unit.2.2.1⟩
      have apart := day.1 (by omega)
      exact .inr ⟨apart, (elapsed_le_total_iff begun apart).1 within⟩
    · rintro (close | ⟨apart, each⟩)
      · exact absurd (total_eq_zero_iff.2 close) zero
      · have total : 0 ≤ truncate ((deadline - created) / 86400) := zero_le_one.trans (day.2 apart)
        obtain ⟨nonzero, nonneg, le_one⟩ := (quotient_unit_iff (elapsed_nonneg begun)).2
          ⟨total, (elapsed_le_total_iff begun apart).2 each⟩
        refine ⟨_, pair now, nonzero, nonneg, le_one, fun later after => ?_⟩
        refine ⟨_, pair later, nonzero, quotient_le total (truncate_mono ?_)⟩
        gcongr

/-- Half way to a deadline the progress is a fraction. -/
theorem progress_fraction_before :
    IsFraction
      ⟨fun _ string => if string = "2024-12-24T00:00:00" then some 1734966000 else some 1732978800,
        ⟨"", ""⟩, fun _ => 0⟩
      ⟨1, 1, false, "t", "가족", "2024-12-01T00:00:00.000000000", "", "2024-12-24T00:00:00"⟩
      1734000000 := by
  refine (@progress_fraction_iff _ _ 1732978800 1734966000 _ (by simp [createdKey])
    (by simp [deadlineKey, afterCreated]) (by norm_num)).2 (.inr ⟨by norm_num, fun k passed => ?_⟩)
  linarith

/-- A deadline one day before the creation: the quotient divides by zero. -/
theorem progress_no_fraction :
    ¬ ∀ (p : Process) (c : TimeCapsulePreview) (created deadline now : Date),
      createdKey p c = created → deadlineKey (afterCreated p) c = deadline → created ≤ now →
        IsFraction p c now := by
  intro h
  obtain ⟨r, hr, nonzero, _⟩ := h
    ⟨fun _ string => if string = "2024-11-30T00:00:00" then some 1732892400 else some 1732978800,
      ⟨"", ""⟩, fun _ => 0⟩
    ⟨1, 1, false, "t", "가족", "2024-12-01T00:00:00.000000000", "", "2024-11-30T00:00:00"⟩
    1732978800 1732892400 1732978800 (by simp [createdKey]) (by simp [deadlineKey, afterCreated])
    le_rfl
  rw [@progressAt_eq _ _ 1732978800 1732892400 _ (by simp [createdKey])
    (by simp [deadlineKey, afterCreated])] at hr
  have total : truncate ((1732892400 - 1732978800 : Rat) / 86400) = -1 := by norm_num [truncate]
  rw [total] at hr
  cases hr
  exact nonzero rfl

end Progress

end TimeCapsule.Home
