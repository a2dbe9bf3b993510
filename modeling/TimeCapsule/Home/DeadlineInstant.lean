import TimeCapsule.Home.DeadlineOrder
import TimeCapsule.Lib.Run

/-!
# The instant of a deadline

A deadline is parsed in the time zone that the shared formatter happens to have: the device's from
launch on, and Seoul's once a created date has been read. `deadline_one_instant_iff` compares any
two histories of calls on this.
-/

namespace TimeCapsule.Home
open Foundation

/-- The calls that use the shared formatter. -/
inductive DateCall where
  | createdDate (c : TimeCapsulePreview)
  | deadlineDate (c : TimeCapsulePreview)
  | isoToDate (dateString : String)
deriving DecidableEq, Repr

/-- The process after a call, which may trap. -/
def call (p : Process) : DateCall → Option Process
  | .createdDate c => (c.createdDate p).map Prod.snd
  | .deadlineDate c => (c.deadlineDate p).map Prod.snd
  | .isoToDate dateString => (TimeCapsulePreview.isoToDate dateString p).map Prod.snd

/-- The deadline of a capsule in a time zone. -/
def deadlineIn (p : Process) (timeZone : String) (c : TimeCapsulePreview) : Option Date :=
  p.date ⟨"yyyy-MM-dd'T'HH:mm:ss", timeZone⟩ c.deadline

/-- The deadline has the expected format: it parses, whatever the time zone is. -/
def ExpectedFormat (p : Process) (c : TimeCapsulePreview) : Prop :=
  ∀ timeZone, (deadlineIn p timeZone c).isSome

/-- From a launch on, `deadlineDate` returns the same instant after any two histories of calls. -/
def OneInstant (p : Process) (c : TimeCapsulePreview) : Prop :=
  ∀ es es' q q', Run.exec call p es = some q → Run.exec call p es' = some q' →
    (c.deadlineDate q).map Prod.fst = (c.deadlineDate q').map Prod.fst

/-- What the calls since launch can have left: the time zone of the device, or Seoul's if a created
date has been read. -/
structure Left (p q : Process) : Prop where
  date : q.date = p.date
  timeZone : q.dateFormatter.timeZone = p.dateFormatter.timeZone ∨
    q.dateFormatter.timeZone = "Asia/Seoul" ∧ ∃ c, createdKey p c ≠ ⊥

variable {p q : Process} {c : TimeCapsulePreview}

/-- Reading a created date leaves the time zone of Seoul. -/
lemma createdDate_timeZone {d : Date} (h : c.createdDate p = some (d, q)) :
    q.dateFormatter.timeZone = "Asia/Seoul" := by
  obtain ⟨parsed, p1, hp, h⟩ := EffSort.bind_eq_some.1 h
  cases hp
  cases hd : p.date ⟨"yyyy-MM-dd'T'HH:mm:ss.SSSSSSSSS", "Asia/Seoul"⟩ c.createdAt with
  | none =>
    simp only [hd, unwrap] at h
    cases h
  | some date =>
    simp only [hd, unwrap] at h
    cases EffSort.pure_eq_some.1 h
    rfl

/-- Every call leaves one of the two time zones. -/
lemma call_left (q : Process) (e : DateCall) (left : Left p q) : Run.After call (Left p) q e := by
  intro r h
  cases e with
  | createdDate c =>
    obtain ⟨⟨d, r⟩, hd, rfl⟩ := Option.map_eq_some_iff.1 h
    obtain ⟨date, key⟩ := createdDate_inv hd
    refine ⟨date.trans left.date, .inr ⟨createdDate_timeZone hd, c, ?_⟩⟩
    rw [← createdKey_congr left.date, key]
    exact WithBot.coe_ne_bot
  | deadlineDate c =>
    obtain ⟨r', hd, passed⟩ := deadlineDate_eq q c
    rw [call, hd] at h
    cases h
    exact ⟨passed.date.trans left.date, by rw [passed.timeZone]; exact left.timeZone⟩
  | isoToDate dateString =>
    cases h
    exact left

/-- The instant of a deadline is the one in the time zone that is set. -/
lemma deadlineDate_instant (format : ExpectedFormat p c) (date : q.date = p.date) :
    (c.deadlineDate q).map Prod.fst = deadlineIn p q.dateFormatter.timeZone c := by
  obtain ⟨d, hd⟩ := Option.isSome_iff_exists.1 (format q.dateFormatter.timeZone)
  obtain ⟨r, hr, _⟩ := deadlineDate_eq q c
  have key : deadlineKey q c = d := by
    unfold deadlineIn at hd
    simp only [deadlineKey, date, hd]
  rw [hr, hd, deadlineAt, key]
  rfl

/-- A deadline of the expected format means one instant just when the device's time zone gives it
the instant that Seoul's does, or no created date can be read at all. -/
theorem deadline_one_instant_iff (p : Process) (c : TimeCapsulePreview)
    (format : ExpectedFormat p c) : OneInstant p c ↔
      deadlineIn p p.dateFormatter.timeZone c = deadlineIn p "Asia/Seoul" c ∨
        ∀ d, createdKey p d = ⊥ := by
  constructor
  · intro one
    by_cases read : ∃ d, createdKey p d ≠ ⊥
    · obtain ⟨d, hd⟩ := read
      obtain ⟨⟨created, q⟩, hq⟩ := Option.isSome_iff_exists.1 (createdDate_isSome.2 hd)
      have after : Run.exec call p [.createdDate d] = some q := by
        rw [Run.exec_cons, call, hq]
        rfl
      have same := one [] [.createdDate d] p q rfl after
      rw [deadlineDate_instant format rfl, deadlineDate_instant format (createdDate_inv hq).1,
        createdDate_timeZone hq] at same
      exact .inl same
    · exact .inr (by simpa using read)
  · intro h es es' q q' hq hq'
    have init : Left p p := ⟨rfl, .inl rfl⟩
    have left := Run.exec_inv (fun q e _ => call_left q e) init hq
    have left' := Run.exec_inv (fun q e _ => call_left q e) init hq'
    -- whichever of the two time zones is left, the instant is that of the device's
    have device {q : Process} (left : Left p q) : deadlineIn p q.dateFormatter.timeZone c =
        deadlineIn p p.dateFormatter.timeZone c := by
      rcases left.timeZone with zone | ⟨zone, d, hd⟩
      · rw [zone]
      · rw [zone, h.resolve_right fun none => hd (none d)]
    rw [deadlineDate_instant format left.date, deadlineDate_instant format left'.date, device left,
      device left']

/-- On a device in Seoul a deadline means one instant. -/
theorem deadline_one_instant_seoul :
    OneInstant ⟨fun _ _ => some 1734966000, ⟨"", "Asia/Seoul"⟩, fun _ => 0⟩
      ⟨1, 1, false, "t", "가족", "2024-12-01T00:00:00.000000000", "", "2024-12-24T00:00:00"⟩ :=
  (deadline_one_instant_iff _ _ fun _ => rfl).2 (.inl rfl)

/-- On a device in London a deadline is nine hours earlier once a created date has been read. -/
theorem deadline_two_instants :
    ¬ ∀ (p : Process) (c : TimeCapsulePreview), ExpectedFormat p c → OneInstant p c := by
  intro h
  have same := h ⟨fun formatter _ =>
      some (if formatter.timeZone = "Asia/Seoul" then 1734966000 else 1734998400),
      ⟨"", "Europe/London"⟩, fun _ => 0⟩
    ⟨1, 1, false, "t", "가족", "2024-12-01T00:00:00.000000000", "", "2024-12-24T00:00:00"⟩
    (fun _ => rfl) [] [.createdDate
      ⟨1, 1, false, "t", "가족", "2024-12-01T00:00:00.000000000", "", "2024-12-24T00:00:00"⟩]
    _ _ rfl rfl
  revert same
  decide +kernel

end TimeCapsule.Home
