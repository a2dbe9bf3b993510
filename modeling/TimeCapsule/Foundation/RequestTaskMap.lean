import TimeCapsule.Foundation.DataRequest

/-!
# The books of the request task map

The session keeps a task until it has completed and its metrics were gathered, whichever comes first,
and stops the program if it is told one of these twice. What `RequestTaskMap` holds is determined by
what the URL session has reported (`IsTracked`), so the session never stops (`session_isSome`).
-/

namespace TimeCapsule.Foundation.DataRequest
variable {η ω : Type}

/-- The blocks that lead to the task. -/
def Block.isSetup : Block η ω → Bool
  | .perform => true
  | .performSetupOperations => true
  | .shouldCreateTask => true
  | .didCreateURLRequest => true
  | .didCreateTask => true
  | _ => false

/-- What is noted of a task; it is forgotten with the second report. -/
def books (task : URLSessionTask) : Option TaskEvents :=
  if task.reported && task.gathered then none else some ⟨task.reported, task.gathered⟩

/-- A completion waits for the metrics. -/
def waiting (task : URLSessionTask) : Option (Option AFError) :=
  if task.reported && !task.gathered then task.completed else none

/-- At most one task is made, and what is noted of it is what was reported. -/
structure Tracked (agenda : Multiset (Block η ω)) (task : Option URLSessionTask)
    (events : Option TaskEvents) (completion : Option (Option AFError)) : Prop where
  once : count Block.isSetup agenda + task.isSome.toNat ≤ 1
  events : events = task.bind books
  completion : completion = task.bind waiting
  completed : ∀ t ∈ task, t.reported → t.completed.isSome
  started : ∀ t ∈ task, t.completed.isSome → t.started

section Tracked
variable {agenda : Multiset (Block η ω)} {task : Option URLSessionTask} {events : Option TaskEvents}
  {completion : Option (Option AFError)} {b : Block η ω}

lemma tracked_cons (other : b.isSetup = false) :
    Tracked (b ::ₘ agenda) task events completion ↔ Tracked agenda task events completion := by
  constructor
  · intro h
    exact ⟨by simpa [other] using h.once, h.events, h.completion, h.completed, h.started⟩
  · intro h
    exact ⟨by simpa [other] using h.once, h.events, h.completion, h.completed, h.started⟩

/-- A block that leads to the task may be replaced by another one, or be dropped. -/
lemma Tracked.setup (setup : b.isSetup) (h : Tracked (b ::ₘ agenda) task events completion) :
    Tracked agenda task events completion ∧
      ∀ b' : Block η ω, b'.isSetup → Tracked (b' ::ₘ agenda) task events completion := by
  have once := h.once
  simp only [count_cons, setup] at once
  constructor
  · exact ⟨by omega, h.events, h.completion, h.completed, h.started⟩
  · intro b' setup'
    refine ⟨?_, h.events, h.completion, h.completed, h.started⟩
    simp only [count_cons, setup']
    exact once

/-- It does not matter whether a task was started. -/
lemma Tracked.start (h : Tracked agenda task events completion) :
    Tracked agenda (task.map (·.start)) events completion := by
  cases task with
  | none => exact h
  | some task =>
    have once := h.once
    have noted := h.events
    have waits := h.completion
    have completed := h.completed task rfl
    rw [Option.map_some, URLSessionTask.start]
    split
    · exact h
    · refine ⟨once, noted, waits, ?_, ?_⟩
      · intro t mem
        cases mem
        exact completed
      · intro t mem
        cases mem
        exact fun _ => rfl

end Tracked

/-- The accounts of a request are in order. -/
def IsTracked (s : DataRequest η ω) : Prop :=
  Tracked s.agenda s.task s.taskEvents s.waitingCompletion

section States
variable {s : DataRequest η ω} {b : Block η ω} {q : Queue}

lemma isTracked_async (other : b.isSetup = false) : (s.async q b).IsTracked ↔ s.IsTracked := by
  rw [IsTracked, agenda_async, tracked_cons other]
  rfl

lemma isTracked_asyncIf (other : b.isSetup = false) {condition : Bool} :
    (s.asyncIf condition q b).IsTracked ↔ s.IsTracked := by
  rw [asyncIf]
  split
  · exact isTracked_async other
  · rfl

lemma isTracked_next (other : b.isSetup = false) : (s.next b).IsTracked ↔ s.IsTracked := by
  rw [IsTracked, agenda_next, tracked_cons other]
  rfl

lemma isTracked_append {handler : η} (h : s.IsTracked) : (s.append handler).IsTracked := by
  rw [append, isTracked_asyncIf rfl, isTracked_asyncIf rfl]
  exact h

lemma isTracked_resume (h : s.IsTracked) : s.resume.IsTracked := by
  rw [resume]
  split
  · exact Tracked.start h
  · exact h

lemma isTracked_suspend (h : s.IsTracked) : s.suspend.IsTracked := by
  rw [suspend]
  split <;> exact h

lemma isTracked_cancel (h : s.IsTracked) : s.cancel.IsTracked := by
  have cancelled : ({ s with state := .cancelled }.async .root .didCancel).IsTracked :=
    (isTracked_async rfl).2 h
  rw [cancel]
  split
  · show DataRequest.IsTracked (if _ then _ else _)
    split
    · exact (isTracked_async rfl).2 cancelled
    · exact Tracked.start cancelled
  · exact h

end States

section Execution
variable {c : Convertible} {serialize : η → Serializer ω} {s t : DataRequest η ω} {b : Block η ω}

/-- A block that stands next keeps the accounts in order. -/
lemma isTracked_execute (h : Tracked (b ::ₘ s.agenda) s.task s.taskEvents s.waitingCompletion) :
    (execute c serialize s b).IsTracked := by
  cases b with
  | perform =>
    obtain ⟨dropped, replaced⟩ := h.setup rfl
    rw [execute]
    split
    · exact dropped
    · rw [IsTracked, agenda_async]
      exact replaced _ rfl
  | performSetupOperations =>
    obtain ⟨dropped, replaced⟩ := h.setup rfl
    rw [execute]
    split
    · exact (isTracked_async rfl).2 dropped
    · rw [IsTracked, agenda_next, agenda_async, Multiset.cons_swap, tracked_cons rfl]
      exact replaced _ rfl
  | shouldCreateTask =>
    obtain ⟨dropped, replaced⟩ := h.setup rfl
    rw [execute]
    split
    · exact dropped
    · split
      · rw [IsTracked, agenda_async]
        exact replaced _ rfl
      · exact (isTracked_async rfl).2 dropped
  | didCreateURLRequest =>
    obtain ⟨dropped, replaced⟩ := h.setup rfl
    rw [execute]
    split
    · exact dropped
    · rw [IsTracked, agenda_next]
      exact replaced _ rfl
  | didCreateTask =>
    have once := h.once
    have noted := h.completion
    simp only [count_cons, Block.isSetup, Bool.toNat_true] at once
    rw [execute, isTracked_next rfl]
    show Tracked s.agenda (some {}) (some ⟨false, false⟩) s.waitingCompletion
    cases made : s.task with
    | some task =>
      rw [made, Option.isSome_some, Bool.toNat_true] at once
      omega
    | none =>
      rw [made] at noted
      refine ⟨?_, rfl, noted, ?_, ?_⟩
      · rw [Option.isSome_some, Bool.toNat_true]
        omega
      · intro t mem reported
        cases mem
        cases reported
      · intro t mem completed
        cases mem
        cases completed
  | updateStatesForTask =>
    have rest := (tracked_cons rfl).1 h
    rw [execute]
    split
    · exact rest.start
    · exact rest.start
    · exact rest
  | startImmediately => exact isTracked_resume ((tracked_cons rfl).1 h)
  | didCompleteTask error => exact (isTracked_next rfl).2 ((tracked_cons rfl).1 h)
  | retryOrFinish error =>
    rw [execute]
    split
    · exact (isTracked_next rfl).2 ((tracked_cons rfl).1 h)
    · exact (isTracked_async rfl).2 ((tracked_cons rfl).1 h)
  | finish =>
    rw [execute]
    split
    · exact (tracked_cons rfl).1 h
    · exact (isTracked_next rfl).2 ((tracked_cons rfl).1 h)
  | processNextResponseSerializer =>
    rw [execute]
    split
    · exact (isTracked_async rfl).2 ((tracked_cons rfl).1 h)
    · exact (isTracked_next rfl).2 ((tracked_cons rfl).1 h)
  | serialize handler => exact (isTracked_async rfl).2 ((tracked_cons rfl).1 h)
  | didSerialize handler result =>
    cases result with
    | ok value => exact (isTracked_next rfl).2 ((tracked_cons rfl).1 h)
    | error error =>
      rw [execute]
      split
      · exact (isTracked_next rfl).2 ((tracked_cons rfl).1 h)
      · exact (isTracked_async rfl).2 ((tracked_cons rfl).1 h)
  | responseSerializerDidComplete handler result =>
    exact (isTracked_next rfl).2 ((tracked_cons rfl).1 h)
  | didFail error => exact (isTracked_next rfl).2 ((tracked_cons rfl).1 h)
  | didCreateInitialURLRequest request => exact (tracked_cons rfl).1 h
  | didCancel => exact (tracked_cons rfl).1 h
  | completeProcessing => exact (tracked_cons rfl).1 h

lemma didComplete_eq {gathered : Bool} (error : Option AFError)
    (noted : s.taskEvents = some ⟨false, gathered⟩) : s.didComplete error =
      some (if gathered then { s with taskEvents := none }.next (.didCompleteTask error)
        else { s with taskEvents := some ⟨true, false⟩, waitingCompletion := some error }) := by
  rw [didComplete, noted]
  cases gathered <;> rfl

lemma didFinishCollecting_eq {reported : Bool} {error : Option AFError}
    (noted : s.taskEvents = some ⟨reported, false⟩)
    (waits : s.waitingCompletion = if reported then some error else none) :
    s.didFinishCollecting = some (if reported then
      { s with taskEvents := none, waitingCompletion := none }.next (.didCompleteTask error)
        else { s with taskEvents := some ⟨false, true⟩ }) := by
  rw [didFinishCollecting, noted]
  cases reported with
  | true =>
    simp only
    rw [waits]
    rfl
  | false => rfl

/-- The delegate is told something new of a task, which is noted. -/
lemma isTracked_transfer {task : URLSessionTask} {e : Event η} (made : s.task = some task)
    (started : task.started = true) (ready : s.ready task e = true) (h : s.IsTracked) :
    ∃ t, s.transfer task e = some t ∧ t.IsTracked := by
  have once := h.once
  have noted := h.events
  have waits := h.completion
  have completed := h.completed task made
  rw [made] at once noted waits
  cases e with
  | respond response =>
    refine ⟨_, rfl, once, noted, waits, ?_, ?_⟩
    · intro t mem
      cases mem
      exact completed
    · intro t mem _
      cases mem
      exact started
  | receive data =>
    refine ⟨_, rfl, ?_⟩
    rw [didReceive]
    split <;> exact h
  | complete failed =>
    simp only [DataRequest.ready, Bool.and_eq_true, Option.isNone_iff_eq_none] at ready
    have unreported : task.reported = false := by
      cases e : task.reported with
      | false => rfl
      | true =>
        have result := completed e
        rw [ready.1] at result
        cases result
    refine ⟨_, rfl, once, noted, ?_, ?_, ?_⟩
    · show s.waitingCompletion = waiting _
      rw [waits]
      simp [waiting, unreported]
    · intro t mem _
      cases mem
      rfl
    · intro t mem _
      cases mem
      exact started
  | report =>
    simp only [DataRequest.ready, Bool.and_eq_true, Bool.not_eq_true'] at ready
    obtain ⟨⟨-, unreported⟩, result⟩ := ready
    obtain ⟨error, found⟩ := Option.isSome_iff_exists.1 result
    have first : s.taskEvents = some ⟨false, task.gathered⟩ := by
      rw [noted]
      simp [books, unreported]
    refine ⟨_, didComplete_eq (s := { s with task := some { task with reported := true } }) _ first, ?_⟩
    cases gathered : task.gathered with
    | true =>
      rw [if_pos rfl, isTracked_next rfl]
      refine ⟨once, ?_, ?_, ?_, ?_⟩
      · simp [books]
      · show s.waitingCompletion = _
        rw [waits]
        simp [waiting, gathered]
      · intro t mem _
        cases mem
        exact result
      · intro t mem _
        cases mem
        exact started
    | false =>
      rw [if_neg Bool.false_ne_true]
      refine ⟨once, ?_, ?_, ?_, ?_⟩
      · simp [books]
      · simp [waiting, found]
      · intro t mem _
        cases mem
        exact result
      · intro t mem _
        cases mem
        exact started
  | gather =>
    simp only [DataRequest.ready, Bool.and_eq_true, Bool.not_eq_true'] at ready
    obtain ⟨-, ungathered⟩ := ready
    have first : s.taskEvents = some ⟨task.reported, false⟩ := by
      rw [noted]
      simp [books, ungathered]
    have result : s.waitingCompletion =
        if task.reported then some (task.completed.getD none) else none := by
      rw [waits]
      cases reported : task.reported with
      | false => simp [waiting, reported]
      | true =>
        obtain ⟨error, found⟩ := Option.isSome_iff_exists.1 (completed reported)
        simp [waiting, reported, ungathered, found]
    refine ⟨_, didFinishCollecting_eq (s := { s with task := some { task with gathered := true } })
      first result, ?_⟩
    cases reported : task.reported with
    | true =>
      rw [if_pos rfl, isTracked_next rfl]
      refine ⟨once, ?_, ?_, ?_, ?_⟩
      · simp [books]
      · simp [waiting]
      · intro t mem _
        cases mem
        exact completed reported
      · intro t mem _
        cases mem
        exact started
    | false =>
      rw [if_neg Bool.false_ne_true]
      refine ⟨once, ?_, ?_, ?_, ?_⟩
      · simp [books]
      · show s.waitingCompletion = _
        rw [waits]
        simp [waiting, reported]
      · intro t mem reported'
        cases mem
        cases reported'
      · intro t mem _
        cases mem
        exact started
  | _ => cases ready

/-- Every event keeps the accounts in order. -/
lemma isTracked_step {e : Event η} (h : s.IsTracked) (run : step c serialize s e = some t) :
    t.IsTracked := by
  have of_task (run : s.session e = some t) : t.IsTracked := by
    obtain ⟨task, made, started, ready, run⟩ := of_session run
    obtain ⟨u, told, tracked⟩ := isTracked_transfer made started ready h
    rw [told] at run
    cases run
    exact tracked
  cases e with
  | validate validator =>
    cases run
    exact h
  | append handler =>
    cases run
    exact isTracked_append h
  | cancel =>
    cases run
    exact isTracked_cancel h
  | suspend =>
    cases run
    exact isTracked_suspend h
  | resume =>
    cases run
    exact isTracked_resume h
  | dispatch q =>
    rw [step] at run
    split at run
    · next idle first =>
      cases run
      rw [IsTracked, agenda_dispatch idle first]
      exact h
    · cases run
  | proceed =>
    rw [step] at run
    split at run
    · next running =>
      cases run
      rw [IsTracked, agenda_running running] at h
      exact isTracked_execute h
    · cases run
  | call =>
    rw [step] at run
    split at run
    · cases run
      exact h
    · cases run
  | _ => exact of_task run

lemma isTracked_created : (created : DataRequest η ω).IsTracked := by
  refine ⟨?_, rfl, rfl, ?_, ?_⟩
  · rw [agenda_created, count_cons, count_zero]
    exact le_refl 1
  · intro t mem
    cases mem
  · intro t mem
    cases mem

/-- In every run of a request the session takes what the URL session reports, and never comes upon
one of its fatal errors. -/
theorem session_isSome {es : List (Event η)} {task : URLSessionTask} {e : Event η}
    (run : Run.exec (step c serialize) created es = some s) (made : s.task = some task)
    (started : task.started = true) (ready : s.ready task e = true) :
    (s.session e).isSome := by
  have tracked : s.IsTracked :=
    Run.exec_inv (fun s e _ h t run => isTracked_step h run) isTracked_created run
  obtain ⟨t, told, -⟩ := isTracked_transfer made started ready tracked
  rw [session, made]
  simp [started, ready, told]

end Execution

/-- A transfer that fails, with its metrics gathered after it has completed. -/
theorem session_isSome_failed :
    let es : List (Event Nat) := [.append 1, .dispatch .root, .proceed, .dispatch .root, .proceed,
      .dispatch .request, .proceed, .proceed, .dispatch .root, .proceed, .dispatch .root, .proceed,
      .proceed, .proceed, .complete true, .report]
    ∃ s, Run.exec (step ⟨.ok ⟨.get, "https://a/b", .empty, none⟩, .ok ()⟩
        fun handler => fun _ _ _ => .ok handler) created es = some s ∧
      (s.session .gather).isSome := by
  intro es
  have returns : (Run.exec (step ⟨.ok ⟨.get, "https://a/b", .empty, none⟩, .ok ()⟩
      fun (handler : Nat) => fun _ _ _ => Except.ok handler) created es).map
        (fun s => (s.task, s.running.isEmpty)) =
      some (some ⟨true, none, some (some .sessionTaskFailed), true, false⟩, true) := by decide
  obtain ⟨s, run, found⟩ := Option.map_eq_some_iff.1 returns
  obtain ⟨made, idle⟩ := Prod.mk.inj found
  refine ⟨s, run, session_isSome run made rfl ?_⟩
  rw [ready, idle]
  rfl

end TimeCapsule.Foundation.DataRequest
