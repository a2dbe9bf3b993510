import TimeCapsule.Foundation.ResponseSerialization
import TimeCapsule.Lib.Run

/-!
# The life of a request

A `DataRequest` of Alamofire's `Core/Request.swift` and `Core/DataRequest.swift` with the part of its
`Session` that serves it. Its work is cut into blocks that wait in serial queues, all of which target
one root queue, so that one block runs at a time. Other threads append handlers, cancel, suspend and
resume at any moment, and the URL session reports the transfer.

A `Block` is what runs between two points at which the lock of the mutable state is taken: another
thread can come in between two blocks also while a closure is running (`running`), but then no queue
starts another closure. The URL session reports to its delegate in a queue of this kind too, one
report after the other. The session has no interceptor, so a request is never adapted nor retried.
Blocks that only notify the event monitor are left out.
-/

namespace TimeCapsule.Foundation
namespace DataRequest

/-- `Request.State`. -/
inductive State where
  | initialized
  | resumed
  | suspended
  | cancelled
  | finished
deriving DecidableEq, Repr

def State.canTransitionTo : State → State → Bool
  | .initialized, _ => true
  | _, .initialized => false
  | .cancelled, _ => false
  | .finished, _ => false
  | .resumed, .cancelled => true
  | .suspended, .cancelled => true
  | .resumed, .suspended => true
  | .suspended, .resumed => true
  | .suspended, .suspended => false
  | .resumed, .resumed => false
  | _, .finished => true

/-- A task of the URL session. -/
structure URLSessionTask where
  /-- It was resumed or cancelled at some time. -/
  started : Bool := false
  response : Option HTTPURLResponse := none
  /-- The error it has completed with, if any. -/
  completed : Option (Option AFError) := none
  /-- The delegate was told that it has completed. -/
  reported : Bool := false
  /-- The delegate was given its metrics. -/
  gathered : Bool := false
deriving DecidableEq, Repr

/-- Resume or cancel a task. -/
def URLSessionTask.start (task : URLSessionTask) : URLSessionTask :=
  if task.completed.isSome then task else { task with started := true }

/-- The events of the task that `RequestTaskMap` has seen. -/
structure TaskEvents where
  completed : Bool
  metricsGathered : Bool
deriving DecidableEq, Repr

/-- What the request is made of: its URL request, and the form of an upload. -/
structure Convertible where
  asURLRequest : Except AFError URLRequest
  createUploadable : Except AFError Unit := .ok ()

inductive Block (η ω : Type) where
  -- the session prepares the request
  | perform
  | performSetupOperations
  | shouldCreateTask
  | didCreateURLRequest
  | didCreateTask
  | updateStatesForTask
  | didCreateInitialURLRequest (request : URLRequest)
  | didFail (error : AFError)
  -- a thread has appended a handler or has cancelled
  | startImmediately
  | didCancel
  -- the request finishes
  | didCompleteTask (error : Option AFError)
  | retryOrFinish (error : Option AFError)
  | finish
  | processNextResponseSerializer
  | serialize (handler : η)
  | didSerialize (handler : η) (result : Except AFError ω)
  | responseSerializerDidComplete (handler : η) (result : Except AFError ω)
  | completeProcessing

/-- The state of the response serializers, and what becomes of the completion handlers. -/
structure Handlers (η ω : Type) where
  responseSerializers : List η := []
  responseSerializerCompletions : List (η × Except AFError ω) := []
  responseSerializerProcessingFinished : Bool := false
  isFinishing : Bool := false
  /-- The handlers that wait in the main queue. -/
  main : List (η × Except AFError ω) := []
  calls : List (η × Except AFError ω) := []

inductive Queue where
  | root
  | request
  | serialization
deriving DecidableEq, Repr

end DataRequest

open DataRequest in
structure DataRequest (η ω : Type) where
  state : State := .initialized
  handlers : Handlers η ω := {}
  error : Option AFError := none
  request : Option URLRequest := none
  validators : List Validator := []
  data : Option ByteArray := none
  task : Option URLSessionTask := none
  taskEvents : Option TaskEvents := none
  waitingCompletion : Option (Option AFError) := none
  running : List (Block η ω) := []
  queue : Queue → List (Block η ω) := fun _ => []

namespace DataRequest
variable {η ω : Type}

/-- The request as `Session.request` returns it. -/
def created : DataRequest η ω := { queue := fun | .root => [.perform] | _ => [] }

def isCancelled (s : DataRequest η ω) : Bool := s.state = .cancelled

def response (s : DataRequest η ω) : Option HTTPURLResponse := s.task.bind (·.response)

/-- Submit a block to a queue. -/
def async (s : DataRequest η ω) (q : Queue) (b : Block η ω) : DataRequest η ω :=
  { s with queue := fun q' => if q' = q then s.queue q ++ [b] else s.queue q' }

def asyncIf (s : DataRequest η ω) (condition : Bool) (q : Queue) (b : Block η ω) :
    DataRequest η ω :=
  if condition then s.async q b else s

/-- Go on with a block. -/
def next (s : DataRequest η ω) (b : Block η ω) : DataRequest η ω :=
  { s with running := b :: s.running }

lemma handlers_asyncIf (s : DataRequest η ω) (condition : Bool) (q : Queue) (b : Block η ω) :
    (s.asyncIf condition q b).handlers = s.handlers := by
  rw [asyncIf]
  split <;> rfl

/-! ## What any thread may call -/

/-- A handler is processed at once if the others have been, and starts a request that may start. -/
def append (s : DataRequest η ω) (handler : η) : DataRequest η ω :=
  let state := if s.state = .finished then .resumed else s.state
  ({ s with
    handlers := { s.handlers with
      responseSerializers := s.handlers.responseSerializers ++ [handler] }
    state }.asyncIf s.handlers.responseSerializerProcessingFinished .root
      .processNextResponseSerializer).asyncIf (state.canTransitionTo .resumed) .root
        .startImmediately

def resume (s : DataRequest η ω) : DataRequest η ω :=
  if s.state.canTransitionTo .resumed then
    { s with state := .resumed, task := s.task.map (·.start) }
  else s

/-- A suspended task may still complete. -/
def suspend (s : DataRequest η ω) : DataRequest η ω :=
  if s.state.canTransitionTo .suspended then { s with state := .suspended } else s

def cancel (s : DataRequest η ω) : DataRequest η ω :=
  if s.state.canTransitionTo .cancelled then
    let s := { s with state := .cancelled }.async .root .didCancel
    if s.task.all (·.completed.isSome) then s.async .root .finish
    else { s with task := s.task.map (·.start) }
  else s

/-! ## What the queues run -/

section Execution
variable (c : Convertible) (serialize : η → Serializer ω)

/-- The completions are handed to the main queue, and all that belongs to serialization is cleared. -/
def completeProcessing (s : DataRequest η ω) : DataRequest η ω :=
  { s with
    handlers := {
      responseSerializers := []
      responseSerializerCompletions := []
      responseSerializerProcessingFinished := true
      isFinishing := false
      main := s.handlers.main ++ s.handlers.responseSerializerCompletions
      calls := s.handlers.calls }
    state := if s.state.canTransitionTo .finished then .finished else s.state }

def execute (s : DataRequest η ω) : Block η ω → DataRequest η ω
  | .perform => if s.isCancelled then s else s.async .request .performSetupOperations
  | .performSetupOperations =>
    match c.asURLRequest with
    | .error error => s.async .root (.didFail error)
    | .ok request => (s.async .root (.didCreateInitialURLRequest request)).next .shouldCreateTask
  | .shouldCreateTask =>
    if s.isCancelled then s
    else
      match c.createUploadable with
      | .ok () => s.async .root .didCreateURLRequest
      | .error error => s.async .root (.didFail error)
  | .didCreateURLRequest => if s.isCancelled then s else s.next .didCreateTask
  | .didCreateTask =>
    { s with task := some {}, taskEvents := some ⟨false, false⟩ }.next .updateStatesForTask
  | .updateStatesForTask =>
    match s.state with
    | .resumed => { s with task := s.task.map (·.start) }
    | .cancelled => { s with task := s.task.map (·.start) }
    | _ => s
  | .didCreateInitialURLRequest request => { s with request := some request }
  | .didFail error => { s with error := some error }.next (.retryOrFinish (some error))
  | .startImmediately => s.resume
  | .didCancel => { s with error := some (s.error.getD .explicitlyCancelled) }
  | .didCompleteTask error =>
    let error := runValidators s.validators s.request s.response s.data (s.error.or error)
    { s with error }.next (.retryOrFinish error)
  | .retryOrFinish error =>
    -- without a retrier the answer is not to retry, and comes by the root queue
    if s.isCancelled ∨ error = none then s.next .finish else s.async .root .finish
  | .finish =>
    if s.handlers.isFinishing then s
    else { s with handlers := { s.handlers with isFinishing := true } }.next
      .processNextResponseSerializer
  | .processNextResponseSerializer =>
    match s.handlers.responseSerializers[s.handlers.responseSerializerCompletions.length]? with
    | some handler => s.async .serialization (.serialize handler)
    | none => s.next .completeProcessing
  | .serialize handler =>
    s.async .root (.didSerialize handler (serialize handler s.response s.data s.error))
  | .didSerialize handler result =>
    match result with
    | .ok _ => s.next (.responseSerializerDidComplete handler result)
    | .error _ =>
      -- a failure is not retried either
      if s.isCancelled then s.next (.responseSerializerDidComplete handler result)
      else s.async .root (.responseSerializerDidComplete handler result)
  | .responseSerializerDidComplete handler result =>
    { s with handlers := { s.handlers with
      responseSerializerCompletions :=
        s.handlers.responseSerializerCompletions ++ [(handler, result)] } }.next
          .processNextResponseSerializer
  | .completeProcessing => s.completeProcessing

/-! ## What the URL session reports -/

def didReceive (s : DataRequest η ω) (data : ByteArray) : DataRequest η ω :=
  if s.taskEvents = none then s else { s with data := some (s.data.getD .empty ++ data) }

/-- `urlSession(_:task:didFinishCollecting:)`; `none` is a fatal error of `RequestTaskMap`. -/
def didFinishCollecting (s : DataRequest η ω) : Option (DataRequest η ω) :=
  match s.taskEvents with
  | none => none
  | some ⟨_, true⟩ => none
  | some ⟨false, false⟩ => some { s with taskEvents := some ⟨false, true⟩ }
  | some ⟨true, false⟩ =>
    match s.waitingCompletion with
    | some error =>
      some ({ s with taskEvents := none, waitingCompletion := none }.next (.didCompleteTask error))
    | none => some { s with taskEvents := none }

/-- `urlSession(_:task:didCompleteWithError:)`. -/
def didComplete (s : DataRequest η ω) (error : Option AFError) : Option (DataRequest η ω) :=
  match s.taskEvents with
  | none => none
  | some ⟨true, _⟩ => none
  | some ⟨false, false⟩ =>
    some { s with taskEvents := some ⟨true, false⟩, waitingCompletion := some error }
  | some ⟨false, true⟩ => some ({ s with taskEvents := none }.next (.didCompleteTask error))

inductive Event (η : Type) where
  -- from any thread
  | validate (validator : Validator)
  | append (handler : η)
  | cancel
  | suspend
  | resume
  -- a queue starts its first closure, or the one that runs goes on
  | dispatch (q : Queue)
  | proceed
  -- the URL session
  | respond (response : HTTPURLResponse)
  | receive (data : ByteArray)
  | complete (failed : Bool)
  | report
  | gather
  -- the main queue calls a handler
  | call
deriving DecidableEq

/-- What the session may do with a task that was started. -/
def ready (s : DataRequest η ω) (task : URLSessionTask) : Event η → Bool
  | .respond _ => task.completed.isNone && task.response.isNone
  | .receive _ => s.running.isEmpty && !task.reported && task.response.isSome
  | .complete failed => task.completed.isNone && (failed || task.response.isSome)
  | .report => s.running.isEmpty && !task.reported && task.completed.isSome
  | .gather => s.running.isEmpty && !task.gathered
  | _ => false

def transfer (s : DataRequest η ω) (task : URLSessionTask) : Event η → Option (DataRequest η ω)
  | .respond response => some { s with task := some { task with response := some response } }
  | .receive data => some (s.didReceive data)
  | .complete failed => some { s with task := some { task with
      completed := some (if failed then some .sessionTaskFailed else none) } }
  | .report => { s with task := some { task with reported := true } }.didComplete
      (task.completed.getD none)
  | .gather => { s with task := some { task with gathered := true } }.didFinishCollecting
  | _ => none

/-- An event of the URL session. -/
def session (s : DataRequest η ω) (e : Event η) : Option (DataRequest η ω) :=
  match s.task with
  | some task => if task.started && s.ready task e then s.transfer task e else none
  | none => none

/-- An event, if it can occur. -/
def step (s : DataRequest η ω) : Event η → Option (DataRequest η ω)
  | .validate validator => some { s with validators := s.validators ++ [validator] }
  | .append handler => some (s.append handler)
  | .cancel => some s.cancel
  | .suspend => some s.suspend
  | .resume => some s.resume
  | .dispatch q =>
    match s.running, s.queue q with
    | [], b :: l =>
      some { s with running := [b], queue := fun q' => if q' = q then l else s.queue q' }
    | _, _ => none
  | .proceed =>
    match s.running with
    | b :: l => some (execute c serialize { s with running := l } b)
    | [] => none
  | .call =>
    match s.handlers.main with
    | x :: l => some { s with handlers := { s.handlers with
        main := l, calls := s.handlers.calls ++ [x] } }
    | [] => none
  | e => s.session e

/-- Inversion of `session`. -/
lemma of_session {s t : DataRequest η ω} {e : Event η} (h : s.session e = some t) :
    ∃ task, s.task = some task ∧ task.started = true ∧ s.ready task e = true ∧
      s.transfer task e = some t := by
  rw [session] at h
  cases made : s.task with
  | none =>
    rw [made] at h
    cases h
  | some task =>
    simp only [made] at h
    split at h
    · next may =>
      rw [Bool.and_eq_true] at may
      exact ⟨task, rfl, may.1, may.2, h⟩
    · cases h

end Execution

/-! ## What is left to be run -/

/-- How many of some blocks are of a kind. -/
def count (kind : Block η ω → Bool) (blocks : Multiset (Block η ω)) : Nat :=
  blocks.countP fun b => kind b

@[simp]
lemma count_zero (kind : Block η ω → Bool) : count kind 0 = 0 := Multiset.countP_zero _

@[simp]
lemma count_cons (kind : Block η ω → Bool) (b : Block η ω) (blocks : Multiset (Block η ω)) :
    count kind (b ::ₘ blocks) = count kind blocks + (kind b).toNat := by
  rw [count, Multiset.countP_cons]
  cases kind b <;> rfl

/-- Those of some blocks that are of a kind. -/
def only (kind : Block η ω → Bool) (blocks : Multiset (Block η ω)) : Multiset (Block η ω) :=
  blocks.filter fun b => kind b

section Agenda
variable {s t : DataRequest η ω} {b : Block η ω}

/-- The blocks of all queues, and the rest of the closure that is running. -/
def agenda (s : DataRequest η ω) : Multiset (Block η ω) :=
  ↑s.running + ↑(s.queue .root) + ↑(s.queue .request) + ↑(s.queue .serialization)

@[simp]
lemma agenda_next : (s.next b).agenda = b ::ₘ s.agenda := by
  simp only [agenda, next, ← Multiset.cons_coe, Multiset.cons_add]

@[simp]
lemma agenda_async (q : Queue) : (s.async q b).agenda = b ::ₘ s.agenda := by
  have last (l : List (Block η ω)) : (↑(l ++ [b]) : Multiset (Block η ω)) = b ::ₘ ↑l :=
    Multiset.coe_eq_coe.2 (List.perm_append_singleton b l)
  cases q <;>
    simp only [agenda, async, last, Multiset.add_cons, Multiset.cons_add, reduceCtorEq, if_true,
      if_false]

lemma agenda_running {l : List (Block η ω)} (running : s.running = b :: l) :
    s.agenda = b ::ₘ { s with running := l }.agenda := by
  simp only [agenda, running, ← Multiset.cons_coe, Multiset.cons_add]

/-- To start a closure changes nothing of what is left. -/
lemma agenda_dispatch {q : Queue} {l : List (Block η ω)} (idle : s.running = [])
    (first : s.queue q = b :: l) :
    { s with running := [b], queue := fun q' => if q' = q then l else s.queue q' }.agenda =
      s.agenda := by
  cases q <;>
    simp only [agenda, idle, first, ← Multiset.cons_coe, Multiset.coe_nil, Multiset.add_cons,
      Multiset.cons_add, reduceCtorEq, if_true, if_false]

section Only
variable {kind : Block η ω → Bool} {blocks : Multiset (Block η ω)} {q : Queue}

lemma only_cons_of_pos (of : kind b = true) : only kind (b ::ₘ blocks) = b ::ₘ only kind blocks :=
  Multiset.filter_cons_of_pos _ of

lemma only_cons (other : kind b = false) : only kind (b ::ₘ blocks) = only kind blocks :=
  Multiset.filter_cons_of_neg _ (by simp [other])

/-- The blocks of a kind that are still to be run. -/
def those (s : DataRequest η ω) (kind : Block η ω → Bool) : Multiset (Block η ω) :=
  only kind s.agenda

lemma those_next (other : kind b = false) : (s.next b).those kind = s.those kind := by
  rw [those, agenda_next, only_cons other]
  rfl

lemma those_async (other : kind b = false) : (s.async q b).those kind = s.those kind := by
  rw [those, agenda_async, only_cons other]
  rfl

lemma those_asyncIf (other : kind b = false) {condition : Bool} :
    (s.asyncIf condition q b).those kind = s.those kind := by
  rw [asyncIf]
  split
  · exact those_async other
  · rfl

lemma those_next_of_pos (of : kind b = true) : (s.next b).those kind = b ::ₘ s.those kind := by
  rw [those, agenda_next, only_cons_of_pos of]
  rfl

lemma those_async_of_pos (of : kind b = true) : (s.async q b).those kind = b ::ₘ s.those kind := by
  rw [those, agenda_async, only_cons_of_pos of]
  rfl

end Only

lemma agenda_created : (created : DataRequest η ω).agenda = .perform ::ₘ 0 := by
  simp [agenda, created]

end Agenda

end DataRequest

end TimeCapsule.Foundation
