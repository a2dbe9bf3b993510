import TimeCapsule.Foundation.RequestTaskMap

/-!
# The order of the handlers

However a request is cancelled, suspended and resumed, its handlers are called in the order in which
they were appended, each once at most (`calls_isPrefix`). The serializers are run one after the
other: there is never more than one block that is about them, and it is about the first handler
whose serializer is not complete (`Ordered`).

This holds for handlers that are appended before the request has processed its serializers. A later
one is processed at once, and two such handlers may both find the first serializer to be the next.
-/

namespace TimeCapsule.Foundation.DataRequest
variable {η ω : Type}

/-- The blocks that run the serializers. -/
def Block.isDriver : Block η ω → Bool
  | .processNextResponseSerializer => true
  | .serialize _ => true
  | .didSerialize _ _ => true
  | .responseSerializerDidComplete _ _ => true
  | .completeProcessing => true
  | _ => false

/-- The handler that a block is about. -/
def Block.handler : Block η ω → Option η
  | .serialize handler => some handler
  | .didSerialize handler _ => some handler
  | .responseSerializerDidComplete handler _ => some handler
  | _ => none

/-- The blocks of a request that run its serializers. -/
def driving (s : DataRequest η ω) : Multiset (Block η ω) := s.those Block.isDriver

/-- How far the handlers `l` have come. -/
inductive Ordered (l : List η) : Multiset (Block η ω) → Handlers η ω → Prop where
  | waiting : Ordered l 0 { responseSerializers := l }
  | finishing (b : Block η ω) (completions : List (η × Except AFError ω)) :
    completions.map Prod.fst <+: l →
    (∀ handler, b.handler = some handler → l[completions.length]? = some handler) →
    Ordered l {b} {
      responseSerializers := l
      responseSerializerCompletions := completions
      isFinishing := true }
  | finished (blocks : Multiset (Block η ω)) (isFinishing : Bool)
      (main calls : List (η × Except AFError ω)) :
    (∀ b ∈ blocks, b.handler = none) → (calls ++ main).map Prod.fst <+: l →
    Ordered l blocks {
      responseSerializerProcessingFinished := true
      isFinishing
      main
      calls }

section Execution
variable {c : Convertible} {serialize : η → Serializer ω} {s t : DataRequest η ω} {b : Block η ω}
  {l : List η}

lemma resume_quiet : s.resume.handlers = s.handlers ∧ s.resume.driving = s.driving := by
  rw [resume]
  split
  · exact ⟨rfl, rfl⟩
  · exact ⟨rfl, rfl⟩

lemma suspend_quiet : s.suspend.handlers = s.handlers ∧ s.suspend.driving = s.driving := by
  rw [suspend]
  split
  · exact ⟨rfl, rfl⟩
  · exact ⟨rfl, rfl⟩

lemma cancel_quiet : s.cancel.handlers = s.handlers ∧ s.cancel.driving = s.driving := by
  have first : ({ s with state := .cancelled }.async .root .didCancel).driving = s.driving :=
    those_async rfl
  rw [cancel]
  split
  · show DataRequest.handlers (if _ then _ else _) = _ ∧ DataRequest.driving (if _ then _ else _) = _
    split
    · exact ⟨rfl, (those_async rfl).trans first⟩
    · exact ⟨rfl, first⟩
  · exact ⟨rfl, rfl⟩

/-- The reports of the URL session leave the serializers alone. -/
lemma quiet_of_transfer {task : URLSessionTask} {e : Event η} (told : s.transfer task e = some t) :
    t.handlers = s.handlers ∧ t.driving = s.driving := by
  cases e with
  | receive data =>
    cases told
    rw [didReceive]
    split <;> exact ⟨rfl, rfl⟩
  | report =>
    rw [transfer, didComplete] at told
    split at told
    · cases told
    · cases told
    · cases told
      exact ⟨rfl, rfl⟩
    · cases told
      exact ⟨rfl, those_next rfl⟩
  | gather =>
    rw [transfer, didFinishCollecting] at told
    split at told
    · cases told
    · cases told
    · cases told
      exact ⟨rfl, rfl⟩
    · split at told
      · cases told
        exact ⟨rfl, those_next rfl⟩
      · cases told
        exact ⟨rfl, rfl⟩
  | respond response =>
    cases told
    exact ⟨rfl, rfl⟩
  | complete failed =>
    cases told
    exact ⟨rfl, rfl⟩
  | _ => cases told

/-- The other blocks leave the serializers alone. -/
lemma execute_quiet (c : Convertible) (serialize : η → Serializer ω) (s : DataRequest η ω)
    (other : b.isDriver = false) (going : b ≠ .finish) :
    (execute c serialize s b).handlers = s.handlers ∧
      (execute c serialize s b).driving = s.driving := by
  cases b with
  | perform =>
    rw [execute]
    split
    · exact ⟨rfl, rfl⟩
    · exact ⟨rfl, those_async rfl⟩
  | performSetupOperations =>
    rw [execute]
    split
    · exact ⟨rfl, those_async rfl⟩
    · exact ⟨rfl, (those_next rfl).trans (those_async rfl)⟩
  | shouldCreateTask =>
    rw [execute]
    split
    · exact ⟨rfl, rfl⟩
    · split
      · exact ⟨rfl, those_async rfl⟩
      · exact ⟨rfl, those_async rfl⟩
  | didCreateURLRequest =>
    rw [execute]
    split
    · exact ⟨rfl, rfl⟩
    · exact ⟨rfl, those_next rfl⟩
  | didCreateTask => exact ⟨rfl, those_next rfl⟩
  | updateStatesForTask =>
    rw [execute]
    split <;> exact ⟨rfl, rfl⟩
  | didCreateInitialURLRequest request => exact ⟨rfl, rfl⟩
  | didFail error => exact ⟨rfl, those_next rfl⟩
  | startImmediately => exact resume_quiet
  | didCancel => exact ⟨rfl, rfl⟩
  | didCompleteTask error => exact ⟨rfl, those_next rfl⟩
  | retryOrFinish error =>
    rw [execute]
    split
    · exact ⟨rfl, those_next rfl⟩
    · exact ⟨rfl, those_async rfl⟩
  | finish => exact absurd rfl going
  | _ => cases other

/-- The first `finish` starts the serializers. -/
lemma ordered_finish (h : Ordered l s.driving s.handlers) :
    Ordered l (execute c serialize s .finish).driving (execute c serialize s .finish).handlers := by
  rw [execute]
  split
  · exact h
  · next idle =>
    rw [driving, those_next_of_pos rfl]
    show Ordered l (_ ::ₘ s.driving) { s.handlers with isFinishing := true }
    generalize s.driving = blocks at h
    generalize s.handlers = handlers at h idle
    cases h with
    | waiting =>
      refine .finishing _ [] List.nil_prefix ?_
      intro handler about
      cases about
    | finishing b completions start about => exact absurd rfl idle
    | finished blocks isFinishing main calls about start =>
      refine .finished _ true main calls ?_ start
      intro b mem
      rcases Multiset.mem_cons.1 mem with rfl | mem
      · rfl
      · exact about b mem

/-- While the serializers are run, the block that does it is replaced by another one, until the
completions are handed on. -/
lemma ordered_driver (driver : b.isDriver = true) {completions : List (η × Except AFError ω)}
    (start : completions.map Prod.fst <+: l)
    (about : ∀ handler, b.handler = some handler → l[completions.length]? = some handler)
    (rest : s.driving = 0) (handlers : s.handlers = {
      responseSerializers := l
      responseSerializerCompletions := completions
      isFinishing := true }) :
    Ordered l (execute c serialize s b).driving (execute c serialize s b).handlers := by
  have replaced (b' : Block η ω) (driver' : b'.isDriver = true)
      (about' : ∀ handler, b'.handler = some handler → l[completions.length]? = some handler) :
      Ordered l (b' ::ₘ s.driving) s.handlers := by
    rw [rest, handlers]
    exact .finishing b' completions start about'
  cases b with
  | processNextResponseSerializer =>
    rw [execute, handlers]
    split
    · next handler found =>
      rw [driving, those_async_of_pos rfl]
      exact replaced _ rfl fun _ same => Option.some.inj same ▸ found
    · rw [driving, those_next_of_pos rfl]
      apply replaced _ rfl
      intro handler about'
      cases about'
  | serialize handler =>
    rw [execute, driving, those_async_of_pos rfl]
    exact replaced _ rfl about
  | didSerialize handler result =>
    cases result with
    | ok value =>
      rw [execute, driving, those_next_of_pos rfl]
      exact replaced _ rfl about
    | error error =>
      rw [execute]
      split
      · rw [driving, those_next_of_pos rfl]
        exact replaced _ rfl about
      · rw [driving, those_async_of_pos rfl]
        exact replaced _ rfl about
  | responseSerializerDidComplete handler result =>
    rw [execute, driving, those_next_of_pos rfl]
    show Ordered l (_ ::ₘ s.driving) { s.handlers with responseSerializerCompletions :=
      s.handlers.responseSerializerCompletions ++ [(handler, result)] }
    rw [rest, handlers]
    refine .finishing _ (completions ++ [(handler, result)]) ?_ ?_
    · -- the handler is the one behind those that are complete
      obtain ⟨after, rfl⟩ := start
      have next := about handler rfl
      rw [List.getElem?_append_right (by simp), List.length_map, Nat.sub_self] at next
      cases after with
      | nil => cases next
      | cons first after =>
        cases next
        rw [List.map_append]
        exact ⟨after, by simp⟩
    · intro handler about'
      cases about'
  | completeProcessing =>
    show Ordered l s.driving { s.handlers with
      responseSerializers := []
      responseSerializerCompletions := []
      responseSerializerProcessingFinished := true
      isFinishing := false
      main := s.handlers.main ++ s.handlers.responseSerializerCompletions }
    rw [rest, handlers]
    refine .finished 0 false _ [] ?_ start
    intro b mem
    cases Multiset.notMem_zero b mem
  | _ => cases driver

/-- After the serializers were run, nothing is left for the blocks that run them. -/
lemma ordered_finished (driver : b.isDriver = true) (about : b.handler = none) {isFinishing : Bool}
    {main calls : List (η × Except AFError ω)} (rest : ∀ b ∈ s.driving, b.handler = none)
    (start : (calls ++ main).map Prod.fst <+: l)
    (handlers : s.handlers =
      { responseSerializerProcessingFinished := true, isFinishing, main, calls }) :
    Ordered l (execute c serialize s b).driving (execute c serialize s b).handlers := by
  cases b with
  | processNextResponseSerializer =>
    rw [execute, handlers]
    show Ordered l (s.next .completeProcessing).driving s.handlers
    rw [driving, those_next_of_pos rfl, handlers]
    refine .finished _ isFinishing main calls ?_ start
    intro b mem
    rcases Multiset.mem_cons.1 mem with rfl | mem
    · rfl
    · exact rest b mem
  | completeProcessing =>
    show Ordered l s.driving { s.handlers with
      responseSerializers := []
      responseSerializerCompletions := []
      responseSerializerProcessingFinished := true
      isFinishing := false
      main := s.handlers.main ++ s.handlers.responseSerializerCompletions }
    rw [handlers]
    exact .finished _ false _ calls rest (by rwa [List.append_nil])
  | serialize handler => cases about
  | didSerialize handler result => cases about
  | responseSerializerDidComplete handler result => cases about
  | _ => cases driver

/-- The block that stands next keeps the handlers in order. -/
lemma ordered_execute (h : Ordered l (only Block.isDriver (b ::ₘ s.agenda)) s.handlers) :
    Ordered l (execute c serialize s b).driving (execute c serialize s b).handlers := by
  cases driver : b.isDriver with
  | false =>
    rw [only_cons driver] at h
    by_cases finish : b = .finish
    · rw [finish]
      exact ordered_finish h
    · obtain ⟨handlers, driving⟩ :=
        execute_quiet c serialize s driver finish
      rw [handlers, driving]
      exact h
  | true =>
    rw [only_cons_of_pos driver] at h
    generalize before : b ::ₘ only Block.isDriver s.agenda = blocks at h
    generalize after : s.handlers = handlers at h
    cases h with
    | waiting => cases Multiset.cons_ne_zero before
    | finishing b' completions start about =>
      obtain ⟨rfl, rest⟩ := (Multiset.singleton_eq_cons_iff _).1 before.symm
      exact ordered_driver driver start about rest after
    | finished blocks isFinishing main calls about start =>
      subst before
      apply ordered_finished driver (about b (Multiset.mem_cons_self b _)) ?_ start after
      exact fun b' mem => about b' (Multiset.mem_cons_of_mem mem)

/-- The handlers that an event appends. -/
def appended : Event η → List η
  | .append handler => [handler]
  | _ => []

/-- Handlers are appended only before the serializers have been processed. -/
def InTime (s : DataRequest η ω) (e : Event η) : Prop :=
  s.handlers.responseSerializerProcessingFinished → appended e = []

lemma ordered_step {e : Event η} (h : Ordered l s.driving s.handlers) (inTime : s.InTime e)
    (run : step c serialize s e = some t) : Ordered (l ++ appended e) t.driving t.handlers := by
  have quiet (none : appended e = []) (handlers : t.handlers = s.handlers)
      (driving : t.driving = s.driving) : Ordered (l ++ appended e) t.driving t.handlers := by
    rw [none, List.append_nil, handlers, driving]
    exact h
  cases e with
  | append handler =>
    have early : s.handlers.responseSerializerProcessingFinished = false := by
      cases finished : s.handlers.responseSerializerProcessingFinished with
      | false => rfl
      | true => cases inTime finished
    cases run
    rw [append, driving, those_asyncIf rfl, handlers_asyncIf, handlers_asyncIf, early]
    show Ordered (l ++ [handler]) s.driving { s.handlers with
      responseSerializers := s.handlers.responseSerializers ++ [handler] }
    generalize s.driving = blocks at h
    generalize s.handlers = handlers at h early
    cases h with
    | waiting => exact .waiting
    | finishing b completions start about =>
      refine .finishing b completions (start.trans (List.prefix_append l _)) ?_
      intro handler about'
      have found := about handler about'
      rwa [List.getElem?_append_left (List.getElem?_eq_some_iff.1 found).1]
    | finished blocks isFinishing main calls about start => cases early
  | validate validator =>
    cases run
    exact quiet rfl rfl rfl
  | cancel =>
    cases run
    exact quiet rfl cancel_quiet.1 cancel_quiet.2
  | suspend =>
    cases run
    exact quiet rfl suspend_quiet.1 suspend_quiet.2
  | resume =>
    cases run
    exact quiet rfl resume_quiet.1 resume_quiet.2
  | dispatch q =>
    rw [step] at run
    split at run
    · next idle first =>
      cases run
      apply quiet rfl rfl
      rw [driving, those, agenda_dispatch idle first]
      rfl
    · cases run
  | proceed =>
    rw [step] at run
    split at run
    · next b l' running =>
      cases run
      rw [driving, those, agenda_running running] at h
      show Ordered (l ++ []) _ _
      rw [List.append_nil]
      exact ordered_execute h
    · cases run
  | call =>
    rw [step] at run
    split at run
    · next x main waiting =>
      cases run
      show Ordered (l ++ []) s.driving { s.handlers with
        main := main, calls := s.handlers.calls ++ [x] }
      rw [List.append_nil]
      generalize s.driving = blocks at h
      generalize s.handlers = handlers at h waiting
      cases h with
      | waiting => cases waiting
      | finishing b completions start about => cases waiting
      | finished blocks isFinishing main' calls about start =>
        cases waiting
        exact .finished blocks isFinishing main (calls ++ [x]) about (by simpa using start)
    · cases run
  | _ =>
    obtain ⟨task, made, -, -, told⟩ := of_session run
    have told := quiet_of_transfer told
    exact quiet rfl told.1 told.2

lemma ordered_run {es : List (Event η)} (h : Ordered l s.driving s.handlers)
    (inTime : Run.Steps (step c serialize) InTime s es)
    (run : Run.exec (step c serialize) s es = some t) :
    Ordered (l ++ es.flatMap appended) t.driving t.handlers := by
  induction es generalizing s l with
  | nil =>
    cases run
    rwa [List.flatMap_nil, List.append_nil]
  | cons e es ih =>
    obtain ⟨u, first, rest⟩ := Option.bind_eq_some_iff.1 run
    rw [List.flatMap_cons, ← List.append_assoc]
    exact ih (ordered_step h inTime.1 first) (inTime.2 u first) rest

/-- In every run of a request whose handlers are appended in time, and which any thread may cancel,
suspend and resume at any moment, the handlers are called in the order in which they were appended,
each once at most. -/
theorem calls_isPrefix {es : List (Event η)}
    (run : Run.exec (step c serialize) created es = some s)
    (inTime : Run.Steps (step c serialize) InTime created es) :
    (s.handlers.calls ++ s.handlers.main).map Prod.fst <+: es.flatMap appended := by
  have start : Ordered [] (created : DataRequest η ω).driving (created : DataRequest η ω).handlers := by
    rw [driving, those, agenda_created, only_cons rfl]
    exact .waiting
  have ordered := ordered_run start inTime run
  rw [List.nil_append] at ordered
  generalize s.driving = blocks at ordered
  generalize s.handlers = handlers at ordered
  cases ordered with
  | waiting => exact List.nil_prefix
  | finishing b completions start about => exact List.nil_prefix
  | finished blocks isFinishing main calls about start => exact start

end Execution

instance [DecidableEq η] (s : DataRequest η ω) (e : Event η) : Decidable (s.InTime e) :=
  inferInstanceAs (Decidable (_ → _))

/-- A request with two handlers that is cancelled before it is performed. -/
theorem calls_isPrefix_cancelled :
    let es : List (Event Nat) := [.append 1, .cancel, .append 2, .dispatch .root, .proceed,
      .dispatch .root, .proceed, .dispatch .root, .proceed, .dispatch .root, .proceed, .proceed,
      .dispatch .serialization, .proceed, .dispatch .root, .proceed, .proceed, .proceed,
      .dispatch .serialization, .proceed, .dispatch .root, .proceed, .proceed, .proceed, .proceed,
      .call, .call]
    ∃ s, Run.exec (step ⟨.error .createURLRequestFailed, .ok ()⟩
        fun handler => fun _ _ _ => .ok handler) created es = some s ∧
      (s.handlers.calls ++ s.handlers.main).map Prod.fst <+: [1, 2] := by
  intro es
  have returns : (Run.exec (step ⟨.error .createURLRequestFailed, .ok ()⟩
      fun (handler : Nat) => fun _ _ _ => Except.ok handler) created es).isSome := by decide
  obtain ⟨s, run⟩ := Option.isSome_iff_exists.1 returns
  exact ⟨s, run, calls_isPrefix run (by decide)⟩

end TimeCapsule.Foundation.DataRequest
