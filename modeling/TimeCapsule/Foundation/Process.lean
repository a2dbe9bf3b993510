import TimeCapsule.Lib.EffSort

/-!
# The process: clock, shared date formatter, main thread

What the app's code uses of Foundation's dates. `dateFormatter` is one global mutable object, so the
format and the time zone that a parse sees are those that were set last, by whichever method ran
last. `Date()` reads the clock anew on each call. Strings are compared by Swift up to canonical
equivalence; a `String` here stands for its normal form, on which that is equality of scalars.
-/

namespace TimeCapsule.Foundation

/-- A `Date`, in seconds. -/
abbrev Date := Rat

/-- The settings of a `DateFormatter` that the code writes. -/
structure DateFormatter where
  dateFormat : String
  timeZone : String
deriving DecidableEq, Repr

/-- The state of the process that date computations depend on: what a formatter with given settings
parses, the settings of the global formatter, and the readings that the coming calls of `Date()`
return. -/
structure Process where
  date : DateFormatter → String → Option Date
  dateFormatter : DateFormatter
  clock : Nat → Date

/-- Code that runs on the main thread: it may change the process and may trap. -/
abbrev Main := StateT Process Option

/-- `Date()`. -/
def currentDate : Main Date := fun p =>
  some (p.clock 0, { p with clock := fun n => p.clock (n + 1) })

/-- `dateFormatter.dateFormat = …`. -/
def setDateFormat (dateFormat : String) : Main Unit := fun p =>
  some ((), { p with dateFormatter.dateFormat := dateFormat })

/-- `dateFormatter.timeZone = TimeZone(identifier: …)`. -/
def setTimeZone (identifier : String) : Main Unit := fun p =>
  some ((), { p with dateFormatter.timeZone := identifier })

/-- `dateFormatter.date(from: …)`. -/
def dateFrom (dateString : String) : Main (Option Date) := fun p =>
  some (p.date p.dateFormatter dateString, p)

/-- A forced unwrap. -/
def unwrap {α : Type} : Option α → Main α
  | some a => pure a
  | none => fun _ => none

/-! ## Frame -/

/-- What formatters parse is not changed. -/
def KeepsDate {α : Type} (x : Main α) : Prop := ∀ p a q, x p = some (a, q) → q.date = p.date

section KeepsDate
variable {α β : Type} {x : Main α} {f : α → Main β}

lemma KeepsDate.bind (hx : KeepsDate x) (hf : ∀ a, KeepsDate (f a)) : KeepsDate (x >>= f) := by
  intro p b q h
  obtain ⟨a, p1, h1, h2⟩ := EffSort.bind_eq_some.1 h
  exact (hf a p1 b q h2).trans (hx p a p1 h1)

lemma keepsDate_pure (a : α) : KeepsDate (pure a) := by
  intro p b q h
  cases EffSort.pure_eq_some.1 h
  rfl

lemma keepsDate_currentDate : KeepsDate currentDate := by
  intro p a q h
  cases h
  rfl

lemma keepsDate_setDateFormat (dateFormat : String) : KeepsDate (setDateFormat dateFormat) := by
  intro p a q h
  cases h
  rfl

lemma keepsDate_setTimeZone (identifier : String) : KeepsDate (setTimeZone identifier) := by
  intro p a q h
  cases h
  rfl

lemma keepsDate_dateFrom (dateString : String) : KeepsDate (dateFrom dateString) := by
  intro p a q h
  cases h
  rfl

lemma keepsDate_unwrap (a : Option α) : KeepsDate (unwrap a) := by
  cases a with
  | none => exact fun _ _ _ h => nomatch h
  | some a => exact keepsDate_pure a

end KeepsDate

/-- The code does not trap, whatever state it finds. -/
def Returns {α : Type} (x : Main α) : Prop := ∀ p, (x p).isSome

lemma Returns.bind {α β : Type} {x : Main α} {f : α → Main β} (hx : Returns x)
    (hf : ∀ a, Returns (f a)) : Returns (x >>= f) := by
  intro p
  obtain ⟨⟨a, q⟩, h⟩ := Option.isSome_iff_exists.1 (hx p)
  exact EffSort.bind_isSome.2 ⟨a, q, h, hf a q⟩

lemma returns_pure {α : Type} (a : α) : Returns (pure a) := fun _ => rfl

end TimeCapsule.Foundation
