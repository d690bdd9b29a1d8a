/-!
Deadlines: one-shot times that are armed lazily.

The first pending piece of work decides when a deadline fires, so arming an armed deadline changes
nothing. Times are milliseconds on one clock, which need not be monotonic.
-/

namespace MetricPipeline

/-- A time at which something is due, if any. -/
structure Deadline where
  /-- The time, while the deadline is armed. -/
  time : Option Nat
  deriving DecidableEq, Repr

namespace Deadline

/-- A deadline without a time. -/
def unarmed : Deadline := { time := none }

/-- The deadline armed for a time; none when it already is armed. -/
def arm? (deadline : Deadline) (time : Nat) : Option Deadline :=
  match deadline.time with
  | some _ => none
  | none => some { time := some time }

/-- The deadline armed for a time, or as it is when it already is armed. -/
def arm (deadline : Deadline) (time : Nat) : Deadline := (deadline.arm? time).getD deadline

/-- Whether a deadline is armed for a time that has come. -/
def isDue (deadline : Deadline) (now : Nat) : Bool :=
  match deadline.time with
  | some time => time ≤ now
  | none => false

/-- The earlier of two times, either of which may be missing. -/
def earliest : Option Nat → Option Nat → Option Nat
  | some first, some second => some (min first second)
  | some first, none => some first
  | none, second => second

/-- An armed deadline keeps its time. -/
theorem arm_time (deadline : Deadline) (time : Nat) :
    (deadline.arm time).time = some (deadline.time.getD time) := by
  cases deadline with
  | mk armed => cases armed <;> rfl

theorem lt_of_not_isDue {deadline : Deadline} {now time : Nat}
    (early : ¬ deadline.isDue now = true) (armed : deadline.time = some time) : now < time := by
  rw [isDue, armed] at early
  simpa using early

theorem not_isDue {deadline : Deadline} {now : Nat}
    (waits : ∀ time, deadline.time = some time → now < time) : ¬ deadline.isDue now = true := by
  cases armed : deadline.time with
  | none => simp [isDue, armed]
  | some time => simpa [isDue, armed] using waits time armed

theorem earliest_eq_none {first second : Option Nat} :
    earliest first second = none ↔ first = none ∧ second = none := by
  cases first <;> cases second <;> simp [earliest]

/-- Something is due later than a time if both of its parts are. -/
theorem lt_earliest {first second : Option Nat} {now : Nat} :
    (∀ time, earliest first second = some time → now < time) ↔
      (∀ time, first = some time → now < time) ∧ ∀ time, second = some time → now < time := by
  cases first with
  | none => simp [earliest]
  | some first =>
    cases second with
    | none => simp [earliest]
    | some second =>
      simp only [earliest, Option.some.injEq, forall_eq']
      exact Nat.lt_min

end Deadline

end MetricPipeline
