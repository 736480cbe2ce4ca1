import TypeShape.Description.Event

/-!
# Attempts

An attempt is a computation that reports events and ends in a value or in an error. Attempts run one
after the other: the events follow each other, and after an error nothing more is run. Main
statements: the laws of `bind`.
-/

namespace TypeShape

/-- The events reported on the way, and how it ended. -/
structure Attempt (α : Type) where
  /-- The events, in the order in which they were reported. -/
  events : List Event
  /-- The value, or why there is none. -/
  outcome : Except DescribeError α

namespace Attempt

variable {α β γ : Type}

/-- A value, without any event. -/
def done (value : α) : Attempt α := ⟨[], .ok value⟩

/-- An error, without any event. -/
def fail (error : DescribeError) : Attempt α := ⟨[], .error error⟩

/-- Goes on with the value, if there is one. -/
def bind (attempt : Attempt α) (next : α → Attempt β) : Attempt β :=
  match attempt.outcome with
  | .ok value => ⟨attempt.events ++ (next value).events, (next value).outcome⟩
  | .error error => ⟨attempt.events, .error error⟩

def map (f : α → β) (attempt : Attempt α) : Attempt β := ⟨attempt.events, attempt.outcome.map f⟩

/-- Reports the event that a successful value calls for. -/
def reporting (event : α → Event) (attempt : Attempt α) : Attempt α :=
  attempt.bind fun value => ⟨[event value], .ok value⟩

theorem map_eq_bind (f : α → β) (attempt : Attempt α) :
    attempt.map f = attempt.bind fun value => done (f value) := by
  obtain ⟨events, outcome⟩ := attempt
  cases outcome <;> simp [map, bind, done, Except.map]

@[simp] theorem done_bind (value : α) (next : α → Attempt β) :
    (done value).bind next = next value := rfl

@[simp] theorem fail_bind (error : DescribeError) (next : α → Attempt β) :
    (fail error).bind next = fail error := rfl

@[simp] theorem bind_done (attempt : Attempt α) : attempt.bind done = attempt := by
  obtain ⟨events, outcome⟩ := attempt
  cases outcome <;> simp [bind, done]

theorem bind_assoc (attempt : Attempt α) (f : α → Attempt β) (g : β → Attempt γ) :
    (attempt.bind f).bind g = attempt.bind fun value => (f value).bind g := by
  obtain ⟨events, outcome⟩ := attempt
  cases outcome with
  | error e => rfl
  | ok value =>
    simp only [bind]
    cases (f value).outcome <;> simp

@[simp] theorem outcome_reporting (event : α → Event) (attempt : Attempt α) :
    (attempt.reporting event).outcome = attempt.outcome := by
  obtain ⟨events, outcome⟩ := attempt
  cases outcome <;> rfl

/-- Both attempts end alike: in values equal under `==`, or in the same error. -/
def sameOutcome [BEq α] (a b : Attempt α) : Bool :=
  match a.outcome, b.outcome with
  | .ok x, .ok y => x == y
  | .error e, .error f => e == f
  | _, _ => false

end Attempt

end TypeShape
