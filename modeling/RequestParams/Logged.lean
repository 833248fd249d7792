import RequestParams.Event
import RequestParams.Rule

/-!
# Logged computations

A computation that reports is `Logged`: its result with its events, first to last. Rules are put to
values by `Rule.test` alone, which keeps each test on record beside the events. The record is not
shown to anyone; it says which rules have met which values.
-/

namespace RequestParams

/-- A rule put to a value. -/
structure RuleTest where
  /-- The rule. -/
  rule : Rule
  /-- The value it is put to. -/
  value : Value

/-- A result with the events reported and the rules tested on the way to it. -/
structure Logged (α : Type) where
  /-- The result. -/
  result : α
  /-- The events, first to last. -/
  events : List Event
  /-- The tests of rules, first to last. -/
  tests : List RuleTest

namespace Logged

variable {α β : Type}

/-- A result without events. -/
def ofResult (a : α) : Logged α := ⟨a, [], []⟩

/-- Reports an event. -/
def report (event : Event) : Logged Unit := ⟨(), [event], []⟩

/-- Continues with a result; the events and the tests of both parts follow each other. -/
def andThen (a : Logged α) (f : α → Logged β) : Logged β :=
  let b := f a.result
  ⟨b.result, a.events ++ b.events, a.tests ++ b.tests⟩

instance : Monad Logged where
  pure := ofResult
  bind := andThen

@[simp]
theorem result_pure (a : α) : (pure a : Logged α).result = a := rfl

@[simp]
theorem events_pure (a : α) : (pure a : Logged α).events = [] := rfl

@[simp]
theorem tests_pure (a : α) : (pure a : Logged α).tests = [] := rfl

@[simp]
theorem result_bind (a : Logged α) (f : α → Logged β) :
    (a >>= f).result = (f a.result).result := rfl

@[simp]
theorem events_bind (a : Logged α) (f : α → Logged β) :
    (a >>= f).events = a.events ++ (f a.result).events := rfl

@[simp]
theorem tests_bind (a : Logged α) (f : α → Logged β) :
    (a >>= f).tests = a.tests ++ (f a.result).tests := rfl

@[simp]
theorem events_report (event : Event) : (report event).events = [event] := rfl

@[simp]
theorem tests_report (event : Event) : (report event).tests = [] := rfl

end Logged

/-- Puts a rule to a value. -/
def Rule.test (rule : Rule) (value : Value) : Logged Bool :=
  ⟨rule.accepts value, [], [⟨rule, value⟩]⟩

end RequestParams
