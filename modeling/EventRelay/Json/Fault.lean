namespace EventRelay.Json

/-- Why a text does not hold a value of the wanted shape. Reading goes from left to right and reports
    the first fault that it meets. -/
inductive Fault
  /-- The text ends before the value does. -/
  | truncated
  /-- The text is no JSON, or goes on after the value. -/
  | malformed
  /-- The text is JSON so far, but not what is wanted: another type, a missing or repeated name, a
      number out of range. -/
  | mismatched
  deriving DecidableEq, Repr

end EventRelay.Json
