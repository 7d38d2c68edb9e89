/-!
Steps that have no answer. Most failures of the agent are values of their own error types and are
reported; an `Abort` ends the operation it happens in without an answer.
-/
namespace Steward

inductive Abort where
  /-- A date was moved past the end of the calendar. -/
  | offCalendar
  /-- A text was cut inside a character. -/
  | splitCharacter
  /-- A message queue was asked for with no room in it, or with more than there can be. -/
  | noCapacity
  /-- A handler gave up on its own. -/
  | gaveUp
deriving DecidableEq, Repr

end Steward
