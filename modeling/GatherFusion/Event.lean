/-!
# Events

What happens during a pass is told by events, each with a severity and a wording. A listener names
the least severe events it wants to hear of.
-/
namespace GatherFusion

/-- How much an event matters. -/
inductive Severity where
  /-- Something failed. -/
  | error
  /-- Something is not as it should be. -/
  | warn
  /-- Something worth knowing. -/
  | info
  /-- A decision. -/
  | debug
  /-- A step towards a decision. -/
  | trace
  deriving DecidableEq, Repr

namespace Severity

/-- Position among the severities, the most severe first. -/
def rank : Severity → Nat
  | error => 0
  | warn => 1
  | info => 2
  | debug => 3
  | trace => 4

/-- The severity in capitals. -/
def label : Severity → String
  | error => "ERROR"
  | warn => "WARN"
  | info => "INFO"
  | debug => "DEBUG"
  | trace => "TRACE"

/-- Whether a listener at this threshold hears an event of the given severity. -/
def hears (threshold severity : Severity) : Bool := severity.rank ≤ threshold.rank

end Severity

/-- Something that happened. -/
structure Event where
  /-- How much it matters. -/
  severity : Severity
  /-- What happened. -/
  message : String
  deriving DecidableEq, Repr

/-- The severity and the wording on one line. -/
def Event.line (event : Event) : String := s!"{event.severity.label} {event.message}"

end GatherFusion
