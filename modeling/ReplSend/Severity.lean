import ReplSend.Text.Basic

/-!
# Severities

How much a log record matters. A sink takes the records of its own severity and of those above.
-/

namespace ReplSend

inductive Severity where
  | trace
  | debug
  | info
  | success
  | warning
  | error
  | critical
  deriving DecidableEq, Repr

namespace Severity

def name : Severity → Text
  | trace => "TRACE"
  | debug => "DEBUG"
  | info => "INFO"
  | success => "SUCCESS"
  | warning => "WARNING"
  | error => "ERROR"
  | critical => "CRITICAL"

/-- All severities, the least first. -/
def all : List Severity := [trace, debug, info, success, warning, error, critical]

def ofName? (n : Text) : Option Severity := all.find? (·.name = n)

/-- The place among all severities. -/
def rank : Severity → Nat
  | trace => 0
  | debug => 1
  | info => 2
  | success => 3
  | warning => 4
  | error => 5
  | critical => 6

/-- A record of severity `s` gets through to a sink with this threshold. -/
def passes (s threshold : Severity) : Bool := threshold.rank ≤ s.rank

theorem ofName?_name (s : Severity) : ofName? s.name = some s := by
  cases s <;> decide

end Severity

end ReplSend
