import SchemaDoc.Text.Basic

/-!
Contract: entries of the log.
-/

namespace SchemaDoc.Log

/-- The weight of an entry. -/
inductive Level where
  | trace
  | debug
  | info
  | success
  | warning
  | error
  | critical
deriving DecidableEq, Repr

namespace Level

def all : List Level := [.trace, .debug, .info, .success, .warning, .error, .critical]

def name : Level → Text
  | .trace => "TRACE".toList
  | .debug => "DEBUG".toList
  | .info => "INFO".toList
  | .success => "SUCCESS".toList
  | .warning => "WARNING".toList
  | .error => "ERROR".toList
  | .critical => "CRITICAL".toList

/-- The number that thresholds compare. -/
def number : Level → Nat
  | .trace => 5
  | .debug => 10
  | .info => 20
  | .success => 25
  | .warning => 30
  | .error => 40
  | .critical => 50

end Level

structure Record where
  level : Level
  message : Text
deriving DecidableEq, Repr

namespace Record

def info (message : Text) : Record := ⟨.info, message⟩

def warning (message : Text) : Record := ⟨.warning, message⟩

def error (message : Text) : Record := ⟨.error, message⟩

end Record

end SchemaDoc.Log
