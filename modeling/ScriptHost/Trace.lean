/-
This file holds the warnings and errors that a run reports.
-/

namespace ScriptHost

inductive Severity where
  | warn
  | error
  deriving DecidableEq, Repr

/-- The fields are named texts beside the message. -/
structure TraceRecord where
  severity : Severity
  target : String
  message : String
  fields : List (String × String)
  deriving DecidableEq, Repr

def warning (target message : String) (fields : List (String × String)) : TraceRecord :=
  ⟨.warn, target, message, fields⟩

def failure (target message : String) (fields : List (String × String)) : TraceRecord :=
  ⟨.error, target, message, fields⟩

/-- A fault is an error that host code returned, outermost cause first, or a panic of it. -/
inductive Fault where
  | error (causes : List String)
  | panicked (message : String)
  deriving DecidableEq, Repr

def Fault.display : Fault → String
  | .error causes => String.intercalate ": " causes
  | .panicked message => s!"panicked: {message}"

/-- This is the message of a panic that carries no text. -/
def silentPanic : String := "non-string panic payload"

end ScriptHost
