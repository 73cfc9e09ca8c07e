/-! Events for the log: a level, a target and named texts. -/

namespace BoundSql

inductive Level where
  | debug
  | error
  deriving DecidableEq

def Level.name : Level → String
  | debug => "DEBUG"
  | error => "ERROR"

structure Event where
  level : Level
  target : String
  fields : List (String × String)
  deriving DecidableEq

def Event.noted (level : Level) (target message : String) (fields : List (String × String)) : Event :=
  ⟨level, target, ("message", message) :: fields⟩

end BoundSql
