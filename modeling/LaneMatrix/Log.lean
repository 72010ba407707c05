/-!
# Log lines

A line has a level, the part of the program that wrote it, and a text. A log that is set to some
level shows the lines of that level and of every graver one.
-/

namespace LaneMatrix.Log

inductive Level where
  | error | warn | info | debug | trace
  deriving DecidableEq

namespace Level

def rank : Level → Nat
  | error => 1
  | warn => 2
  | info => 3
  | debug => 4
  | trace => 5

def text : Level → String
  | error => "ERROR"
  | warn => "WARN"
  | info => "INFO"
  | debug => "DEBUG"
  | trace => "TRACE"

end Level

structure Line where
  level : Level
  target : String
  text : String
  deriving DecidableEq

/-- Which lines are shown: none at all, or those up to a level. -/
inductive Filter where
  | off
  | upTo (level : Level)
  deriving DecidableEq

namespace Filter

def shows : Filter → Level → Bool
  | off, _ => false
  | upTo limit, level => level.rank ≤ limit.rank

/-- A filter is set by the name of a level, or by `off`. -/
def ofText? : String → Option Filter
  | "off" => some off
  | "error" => some (upTo .error)
  | "warn" => some (upTo .warn)
  | "info" => some (upTo .info)
  | "debug" => some (upTo .debug)
  | "trace" => some (upTo .trace)
  | _ => none

/-- Without a setting, or with one that does not hold text, only errors are shown. -/
def ofSetting? (raw : Option ByteArray) : Option Filter :=
  match raw.bind String.fromUTF8? with
  | none => some (upTo .error)
  | some text => ofText? text

end Filter

end LaneMatrix.Log
