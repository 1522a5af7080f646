/-!
# Log lines

An event is written as one line, the label of its severity and its message, if it is at least as
severe as the logger's threshold.
-/

namespace CompilerDriver

inductive Severity where
  | debug
  | info
  | warning
  | error
  | critical
  deriving DecidableEq, Repr

namespace Severity

def rank : Severity → Nat
  | debug => 10
  | info => 20
  | warning => 30
  | error => 40
  | critical => 50

def name : Severity → String
  | debug => "debug"
  | info => "info"
  | warning => "warning"
  | error => "error"
  | critical => "critical"

def label : Severity → String
  | debug => "DEBUG"
  | info => "INFO"
  | warning => "WARNING"
  | error => "ERROR"
  | critical => "CRITICAL"

/-- What a run logs: warnings and worse, and with `-v` informational messages too. -/
def thresholdFor (verbose : Bool) : Severity :=
  if verbose then info else warning

end Severity

structure LogEvent where
  severity : Severity
  message : String
  deriving DecidableEq, Repr

abbrev LogFormat := LogEvent → String

namespace LogFormat

def plain : LogFormat := fun event =>
  event.severity.label ++ ": " ++ event.message

/-- A terminal's colour sequence around a text. -/
def paint (start stop : String) (text : String) : String :=
  "\x1b[" ++ start ++ "m" ++ text ++ "\x1b[" ++ stop ++ "m"

def colouredLabel : Severity → String
  | .debug => paint "90" "39" (Severity.label .debug)
  | .info => paint "36" "39" (Severity.label .info)
  | .warning => paint "33" "39" (Severity.label .warning)
  | .error => paint "31" "39" (Severity.label .error)
  | .critical => paint "1" "22" (paint "31" "39" (Severity.label .critical))

/-- Only the label is coloured. -/
def coloured : LogFormat := fun event =>
  colouredLabel event.severity ++ ": " ++ event.message

def pick (colours : Bool) : LogFormat :=
  if colours then coloured else plain

end LogFormat

structure Logger where
  threshold : Severity := .warning
  format : LogFormat := LogFormat.coloured

/-- The lines that an event adds: one, or none below the threshold. -/
def Logger.lines (logger : Logger) (event : LogEvent) : List String :=
  if event.severity.rank < logger.threshold.rank then [] else [logger.format event]

end CompilerDriver
