import ByteMachine.Loading
import ByteMachine.Text.Blank

/-!
# Settings

Switches that are set by environment variables. They bear on what is reported and not on what a
program does.
-/

namespace ByteMachine

/-- Warnings and errors are logged if nothing else is asked for. -/
def Settings.defaultVerbosity : Verbosity := .upTo .warn

/-- The switches, and how much is logged beside them. -/
structure Settings where
  /-- Trace each instruction. -/
  trace : Bool := false
  /-- Warn about lines of the program that are skipped. -/
  warnUnparsable : Bool := false
  /-- How much is logged if nothing else is asked for. No switch bears on it. -/
  logLevel : Verbosity := Settings.defaultVerbosity
  deriving DecidableEq

namespace Settings

def traceVariable : String := "LS8_TRACE"

def warnUnparsableVariable : String := "LS8_WARN_UNPARSABLE"

def verbosityVariable : String := "RUST_LOG"

/-- Whether a value turns a switch on. Blanks around it and the case of its ASCII letters do not
matter. -/
def isOn (value : String) : Bool :=
  ["1", "true", "yes", "on"].contains
    (String.ofList ((Text.trim value.toList).map Char.toLower))

/-- The settings in a table of variables. -/
def ofLookup (lookup : String → Option String) : Settings where
  trace := (lookup traceVariable).any isOn
  warnUnparsable := (lookup warnUnparsableVariable).any isOn

/-- The settings in an environment. A value that is not UTF-8 counts as absent. -/
def ofEnvironment (value : String → Option ByteArray) : Settings :=
  ofLookup fun key => (value key).bind String.fromUTF8?

/-- What the settings ask of loading a program. -/
def loaderOptions (s : Settings) : LoaderOptions where
  warnUnparsable := s.warnUnparsable

/-- How much is logged, given a table of variables. One of them can overrule the settings. -/
def verbosity (lookup : String → Option String) : Verbosity :=
  ((lookup verbosityVariable).bind Verbosity.ofName?).getD (ofLookup lookup).logLevel

end Settings

end ByteMachine
