import Shdlc.CommandLine.Run
import Shdlc.Log.Filter
import Shdlc.Log.Line
/-!
The program: it reads its arguments, sets up its log, does what it is asked for and reports a
failure.
-/
namespace Shdlc.CommandLine

def versionText : String := "shdlc 0.1.0"

/-- How a run ended, and what it did. -/
structure Completion where
  failure : Option Failure
  trace : List Effect

namespace Completion

def ofArguments (host : Host) (a : Arguments) : Completion :=
  match Run.perform host a #[] with
  | .ok _ trace => ⟨none, trace.toList⟩
  | .error e trace => ⟨some e, trace.toList⟩

def outputs (c : Completion) : List String :=
  c.trace.filterMap fun
    | .output line => some line
    | _ => none

def notes (c : Completion) : List Log.Note :=
  c.trace.filterMap fun
    | .note n => some n
    | _ => none

def requests (c : Completion) : List Bytes :=
  c.trace.filterMap fun
    | .request raw _ _ => some raw
    | _ => none

def pauses (c : Completion) : List Nat :=
  c.trace.filterMap fun
    | .pause n => some n
    | _ => none

def exit (c : Completion) : UInt32 := if c.failure.isSome then 1 else 0

def complaint (c : Completion) : Option String := c.failure.map fun e => "Error: " ++ e.message

end Completion

/-- Where a log goes, and which notes are written to it. -/
structure Logging where
  /-- The file that notes are appended to; without one they go where failures are told. -/
  path : Option String
  filter : Log.Filter

namespace Logging

/-- The file that the environment names for the log; a name of blanks counts for nothing. -/
def wanted? (environment : String → Option String) : Option String :=
  (environment "SHDLC_LOG_PATH").filter fun p => !(Text.trim p.toList).isEmpty

/-- The log that the environment asks for. A file that cannot be appended to counts for nothing. -/
def ofEnvironment (environment : String → Option String) (appendable : String → Bool) :
    Logging where
  path := (wanted? environment).filter appendable
  filter := Log.Filter.ofVariable (environment "RUST_LOG")

/-- The text that is written for notes: each that the filter admits, and the end of its line. -/
def text (l : Logging) (notes : List Log.Note) : String :=
  String.join ((notes.filter l.filter.admits).map (·.written ++ "\n"))

end Logging

/-- What the program was started with. -/
structure Invocation extends Host where
  words : List String
  environment : String → Option String

namespace Invocation

def completion (i : Invocation) : Except Usage Completion := do
  return .ofArguments i.toHost (← Arguments.ofWords i.environment i.words)

end Invocation

/-- The code with which the program ends when its arguments lead to no run. -/
def Usage.exit (u : Usage) : UInt32 := if u.isRequest then 0 else 2

end Shdlc.CommandLine
