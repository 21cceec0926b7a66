/-!
Grammars of command lines. A command has options and positional arguments, and possibly commands
below it, whose words follow its own. The value of an option is examined when the next option or
positional argument begins, or when the words of the command are over; those of the commands below
come first.
-/
namespace Shdlc.CommandLine

/-- Why a command line leads to no run. -/
inductive Usage where
  | argumentConflict
  | displayHelp
  | displayHelpOnMissing
  | displayVersion
  | invalidSubcommand
  | invalidValue
  | missingRequired
  | missingSubcommand
  | tooManyValues
  | unknownArgument
  | valueValidation
deriving DecidableEq, Repr

namespace Usage

/-- Whether nothing was wrong: help or the version was asked for. -/
def isRequest : Usage → Bool
  | .displayHelp | .displayVersion => true
  | _ => false

end Usage

/-- An option or a positional argument. -/
structure Parameter where
  name : String
  takesValue : Bool := true
  required : Bool := false
  /-- The variable whose value counts when the option is not given. -/
  fallback : Option String := none
  /-- What is wrong with a value, if anything is. -/
  check : String → Option Usage := fun _ => none

/-- A command, with the commands below it. -/
structure Grammar where
  name : String
  options : List Parameter := []
  positionals : List Parameter := []
  /-- Whether it can be asked for its version. -/
  hasVersion : Bool := false
  subcommands : List Grammar := []

namespace Grammar

def subcommand? (g : Grammar) (word : String) : Option Grammar :=
  g.subcommands.find? (·.name == word)

/-- Whether the command has a command `help` below it: it does if there are others. -/
def hasHelp (g : Grammar) : Bool := !g.subcommands.isEmpty

end Grammar

/-- Where a value comes from; what is given on the command line counts for more. -/
inductive Origin where
  | environment
  | given
deriving DecidableEq, Repr

/-- The value of a parameter. -/
structure Setting where
  name : String
  origin : Origin
  value : String
deriving DecidableEq, Repr

/-- What the words of one command set. -/
structure Level where
  command : String
  settings : List Setting
deriving DecidableEq, Repr

/-- How far the words of a command have been read. -/
structure Scan where
  settings : List Setting := []
  /-- The parameter whose value has not been examined yet, with the value once it is there. -/
  pending : Option (Parameter × Option String) := none
  /-- The count of positional arguments so far. -/
  position : Nat := 0
  /-- Whether all further words are positional arguments. -/
  literal : Bool := false

namespace Scan

def expecting (s : Scan) : Bool :=
  match s.pending with
  | some (_, none) => true
  | _ => false

/-- Sets a parameter, which may be set only once. -/
def set (s : Scan) (p : Parameter) (value : String) : Except Usage Scan :=
  if s.settings.any (·.name == p.name) then .error .argumentConflict
  else match p.check value with
    | some usage => .error usage
    | none => .ok { s with settings := s.settings ++ [⟨p.name, .given, value⟩] }

def settle (s : Scan) : Except Usage Scan :=
  match s.pending with
  | none => .ok s
  | some (_, none) => .error .invalidValue
  | some (p, some value) => { s with pending := none }.set p value

/-- Fails with what was asked for, unless the pending value is wrong. -/
def request (s : Scan) (usage : Usage) : Except Usage Scan := do
  let _ ← s.settle
  throw usage

/-- Reads an option by its long name, with the value attached to it. -/
def option (g : Grammar) (s : Scan) (name : String) (attached : Option String) :
    Except Usage Scan :=
  let flag (next : Except Usage Scan) : Except Usage Scan :=
    if attached.isSome then .error .tooManyValues else next
  if name == "help" then flag (s.request .displayHelp)
  else if name == "version" && g.hasVersion then flag (s.request .displayVersion)
  else match g.options.find? (·.name == name) with
    | none => .error .unknownArgument
    | some p =>
      if p.takesValue then do
        let s ← s.settle
        match attached with
        | some value => s.set p value
        | none => return { s with pending := some (p, none) }
      else flag (do (← s.settle).set p "")

/-- Reads options by their letters, of which the first decides. -/
def letters (g : Grammar) (s : Scan) : List Char → Except Usage Scan
  | 'h' :: _ => s.request .displayHelp
  | 'V' :: _ => if g.hasVersion then s.request .displayVersion else .error .unknownArgument
  | _ => .error .unknownArgument

/-- Reads a positional argument. A word that fits nowhere is refused even if the pending value is
wrong too. -/
def positional (g : Grammar) (s : Scan) (word : String) : Except Usage Scan :=
  match g.positionals[s.position]? with
  | some p => do
    return { ← s.settle with pending := some (p, some word), position := s.position + 1 }
  | none =>
    if s.literal && ((g.subcommand? word).isSome || (g.hasHelp && word == "help")) then
      .error .unknownArgument
    else if g.subcommands.isEmpty then .error .unknownArgument
    else .error .invalidSubcommand

/-- Ends the words of a command; `descended` tells whether a command below it followed. -/
def finish (environment : String → Option String) (g : Grammar) (descended : Bool) (s : Scan) :
    Except Usage Level := do
  let s ← s.settle
  let inherited := g.options.filterMap fun p =>
    if s.settings.any (·.name == p.name) then none
    else (p.fallback.bind environment).map fun value => ⟨p.name, .environment, value⟩
  let settings := s.settings ++ inherited
  if !descended && !g.subcommands.isEmpty then
    throw (if settings.isEmpty then .displayHelpOnMissing else .missingSubcommand)
  if (g.options ++ g.positionals).any fun p =>
      p.required && !settings.any (·.name == p.name) then
    throw .missingRequired
  return ⟨g.name, settings⟩

end Scan

/-- How a word looks. -/
inductive Shape where
  /-- Two dashes: from now on all words are positional arguments. -/
  | escape
  | long (name : String) (attached : Option String)
  | letters (letters : List Char)
  | plain

namespace Shape

/-- The text in front of the first equals sign, and the text behind it. -/
def split (cs : List Char) : String × Option String :=
  (String.ofList (cs.takeWhile (· != '=')),
    match cs.dropWhile (· != '=') with
    | [] => none
    | _ :: value => some (String.ofList value))

def ofWord (word : String) : Shape :=
  match word.toList with
  | ['-', '-'] => .escape
  | '-' :: '-' :: rest => let (name, attached) := split rest; .long name attached
  | ['-'] => .plain
  | '-' :: rest => .letters rest
  | _ => .plain

end Shape

/-- Follows the words behind `help`, each of which must name a command below the one before. -/
def help (g : Grammar) : List String → Usage
  | [] => .displayHelp
  | word :: rest =>
    match g.subcommand? word with
    | some sub => help sub rest
    | none =>
      if g.hasHelp && word == "help" && rest.isEmpty then .displayHelp else .invalidSubcommand

/-- What the words of a command and of the commands below it set. -/
def parse (environment : String → Option String) (g : Grammar) (s : Scan) :
    List String → Except Usage (List Level)
  | [] => do return [← s.finish environment g false]
  | word :: rest =>
    if s.literal then do parse environment g (← s.positional g word) rest
    else match if s.expecting then none else g.subcommand? word with
      | some sub => do
        let below ← parse environment sub {} rest
        return (← s.finish environment g true) :: below
      | none =>
        if !s.expecting && g.hasHelp && word == "help" then .error (help g rest)
        else match Shape.ofWord word with
          | .escape => parse environment g { s with literal := true } rest
          | .long name attached => do parse environment g (← s.option g name attached) rest
          | .letters letters => do parse environment g (← s.letters g letters) rest
          | .plain => match s.pending with
            | some (p, none) => parse environment g { s with pending := some (p, some word) } rest
            | _ => do parse environment g (← s.positional g word) rest

/-- The value that a parameter of all commands has after all levels. A deeper level counts for more,
unless its value comes from the environment and the other was given. -/
def setting? (levels : List Level) (name : String) : Option String :=
  (levels.foldl (fun before level =>
    match before, level.settings.find? (·.name == name) with
    | some b, some s => if b.origin = .given ∧ s.origin = .environment then some b else some s
    | some b, none => some b
    | none, found => found) (none : Option Setting)).map (·.value)

end Shdlc.CommandLine
