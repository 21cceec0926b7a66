import Shdlc.Error
/-!
Files in memory, for programs that are to meet no disk. A path is followed name by name from the
root or from the directory that is worked in, and fails where a system would let it fail.
-/
namespace Shdlc

/-- Why a path leads to nothing that can be read or written. -/
inductive PathFault where
  | missing
  /-- A name is looked up in something that is no directory. -/
  | notDirectory
  /-- The path leads to a directory. -/
  | directory
  | tooLong
  /-- The path holds a character that ends paths for the system. -/
  | zeroByte
deriving DecidableEq, Repr

namespace PathFault

def kind : PathFault → SystemError.Kind
  | .missing => .notFound
  | .notDirectory => .notDirectory
  | .directory => .isDirectory
  | .tooLong => .invalidFilename
  | .zeroByte => .invalidInput

def description : PathFault → String
  | .missing => "No such file or directory"
  | .notDirectory => "Not a directory"
  | .directory => "Is a directory"
  | .tooLong => "File name too long"
  | .zeroByte => "Invalid argument"

/-- The number that the system gives the fault; a character that ends paths never gets there. -/
def number? : PathFault → Option Nat
  | .missing => some 2
  | .notDirectory => some 20
  | .directory => some 21
  | .tooLong => some 36
  | .zeroByte => none

def all : List PathFault := [.missing, .notDirectory, .directory, .tooLong, .zeroByte]

def ofNumber? (n : Nat) : Option PathFault := all.find? (·.number? == some n)

def ofKind? (kind : SystemError.Kind) : Option PathFault := all.find? (·.kind == kind)

def fileError (f : PathFault) : SystemError :=
  match f.number? with
  | some n => ⟨f.kind, f.description ++ " (os error " ++ toString n ++ ")"⟩
  | none => ⟨f.kind, "file name contained an unexpected NUL byte"⟩

def lineError (f : PathFault) : SystemError := ⟨f.kind, f.description⟩

end PathFault

/-- The error of a serial port that turns out to be none. -/
def SystemError.noLine : SystemError := ⟨.uncategorized, "Not a typewriter"⟩

/-- Files and directories. A place is given by the names on the way to it from the root. -/
structure Files where
  /-- The directory in which paths begin that do not begin at the root. -/
  working : List String := []
  /-- Directories that need not hold anything. -/
  directories : List (List String) := []
  contents : List (List String × Bytes) := []
deriving DecidableEq, Repr

namespace Files

/-- What is found at a place. -/
inductive Entry where
  | directory
  | file (content : Bytes)
deriving DecidableEq, Repr

def places (files : Files) : List (List String) :=
  files.working :: files.directories ++ files.contents.map (·.1)

/-- What is at a place, if anything is. What is on the way to another place is a directory. -/
def entry? (files : Files) (place : List String) : Option Entry :=
  match files.contents.lookup place with
  | some content => some (.file content)
  | none => if files.places.any (place.isPrefixOf ·) then some .directory else none

def maxName : Nat := 255

def maxPath : Nat := 4095

def enter (files : Files) (place : List String) (name : String) : Except PathFault (List String) :=
  match files.entry? place with
  | none => .error .missing
  | some (.file _) => .error .notDirectory
  | some .directory =>
    if maxName < name.utf8ByteSize then .error .tooLong
    else if name = "" ∨ name = "." then .ok place
    else if name = ".." then .ok place.dropLast
    else .ok (place ++ [name])

def follow (files : Files) (path : String) : Except PathFault (List String) :=
  if path.contains '\x00' then .error .zeroByte
  else if maxPath < path.utf8ByteSize then .error .tooLong
  else if path = "" then .error .missing
  else (path.splitOn "/").foldlM files.enter (if path.startsWith "/" then [] else files.working)

def look (files : Files) (path : String) : Except PathFault Bytes := do
  match files.entry? (← files.follow path) with
  | some (.file content) => return content
  | some .directory => throw .directory
  | none => throw .missing

def read (files : Files) (path : String) : Except SystemError Bytes :=
  (files.look path).mapError (·.fileError)

/-- Why a path is no serial port: a file is none either. -/
def lineError (files : Files) (path : String) : SystemError :=
  match files.look path with
  | .ok _ => .noLine
  | .error f => f.lineError

/-- Whether bytes can be added to a file, which need not exist. -/
def isAppendable (files : Files) (path : String) : Bool :=
  match files.follow path with
  | .ok place => files.entry? place != some .directory
  | .error _ => false

/-- Adds bytes to the file at the end of a path; a path that leads to none changes nothing. -/
def append (files : Files) (path : String) (bytes : Bytes) : Files :=
  match files.follow path with
  | .error _ => files
  | .ok place =>
    match files.entry? place with
    | some .directory => files
    | some (.file content) =>
      { files with contents := (place, content ++ bytes) :: files.contents.filter (·.1 != place) }
    | none => { files with contents := (place, bytes) :: files.contents }

end Files

end Shdlc
