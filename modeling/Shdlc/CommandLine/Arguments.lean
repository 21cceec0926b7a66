import Shdlc.CommandLine.Grammar
import Shdlc.Text.Number
/-! The arguments of the program: their grammar, and what they mean. -/
namespace Shdlc.CommandLine

/-- Where an image is and how the firmware is laid out. -/
structure ImageArguments where
  path : String
  bootloader : UInt32
  application : UInt32
  /-- Bytes in base 16. -/
  signature : Option String
  versionOffset : Option UInt32
deriving DecidableEq, Repr

/-- What the program is to do. -/
inductive Task where
  | info
  | version
  /-- Tells the error state, which is cleared unless it is to be kept. -/
  | errorState (keep : Bool)
  | uptime
  | address (new : Option UInt8)
  | baudrate (new : Option UInt32)
  | replyDelay (new : Option UInt16)
  | reset
  | factoryReset
  /-- Sends a command with data in base 16 and waits so many milliseconds. -/
  | raw (command : UInt8) (data : Option String) (timeout : Nat)
  | inspect (image : ImageArguments)
  | update (image : ImageArguments) (emergency : Bool)
deriving DecidableEq, Repr

/-- What the command line says. -/
structure Arguments where
  serial : Option String
  /-- Host and number, with a colon between them. -/
  tcp : Option String
  baudrate : UInt32
  address : UInt8
  /-- Whether answers are printed in JSON. -/
  json : Bool
  task : Task
deriving DecidableEq, Repr

namespace Arguments

def checkNumber (limit : Nat) (text : String) : Option Usage :=
  match Text.number limit text with
  | .ok _ => none
  | .error _ => some .valueValidation

/-- Refuses what is no plain decimal number of 64 bits. -/
def checkMilliseconds (text : String) : Option Usage :=
  match Text.readUnsigned 10 Text.maxWord text.toList with
  | .ok _ => none
  | .error _ => some .valueValidation

def checkPath (text : String) : Option Usage := if text.isEmpty then some .invalidValue else none

def common : List Parameter :=
  [{ name := "serial", fallback := some "SHDLC_SERIAL" },
    { name := "tcp", fallback := some "SHDLC_TCP" },
    { name := "baudrate", check := checkNumber 0xFFFFFFFF },
    { name := "address", check := checkNumber 0xFF },
    { name := "json", takesValue := false }]

def command (name : String) (options positionals : List Parameter) : Grammar :=
  { name, options := common ++ options, positionals }

def setter (name : String) (limit : Nat) : Grammar :=
  command name [{ name := "set", check := checkNumber limit }] []

def imageCommand (name : String) (options : List Parameter) : Grammar :=
  command name
    ([{ name := "bl-addr", required := true, check := checkNumber 0xFFFFFFFF },
      { name := "app-addr", required := true, check := checkNumber 0xFFFFFFFF },
      { name := "signature" },
      { name := "bl-version-offset", check := checkNumber 0xFFFFFFFF }] ++ options)
    [{ name := "hex", required := true, check := checkPath }]

def grammar : Grammar where
  name := "shdlc"
  options := common
  hasVersion := true
  subcommands :=
    [command "info" [] [], command "version" [] [],
      command "error-state" [{ name := "keep", takesValue := false }] [],
      command "uptime" [] [], setter "address" 0xFF, setter "baudrate" 0xFFFFFFFF,
      setter "reply-delay" 0xFFFF, command "reset" [] [], command "factory-reset" [] [],
      command "raw" [{ name := "timeout-ms", check := checkMilliseconds }]
        [{ name := "command", required := true, check := checkNumber 0xFF }, { name := "data" }],
      { name := "firmware"
        options := common
        subcommands :=
          [imageCommand "inspect" [],
            imageCommand "update" [{ name := "emergency", takesValue := false }]] }]

/-- The number that a text stands for, which has been checked already. -/
def numberOf (text : String) : Nat := (Text.number Text.maxWord text).toOption.getD 0

variable (levels : List Level)

def own? (name : String) : Option String :=
  levels.getLast?.bind fun level => (level.settings.find? (·.name == name)).map (·.value)

/-- The value of a parameter of the last command as a number. -/
def ownNumber? (name : String) : Option Nat := (own? levels name).map numberOf

/-- What the parameters of the last command say of an image. -/
def imageOf : ImageArguments where
  path := (own? levels "hex").getD ""
  bootloader := ((ownNumber? levels "bl-addr").getD 0).toUInt32
  application := ((ownNumber? levels "app-addr").getD 0).toUInt32
  signature := own? levels "signature"
  versionOffset := (ownNumber? levels "bl-version-offset").map Nat.toUInt32

def taskOf : Task :=
  match (levels.getLast?.map (·.command)).getD "" with
  | "info" => .info
  | "version" => .version
  | "error-state" => .errorState (own? levels "keep").isSome
  | "uptime" => .uptime
  | "address" => .address ((ownNumber? levels "set").map Nat.toUInt8)
  | "baudrate" => .baudrate ((ownNumber? levels "set").map Nat.toUInt32)
  | "reply-delay" => .replyDelay ((ownNumber? levels "set").map Nat.toUInt16)
  | "reset" => .reset
  | "factory-reset" => .factoryReset
  | "raw" =>
    .raw ((ownNumber? levels "command").getD 0).toUInt8 (own? levels "data")
      ((ownNumber? levels "timeout-ms").getD 1000)
  | "inspect" => .inspect (imageOf levels)
  | _ => .update (imageOf levels) (own? levels "emergency").isSome

def ofLevels : Arguments where
  serial := setting? levels "serial"
  tcp := setting? levels "tcp"
  baudrate := (((setting? levels "baudrate").map numberOf).getD 115200).toUInt32
  address := (((setting? levels "address").map numberOf).getD 0).toUInt8
  json := (setting? levels "json").isSome
  task := taskOf levels

def ofWords (environment : String → Option String) (words : List String) :
    Except Usage Arguments := do
  return ofLevels (← parse environment grammar {} words)

end Arguments

end Shdlc.CommandLine
