import Telnet.Value

/-!
# Command and option codes

The bytes of a negotiation: a command follows the escape byte, an option follows most commands, and
a subnegotiation has a verb of its own. Codes have short names of which some options have two.
-/

namespace Telnet

/-- A name in a family of codes: the name itself, the first name of its code, and the code. -/
structure CodeName where
  key : String
  name : String
  code : Nat
  deriving DecidableEq, Repr

inductive Command where
  | endOfFile | suspend | abort | endOfRecord | subEnd | noOperation | dataMark | break_
  | interruptProcess | abortOutput | areYouThere | eraseCharacter | eraseLine | goAhead | subBegin
  | will | wont | do_ | dont | escape
  deriving DecidableEq, Repr

namespace Command

def all : List Command :=
  [.endOfFile, .suspend, .abort, .endOfRecord, .subEnd, .noOperation, .dataMark, .break_,
    .interruptProcess, .abortOutput, .areYouThere, .eraseCharacter, .eraseLine, .goAhead, .subBegin,
    .will, .wont, .do_, .dont, .escape]

def code : Command → UInt8
  | .endOfFile => 236
  | .suspend => 237
  | .abort => 238
  | .endOfRecord => 239
  | .subEnd => 240
  | .noOperation => 241
  | .dataMark => 242
  | .break_ => 243
  | .interruptProcess => 244
  | .abortOutput => 245
  | .areYouThere => 246
  | .eraseCharacter => 247
  | .eraseLine => 248
  | .goAhead => 249
  | .subBegin => 250
  | .will => 251
  | .wont => 252
  | .do_ => 253
  | .dont => 254
  | .escape => 255

def name : Command → String
  | .endOfFile => "EOF"
  | .suspend => "SUSP"
  | .abort => "ABORT"
  | .endOfRecord => "EOR"
  | .subEnd => "SE"
  | .noOperation => "NOP"
  | .dataMark => "DM"
  | .break_ => "BRK"
  | .interruptProcess => "IP"
  | .abortOutput => "AO"
  | .areYouThere => "AYT"
  | .eraseCharacter => "EC"
  | .eraseLine => "EL"
  | .goAhead => "GA"
  | .subBegin => "SB"
  | .will => "WILL"
  | .wont => "WONT"
  | .do_ => "DO"
  | .dont => "DONT"
  | .escape => "IAC"

def ofCode? (n : Int) : Option Command :=
  all.find? fun c => decide ((c.code.toNat : Int) = n)

/-- The names of the commands. -/
def names : List CodeName :=
  all.map fun c => ⟨c.name, c.name, c.code.toNat⟩

end Command

inductive TelnetOption where
  | binary | echo | suppressGoAhead | terminalType | windowSize
  deriving DecidableEq, Repr

namespace TelnetOption

def all : List TelnetOption := [.binary, .echo, .suppressGoAhead, .terminalType, .windowSize]

def code : TelnetOption → UInt8
  | .binary => 0
  | .echo => 1
  | .suppressGoAhead => 3
  | .terminalType => 24
  | .windowSize => 31

def name : TelnetOption → String
  | .binary => "BINARY"
  | .echo => "ECHO"
  | .suppressGoAhead => "SGA"
  | .terminalType => "TTYPE"
  | .windowSize => "NAWS"

/-- A second name that some options have. -/
def otherName? : TelnetOption → Option String
  | .echo => some "SUPPRESS_LOCAL_ECHO"
  | .terminalType => some "TERMINAL_TYPE"
  | _ => none

def ofCode? (n : Int) : Option TelnetOption :=
  all.find? fun o => decide ((o.code.toNat : Int) = n)

/-- The names of the options, a second name behind the first. -/
def names : List CodeName :=
  all.flatMap fun o => (o.name :: o.otherName?.toList).map fun key => ⟨key, o.name, o.code.toNat⟩

end TelnetOption

/-- What a subnegotiation says about its option. -/
inductive Subnegotiation where
  | is | send
  deriving DecidableEq, Repr

namespace Subnegotiation

def all : List Subnegotiation := [.is, .send]

def code : Subnegotiation → UInt8
  | .is => 0
  | .send => 1

def name : Subnegotiation → String
  | .is => "IS"
  | .send => "SEND"

/-- The names of the verbs. -/
def names : List CodeName :=
  all.map fun s => ⟨s.name, s.name, s.code.toNat⟩

end Subnegotiation

/-- The name of a code: of the command if there is one, else of the option if there is one. -/
def codeName? (n : Int) : Option String :=
  ((Command.ofCode? n).map Command.name).or ((TelnetOption.ofCode? n).map TelnetOption.name)

end Telnet
