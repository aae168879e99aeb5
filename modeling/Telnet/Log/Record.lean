import Telnet.Log.Message
import Telnet.Log.Site

/-!
# Log records

A record names the logger that wrote it and has a level, a number that grows with its urgency, and a
message; a record of the client itself has a site as well. All of these are of level debug.
-/

namespace Telnet.Log

/-- The level of records about the course of a session. -/
def debugLevel : Int := 10

structure Record where
  logger : String
  level : Int
  /-- Where in the client the record comes from, if it comes from there. -/
  site : Option Site
  message : Message
  deriving DecidableEq, Repr

def Record.text (r : Record) : String := r.message.text

/-- A record of the client itself. -/
def Record.debug (logger : String) (site : Site) (message : Message) : Record :=
  ⟨logger, debugLevel, some site, message⟩

/-- The logger of the program and of each part that is not given one. -/
def clientLogger : String := "tinytelnet.client"

def targetLogger : String := "tinytelnet.target"

def negotiationLogger : String := "tinytelnet.negotiation"

def sessionLogger : String := "tinytelnet.session"

def connectionLogger : String := "tinytelnet.connection"

def consoleLogger : String := "tinytelnet.console"

end Telnet.Log
