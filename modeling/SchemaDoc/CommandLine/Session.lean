import SchemaDoc.Address
import SchemaDoc.CommandLine.Options
import SchemaDoc.Generation.Run
import SchemaDoc.Log.State
import SchemaDoc.Settings.Load

/-!
Contract: what a command writes while it goes on, and how it ends.

Owns:
- the ways in which a command ends: with a status, or by a fault that it does not report;
- the writing of plain texts, of texts with style tags and of entries of the log, in one order.
-/

namespace SchemaDoc.CommandLine

/-- A fault that a command does not report itself. -/
inductive Crash where
  | markup (fault : Console.Markup.Fault)
  | log (fault : Log.Fault)
  | settings (fault : Settings.LoadFault)
  | address (fault : Address.Fault)
  | search (fault : SearchFault)
  | writing (failed : Generation.Failed)
deriving Repr

/-- How a command ends. -/
inductive Ending where
  | exited (status : Nat)
  /-- The arguments are not understood. -/
  | misused (fault : UsageFault)
  | crashed (cause : Crash)
deriving Repr

/-- The status that the caller of a command sees. -/
def Ending.status : Ending → Nat
  | .exited status => status
  | .misused _ => 2
  | .crashed _ => 1

/-- What a command writes: its own output, or what the log adds to a stream. -/
inductive Written where
  | printed (text : Text)
  | logged (stream : Log.Stream) (text : Text)
deriving DecidableEq, Repr

namespace Written

/-- The stream that it goes to. -/
def stream : Written → Log.Stream
  | .printed _ => .output
  | .logged stream _ => stream

def text : Written → Text
  | .printed text => text
  | .logged _ text => text

/-- The text of the command's own output. -/
def printed? : Written → Option Text
  | .printed text => some text
  | .logged _ _ => none

end Written

/-- What a command has written, the state of its log, and the screen that it writes for. -/
structure Session where
  screen : Console.Screen
  log : Log.State
  written : List Written

/-- A part of a command; it may end the command. -/
abbrev Act := ExceptT Ending (StateM Session)

namespace Act

def crash (cause : Crash) : Act α :=
  throw (.crashed cause)

/-- Prints runs of characters, with an end behind them. -/
def print (breaks : Bool) (runs : List Text) (ending : Text) : Act Unit :=
  modify fun session =>
    { session with
      written := session.written ++ [.printed (session.screen.shows breaks runs ++ ending)] }

/-- Prints a line with style tags. -/
def printMarkup (text : Text) : Act Unit :=
  match Console.Markup.render text with
  | .ok runs => print true runs ['\n']
  | .error fault => crash (.markup fault)

/-- Reports a fault, which ends the command. -/
def fail (message : Text) : Act α := do
  printMarkup ("[red]✗[/red] " ++ Console.Markup.escape message)
  throw (.exited 1)

/-- Sets the log up. -/
def configureLog (configuration : Log.Configuration) : Act Unit := do
  let session ← get
  let (log, result) := session.log.configure configuration false
  set { session with log }
  match result with
  | .ok () => return ()
  | .error fault => crash (.log fault)

/-- Writes entries of the log. -/
def record (stamp : Log.Stamp) : List Log.Record → Act Unit
  | [] => return ()
  | first :: rest => do
    let session ← get
    let (log, written) := session.log.record "model-doc" stamp first
    set { session with
      log
      written := session.written ++ written.map fun (stream, text) => Written.logged stream text }
    record stamp rest

end Act

end SchemaDoc.CommandLine
