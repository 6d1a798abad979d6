import SchemaDoc.Console.Screen
import SchemaDoc.Log.Configuration
import SchemaDoc.Text.JsonString

/-!
Contract: where entries of the log are written, and in which layout.

A handler writes the entries that reach its threshold: in columns to the output, in every other
layout to the errors. A column with the time shows it only when it differs from the time shown
before.
-/

namespace SchemaDoc.Log

inductive Layout where
  /-- Weight and message, divided by a bar. -/
  | plain
  /-- The weight in brackets, then the message. -/
  | bracketed
  /-- One JSON object per entry. -/
  | json
  /-- Time, weight and message in columns. -/
  | columns
deriving DecidableEq, Repr

/-- The layout of a format; formats without a layout of their own are plain. -/
def Layout.ofFormat : Value → Layout
  | .str format =>
    if format = "rich".toList then .columns
    else if format = "json".toList then .json
    else if format = "structured".toList then .bracketed
    else .plain
  | _ => .plain

inductive Stream where
  | output
  | errors
deriving DecidableEq, Repr

def Layout.stream : Layout → Stream
  | .columns => .output
  | _ => .errors

/-- The time of an entry: as lines start with it, and as a column shows it. -/
structure Stamp where
  leading : Text
  column : Text
deriving DecidableEq, Repr

structure Entry where
  /-- The name of the part of the program that writes the entry. -/
  source : Text
  severity : Severity
  message : Text
deriving DecidableEq, Repr

structure Handler where
  id : Nat
  threshold : Nat
  layout : Layout
  isTimed : Bool
  /-- The time that a column showed last. -/
  shownTime : Option Text
deriving DecidableEq, Repr

namespace Handler

/-- The width of the names of weights. -/
def severityWidth : Nat := 8

/-- The time in front of a line, if the handler shows times. -/
def timeBefore (handler : Handler) (stamp : Stamp) : Text :=
  if handler.isTimed then stamp.leading ++ [' '] else []

/-- The column of the time, blank when the time is that of the entry before. -/
def timeColumn (handler : Handler) (stamp : Stamp) : Text :=
  if !handler.isTimed then []
  else if handler.shownTime = some stamp.column then
    List.replicate (stamp.column.length + 1) ' '
  else stamp.column ++ [' ']

/-- An entry as one JSON object, its keys in order. -/
def jsonLine (entry : Entry) : Text :=
  "\x7b\"extra\": \x7b\"module\": " ++ Text.jsonString entry.source ++ "\x7d, \"level\": " ++
    Text.jsonString entry.severity.name ++ ", \"message\": " ++
    Text.jsonString entry.message ++ ", \"no\": " ++ Text.ofNat entry.severity.number ++ "\x7d"

/-- An entry in columns; further lines of the message stay in the last one. -/
def columnLines (handler : Handler) (stamp : Stamp) (entry : Entry) : Text :=
  let start := timeColumn handler stamp ++ Text.padEnd severityWidth entry.severity.name ++ [' ']
  let indent := List.replicate start.length ' '
  start ++ Text.join ('\n' :: indent) (Console.Screen.wide.linesOf entry.message)

/-- What the handler writes for an entry, without the final line feed. -/
def render (handler : Handler) (stamp : Stamp) (entry : Entry) : Text :=
  let severity := Text.padEnd severityWidth entry.severity.name
  match handler.layout with
  | .plain => timeBefore handler stamp ++ severity ++ " | " ++ entry.message
  | .bracketed => timeBefore handler stamp ++ "[" ++ severity ++ "] " ++ entry.message
  | .json => jsonLine entry
  | .columns => columnLines handler stamp entry

/-- The handler after it wrote an entry. -/
def after (handler : Handler) (stamp : Stamp) : Handler :=
  if handler.isTimed then { handler with shownTime := some stamp.column } else handler

end Handler

end SchemaDoc.Log
