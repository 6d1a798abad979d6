import SchemaDoc.Block.Write
import SchemaDoc.Generation.Step

/-!
Contract: what is done with the blocks of a run, and the report of it.

Owns:
- the two ways to use a block: it is shown, or it is written into its source file;
- the report: updated and shown classes, and what was skipped for which reason;
- that a block which cannot be written ends the run at its step.
-/

namespace SchemaDoc.Generation

structure Report where
  /-- The classes whose block was written, in order. -/
  updated : List Text
  /-- The classes whose block was only shown, each with its last block. -/
  previewed : List (Text × Text)
  /-- The modules and classes left out, each with its last reason. -/
  skipped : List (Text × Text)
deriving DecidableEq, Repr

namespace Report

def empty : Report := ⟨[], [], []⟩

/-- How many blocks were written or shown. -/
def processed (report : Report) : Nat :=
  report.updated.length + report.previewed.length

end Report

/-- What a run lets be seen while it goes on. -/
inductive Note where
  | logged (record : Log.Record)
  /-- The block of a target is shown. -/
  | shown (target : Target)
  /-- The block of a target is handed to the writer, whether it can be written or not. -/
  | handed (target : Target)
deriving DecidableEq, Repr

namespace Note

def record? : Note → Option Log.Record
  | .logged record => some record
  | _ => none

def shown? : Note → Option Target
  | .shown target => some target
  | _ => none

def handed? : Note → Option Target
  | .handed target => some target
  | _ => none

end Note

/-- What a run has done so far. -/
structure Progress where
  tree : FileTree
  report : Report
  notes : List Note
deriving Repr

namespace Progress

def start (tree : FileTree) : Progress :=
  ⟨tree, .empty, []⟩

def log (progress : Progress) (records : List Log.Record) : Progress :=
  { progress with notes := progress.notes ++ records.map Note.logged }

/-- The targets whose blocks were shown, in order. -/
def shown (progress : Progress) : List Target :=
  progress.notes.filterMap Note.shown?

/-- The targets whose blocks were handed to the writer, in order. -/
def handed (progress : Progress) : List Target :=
  progress.notes.filterMap Note.handed?

/-- A module or class left out. -/
def skip (progress : Progress) (name reason : Text) : Progress :=
  { progress with
    report := { progress.report with
      skipped := Program.World.assign name reason progress.report.skipped } }

/-- A block shown. -/
def preview (progress : Progress) (target : Target) : Progress :=
  { progress with
    report := { progress.report with
      previewed := Program.World.assign target.fullName target.block progress.report.previewed }
    notes := progress.notes ++ [.shown target] }

/-- A block handed to the writer. -/
def hand (progress : Progress) (target : Target) : Progress :=
  { progress with notes := progress.notes ++ [.handed target] }

/-- A block written. -/
def update (progress : Progress) (tree : FileTree) (target : Target) : Progress :=
  { progress with
    tree
    report := { progress.report with updated := progress.report.updated ++ [target.fullName] }
    notes := progress.notes ++ [.logged (.info ("Updated: " ++ target.qualname))] }

end Progress

/-- A block that could not be written. -/
structure Failed where
  target : Target
  fault : Block.WriteFault
deriving Repr

/-- A block used: shown in a dry run, else written. -/
def useBlock (nameOf : Text → Option Nat) (dryRun : Bool) (progress : Progress) (target : Target) :
    Progress × Option Failed :=
  if dryRun then (progress.preview target, none)
  else
    let progress := progress.hand target
    match Block.write nameOf false progress.tree target.source target.qualname target.block with
    | (tree, .ok _) => (progress.update tree target, none)
    | (tree, .error fault) => ({ progress with tree }, some ⟨target, fault⟩)

/-- One step carried out. -/
def perform (nameOf : Text → Option Nat) (dryRun : Bool) (progress : Progress) (step : Step) :
    Progress × Option Failed :=
  let progress := progress.log step.records
  match step.event with
  | .scanning _ => (progress, none)
  | .processing _ => (progress, none)
  | .skipped name reason => (progress.skip name reason, none)
  | .ready target => useBlock nameOf dryRun progress target

/-- The steps carried out one by one, up to the first that fails; the state is the one that the
last step carried out leaves, or the one behind all steps. -/
def performAll (nameOf : Text → Option Nat) (dryRun : Bool) (final : State) :
    List Step → Progress → Progress × State × Option Failed
  | [], progress => (progress, final, none)
  | step :: rest, progress =>
    match perform nameOf dryRun progress step with
    | (progress, some failed) => (progress, step.after, some failed)
    | (progress, none) => performAll nameOf dryRun final rest progress

/-- A plan carried out. -/
def carryOut (nameOf : Text → Option Nat) (dryRun : Bool) (plan : Plan) (progress : Progress) :
    Progress × State × Option Failed :=
  performAll nameOf dryRun plan.2 plan.1 progress

end SchemaDoc.Generation
