import CephMount.InMemory.Arranged
import CephMount.Mount.Creation

/-! Sessions: mounts held in named slots over one in-memory library, and the steps that use them.

A step uses the mount of its slot, or the handle that the slot had last, which may be dead. What a
step calls and reports is part of its report. When the steps are over, the mounts that are left are
dropped in the order of their slots' names.
-/

set_option autoImplicit false

namespace CephMount

open InMemory

structure Session where
  boundary : Arranged := {}
  mounts : Table String Mount := .empty
  /-- The last handle made for each slot. -/
  handles : Table String Handle := .empty
  clusters : Table String Nat := .empty
  nextCluster : Nat := 1
  deriving DecidableEq, Repr

/-- A change to the library from outside of its boundary. -/
inductive Control where
  | fail (call : String) (code : Int32)
  | defaultConfig (present : Bool)
  | configFile (path : Bytes)
  | variable (name value : String)
  | script (script : Script)
  | arrange (arrangement : Arrangement) (times : Nat)
  deriving DecidableEq, Repr

/-- Where a mount comes from; a cluster is known by the name of its connection. -/
inductive Source where
  | fresh (id : Option String)
  | cluster (name : String)
  | text (ron : String)
  | edits (edits : List MountConfig.Edit)
  deriving DecidableEq, Repr

inductive Instruction where
  | control (control : Control)
  | connect (cluster : String)
  /-- Set the library's flag of the slot's handle. -/
  | setFlag (mounted : Bool)
  | totals
  | commands
  | handle
  | attributes (path : String)
  /-- A request on the slot's handle, around the mount. -/
  | around (request : Request)
  | create (source : Source)
  | operate (operation : Operation)
  | release
  | drop
  | describe
  | liveHandles
  deriving DecidableEq, Repr

structure Step where
  slot : String
  instruction : Instruction
  deriving DecidableEq, Repr

structure Totals where
  liveHandles : Nat
  releases : Nat
  outstanding : Nat
  freed : Nat
  arrangedFreed : Nat
  commands : Nat
  deriving DecidableEq, Repr

inductive Result where
  | answer (answer : Answer)
  | failed (error : Error)
  | misused (misuse : Misuse)
  | noMount
  | noHandle
  | noCluster
  | code (code : Int32)
  | count (count : Nat)
  | description (text : String)
  | totals (totals : Totals)
  | commands (commands : List RecordedCommand)
  /-- A handle with its record, which a dead one no longer has. -/
  | handle (handle : Handle) (record : Option Record)
  | attributes (attributes : Option Attributes)
  deriving DecidableEq, Repr

/-- What a step gave, what it called and reported, and the state of its slot's mount after it. -/
structure Report where
  result : Result
  entries : List Entry
  state : Option MountState

namespace Session

def library (session : Session) : Library := session.boundary.library

def withLibrary (session : Session) (library : Library) : Session :=
  { session with boundary := { session.boundary with library } }

def control (session : Session) : Control → Session
  | .fail call code => session.withLibrary (session.library.failNext call code)
  | .defaultConfig present => session.withLibrary (session.library.setDefaultConfig present)
  | .configFile path => session.withLibrary (session.library.addConfigFile path)
  | .variable name value => session.withLibrary (session.library.setVariable name value)
  | .script script => session.withLibrary (session.library.addScript script)
  | .arrange arrangement times =>
    { session with boundary := session.boundary.addCopies arrangement times }

def totals (session : Session) : Totals where
  liveHandles := session.library.liveHandles
  releases := session.library.releases
  outstanding := session.library.outstanding
  freed := session.library.freedBuffers
  arrangedFreed := session.boundary.freedBuffers
  commands := session.library.commands.length

/-- What came of a step or of a part of one, and the session after it. -/
structure Turn where
  result : Result
  entries : List Entry
  session : Session

/-- A step that calls nothing. -/
def quiet (session : Session) (result : Result) : Turn := ⟨result, [], session⟩

/-- Run a program against the session's boundary. -/
def run {α : Type} (session : Session) (program : Program α) (finish : Session → α → Session × Result) :
    Turn :=
  let run := program.run Arranged.answer session.boundary
  let session := { session with boundary := run.state }
  match run.result with
  -- What was called and reported before the misuse still counts.
  | .error misuse => ⟨.misused misuse, run.entries, session⟩
  | .ok value =>
    let (session, result) := finish session value
    ⟨result, run.entries, session⟩

def resultOf (outcome : Outcome Answer) : Result :=
  match outcome with
  | .ok answer => .answer answer
  | .error error => .failed error

def resultOfUnit (outcome : Outcome Unit) : Result :=
  resultOf (outcome.map fun () => .nothing)

/-- Drop the mount of a slot, if it holds one. -/
def vacate (session : Session) (slot : String) : Turn :=
  match session.mounts.get? slot with
  | none => session.quiet (.answer .nothing)
  | some mount =>
    { session with mounts := session.mounts.erase slot }.run mount.drop
      fun session () => (session, .answer .nothing)

/-- The creation for a source, or why there is none. -/
def creation (session : Session) : Source → Except Result Creation
  | .fresh id => .ok (.fresh id)
  | .cluster name =>
    match session.clusters.get? name with
    | some number => .ok (.derived number)
    | none => .error .noCluster
  | .text ron => ((MountConfig.parse ron).map .prepared).mapError fun error => .failed (.config error)
  | .edits edits => .ok (.prepared (.build edits))

/-- Make a mount in a slot that is vacant. A failure leaves it so, with the handle it had. -/
def make (session : Session) (slot : String) (source : Source) : Turn :=
  match session.creation source with
  | .error result => session.quiet result
  | .ok creation => session.run creation.program fun session outcome =>
    match outcome with
    | .error error => (session, .failed error)
    | .ok mount =>
      ({ session with
          mounts := session.mounts.insert slot mount
          handles := session.handles.insert slot mount.handle }, .answer .nothing)

/-- Go on with a session where a turn left it; the last result counts. -/
def Turn.follow (turn : Turn) (next : Session → Turn) : Turn :=
  let rest := next turn.session
  { rest with entries := turn.entries ++ rest.entries }

def withMount (session : Session) (slot : String) (use : Mount → Turn) : Turn :=
  match session.mounts.get? slot with
  | none => session.quiet .noMount
  | some mount => use mount

def withHandle (session : Session) (slot : String) (use : Handle → Turn) : Turn :=
  match session.handles.get? slot with
  | none => session.quiet .noHandle
  | some handle => use handle

def perform (session : Session) (slot : String) : Instruction → Turn
  | .control control => (session.control control).quiet (.answer .nothing)
  | .connect cluster =>
    { session with
      clusters := session.clusters.insert cluster session.nextCluster
      nextCluster := session.nextCluster + 1 }.quiet (.answer .nothing)
  | .setFlag mounted => session.withHandle slot fun handle =>
      (session.withLibrary (session.library.setMountedFlag handle mounted)).quiet (.answer .nothing)
  | .totals => session.quiet (.totals session.totals)
  | .commands => session.quiet (.commands session.library.commands)
  | .handle => session.withHandle slot fun handle =>
      session.quiet (.handle handle (session.library.record? handle))
  | .attributes path => session.withHandle slot fun handle =>
      session.quiet (.attributes (session.library.attributes? handle path))
  | .around request => session.withHandle slot fun handle =>
      session.run (Program.perform (.request handle request)) fun session code =>
        (session, .code code)
  -- The slot is vacated first, even when no mount can be made for it.
  | .create source => (session.vacate slot).follow fun session => session.make slot source
  | .operate operation => session.withMount slot fun mount =>
      session.run (mount.perform operation) fun session (outcome, mount) =>
        ({ session with mounts := session.mounts.insert slot mount }, resultOf outcome)
  | .release => session.withMount slot fun mount =>
      { session with mounts := session.mounts.erase slot }.run mount.release
        fun session outcome => (session, resultOfUnit outcome)
  | .drop => session.withMount slot fun _ => session.vacate slot
  | .describe => session.withMount slot fun mount =>
      session.quiet (.description mount.description)
  | .liveHandles => session.withMount slot fun _ =>
      session.quiet (.count session.library.liveHandles)

def step (session : Session) (step : Step) : Report × Session :=
  let turn := session.perform step.slot step.instruction
  let state := (turn.session.mounts.get? step.slot).map Mount.state
  (⟨turn.result, turn.entries, state⟩, turn.session)

/-- Drop the mounts that are left, and give the totals. -/
def close (session : Session) : Turn :=
  (session.mounts.keys.foldl (fun turn slot => turn.follow fun session => session.vacate slot)
    (session.quiet (.answer .nothing))).follow fun session => session.quiet (.totals session.totals)

/-- The reports of a session's steps, and of its end. -/
def reports (session : Session) : List Step → List Report
  | [] =>
    let turn := session.close
    [⟨turn.result, turn.entries, none⟩]
  | first :: rest =>
    let (report, session) := session.step first
    report :: session.reports rest

end Session

end CephMount
