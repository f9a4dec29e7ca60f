import Swatch.Settings.Store

/-!
# Sessions

What is done with files and settings, one step after another: files are written and removed,
settings are loaded and taken for options, and whoever has loaded settings may edit them in place.
Files change only in the world, and settings only in the store; a load that fails changes neither.
-/

namespace Swatch.Settings

/-- One step of a session. -/
inductive Step where
  | write (file : String) (content : File)
  | makeDirectory (file : String)
  | remove (file : String)
  /-- From now on the relaxed notation can be read, or it cannot. -/
  | allowRelaxed (allowed : Bool)
  /-- The store is cleared. -/
  | clear
  | load (request : Request)
  /-- Settings are loaded for the options in them, and given to nobody. -/
  | options (file : String) (relaxed : Bool)
  /-- Settings are edited in place through their handle. -/
  | edit (handle : Nat) (change : Members → Members)

/-- The settings that a step loads. -/
def Step.request? : Step → Option Request
  | .load request => some request
  | .options file relaxed => some { file, relaxed }
  | _ => none

namespace World

/-- The world after a step, and what prevented a change to its files. -/
def change (world : World) : Step → World × Option DiskFault
  | .write file content =>
    let (disk, fault) := world.disk.write world.place.here file content
    ({ world with disk }, fault)
  | .makeDirectory file =>
    let (disk, fault) := world.disk.makeDirectory world.place.here file
    ({ world with disk }, fault)
  | .remove file =>
    match world.disk.remove world.place.here file with
    | .ok disk => ({ world with disk }, none)
    | .error fault => (world, some fault)
  | .allowRelaxed allowed => ({ world with readsRelaxed := allowed }, none)
  | _ => (world, none)

/-- The world after a step. -/
def after (world : World) (step : Step) : World :=
  (world.change step).1

end World

/-- A world with the store of what was loaded in it. -/
structure Session where
  world : World
  store : Store := {}

namespace Session

/-- The settings that a request asks for, under their handle, and the session afterwards. -/
def load (session : Session) (request : Request) : Except LoadError Loaded × Session :=
  match session.store.load session.world request with
  | .ok (loaded, store) => (.ok loaded, { session with store })
  | .error error => (.error error, session)

/-- The settings that a request asks for. -/
def members (session : Session) (request : Request) : Except LoadError Members :=
  (session.store.loadMembers session.world request).map (·.1)

/-- The options in a file. -/
def options (session : Session) (file : String) (relaxed : Bool) : Except LoadError Options :=
  (session.members { file, relaxed }).map .ofMembers

/-- The session after a step. -/
def after (session : Session) : Step → Session
  | .clear => { session with store := session.store.clear }
  | .load request => (session.load request).2
  | .options file relaxed => (session.load { file, relaxed }).2
  | .edit handle change => { session with store := session.store.edit handle change }
  | step => { session with world := session.world.after step }

/-- The session after some steps. -/
def run (session : Session) (steps : List Step) : Session :=
  steps.foldl after session

end Session

end Swatch.Settings
