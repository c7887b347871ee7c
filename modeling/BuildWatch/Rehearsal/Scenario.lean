import BuildWatch.Rehearsal.Basic

namespace BuildWatch.Rehearsal

open BuildWatch

inductive Step where
  | cue (cue : Cue)
  | request (action : Action)
  | background (action : Action)
  | wait (timeout : Nat)
  | sleep (millis : Nat)
  | attach
  | release
  deriving Repr

structure Report where
  reply : Reply
  state : ViewState
  isChanged : Bool
  activeJob : Option String
  calls : List Call
  scrolls : List Scroll
  errands : List (Option Reply)
  deriving DecidableEq, Repr

structure Scene where
  rehearsal : Rehearsal := {}
  viewports : Nat := 0
  seen : Nat := 0

namespace Scene

def start (config : ViewerConfig) (cues : List Cue) : Scene :=
  let platform := cues.foldl (fun platform cue => (platform.cue (fun _ => false) cue).1) {}
  { rehearsal := { viewer := { config }, platform } }

def perform (scene : Scene) : Step → Scene × Reply
  | .cue cue =>
    let rehearsal := scene.rehearsal
    let isHeld (stream : StreamId) : Bool :=
      rehearsal.viewer.sessions.any fun session => session.stream? == some stream
    let (platform, reply) := rehearsal.platform.cue isHeld cue
    ({ scene with rehearsal := { rehearsal with platform }.wake }, .cue reply)
  | .request action =>
    let before := scene.rehearsal
    let after := before.perform action
    let after :=
      match load? before.viewer after.viewer with
      | none => after
      | some id => after.awaitLoad id
    ({ scene with rehearsal := after }, reply before.viewer action)
  | .background action =>
    let rehearsal := scene.rehearsal
    let rehearsal := { rehearsal with errands := rehearsal.errands ++ [Errand.planned action] }.wake
    ({ scene with rehearsal }, .done)
  | .wait timeout =>
    match scene.rehearsal.viewer.join.2 with
    | none => (scene, .outcome none)
    | some id =>
      let (rehearsal, reply) := (scene.rehearsal.perform .join).awaitOutcome id timeout
      ({ scene with rehearsal }, reply)
  | .sleep millis =>
    let rehearsal := scene.rehearsal
    ({ scene with rehearsal := rehearsal.passTo (rehearsal.now + millis) }, .done)
  | .attach =>
    let rehearsal := scene.rehearsal.perform (.setViewport (some scene.viewports))
    ({ scene with rehearsal, viewports := scene.viewports + 1 }, .done)
  | .release =>
    ({ scene with rehearsal := { scene.rehearsal with isReleased := true }.release }, .done)

def report (scene : Scene) (reply : Reply) : Report :=
  let rehearsal := scene.rehearsal
  { reply
    state := rehearsal.viewer.state
    isChanged := rehearsal.viewer.store.hasChangedSince scene.seen
    activeJob := if rehearsal.isReleased then none else rehearsal.viewer.activeJob
    calls := rehearsal.viewer.calls
    scrolls := rehearsal.viewer.scrolls
    errands := rehearsal.errands.map fun
      | .finished reply => some reply
      | _ => none }

def forget (scene : Scene) : Scene :=
  let rehearsal := scene.rehearsal
  let viewer := { rehearsal.viewer with calls := [], scrolls := [] }
  { scene with rehearsal := { rehearsal with viewer }, seen := viewer.store.version }

def play (scene : Scene) (step : Step) (settles : Bool) : Scene × Report :=
  let (scene, reply) := scene.perform step
  let scene := if settles then { scene with rehearsal := scene.rehearsal.settle } else scene
  (scene.forget, scene.report reply)

def run (scene : Scene) : List (Step × Bool) → List Report
  | [] => []
  | (step, settles) :: rest =>
    let (scene, report) := scene.play step settles
    report :: scene.run rest

end Scene

end BuildWatch.Rehearsal
