import Lapdev.Db.Workspaces
import Lapdev.Logic.Broadcast

/-!
# Streams of updates

How the conductor hands on what happens to workspaces and prebuilds: `ws_updates` for the clients
that show one workspace, `all_workspace_updates` for the clients of a user, and `prebuild_updates`
for the workspaces that wait for a prebuild. Each is a `Broadcast.Hub` with a policy of its own.

What runs are tasks, one step at a time: `add_workspace_update_event` and
`add_prebuild_update_event` with their loops over the subscribers, the handlers of the websockets,
and the loop of `prepare_prebuild` that hands the lines of a prebuild on to the workspace waiting
for it.
-/

namespace Lapdev

open RustStd
open Broadcast (Policy Hub System)

/-- Source: `common/src/lib.rs`. -/
inductive WorkspaceUpdateEvent
  | status (status : WorkspaceStatus)
  | stdout (line : String)
  | stderr (line : String)
  deriving DecidableEq

/-- Source: `common/src/lib.rs`. -/
inductive PrebuildUpdateEvent
  | status (status : PrebuildStatus)
  | stdout (line : String)
  | stderr (line : String)
  deriving DecidableEq

namespace UpdateStreams

/-- `ws_updates`: statuses are not kept, and a feed goes with its last subscriber. -/
def wsUpdates : Policy WorkspaceUpdateEvent where
  keeps
    | .status _ => false
    | .stdout _ => true
    | .stderr _ => true
  creates := true
  removes := true

/-- `all_workspace_updates`: nothing is kept, and only a subscriber makes a feed. -/
def allWorkspaceUpdates : Policy (Uuid × WorkspaceStatus) where
  keeps _ := false
  creates := false
  removes := true

/-- `prebuild_updates`: as `ws_updates`, but a feed stays. -/
def prebuildUpdates : Policy PrebuildUpdateEvent where
  keeps
    | .status _ => false
    | .stdout _ => true
    | .stderr _ => true
  creates := true
  removes := false

/-- A workspace that waits for a prebuild, and the receiver it waits on. -/
structure Wait where
  workspaceId : Uuid
  prebuildId : Uuid
  rx : Nat
  deriving DecidableEq

/-- What is running. -/
inductive Task
  /-- `add_workspace_update_event`, called by a wait for a prebuild or from elsewhere. -/
  | addWorkspaceUpdateEvent (userId : Option Uuid) (workspaceId : Uuid)
      (event : WorkspaceUpdateEvent) (caller : Option Wait)
  /-- Its first loop. -/
  | sendWorkspaceUpdate (userId : Option Uuid) (workspaceId : Uuid)
      (event : WorkspaceUpdateEvent) (subscribers : List Nat) (caller : Option Wait)
  /-- Its second loop. -/
  | sendWorkspaceStatus (workspaceId : Uuid) (status : WorkspaceStatus) (subscribers : List Nat)
      (caller : Option Wait)
  | addPrebuildUpdateEvent (prebuildId : Uuid) (event : PrebuildUpdateEvent)
  | sendPrebuildUpdate (event : PrebuildUpdateEvent) (subscribers : List Nat)
  /-- `handle_workspace_updates` before it subscribes, and in its loop. -/
  | handleWorkspaceUpdates (workspaceId : Uuid) (rx : Option Nat)
  | cleanupWorkspaceUpdates (workspaceId : Uuid)
  /-- `handle_all_workspaces_update` before it subscribes, and in its loop. -/
  | handleAllWorkspacesUpdate (userId : Uuid) (rx : Option Nat)
  | cleanupAllWorkspaceUpdates (userId : Uuid)
  /-- `prepare_prebuild` before it subscribes, in its loop, and after it. -/
  | preparePrebuild (workspaceId prebuildId : Uuid)
  | waitForPrebuild (wait : Wait)
  | cleanupPrebuildUpdates (wait : Wait)
  | dropReceiver (wait : Wait)

/-- A call that others make. -/
def Task.isCall : Task → Bool
  | addWorkspaceUpdateEvent _ _ _ none => true
  | addPrebuildUpdateEvent _ _ => true
  | handleWorkspaceUpdates _ none => true
  | handleAllWorkspacesUpdate _ none => true
  | preparePrebuild _ _ => true
  | _ => false

/-- Where `add_workspace_update_event` returns to. -/
def returned : Option Wait → Multiset Task
  | some wait => {.waitForPrebuild wait}
  | none => 0

/-- `prepare_prebuild`, on an event of the prebuild: a line is handed on, and a build that is over
ends the loop. -/
def forwarded (wait : Wait) : PrebuildUpdateEvent → Task
  | .status .ready => .cleanupPrebuildUpdates wait
  | .status .failed => .cleanupPrebuildUpdates wait
  | .status .building => .waitForPrebuild wait
  | .stdout line => .addWorkspaceUpdateEvent none wait.workspaceId (.stdout line) (some wait)
  | .stderr line => .addWorkspaceUpdateEvent none wait.workspaceId (.stderr line) (some wait)

/-- The streams of the conductor and the tasks that are running. -/
structure Updates where
  wsUpdates : Hub Uuid WorkspaceUpdateEvent Nat := {}
  allWorkspaceUpdates : Hub Uuid (Uuid × WorkspaceStatus) Nat := {}
  prebuildUpdates : Hub Uuid PrebuildUpdateEvent Nat := {}
  tasks : Multiset Task := 0

/-- What a step does that others see. -/
inductive Act
  | publish (workspaceId : Uuid) (event : WorkspaceUpdateEvent) (caller : Option Wait)
  | publishStatus (userId : Uuid) (workspaceId : Uuid) (status : WorkspaceStatus)
  | publishPrebuild (prebuildId : Uuid) (event : PrebuildUpdateEvent)
  | subscribe (workspaceId : Uuid) (rx : Nat)
  | subscribeAll (userId : Uuid) (rx : Nat)
  | wait (wait : Wait)
  | other

/-- One step of one task. -/
inductive Step (s : Updates) : Act → Updates → Prop
  | call {t : Task} : t.isCall = true → Step s .other { s with tasks := t ::ₘ s.tasks }
  /-- `add_workspace_update_event`: what it does under the lock of `ws_updates`. -/
  | addWorkspaceUpdateEvent {userId : Option Uuid} {workspaceId : Uuid}
      {event : WorkspaceUpdateEvent} {caller : Option Wait} {tasks : Multiset Task} :
      s.tasks = .addWorkspaceUpdateEvent userId workspaceId event caller ::ₘ tasks →
      Step s (.publish workspaceId event caller) { s with
        wsUpdates := (s.wsUpdates.publish wsUpdates workspaceId event).1
        tasks := .sendWorkspaceUpdate userId workspaceId event
          (s.wsUpdates.publish wsUpdates workspaceId event).2 caller ::ₘ tasks }
  | sendWorkspaceUpdate {userId : Option Uuid} {workspaceId : Uuid} {event : WorkspaceUpdateEvent}
      {tx : Nat} {subscribers : List Nat} {caller : Option Wait} {tasks : Multiset Task} :
      s.tasks = .sendWorkspaceUpdate userId workspaceId event (tx :: subscribers) caller ::ₘ tasks →
      Step s .other { s with
        wsUpdates := s.wsUpdates.send tx event
        tasks := .sendWorkspaceUpdate userId workspaceId event subscribers caller ::ₘ tasks }
  /-- A status is handed on to the clients of the user. -/
  | addWorkspaceStatus {userId workspaceId : Uuid} {status : WorkspaceStatus}
      {caller : Option Wait} {tasks : Multiset Task} :
      s.tasks =
        .sendWorkspaceUpdate (some userId) workspaceId (.status status) [] caller ::ₘ tasks →
      Step s (.publishStatus userId workspaceId status) { s with
        allWorkspaceUpdates :=
          (s.allWorkspaceUpdates.publish allWorkspaceUpdates userId (workspaceId, status)).1
        tasks := .sendWorkspaceStatus workspaceId status
          (s.allWorkspaceUpdates.publish allWorkspaceUpdates userId (workspaceId, status)).2
          caller ::ₘ tasks }
  | sendWorkspaceStatus {workspaceId : Uuid} {status : WorkspaceStatus} {tx : Nat}
      {subscribers : List Nat} {caller : Option Wait} {tasks : Multiset Task} :
      s.tasks = .sendWorkspaceStatus workspaceId status (tx :: subscribers) caller ::ₘ tasks →
      Step s .other { s with
        allWorkspaceUpdates := s.allWorkspaceUpdates.send tx (workspaceId, status)
        tasks := .sendWorkspaceStatus workspaceId status subscribers caller ::ₘ tasks }
  /-- `add_workspace_update_event` returns: there is no user, or the event is no status. -/
  | sentWorkspaceUpdate {userId : Option Uuid} {workspaceId : Uuid} {event : WorkspaceUpdateEvent}
      {caller : Option Wait} {tasks : Multiset Task} :
      s.tasks = .sendWorkspaceUpdate userId workspaceId event [] caller ::ₘ tasks →
      (∀ status, event = .status status → userId = none) →
      Step s .other { s with tasks := returned caller + tasks }
  | sentWorkspaceStatus {workspaceId : Uuid} {status : WorkspaceStatus} {caller : Option Wait}
      {tasks : Multiset Task} :
      s.tasks = .sendWorkspaceStatus workspaceId status [] caller ::ₘ tasks →
      Step s .other { s with tasks := returned caller + tasks }
  /-- `add_prebuild_update_event`: what it does under the lock of `prebuild_updates`. -/
  | addPrebuildUpdateEvent {prebuildId : Uuid} {event : PrebuildUpdateEvent}
      {tasks : Multiset Task} :
      s.tasks = .addPrebuildUpdateEvent prebuildId event ::ₘ tasks →
      Step s (.publishPrebuild prebuildId event) { s with
        prebuildUpdates := (s.prebuildUpdates.publish prebuildUpdates prebuildId event).1
        tasks := .sendPrebuildUpdate event
          (s.prebuildUpdates.publish prebuildUpdates prebuildId event).2 ::ₘ tasks }
  | sendPrebuildUpdate {event : PrebuildUpdateEvent} {tx : Nat} {subscribers : List Nat}
      {tasks : Multiset Task} :
      s.tasks = .sendPrebuildUpdate event (tx :: subscribers) ::ₘ tasks →
      Step s .other { s with
        prebuildUpdates := s.prebuildUpdates.send tx event
        tasks := .sendPrebuildUpdate event subscribers ::ₘ tasks }
  | sentPrebuildUpdate {event : PrebuildUpdateEvent} {tasks : Multiset Task} :
      s.tasks = .sendPrebuildUpdate event [] ::ₘ tasks → Step s .other { s with tasks }
  /-- `workspace_updates`. -/
  | workspaceUpdates {workspaceId : Uuid} {rx : Nat} {tasks : Multiset Task} :
      s.tasks = .handleWorkspaceUpdates workspaceId none ::ₘ tasks →
      s.wsUpdates.channels rx = none →
      Step s (.subscribe workspaceId rx) { s with
        wsUpdates := s.wsUpdates.subscribe workspaceId rx
        tasks := .handleWorkspaceUpdates workspaceId (some rx) ::ₘ tasks }
  /-- `handle_workspace_updates` writes an event to the socket. -/
  | forwardWorkspaceUpdate {workspaceId : Uuid} {rx : Nat} {event : WorkspaceUpdateEvent}
      {wsUpdates : Hub Uuid WorkspaceUpdateEvent Nat} :
      .handleWorkspaceUpdates workspaceId (some rx) ∈ s.tasks →
      s.wsUpdates.receive rx = some (event, wsUpdates) → Step s .other { s with wsUpdates }
  /-- The client has closed the socket, or the stream has ended. -/
  | closeWorkspaceUpdates {workspaceId : Uuid} {rx : Nat} {tasks : Multiset Task} :
      s.tasks = .handleWorkspaceUpdates workspaceId (some rx) ::ₘ tasks →
      Step s .other { s with
        wsUpdates := s.wsUpdates.close rx
        tasks := .cleanupWorkspaceUpdates workspaceId ::ₘ tasks }
  | cleanupWorkspaceUpdates {workspaceId : Uuid} {tasks : Multiset Task} :
      s.tasks = .cleanupWorkspaceUpdates workspaceId ::ₘ tasks →
      Step s .other { s with wsUpdates := s.wsUpdates.cleanup wsUpdates workspaceId, tasks }
  /-- `all_workspace_updates`. -/
  | allWorkspaceUpdates {userId : Uuid} {rx : Nat} {tasks : Multiset Task} :
      s.tasks = .handleAllWorkspacesUpdate userId none ::ₘ tasks →
      s.allWorkspaceUpdates.channels rx = none →
      Step s (.subscribeAll userId rx) { s with
        allWorkspaceUpdates := s.allWorkspaceUpdates.subscribe userId rx
        tasks := .handleAllWorkspacesUpdate userId (some rx) ::ₘ tasks }
  /-- `handle_all_workspaces_update` writes an event to the socket. -/
  | forwardWorkspaceStatus {userId : Uuid} {rx : Nat} {event : Uuid × WorkspaceStatus}
      {allWorkspaceUpdates : Hub Uuid (Uuid × WorkspaceStatus) Nat} :
      .handleAllWorkspacesUpdate userId (some rx) ∈ s.tasks →
      s.allWorkspaceUpdates.receive rx = some (event, allWorkspaceUpdates) →
      Step s .other { s with allWorkspaceUpdates }
  /-- The client has closed the socket, or the stream has ended. -/
  | closeAllWorkspaceUpdates {userId : Uuid} {rx : Nat} {tasks : Multiset Task} :
      s.tasks = .handleAllWorkspacesUpdate userId (some rx) ::ₘ tasks →
      Step s .other { s with
        allWorkspaceUpdates := s.allWorkspaceUpdates.close rx
        tasks := .cleanupAllWorkspaceUpdates userId ::ₘ tasks }
  | cleanupAllWorkspaceUpdates {userId : Uuid} {tasks : Multiset Task} :
      s.tasks = .cleanupAllWorkspaceUpdates userId ::ₘ tasks →
      Step s .other { s with
        allWorkspaceUpdates := s.allWorkspaceUpdates.cleanup allWorkspaceUpdates userId, tasks }
  /-- `prebuild_updates`. -/
  | prebuildUpdates {wait : Wait} {tasks : Multiset Task} :
      s.tasks = .preparePrebuild wait.workspaceId wait.prebuildId ::ₘ tasks →
      s.prebuildUpdates.channels wait.rx = none →
      Step s (.wait wait) { s with
        prebuildUpdates := s.prebuildUpdates.subscribe wait.prebuildId wait.rx
        tasks := .waitForPrebuild wait ::ₘ tasks }
  /-- `prepare_prebuild` takes an event of the prebuild. -/
  | receivePrebuildUpdate {wait : Wait} {event : PrebuildUpdateEvent}
      {prebuildUpdates : Hub Uuid PrebuildUpdateEvent Nat} {tasks : Multiset Task} :
      s.tasks = .waitForPrebuild wait ::ₘ tasks →
      s.prebuildUpdates.receive wait.rx = some (event, prebuildUpdates) →
      Step s .other { s with prebuildUpdates, tasks := forwarded wait event ::ₘ tasks }
  /-- Nothing has come for ten minutes, or the stream has ended. -/
  | stopWaiting {wait : Wait} {tasks : Multiset Task} :
      s.tasks = .waitForPrebuild wait ::ₘ tasks →
      Step s .other { s with tasks := .cleanupPrebuildUpdates wait ::ₘ tasks }
  /-- The receiver is still there. -/
  | cleanupPrebuildUpdates {wait : Wait} {tasks : Multiset Task} :
      s.tasks = .cleanupPrebuildUpdates wait ::ₘ tasks →
      Step s .other { s with
        prebuildUpdates := s.prebuildUpdates.cleanup prebuildUpdates wait.prebuildId
        tasks := .dropReceiver wait ::ₘ tasks }
  | dropReceiver {wait : Wait} {tasks : Multiset Task} :
      s.tasks = .dropReceiver wait ::ₘ tasks →
      Step s .other { s with prebuildUpdates := s.prebuildUpdates.close wait.rx, tasks }

end UpdateStreams

end Lapdev
