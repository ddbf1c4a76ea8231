import Lapdev.RustStd.HashMap

/-!
# Resource change events

The body of the watch loop of `kube-manager/src/watch_manager.rs`: what it reports about an event of
the stream, and which versions it remembers. Every event about an object is reported, whatever has
been seen (`onEvent_spec`); the versions seen decide only between `Created` and `Updated`.
-/

namespace Lapdev

open RustStd

namespace WatchManager

/-- Source: `kube-rpc/src/lib.rs`. -/
inductive ResourceType
  | deployment | statefulSet | daemonSet | replicaSet | job | cronJob | configMap | secret | service
  deriving DecidableEq, Repr

/-- Source: `kube-rpc/src/lib.rs`. -/
inductive ResourceChangeType
  | created | updated | deleted
  deriving DecidableEq, Repr

/-- Source: `kube-rpc/src/lib.rs`. -/
structure ResourceChangeEvent where
  «namespace» : String
  resourceType : ResourceType
  resourceName : String
  changeType : ResourceChangeType
  resourceVersion : String
  resourceYaml : Option String
  timestamp : Int
  deriving DecidableEq, Repr

/-- An object of the cluster, with the text `serde_yaml::to_string` writes for it. -/
structure KubeObject where
  nameAny : String
  resourceVersion : Option String
  toYaml : Option String
  deriving DecidableEq, Repr

/-- `watcher::Event` of `kube-rs`. -/
inductive Event
  | apply (obj : KubeObject)
  | delete (obj : KubeObject)
  | init
  | initApply (obj : KubeObject)
  | initDone
  deriving DecidableEq, Repr

namespace Event

/-- The object an event is about. -/
def object : Event → Option KubeObject
  | apply obj | delete obj | initApply obj => some obj
  | init | initDone => none

/-- What an event says its object has become. -/
def content : Event → Option KubeObject
  | apply obj | initApply obj => some obj
  | delete _ | init | initDone => none

end Event

/-- Source: `watch_manager.rs`. -/
def shouldIncludeYaml : ResourceType → Bool
  | .deployment | .statefulSet | .daemonSet | .replicaSet | .job | .cronJob | .service => true
  | .configMap | .secret => false

/-- Source: `watch_manager.rs`, with the versions seen after it. -/
def buildEvent («namespace» : String) (resourceType : ResourceType)
    (initialChangeType : ResourceChangeType) (seenVersions : HashMap String String)
    (obj : KubeObject) (timestamp : Int) : Option ResourceChangeEvent × HashMap String String :=
  let name := obj.nameAny
  if name = "" then (none, seenVersions)
  else
    match obj.resourceVersion with
    | none => (none, seenVersions)
    | some resourceVersion =>
      let changeType : Option ResourceChangeType :=
        match initialChangeType with
        | .created => some (if name ∈ seenVersions then .updated else .created)
        | .updated =>
          if seenVersions.lookup name = some resourceVersion then none else some .updated
        | .deleted => some .deleted
      match changeType with
      | none => (none, seenVersions)
      | some changeType =>
        (some
          { «namespace»
            resourceType
            resourceName := name
            changeType
            resourceVersion
            resourceYaml := if shouldIncludeYaml resourceType then obj.toYaml else none
            timestamp },
          match changeType with
          | .deleted => seenVersions.erase name
          | _ => seenVersions.insert name resourceVersion)

/-- One round of the loop of `watch_kind`, up to the report. -/
def onEvent («namespace» : String) (resourceType : ResourceType)
    (seenVersions : HashMap String String) (event : Event) (timestamp : Int) :
    Option ResourceChangeEvent × HashMap String String :=
  match event with
  | .apply obj | .initApply obj =>
    buildEvent «namespace» resourceType .created seenVersions obj timestamp
  | .delete obj => buildEvent «namespace» resourceType .deleted seenVersions obj timestamp
  | .init | .initDone => (none, seenVersions)

/-- What `KubeClusterRpcClient::report_resource_change` answers to a call: an error of the connection,
or the answer of the API server. -/
abbrev ReportAnswer := Except String (Except String PUnit)

/-- Source: `watch_manager.rs`, with the answer of the client if there is one: the event that the API
server has accepted. -/
def sendEvent (rpcClient : Option ReportAnswer) (event : ResourceChangeEvent) :
    Option ResourceChangeEvent :=
  match rpcClient with
  | none => none
  | some answer =>
    match answer with
    | .ok (.ok _) => some event
    | _ => none

/-- A report says what an event says. -/
structure ResourceChangeEvent.Tells (change : ResourceChangeEvent) (event : Event) : Prop where
  name : ∃ obj, event.object = some obj ∧ obj.nameAny = change.resourceName
  version : ∀ obj, event.content = some obj → obj.resourceVersion = some change.resourceVersion
  deleted : change.changeType = .deleted ↔ event.content = none

/-- **Every event is reported** that is about an object with a name and a version. -/
theorem onEvent_spec («namespace» : String) (resourceType : ResourceType)
    (seenVersions : HashMap String String) (event : Event) (timestamp : Int) {obj : KubeObject}
    {version : String} (hobj : event.object = some obj) (hname : obj.nameAny ≠ "")
    (hversion : obj.resourceVersion = some version) :
    ∃ change, (onEvent «namespace» resourceType seenVersions event timestamp).1 = some change ∧
      change.Tells event := by
  cases event with
  | apply obj' =>
    cases hobj
    rw [onEvent, buildEvent, if_neg hname, hversion]
    refine ⟨_, rfl, ⟨obj, rfl, rfl⟩, fun _ heq => ?_, iff_of_false ?_ (nomatch ·)⟩
    · cases heq
      exact hversion
    · dsimp only
      split <;> exact (nomatch ·)
  | initApply obj' =>
    cases hobj
    rw [onEvent, buildEvent, if_neg hname, hversion]
    refine ⟨_, rfl, ⟨obj, rfl, rfl⟩, fun _ heq => ?_, iff_of_false ?_ (nomatch ·)⟩
    · cases heq
      exact hversion
    · dsimp only
      split <;> exact (nomatch ·)
  | delete obj' =>
    cases hobj
    rw [onEvent, buildEvent, if_neg hname, hversion]
    exact ⟨_, rfl, ⟨obj, rfl, rfl⟩, fun _ => (nomatch ·), iff_of_true rfl rfl⟩
  | init => cases hobj
  | initDone => cases hobj

/-- An event about no object is not reported. -/
theorem onEvent_of_object_none («namespace» : String) (resourceType : ResourceType)
    (seenVersions : HashMap String String) {event : Event} (timestamp : Int)
    (hobj : event.object = none) :
    (onEvent «namespace» resourceType seenVersions event timestamp).1 = none := by
  cases event with
  | init | initDone => rfl
  | apply | delete | initApply => cases hobj

end WatchManager

end Lapdev
