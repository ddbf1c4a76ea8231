import Lapdev.Logic.Firsts
import Lapdev.Logic.Run
import Lapdev.Watch.Events

/-!
# What the API server has been told

A watched kind of resources of one namespace: its history in the cluster, the events of the stream
that the loop has yet to take, and the reports the API server has accepted. `kube-rs` lists the
objects there are when it connects, and emits what changes after that in order; what is deleted
while it is not connected is only missing from the next list. `agrees_iff_covered` says when the last
report of a resource agrees with the cluster.
-/

namespace Lapdev

open RustStd Runs

namespace WatchManager

/-- An event of the stream, with the number of changes its resource has had when it was emitted. -/
structure Stamped where
  event : Event
  stamp : Nat

/-- The resource an event is about. -/
def Stamped.name (e : Stamped) : Option String := e.event.object.map (·.nameAny)

/-- There is a client, and the API server accepts what it is told. -/
def works : Option ReportAnswer → Bool
  | some (.ok (.ok _)) => true
  | _ => false

/-- An event that the loop has taken, and whether the client worked then. -/
structure Handled extends Stamped where
  worked : Bool

/-- An event about an object, taken while the client worked. -/
def Handled.deliverable (e : Handled) : Bool := e.worked && e.event.object.isSome

theorem Handled.deliverable_of_name {e : Handled} {name : String} (h : e.name = some name) :
    e.deliverable = e.worked := by
  obtain ⟨obj, hobj, -⟩ := Option.map_eq_some_iff.1 h
  rw [deliverable, hobj, Option.isSome_some, Bool.and_true]

/-- A watch, with the history of its resources, newest first, and what has come of it so far, newest
first. -/
structure Mirror where
  history : String → List (Option KubeObject)
  connected : Bool
  pending : List Stamped
  seenVersions : HashMap String String
  handled : List Handled
  reported : List ResourceChangeEvent

namespace Mirror

/-- Before the first resource. -/
def start : Mirror := ⟨fun _ => [], false, [], ∅, [], []⟩

/-- What a resource is now. -/
def current (s : Mirror) (name : String) : Option KubeObject := (s.history name).head?.join

/-- A resource changes, and the stream emits the event if it is connected. -/
def change (s : Mirror) (name : String) (obj : Option KubeObject) (event : Event) : Mirror :=
  { s with
    history := Function.update s.history name (obj :: s.history name)
    pending := if s.connected then s.pending ++ [⟨event, (s.history name).length + 1⟩] else s.pending }

/-- The loop takes an event of the stream. -/
def handle (s : Mirror) («namespace» : String) (resourceType : ResourceType)
    (rpcClient : Option ReportAnswer) (timestamp : Int) (e : Stamped)
    (rest : List Stamped) : Mirror :=
  let change := onEvent «namespace» resourceType s.seenVersions e.event timestamp
  { s with
    pending := rest
    seenVersions := change.2
    handled := ⟨e, works rpcClient⟩ :: s.handled
    reported := (change.1.bind (sendEvent rpcClient)).toList ++ s.reported }

end Mirror

/-- What happens to a watch. -/
inductive MirrorAction
  | apply (obj : KubeObject)
  | delete (obj : KubeObject)
  | disconnect (restarted : Bool)
  | relist (objs : List KubeObject)
  | handle (rpcClient : Option ReportAnswer) (timestamp : Int)

/-- The steps of a watch. An object has a name and a version, and no two states of a resource have
one version. A stream that fails is restarted, with nothing seen, or connects again by itself. -/
inductive Mirror.Step («namespace» : String) (resourceType : ResourceType) :
    Mirror → MirrorAction → Mirror → Prop
  | apply {s : Mirror} {obj : KubeObject} (hname : obj.nameAny ≠ "")
      (hversion : obj.resourceVersion ≠ none)
      (hnew : ∀ old, some old ∈ s.history obj.nameAny → old.resourceVersion ≠ obj.resourceVersion) :
      Step «namespace» resourceType s (.apply obj) (s.change obj.nameAny (some obj) (.apply obj))
  | delete {s : Mirror} {obj : KubeObject} (hname : obj.nameAny ≠ "")
      (hversion : obj.resourceVersion ≠ none) (hpresent : s.current obj.nameAny ≠ none) :
      Step «namespace» resourceType s (.delete obj) (s.change obj.nameAny none (.delete obj))
  | disconnect {s : Mirror} {restarted : Bool} :
      Step «namespace» resourceType s (.disconnect restarted)
        { s with
          connected := false
          pending := []
          seenVersions := if restarted then ∅ else s.seenVersions }
  | relist {s : Mirror} {objs : List KubeObject} (hdisconnected : s.connected = false)
      (hobjs : ∀ obj, obj ∈ objs ↔ s.current obj.nameAny = some obj) (hnodup : objs.Nodup) :
      Step «namespace» resourceType s (.relist objs)
        { s with
          connected := true
          pending := ⟨.init, 0⟩ :: objs.map (fun obj =>
            ⟨.initApply obj, (s.history obj.nameAny).length⟩) ++ [⟨.initDone, 0⟩] }
  | handle {s : Mirror} {e : Stamped} {rest : List Stamped}
      {rpcClient : Option ReportAnswer} {timestamp : Int} (hpending : s.pending = e :: rest) :
      Step «namespace» resourceType s (.handle rpcClient timestamp)
        (s.handle «namespace» resourceType rpcClient timestamp e rest)

namespace Mirror

/-- The last accepted report about a resource. -/
def lastReport (s : Mirror) (name : String) : Option ResourceChangeEvent :=
  s.reported.find? fun change => change.resourceName = name

/-- The last report agrees with the cluster: it tells the version of a resource that is there, and
the deletion of one that is not. -/
def Agrees (s : Mirror) (name : String) : Prop :=
  match s.current name, s.lastReport name with
  | some obj, some change =>
    change.changeType ≠ .deleted ∧ obj.resourceVersion = some change.resourceVersion
  | some _, none => False
  | none, some change => change.changeType = .deleted
  | none, none => True

/-- An event about the resource that was emitted after its last change has been taken while the client
worked. -/
def ToldLastChange (s : Mirror) (name : String) : Prop :=
  ∃ e ∈ s.handled, e.worked = true ∧ e.name = some name ∧ e.stamp = (s.history name).length

/-- An event that the resource is there has been taken while the client worked, and no deletion
since. -/
def ToldPresent (s : Mirror) (name : String) : Prop :=
  ∃ since e before, s.handled = since ++ e :: before ∧ e.worked = true ∧ e.name = some name ∧
    e.event.content ≠ none ∧
    ∀ e' ∈ since, e'.worked = true → e'.name = some name → e'.event.content ≠ none

/-- The resource is covered by the events of the stream and the times at which the client worked: its
last change could be told, or it is not there and it could not be told that it is. -/
def Covered (s : Mirror) (name : String) : Prop :=
  s.ToldLastChange name ∨ s.current name = none ∧ ¬s.ToldPresent name

/-! ## The events of the stream, in order -/

/-- The events the loop has taken and has yet to take, oldest first. -/
def timeline (s : Mirror) : List Stamped := (s.handled.map (·.toStamped)).reverse ++ s.pending

/-- An event is about a state that its resource has had. -/
def Sound (history : String → List (Option KubeObject)) (e : Stamped) : Prop :=
  ∀ obj, e.event.object = some obj → obj.nameAny ≠ "" ∧ obj.resourceVersion ≠ none ∧
    ∃ later earlier, history obj.nameAny = later ++ e.event.content :: earlier ∧
      e.stamp = earlier.length + 1

/-- Two events of one resource in the order of its changes. -/
def Before (e e' : Stamped) : Prop :=
  ∀ name, e.name = some name → e'.name = some name → e.stamp ≤ e'.stamp

/-- The resource has had no two states of one version. -/
def Versioned (states : List (Option KubeObject)) : Prop :=
  states.Pairwise fun state old => ∀ obj, state = some obj → ∀ obj', old = some obj' →
    obj'.resourceVersion ≠ obj.resourceVersion

/-- What a run keeps: the history of the resources, the events of the stream, and what has been
reported. -/
structure Faithful (s : Mirror) : Prop where
  named : ∀ name obj, some obj ∈ s.history name →
    obj.nameAny = name ∧ name ≠ "" ∧ obj.resourceVersion ≠ none
  versioned : ∀ name, Versioned (s.history name)
  sound : ∀ e ∈ s.timeline, Sound s.history e
  ordered : s.timeline.Pairwise Before
  told : List.Forall₂ (fun change (e : Handled) => change.Tells e.event) s.reported
    (s.handled.filter (·.deliverable))

theorem faithful_start : Faithful start where
  named _ _ h := nomatch h
  versioned _ := .nil
  sound _ h := nomatch h
  ordered := .nil
  told := .nil

section
variable {s : Mirror} {name : String}

/-- A resource that has changed has had the same states before. -/
theorem history_change {s : Mirror} (name : String) (state : Option KubeObject) (event : Event)
    (other : String) : ∃ new, (s.change name state event).history other = new ++ s.history other := by
  by_cases hother : other = name
  · exact ⟨[state], by rw [hother, change]; exact Function.update_self ..⟩
  · exact ⟨[], Function.update_of_ne hother ..⟩

theorem Sound.change {e : Stamped} (hsound : Sound s.history e) (state : Option KubeObject)
    (event : Event) : Sound (s.change name state event).history e := by
  intro obj hobj
  obtain ⟨hname, hversion, later, earlier, hhistory, hstamp⟩ := hsound obj hobj
  obtain ⟨new, hnew⟩ := history_change (s := s) name state event obj.nameAny
  refine ⟨hname, hversion, new ++ later, earlier, ?_, hstamp⟩
  rw [hnew, hhistory, List.append_assoc]

/-- The stamp of an event is at most the number of changes of its resource. -/
theorem Sound.stamp_le {e : Stamped} (hsound : Sound s.history e) (hname : e.name = some name) :
    e.stamp ≤ (s.history name).length := by
  obtain ⟨obj, hobj, rfl⟩ := Option.map_eq_some_iff.1 hname
  obtain ⟨-, -, later, earlier, hhistory, hstamp⟩ := hsound obj hobj
  rw [hhistory, hstamp, List.length_append, List.length_cons]
  omega

/-- A change of a resource. -/
theorem Faithful.change (h : Faithful s) {state : Option KubeObject} {event : Event}
    {obj : KubeObject} (hobject : event.object = some obj) (hobjName : obj.nameAny = name)
    (hcontent : event.content = state) (hname : name ≠ "") (hversion : obj.resourceVersion ≠ none)
    (hstate : ∀ new, state = some new → new = obj)
    (hnew : ∀ new, state = some new → ∀ old, some old ∈ s.history name →
      old.resourceVersion ≠ new.resourceVersion) : Faithful (s.change name state event) := by
  have hself : (s.change name state event).history name = state :: s.history name :=
    Function.update_self ..
  have hothers : ∀ {other}, other ≠ name →
      (s.change name state event).history other = s.history other :=
    fun hne => Function.update_of_ne hne ..
  have hsound : Sound (s.change name state event).history
      ⟨event, (s.history name).length + 1⟩ := by
    intro obj' hobj'
    cases hobject.symm.trans hobj'
    refine ⟨hobjName ▸ hname, hversion, [], s.history name, ?_, rfl⟩
    rw [hobjName, hself, hcontent, List.nil_append]
  have htimeline : (s.change name state event).timeline = s.timeline ∨
      (s.change name state event).timeline =
        s.timeline ++ [⟨event, (s.history name).length + 1⟩] := by
    unfold timeline Mirror.change
    cases s.connected
    · exact .inl rfl
    · exact .inr (by simp)
  refine ⟨fun other obj' hmem => ?_, fun other => ?_, fun e he => ?_, ?_, h.told⟩
  · by_cases hother : other = name
    · subst hother
      rw [hself] at hmem
      rcases List.mem_cons.1 hmem with heq | hmem
      · cases hstate obj' heq.symm
        exact ⟨hobjName, hname, hversion⟩
      · exact h.named other obj' hmem
    · rw [hothers hother] at hmem
      exact h.named other obj' hmem
  · by_cases hother : other = name
    · subst hother
      rw [hself]
      refine List.pairwise_cons.2 ⟨fun old hold new hnewState obj' hobj' => ?_, h.versioned other⟩
      exact hnew new hnewState obj' (hobj' ▸ hold)
    · rw [hothers hother]
      exact h.versioned other
  · rcases htimeline with heq | heq
    · rw [heq] at he
      exact (h.sound e he).change state event
    · rw [heq] at he
      rcases List.mem_append.1 he with he | he
      · exact (h.sound e he).change state event
      · rw [List.mem_singleton.1 he]
        exact hsound
  · rcases htimeline with heq | heq
    · rw [heq]
      exact h.ordered
    · rw [heq]
      refine List.pairwise_append.2 ⟨h.ordered, List.pairwise_singleton _ _, fun e he e' he' => ?_⟩
      rw [List.mem_singleton.1 he']
      intro other hename hother
      have hothername : other = name := by
        rw [Stamped.name, hobject, Option.map_some, hobjName] at hother
        exact (Option.some.inj hother).symm
      subst hothername
      exact Nat.le_succ_of_le ((h.sound e he).stamp_le hename)

/-- The stream fails, and what it had to emit is lost. -/
theorem Faithful.disconnect (h : Faithful s) (seenVersions : HashMap String String) :
    Faithful { s with connected := false, pending := [], seenVersions } := by
  have hsub : ({ s with connected := false, pending := [], seenVersions } : Mirror).timeline.Sublist
      s.timeline := by
    rw [timeline, timeline, List.append_nil]
    exact List.sublist_append_left _ _
  exact ⟨h.named, h.versioned, fun e he => h.sound e (hsub.subset he), h.ordered.sublist hsub, h.told⟩

/-- The stream lists the objects there are. -/
theorem Faithful.relist (h : Faithful s) {objs : List KubeObject}
    (hobjs : ∀ obj ∈ objs, s.current obj.nameAny = some obj) :
    Faithful { s with
      connected := true
      pending := ⟨.init, 0⟩ :: objs.map (fun obj =>
        ⟨.initApply obj, (s.history obj.nameAny).length⟩) ++ [⟨.initDone, 0⟩] } := by
  -- what the list emits has the latest stamp
  have hnew : ∀ e ∈ (⟨.init, 0⟩ :: objs.map (fun obj =>
      (⟨.initApply obj, (s.history obj.nameAny).length⟩ : Stamped)) ++ [⟨.initDone, 0⟩]),
      Sound s.history e ∧ ∀ name, e.name = some name → e.stamp = (s.history name).length := by
    intro e he
    rw [List.cons_append, List.mem_cons, List.mem_append, List.mem_singleton] at he
    rcases he with rfl | he | rfl
    · exact ⟨fun _ => (nomatch ·), fun _ => (nomatch ·)⟩
    · obtain ⟨obj, hobj, rfl⟩ := List.mem_map.1 he
      have hcurrent := hobjs obj hobj
      refine ⟨fun obj' hobj' => ?_, fun name hname => ?_⟩
      · cases hobj'
        cases hhistory : s.history obj.nameAny with
        | nil =>
          rw [current, hhistory] at hcurrent
          cases hcurrent
        | cons state earlier =>
          rw [current, hhistory, List.head?_cons, Option.join_some] at hcurrent
          obtain ⟨-, hname, hversion⟩ := h.named obj.nameAny obj (by
            rw [hhistory, hcurrent]
            exact List.mem_cons_self)
          exact ⟨hname, hversion, [], earlier, by rw [hcurrent]; rfl, rfl⟩
      · cases hname
        rfl
    · exact ⟨fun _ => (nomatch ·), fun _ => (nomatch ·)⟩
  have hold : ∀ e ∈ (s.handled.map (·.toStamped)).reverse, Sound s.history e :=
    fun e he => h.sound e (List.mem_append_left _ he)
  refine ⟨h.named, h.versioned, fun e he => ?_, ?_, h.told⟩
  · rcases List.mem_append.1 he with he | he
    · exact hold e he
    · exact (hnew e he).1
  · refine List.pairwise_append.2 ⟨(List.pairwise_append.1 h.ordered).1, ?_, fun e he e' he' => ?_⟩
    · refine List.Pairwise.imp_of_mem (R := fun _ _ => True) (fun he he' _ => ?_)
        (List.pairwise_of_forall fun _ _ => trivial)
      intro name hname hname'
      rw [(hnew _ he).2 name hname, (hnew _ he').2 name hname']
    · intro name hname hname'
      rw [(hnew e' he').2 name hname']
      exact (hold e he).stamp_le hname

/-- The loop takes an event. -/
theorem Faithful.handle (h : Faithful s) («namespace» : String) (resourceType : ResourceType)
    (rpcClient : Option ReportAnswer) (timestamp : Int) {e : Stamped} {rest : List Stamped}
    (hpending : s.pending = e :: rest) :
    Faithful (s.handle «namespace» resourceType rpcClient timestamp e rest) := by
  have htimeline : (s.handle «namespace» resourceType rpcClient timestamp e rest).timeline =
      s.timeline := by
    rw [timeline, timeline, hpending, Mirror.handle]
    simp
  refine ⟨h.named, h.versioned, htimeline ▸ h.sound, htimeline ▸ h.ordered, ?_⟩
  have hsound : Sound s.history e := h.sound e (by rw [timeline, hpending]; simp)
  unfold Mirror.handle
  dsimp only
  cases hobject : e.event.object with
  | none =>
    rw [onEvent_of_object_none «namespace» resourceType s.seenVersions timestamp hobject,
      List.filter_cons_of_neg (by simp [Handled.deliverable, hobject])]
    exact h.told
  | some obj =>
    obtain ⟨hname, hversion, -⟩ := hsound obj hobject
    obtain ⟨version, hversion⟩ := Option.ne_none_iff_exists'.1 hversion
    obtain ⟨change, hchange, htells⟩ := onEvent_spec «namespace» resourceType s.seenVersions e.event
      timestamp hobject hname hversion
    have hsend : sendEvent rpcClient change = if works rpcClient then some change else none := by
      rcases rpcClient with _ | _ | _ | _ <;> rfl
    rw [hchange, Option.bind_some, hsend]
    cases hworks : works rpcClient with
    | false =>
      rw [List.filter_cons_of_neg (by simp [Handled.deliverable])]
      exact h.told
    | true =>
      rw [List.filter_cons_of_pos (by simp [Handled.deliverable, hobject])]
      exact .cons htells h.told

end

/-- Every step keeps the invariant. -/
theorem faithful_step {«namespace» : String} {resourceType : ResourceType} (s : Mirror)
    (a : MirrorAction) (s' : Mirror) (hstep : Step «namespace» resourceType s a s')
    (h : Faithful s) : Faithful s' := by
  cases hstep with
  | apply hname hversion hnew =>
    refine h.change rfl rfl rfl hname hversion (fun new hnew' => (Option.some.inj hnew').symm) ?_
    intro new hnew' old hold
    cases hnew'
    exact hnew old hold
  | delete hname hversion hpresent =>
    exact h.change rfl rfl rfl hname hversion (fun _ heq => nomatch heq) fun _ heq => nomatch heq
  | disconnect => exact h.disconnect _
  | relist hdisconnected hobjs hnodup => exact h.relist fun obj hobj => (hobjs obj).1 hobj
  | handle hpending => exact h.handle «namespace» resourceType _ _ hpending

/-! ## The last report -/

section
variable {s : Mirror} {name : String}

/-- The last event about a resource that was taken while the client worked. -/
def lastTold (s : Mirror) (name : String) : Option Handled :=
  (s.handled.filter (·.deliverable)).find? fun e => e.name = some name

/-- The last report tells the last event. -/
theorem Faithful.lastReport_tells (h : Faithful s) (name : String) :
    s.lastReport name = none ∧ s.lastTold name = none ∨
      ∃ change e, s.lastReport name = some change ∧ s.lastTold name = some e ∧
        change.Tells e.event := by
  have hname : ∀ (change : ResourceChangeEvent) (e : Handled), change.Tells e.event →
      decide (change.resourceName = name) = decide (e.name = some name) := by
    intro change e htells
    obtain ⟨obj, hobj, hobjName⟩ := htells.name
    simp [Stamped.name, hobj, hobjName]
  exact Lists.find?_of_forall₂ hname h.told

/-- Where the last event told stands in what has been handled. -/
theorem lastTold_eq_some {e : Handled} (h : s.lastTold name = some e) :
    e.worked = true ∧ e.name = some name ∧ ∃ since before, s.handled = since ++ e :: before ∧
      ∀ e' ∈ since, e'.worked = true → e'.name ≠ some name := by
  rw [lastTold, List.find?_filter] at h
  obtain ⟨hp, since, before, hhandled, hsince⟩ := List.find?_eq_some_iff_append.1 h
  simp only [decide_eq_true_eq] at hp
  rw [Handled.deliverable_of_name hp.2] at hp
  refine ⟨hp.1, hp.2, since, before, hhandled, fun e' he' hworked hname => ?_⟩
  have := hsince e' he'
  simp [Handled.deliverable_of_name hname, hworked, hname] at this

theorem lastTold_eq_none (h : s.lastTold name = none) :
    ∀ e ∈ s.handled, e.worked = true → e.name ≠ some name := by
  intro e he hworked hname
  have hdeliverable := (Handled.deliverable_of_name hname).trans hworked
  have := List.find?_eq_none.1 h e (List.mem_filter.2 ⟨he, hdeliverable⟩)
  simp [hname] at this

/-- The last event told has the latest stamp of those told. -/
theorem Faithful.stamp_le_lastTold (h : Faithful s) {e : Handled} (hlast : s.lastTold name = some e)
    {e' : Handled} (he' : e' ∈ s.handled) (hworked : e'.worked = true)
    (hname : e'.name = some name) : e'.stamp ≤ e.stamp := by
  obtain ⟨-, hlastName, since, before, hhandled, hsince⟩ := lastTold_eq_some hlast
  rw [hhandled] at he'
  rcases List.mem_append.1 he' with he' | he'
  · exact absurd hname (hsince e' he' hworked)
  rcases List.mem_cons.1 he' with rfl | he'
  · exact le_rfl
  · have hordered := (List.pairwise_append.1 h.ordered).1
    rw [List.pairwise_reverse, List.pairwise_map, hhandled] at hordered
    have := (List.pairwise_cons.1 (List.pairwise_append.1 hordered).2.1).1 e' he'
    exact this name hname hlastName

/-- The state of the resource that the last event told. -/
theorem Faithful.lastTold_state (h : Faithful s) {e : Handled} (hlast : s.lastTold name = some e) :
    ∃ later earlier, s.history name = later ++ e.event.content :: earlier ∧
      e.stamp = earlier.length + 1 := by
  obtain ⟨-, hlastName, since, before, hhandled, -⟩ := lastTold_eq_some hlast
  obtain ⟨obj, hobj, hobjName⟩ := Option.map_eq_some_iff.1 hlastName
  have hmem : e.toStamped ∈ s.timeline := by
    rw [timeline, hhandled]
    simp
  obtain ⟨-, -, later, earlier, hhistory, hstamp⟩ := h.sound e.toStamped hmem obj hobj
  exact ⟨later, earlier, hobjName ▸ hhistory, hstamp⟩

/-- Somebody has been told that the resource is there where the last event told says so. -/
theorem toldPresent_iff {e : Handled} (hlast : s.lastTold name = some e) :
    s.ToldPresent name ↔ e.event.content ≠ none := by
  obtain ⟨hworked, hname, since, before, hhandled, hsince⟩ := lastTold_eq_some hlast
  constructor
  · rintro ⟨since', e', before', hhandled', hworked', hname', hpresent, hsince'⟩
    have heq : since' ++ e' :: before' = since ++ e :: before := hhandled'.symm.trans hhandled
    rcases List.append_eq_append_iff.1 heq with ⟨l, hl, hl'⟩ | ⟨l, hl, hl'⟩
    · cases l with
      | nil =>
        cases hl'
        exact hpresent
      | cons _ _ =>
        obtain ⟨rfl, -⟩ := List.cons.inj hl'
        exact absurd hname' (hsince e' (by rw [hl]; simp) hworked')
    · cases l with
      | nil =>
        cases hl'
        exact hpresent
      | cons _ _ =>
        obtain ⟨rfl, -⟩ := List.cons.inj hl'
        exact hsince' e (by rw [hl]; simp) hworked hname
  · intro hpresent
    refine ⟨since, e, before, hhandled, hworked, hname, hpresent, fun e' he' hworked' hname' => ?_⟩
    exact absurd hname' (hsince e' he' hworked')

/-- The last report of a resource agrees with the cluster exactly if the resource is covered. -/
theorem Faithful.agrees_iff (h : Faithful s) : s.Agrees name ↔ s.Covered name := by
  rcases h.lastReport_tells name with ⟨hreport, htold⟩ | ⟨change, e, hreport, htold, htells⟩
  · -- nobody has been told anything
    have hnotLast : ¬s.ToldLastChange name := by
      rintro ⟨e, he, hworked, hname, -⟩
      exact lastTold_eq_none htold e he hworked hname
    have hnotPresent : ¬s.ToldPresent name := by
      rintro ⟨since, e, before, hhandled, hworked, hname, -⟩
      exact lastTold_eq_none htold e (by rw [hhandled]; simp) hworked hname
    rw [Agrees, hreport, Covered, or_iff_right hnotLast, and_iff_left hnotPresent]
    cases s.current name <;> simp
  · obtain ⟨hworked, hname, since, before, hhandled, -⟩ := lastTold_eq_some htold
    obtain ⟨later, earlier, hhistory, hstamp⟩ := h.lastTold_state htold
    have hmem : e ∈ s.handled := by rw [hhandled]; simp
    rw [Agrees, hreport, Covered, toldPresent_iff htold]
    cases later with
    | nil =>
      -- the last change has been told
      have hcurrent : s.current name = e.event.content := by rw [current, hhistory]; rfl
      have hlast : s.ToldLastChange name :=
        ⟨e, hmem, hworked, hname, by rw [hhistory, hstamp]; rfl⟩
      refine iff_of_true ?_ (.inl hlast)
      rw [hcurrent]
      cases hcontent : e.event.content with
      | none => exact htells.deleted.2 hcontent
      | some obj =>
        refine ⟨fun hdeleted => ?_, htells.version obj hcontent⟩
        rw [htells.deleted.1 hdeleted] at hcontent
        cases hcontent
    | cons state later =>
      -- the resource has changed since
      have hcurrent : s.current name = state := by rw [current, hhistory]; rfl
      have hnotLast : ¬s.ToldLastChange name := by
        rintro ⟨e', he', hworked', hname', hstamp'⟩
        have hle := h.stamp_le_lastTold htold he' hworked' hname'
        rw [hstamp', hhistory, hstamp] at hle
        simp only [List.cons_append, List.length_cons, List.length_append] at hle
        omega
      rw [or_iff_right hnotLast, hcurrent]
      cases state with
      | none =>
        rw [and_iff_right rfl, not_not]
        exact htells.deleted
      | some obj =>
        refine iff_of_false ?_ fun hall => nomatch hall.1
        rintro ⟨hdeleted, hversion⟩
        obtain ⟨told, htoldContent⟩ := Option.ne_none_iff_exists'.1 (mt htells.deleted.2 hdeleted)
        have hversioned := h.versioned name
        rw [hhistory, List.cons_append, Versioned, List.pairwise_cons] at hversioned
        have hne := hversioned.1 e.event.content (by simp) obj rfl told htoldContent
        exact hne ((htells.version told htoldContent).trans hversion.symm)

end

/-- **The last reports.** In every state of every run, and so once the stream is quiet, the last
report of a resource agrees with the cluster exactly if the resource is covered. -/
theorem agrees_iff_covered {«namespace» : String} {resourceType : ResourceType}
    {as : List MirrorAction} {s : Mirror} (hrun : Run (Step «namespace» resourceType) start as s)
    (name : String) : s.Agrees name ↔ s.Covered name :=
  (Run.invariant Faithful faithful_step hrun faithful_start).agrees_iff

/-! ## A deployment that is deleted between two lists -/

/-- A client that works. -/
def acceptAll : Option ReportAnswer := some (.ok (.ok ⟨⟩))

/-- The deployment `web`. -/
def webDeployment : KubeObject := ⟨"web", some "7", none⟩

/-- The deployment is there when the stream connects. -/
def listed : List MirrorAction :=
  [.apply webDeployment, .relist [webDeployment], .handle acceptAll 1, .handle acceptAll 2,
    .handle acceptAll 3]

/-- And then it is deleted before the stream connects again. -/
def deletedInGap : List MirrorAction :=
  listed ++ [.disconnect false, .delete webDeployment, .relist [], .handle acceptAll 4,
    .handle acceptAll 5]

theorem current_change_of_ne {s : Mirror} {name other : String} (hne : other ≠ name)
    (state : Option KubeObject) (event : Event) :
    (s.change name state event).current other = s.current other := by
  have hhistory : (s.change name state event).history other = s.history other :=
    Function.update_of_ne hne ..
  rw [current, hhistory, current]

theorem current_web : ∀ obj, obj ∈ [webDeployment] ↔
    (start.change "web" (some webDeployment) (.apply webDeployment)).current obj.nameAny =
      some obj := by
  intro obj
  rw [List.mem_singleton]
  constructor
  · rintro rfl
    rfl
  · intro hcurrent
    by_cases hname : obj.nameAny = "web"
    · rw [hname] at hcurrent
      exact (Option.some.inj hcurrent).symm
    · rw [current_change_of_ne hname] at hcurrent
      cases hcurrent

/-- The deployment is covered, and its last report agrees with the cluster. -/
theorem agrees_iff_covered_listed :
    ∃ s, Run (Step "prod" .deployment) start listed s ∧ s.Agrees "web" := by
  have hrun : ∃ s, Run (Step "prod" .deployment) start listed s ∧ s.ToldLastChange "web" := by
    refine ⟨_, .cons (.apply (by decide) (by decide) fun _ h => nomatch h) <|
      .cons (.relist rfl current_web (List.nodup_singleton _)) <| .cons (.handle rfl) <|
      .cons (.handle rfl) <| .cons (.handle rfl) .nil, ?_⟩
    exact ⟨_, .tail _ (.head _), rfl, rfl, rfl⟩
  obtain ⟨s, hrun, htold⟩ := hrun
  exact ⟨s, hrun, (agrees_iff_covered hrun "web").2 (.inl htold)⟩

/-- The stream is quiet, every report has been accepted, and the last one about `web` tells a
deployment that has been deleted. -/
theorem deletion_missed :
    ¬∀ («namespace» : String) (resourceType : ResourceType) (as : List MirrorAction) (s : Mirror),
      Run (Step «namespace» resourceType) start as s → s.connected = true → s.pending = [] →
        ∀ name, s.Agrees name := by
  intro h
  have hrun : ∃ s, Run (Step "prod" .deployment) start deletedInGap s ∧ s.connected = true ∧
      s.pending = [] ∧ s.current "web" = none ∧
        (s.lastReport "web").map (·.changeType) = some .created := by
    refine ⟨_, .cons (.apply (by decide) (by decide) fun _ h => nomatch h) <|
      .cons (.relist rfl current_web (List.nodup_singleton _)) <| .cons (.handle rfl) <|
      .cons (.handle rfl) <| .cons (.handle rfl) <| .cons .disconnect <|
      .cons (.delete (by decide) (by decide) ?_) <| .cons (.relist rfl ?_ List.nodup_nil) <|
      .cons (.handle rfl) <| .cons (.handle rfl) .nil, rfl, rfl, rfl, rfl⟩
    · exact fun hnone => nomatch hnone
    · intro obj
      refine iff_of_false List.not_mem_nil fun hcurrent => ?_
      by_cases hname : obj.nameAny = "web"
      · rw [hname] at hcurrent
        cases hcurrent
      · have hbefore := (current_change_of_ne hname none (.delete webDeployment)).symm.trans hcurrent
        exact hname (congrArg (·.nameAny) (List.mem_singleton.1 ((current_web obj).2 hbefore)))
  obtain ⟨s, hrun, hconnected, hpending, hcurrent, hreport⟩ := hrun
  have hagrees := h "prod" .deployment deletedInGap s hrun hconnected hpending "web"
  obtain ⟨change, hchange, htype⟩ := Option.map_eq_some_iff.1 hreport
  rw [Agrees, hcurrent, hchange] at hagrees
  cases htype.symm.trans hagrees

end Mirror

end WatchManager

end Lapdev
