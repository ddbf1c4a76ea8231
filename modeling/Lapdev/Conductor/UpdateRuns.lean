import Lapdev.Conductor.Updates

/-!
# Runs of the streams of updates

Each of the three tables of feeds takes part in a run of the tasks as a system of `Broadcast`
(`Step.ws`, `Step.all`, `Step.prebuild`), so that what a client is sent follows from the rules there
(`updates_of_run`). `forwarded_of_run` follows the lines of a prebuild through the workspaces that
wait for it.
-/

namespace Lapdev

open RustStd Runs
open Broadcast (Policy Hub System)

namespace UpdateStreams

/-! ## What the tasks are sending -/

/-- The events that a task is sending to the clients of one workspace. -/
def Task.wsSending : Task → Multiset (Nat × WorkspaceUpdateEvent)
  | sendWorkspaceUpdate _ _ event subscribers _ => (subscribers.map (·, event) : List _)
  | _ => 0

/-- The statuses that a task is sending to the clients of a user. -/
def Task.allSending : Task → Multiset (Nat × (Uuid × WorkspaceStatus))
  | sendWorkspaceStatus workspaceId status subscribers _ =>
    (subscribers.map (·, (workspaceId, status)) : List _)
  | _ => 0

/-- The events that a task is sending to the workspaces that wait for a prebuild. -/
def Task.prebuildSending : Task → Multiset (Nat × PrebuildUpdateEvent)
  | sendPrebuildUpdate event subscribers => (subscribers.map (·, event) : List _)
  | _ => 0

/-- The workspace updates as a broadcast of their own. -/
def Updates.ws (s : Updates) : System Uuid WorkspaceUpdateEvent Nat :=
  ⟨s.wsUpdates, s.tasks.bind Task.wsSending⟩

/-- The updates of all workspaces of a user as a broadcast of their own. -/
def Updates.all (s : Updates) : System Uuid (Uuid × WorkspaceStatus) Nat :=
  ⟨s.allWorkspaceUpdates, s.tasks.bind Task.allSending⟩

/-- The prebuild updates as a broadcast of their own. -/
def Updates.prebuild (s : Updates) : System Uuid PrebuildUpdateEvent Nat :=
  ⟨s.prebuildUpdates, s.tasks.bind Task.prebuildSending⟩

/-- What an action is for the workspace updates. -/
def Act.ws : Act → Broadcast.Act Uuid WorkspaceUpdateEvent Nat
  | publish workspaceId event _ => .publish workspaceId event
  | subscribe workspaceId rx => .subscribe workspaceId rx
  | _ => .other

/-- What it is for the updates of all workspaces. -/
def Act.all : Act → Broadcast.Act Uuid (Uuid × WorkspaceStatus) Nat
  | publishStatus userId workspaceId status => .publish userId (workspaceId, status)
  | subscribeAll userId rx => .subscribe userId rx
  | _ => .other

/-- What it is for the prebuild updates. -/
def Act.prebuild : Act → Broadcast.Act Uuid PrebuildUpdateEvent Nat
  | publishPrebuild prebuildId event => .publish prebuildId event
  | wait w => .subscribe w.prebuildId w.rx
  | _ => .other

variable {s s' : Updates} {a : Act}

/-- Who returns sends nothing. -/
theorem bind_returned {α : Type} (f : Task → Multiset α) (hf : ∀ w, f (.waitForPrebuild w) = 0)
    (caller : Option Wait) : (returned caller).bind f = 0 := by
  cases caller with
  | none => rfl
  | some w => rw [returned, Multiset.singleton_bind, hf]

/-- A wait that takes an event sends nothing either. -/
theorem sending_forwarded {α : Type} (f : Task → Multiset α)
    (hadd : ∀ u i e c, f (.addWorkspaceUpdateEvent u i e c) = 0)
    (hwait : ∀ w, f (.waitForPrebuild w) = 0) (hclean : ∀ w, f (.cleanupPrebuildUpdates w) = 0)
    (w : Wait) (event : PrebuildUpdateEvent) : f (forwarded w event) = 0 := by
  cases event with
  | status status => cases status <;> simp [forwarded, hwait, hclean]
  | stdout line => exact hadd ..
  | stderr line => exact hadd ..

/-- Every step is one of the workspace updates. -/
theorem Step.ws (h : Step s a s') : Broadcast.Step wsUpdates s.ws a.ws s'.ws := by
  cases h with
  | @call t hcall =>
    have hnone : t.wsSending = 0 := by
      cases t <;> first | rfl | cases hcall
    exact .trans_eq .skip (by simp only [Updates.ws, Multiset.cons_bind, hnone, zero_add])
  | addWorkspaceUpdateEvent htasks =>
    exact .trans_eq .publish
      (by simp only [Updates.ws, htasks, Multiset.cons_bind, Task.wsSending, zero_add])
  | sendWorkspaceUpdate htasks =>
    refine .send ?_
    simp only [Updates.ws, htasks, Multiset.cons_bind, Task.wsSending, List.map_cons,
      ← Multiset.cons_coe, Multiset.cons_add]
  | workspaceUpdates htasks hfresh =>
    exact .trans_eq (.subscribe hfresh)
      (by simp only [Updates.ws, htasks, Multiset.cons_bind, Task.wsSending])
  | forwardWorkspaceUpdate hmem hrecv => exact .receive hrecv
  | @closeWorkspaceUpdates workspaceId rx tasks htasks =>
    exact .trans_eq (.close (c := rx))
      (by simp only [Updates.ws, htasks, Multiset.cons_bind, Task.wsSending])
  | @cleanupWorkspaceUpdates workspaceId tasks htasks =>
    exact .trans_eq (.cleanup (k := workspaceId))
      (by simp only [Updates.ws, htasks, Multiset.cons_bind, Task.wsSending, zero_add])
  | forwardWorkspaceStatus => exact .skip
  | sentWorkspaceUpdate htasks | sentWorkspaceStatus htasks =>
    refine .trans_eq .skip ?_
    simp only [Updates.ws, htasks, Multiset.cons_bind, Multiset.add_bind, Task.wsSending,
      bind_returned Task.wsSending (fun _ => rfl), List.map_nil, Multiset.coe_nil]
  | addWorkspaceStatus htasks | sendWorkspaceStatus htasks | addPrebuildUpdateEvent htasks
  | sendPrebuildUpdate htasks | sentPrebuildUpdate htasks | allWorkspaceUpdates htasks
  | closeAllWorkspaceUpdates htasks | cleanupAllWorkspaceUpdates htasks | prebuildUpdates htasks
  | stopWaiting htasks | cleanupPrebuildUpdates htasks | dropReceiver htasks =>
    exact .trans_eq .skip (by simp only [Updates.ws, htasks, Multiset.cons_bind, Task.wsSending,
      List.map_nil, Multiset.coe_nil, zero_add])
  | @receivePrebuildUpdate w event _ tasks htasks =>
    have hnone := sending_forwarded Task.wsSending (fun _ _ _ _ => rfl) (fun _ => rfl)
      (fun _ => rfl) w event
    refine .trans_eq .skip ?_
    simp only [Updates.ws, htasks, Multiset.cons_bind, hnone]
    rfl

/-- Every step is one of the updates of all workspaces. -/
theorem Step.all (h : Step s a s') :
    Broadcast.Step UpdateStreams.allWorkspaceUpdates s.all a.all s'.all := by
  cases h with
  | @call t hcall =>
    have hnone : t.allSending = 0 := by
      cases t <;> first | rfl | cases hcall
    exact .trans_eq .skip (by simp only [Updates.all, Multiset.cons_bind, hnone, zero_add])
  | addWorkspaceStatus htasks =>
    exact .trans_eq .publish
      (by simp only [Updates.all, htasks, Multiset.cons_bind, Task.allSending, zero_add])
  | sendWorkspaceStatus htasks =>
    refine .send ?_
    simp only [Updates.all, htasks, Multiset.cons_bind, Task.allSending, List.map_cons,
      ← Multiset.cons_coe, Multiset.cons_add]
  | allWorkspaceUpdates htasks hfresh =>
    exact .trans_eq (.subscribe hfresh)
      (by simp only [Updates.all, htasks, Multiset.cons_bind, Task.allSending])
  | forwardWorkspaceStatus hmem hrecv => exact .receive hrecv
  | @closeAllWorkspaceUpdates userId rx tasks htasks =>
    exact .trans_eq (.close (c := rx))
      (by simp only [Updates.all, htasks, Multiset.cons_bind, Task.allSending])
  | @cleanupAllWorkspaceUpdates userId tasks htasks =>
    exact .trans_eq (.cleanup (k := userId))
      (by simp only [Updates.all, htasks, Multiset.cons_bind, Task.allSending, zero_add])
  | forwardWorkspaceUpdate => exact .skip
  | sentWorkspaceUpdate htasks | sentWorkspaceStatus htasks =>
    refine .trans_eq .skip ?_
    simp only [Updates.all, htasks, Multiset.cons_bind, Multiset.add_bind, Task.allSending,
      bind_returned Task.allSending (fun _ => rfl), List.map_nil, Multiset.coe_nil]
  | addWorkspaceUpdateEvent htasks | sendWorkspaceUpdate htasks | addPrebuildUpdateEvent htasks
  | sendPrebuildUpdate htasks | sentPrebuildUpdate htasks | workspaceUpdates htasks
  | closeWorkspaceUpdates htasks | cleanupWorkspaceUpdates htasks | prebuildUpdates htasks
  | stopWaiting htasks | cleanupPrebuildUpdates htasks | dropReceiver htasks =>
    exact .trans_eq .skip (by simp only [Updates.all, htasks, Multiset.cons_bind, Task.allSending,
      zero_add])
  | @receivePrebuildUpdate w event _ tasks htasks =>
    have hnone := sending_forwarded Task.allSending (fun _ _ _ _ => rfl) (fun _ => rfl)
      (fun _ => rfl) w event
    refine .trans_eq .skip ?_
    simp only [Updates.all, htasks, Multiset.cons_bind, hnone]
    rfl

/-- Every step is one of the prebuild updates. -/
theorem Step.prebuild (h : Step s a s') :
    Broadcast.Step UpdateStreams.prebuildUpdates s.prebuild a.prebuild s'.prebuild := by
  cases h with
  | @call t hcall =>
    have hnone : t.prebuildSending = 0 := by
      cases t <;> first | rfl | cases hcall
    exact .trans_eq .skip (by simp only [Updates.prebuild, Multiset.cons_bind, hnone, zero_add])
  | addPrebuildUpdateEvent htasks =>
    exact .trans_eq .publish
      (by simp only [Updates.prebuild, htasks, Multiset.cons_bind, Task.prebuildSending, zero_add])
  | sendPrebuildUpdate htasks =>
    refine .send ?_
    simp only [Updates.prebuild, htasks, Multiset.cons_bind, Task.prebuildSending, List.map_cons,
      ← Multiset.cons_coe, Multiset.cons_add]
  | prebuildUpdates htasks hfresh =>
    exact .trans_eq (.subscribe hfresh)
      (by simp only [Updates.prebuild, htasks, Multiset.cons_bind, Task.prebuildSending])
  | @receivePrebuildUpdate w event _ tasks htasks hrecv =>
    have hnone := sending_forwarded Task.prebuildSending (fun _ _ _ _ => rfl) (fun _ => rfl)
      (fun _ => rfl) w event
    refine .trans_eq (.receive hrecv) ?_
    simp only [Updates.prebuild, htasks, Multiset.cons_bind, hnone]
    rfl
  | @dropReceiver w tasks htasks =>
    exact .trans_eq (.close (c := w.rx))
      (by simp only [Updates.prebuild, htasks, Multiset.cons_bind, Task.prebuildSending, zero_add])
  | @cleanupPrebuildUpdates w tasks htasks =>
    exact .trans_eq (.cleanup (k := w.prebuildId))
      (by simp only [Updates.prebuild, htasks, Multiset.cons_bind, Task.prebuildSending])
  | forwardWorkspaceUpdate | forwardWorkspaceStatus => exact .skip
  | sentWorkspaceUpdate htasks | sentWorkspaceStatus htasks =>
    refine .trans_eq .skip ?_
    simp only [Updates.prebuild, htasks, Multiset.cons_bind, Multiset.add_bind,
      Task.prebuildSending, bind_returned Task.prebuildSending (fun _ => rfl)]
  | addWorkspaceUpdateEvent htasks | sendWorkspaceUpdate htasks | addWorkspaceStatus htasks
  | sendWorkspaceStatus htasks | workspaceUpdates htasks | closeWorkspaceUpdates htasks
  | cleanupWorkspaceUpdates htasks | allWorkspaceUpdates htasks | closeAllWorkspaceUpdates htasks
  | cleanupAllWorkspaceUpdates htasks | sentPrebuildUpdate htasks | stopWaiting htasks =>
    exact .trans_eq .skip (by simp only [Updates.prebuild, htasks, Multiset.cons_bind,
      Task.prebuildSending, List.map_nil, Multiset.coe_nil, zero_add])

/-! ## What a client is sent -/

/-- The workspace updates are wired after every run. -/
theorem wired_ws {as : List Act} (hrun : Run Step {} as s) : Broadcast.Wired wsUpdates s.ws := by
  have hinit : Broadcast.Wired wsUpdates (Updates.ws {}) := .init
  exact Broadcast.Run.wired (Broadcast.Run.within (g := Act.ws) hrun Step.ws) hinit

/-- The prebuild updates are wired after every run. -/
theorem wired_prebuild {as : List Act} (hrun : Run Step {} as s) :
    Broadcast.Wired prebuildUpdates s.prebuild := by
  have hinit : Broadcast.Wired prebuildUpdates (Updates.prebuild {}) := .init
  exact Broadcast.Run.wired (Broadcast.Run.within (g := Act.prebuild) hrun Step.prebuild) hinit

/-- A client of a workspace that is there has been sent, or is about to be sent, what the workspace
had kept when it subscribed and every update since, each once, and its stream does not end. The
lines among these are what a new client would be sent now. If each update comes only when the one
before has been sent, they arrive in order. -/
theorem updates_of_run {s₁ : Updates} {as bs : List Act} {workspaceId : Uuid} {rx : Nat}
    (hrun : Run Step {} as s) (hsub : Step s (.subscribe workspaceId rx) s₁)
    (hrun' : Run Step s₁ bs s') (hopen : s'.wsUpdates.isOpen rx = true) :
    let updates := s.wsUpdates.seen workspaceId ++
      Broadcast.published workspaceId (bs.map Act.ws)
    ((s'.wsUpdates.sent rx : Multiset WorkspaceUpdateEvent) + s'.ws.flyingTo rx =
        (updates : Multiset WorkspaceUpdateEvent) ∧
      updates.filter wsUpdates.keeps = s'.wsUpdates.seen workspaceId ∧ ¬s'.ws.ended rx) ∧
    (Run (Guarded Step fun s a => Broadcast.OneAtATime workspaceId rx s.ws a.ws) s₁ bs s' →
      ∃ next : Option WorkspaceUpdateEvent,
        s'.ws.flyingTo rx = (next.toList : Multiset WorkspaceUpdateEvent) ∧
        s'.wsUpdates.sent rx ++ next.toList = updates) := by
  have hwired := wired_ws hrun
  have howed := Broadcast.Owed.of_subscribe hwired hsub.ws
  have hend := (Broadcast.Run.owed (Broadcast.Run.within (g := Act.ws) hrun' Step.ws) howed).2 hopen
  refine ⟨⟨hend.owed, hend.kept, hend.not_ended⟩, fun hserial => ?_⟩
  exact Broadcast.Run.in_order (Broadcast.Run.within_guarded (g := Act.ws) hserial Step.ws) howed
    (.of_subscribe hwired hsub.ws) hopen

/-- A client that was there before the first line gets it. -/
theorem updates_of_run_line : ∃ s : Updates, s.wsUpdates.isOpen 0 = true ∧
    (s.wsUpdates.sent 0 : Multiset WorkspaceUpdateEvent) + s.ws.flyingTo 0 =
      ([.stdout "ready"] : List WorkspaceUpdateEvent) := by
  have hrun : Run Step {} [.other] { tasks := .handleWorkspaceUpdates 1 none ::ₘ 0 } :=
    .cons (.call rfl) .nil
  have hsub := @Step.workspaceUpdates { tasks := .handleWorkspaceUpdates 1 none ::ₘ 0 } 1 0 0
    rfl rfl
  have hclient := updates_of_run hrun hsub
    (.cons (.call (t := .addWorkspaceUpdateEvent none 1 (.stdout "ready") none) rfl)
      (.cons (@Step.addWorkspaceUpdateEvent _ none 1 (.stdout "ready") none
        {.handleWorkspaceUpdates 1 (some 0)} rfl) .nil)) rfl
  refine ⟨_, ?_, hclient.1.1⟩
  rfl

/-! ## What a prebuild hands on -/

/-- The wait that a task belongs to. -/
def Task.waits : Task → Multiset Wait
  | addWorkspaceUpdateEvent _ _ _ caller => caller.toList
  | sendWorkspaceUpdate _ _ _ _ caller => caller.toList
  | sendWorkspaceStatus _ _ _ caller => caller.toList
  | waitForPrebuild w => {w}
  | cleanupPrebuildUpdates w => {w}
  | dropReceiver w => {w}
  | _ => 0

/-- The waits that have subscribed and not yet dropped their receiver. -/
def Updates.waits (s : Updates) : Multiset Wait := s.tasks.bind Task.waits

/-- The line that `prepare_prebuild` makes of an event of the prebuild. -/
def line : PrebuildUpdateEvent → Option WorkspaceUpdateEvent
  | .status _ => none
  | .stdout line => some (.stdout line)
  | .stderr line => some (.stderr line)

/-- The line that a wait is about to hand on to its workspace. -/
def Task.handing (w : Wait) : Task → Multiset WorkspaceUpdateEvent
  | addWorkspaceUpdateEvent _ workspaceId event caller =>
    if caller = some w ∧ workspaceId = w.workspaceId then {event} else 0
  | _ => 0

/-- The events that are on their way through a wait, which have been received and are still to be
forwarded. -/
def Updates.handing (s : Updates) (w : Wait) : Multiset WorkspaceUpdateEvent :=
  s.tasks.bind (Task.handing w)

/-- The event if a wait hands it on to its workspace. -/
def Act.forwardedBy (w : Wait) : Act → List WorkspaceUpdateEvent
  | publish workspaceId event caller =>
    if caller = some w ∧ workspaceId = w.workspaceId then [event] else []
  | publishStatus _ _ _ => []
  | publishPrebuild _ _ => []
  | subscribe _ _ => []
  | subscribeAll _ _ => []
  | wait _ => []
  | other => []

/-- What others call belongs to no wait. -/
theorem waits_of_isCall {t : Task} (h : t.isCall = true) : t.waits = 0 := by
  cases t with
  | addWorkspaceUpdateEvent userId workspaceId event caller =>
    cases caller with
    | none => rfl
    | some w => cases h
  | sendWorkspaceUpdate | sendWorkspaceStatus | waitForPrebuild | cleanupPrebuildUpdates
  | dropReceiver => cases h
  | _ => rfl

/-- Only a wait that is called goes on when a task returns. -/
theorem waits_returned (caller : Option Wait) :
    (returned caller).bind Task.waits = caller.toList := by
  cases caller with
  | none => rfl
  | some w => exact Multiset.singleton_bind (.waitForPrebuild w) Task.waits

/-- An event is forwarded by its own wait. -/
theorem waits_forwarded (w : Wait) (event : PrebuildUpdateEvent) :
    (forwarded w event).waits = {w} := by
  cases event with
  | status status => cases status <;> rfl
  | stdout line => rfl
  | stderr line => rfl

/-- What a step does to the waits: only a new one comes in, with a receiver of its own. -/
theorem Step.waits (h : Step s a s') :
    (∃ w, a = .wait w ∧ s.prebuildUpdates.channels w.rx = none ∧ s'.waits = w ::ₘ s.waits) ∨
    s'.waits ≤ s.waits := by
  cases h with
  | @prebuildUpdates w tasks htasks hfresh =>
    refine .inl ⟨w, rfl, hfresh, ?_⟩
    simp [Updates.waits, htasks, Task.waits]
  | call hcall => exact .inr (by simp [Updates.waits, waits_of_isCall hcall])
  | sentWorkspaceUpdate htasks | sentWorkspaceStatus htasks =>
    exact .inr (by simp [Updates.waits, htasks, Task.waits, waits_returned])
  | @receivePrebuildUpdate w event _ tasks htasks =>
    refine .inr ?_
    simp only [Updates.waits, htasks, Multiset.cons_bind, waits_forwarded w event]
    exact le_rfl
  | dropReceiver htasks =>
    refine .inr ?_
    simp only [Updates.waits, htasks, Multiset.cons_bind]
    exact Multiset.le_add_left _ _
  | forwardWorkspaceUpdate | forwardWorkspaceStatus => exact .inr le_rfl
  | addWorkspaceUpdateEvent htasks | sendWorkspaceUpdate htasks | addWorkspaceStatus htasks
  | sendWorkspaceStatus htasks | addPrebuildUpdateEvent htasks | sendPrebuildUpdate htasks
  | sentPrebuildUpdate htasks | workspaceUpdates htasks | closeWorkspaceUpdates htasks
  | cleanupWorkspaceUpdates htasks | allWorkspaceUpdates htasks | closeAllWorkspaceUpdates htasks
  | cleanupAllWorkspaceUpdates htasks | stopWaiting htasks | cleanupPrebuildUpdates htasks =>
    exact .inr (by simp [Updates.waits, htasks, Task.waits])

/-- Each wait has made its channel. -/
def Made (s : Updates) : Prop := ∀ w ∈ s.waits, (s.prebuildUpdates.channels w.rx).isSome

/-- Every step keeps the waits that have been made. -/
theorem Made.step (h : Step s a s') (hm : Made s) : Made s' := by
  intro w hw
  rcases h.waits with ⟨w', rfl, hfresh, hwaits⟩ | hle
  · rw [hwaits] at hw
    rcases Multiset.mem_cons.1 hw with rfl | hw
    · exact Broadcast.Step.isSome_of_subscribe h.prebuild
    · exact h.prebuild.isSome_channels (hm w hw)
  · exact h.prebuild.isSome_channels (hm w (Multiset.mem_of_le hle hw))

/-- A wait is the only one with its receiver, and at most one task belongs to it. -/
structure Alone (w : Wait) (s : Updates) : Prop where
  made : (s.prebuildUpdates.channels w.rx).isSome
  unique : ∀ w' ∈ s.waits, w'.rx = w.rx → w' = w
  once : s.waits.count w ≤ 1

variable {w : Wait}

/-- Every step keeps a wait the only one with its channel. -/
theorem Alone.step (h : Step s a s') (ha : Alone w s) : Alone w s' := by
  refine ⟨h.prebuild.isSome_channels ha.made, fun w' hw' hrx => ?_, ?_⟩
  · rcases h.waits with ⟨w₀, -, hfresh, hwaits⟩ | hle
    · rw [hwaits] at hw'
      rcases Multiset.mem_cons.1 hw' with rfl | hw'
      · have hmade := ha.made
        rw [← hrx, hfresh] at hmade
        cases hmade
      · exact ha.unique w' hw' hrx
    · exact ha.unique w' (Multiset.mem_of_le hle hw') hrx
  · rcases h.waits with ⟨w₀, -, hfresh, hwaits⟩ | hle
    · have hne : w ≠ w₀ := by
        rintro rfl
        have hmade := ha.made
        rw [hfresh] at hmade
        cases hmade
      rw [hwaits, Multiset.count_cons_of_ne hne]
      exact ha.once
    · exact (Multiset.count_le_of_le w hle).trans ha.once

/-- A new wait is the only one with its channel. -/
theorem Alone.of_wait {s₁ : Updates} (hm : Made s) (h : Step s (.wait w) s₁) : Alone w s₁ := by
  refine ⟨Broadcast.Step.isSome_of_subscribe h.prebuild, ?_, ?_⟩
  all_goals cases h with
  | prebuildUpdates htasks hfresh => ?_
  all_goals
    have hnot : ∀ w' ∈ s.waits, w'.rx ≠ w.rx := by
      intro w' hw' hrx
      have hmade := hm w' hw'
      rw [hrx, hfresh] at hmade
      cases hmade
    rename_i tasks
    have hwaits : Updates.waits { s with
        prebuildUpdates := s.prebuildUpdates.subscribe w.prebuildId w.rx
        tasks := .waitForPrebuild w ::ₘ tasks } = w ::ₘ s.waits := by
      simp [Updates.waits, htasks, Task.waits]
    rw [hwaits]
  · intro w' hw' hrx
    exact (Multiset.mem_cons.1 hw').resolve_right fun hw' => hnot w' hw' hrx
  · rw [Multiset.count_cons_self, Multiset.count_eq_zero.2 fun hw => hnot w hw rfl]

/-- Who hands a line of a wait on belongs to it. -/
theorem handing_eq_zero {t : Task} (h : w ∉ t.waits) : t.handing w = 0 := by
  cases t with
  | addWorkspaceUpdateEvent userId workspaceId event caller =>
    refine if_neg fun hcaller => h ?_
    rw [hcaller.1]
    exact Multiset.mem_singleton_self w
  | _ => rfl

/-- Besides a task of the wait nobody is handing on a line of it. -/
theorem Alone.handing_rest (ha : Alone w s) {t : Task} {tasks : Multiset Task}
    (htasks : s.tasks = t ::ₘ tasks) (ht : t.waits = {w}) :
    tasks.bind (Task.handing w) = 0 := by
  have honce := ha.once
  rw [Updates.waits, htasks, Multiset.cons_bind, ht, Multiset.singleton_add,
    Multiset.count_cons_self] at honce
  have hnot : w ∉ tasks.bind Task.waits := Multiset.count_eq_zero.1 (by omega)
  refine Multiset.eq_zero_of_forall_notMem fun e he => ?_
  obtain ⟨t', ht', he⟩ := Multiset.mem_bind.1 he
  rw [handing_eq_zero fun hw => hnot (Multiset.mem_bind.2 ⟨t', ht', hw⟩)] at he
  exact Multiset.notMem_zero e he

/-- The lines handed on and the next one are those the wait has received. -/
def HandsOn (w : Wait) (l : List WorkspaceUpdateEvent) (s : Updates) : Prop :=
  ∃ next : Option WorkspaceUpdateEvent, s.handing w = (next.toList : Multiset _) ∧
    l ++ next.toList = (s.prebuildUpdates.received w.rx).filterMap line

/-- A step that leaves the events of a wait keeps what it hands on. -/
theorem HandsOn.of_eq {l : List WorkspaceUpdateEvent} (hh : HandsOn w l s)
    (hhanding : s'.handing w = s.handing w)
    (hreceived : s'.prebuildUpdates.received w.rx = s.prebuildUpdates.received w.rx) :
    HandsOn w l s' := by
  obtain ⟨next, hnext, hlines⟩ := hh
  exact ⟨next, hhanding.trans hnext, by rw [hreceived, hlines]⟩

/-- A task that returns holds no event of a wait. -/
theorem handing_returned (caller : Option Wait) :
    (returned caller).bind (Task.handing w) = 0 := bind_returned _ (fun _ => rfl) caller

/-- An event that a wait takes is the next line it hands on. -/
theorem handing_forwarded (event : PrebuildUpdateEvent) :
    (forwarded w event).handing w = ((line event).toList : Multiset WorkspaceUpdateEvent) := by
  cases event with
  | status status => cases status <;> rfl
  | stdout line => exact if_pos ⟨rfl, rfl⟩
  | stderr line => exact if_pos ⟨rfl, rfl⟩

/-- One event gives its line, if it has one. -/
theorem filterMap_line (event : PrebuildUpdateEvent) :
    [event].filterMap line = (line event).toList := by
  cases event <;> rfl

/-- Every step keeps a wait handing on what it receives, in order. -/
theorem HandsOn.step {l : List WorkspaceUpdateEvent} (h : Step s a s') (ha : Alone w s)
    (hh : HandsOn w l s) : HandsOn w (l ++ a.forwardedBy w) s' := by
  cases h with
  | @addWorkspaceUpdateEvent userId workspaceId event caller tasks htasks =>
    by_cases hcaller : caller = some w ∧ workspaceId = w.workspaceId
    · -- the next line is published
      obtain ⟨next, hnext, hlines⟩ := hh
      have hrest := ha.handing_rest htasks (by rw [Task.waits, hcaller.1]; rfl)
      rw [Updates.handing, htasks, Multiset.cons_bind, hrest, Task.handing, if_pos hcaller] at hnext
      cases next with
      | none => exact absurd hnext (Multiset.singleton_ne_zero event)
      | some e =>
        obtain rfl : event = e := Multiset.singleton_inj.1 hnext
        refine ⟨none, ?_, ?_⟩
        · rw [Updates.handing, Multiset.cons_bind, hrest]
          rfl
        · rw [Act.forwardedBy, if_pos hcaller, Option.toList_none, List.append_nil]
          exact hlines
    · rw [Act.forwardedBy, if_neg hcaller, List.append_nil]
      refine hh.of_eq ?_ rfl
      simp [Updates.handing, htasks, Task.handing, hcaller]
  | @receivePrebuildUpdate w' event _ tasks htasks hrecv =>
    rw [Act.forwardedBy, List.append_nil]
    by_cases hw : w' = w
    · subst hw
      obtain ⟨next, hnext, hlines⟩ := hh
      have hrest := ha.handing_rest htasks rfl
      rw [Updates.handing, htasks, Multiset.cons_bind, hrest] at hnext
      cases next with
      | some e => exact absurd hnext.symm (mt (Multiset.coe_eq_zero _).1 (List.cons_ne_nil e []))
      | none =>
        refine ⟨line event, ?_, ?_⟩
        · rw [Updates.handing, Multiset.cons_bind, hrest, handing_forwarded, add_zero]
        · rw [Hub.received_receive hrecv, if_pos rfl, List.filterMap_append, ← hlines,
            Option.toList_none, List.append_nil, filterMap_line]
    · have hmem : w' ∈ s.waits := by simp [Updates.waits, htasks, Task.waits]
      refine hh.of_eq ?_ ?_
      · have hnone : (forwarded w' event).handing w = 0 :=
          handing_eq_zero (by rw [waits_forwarded, Multiset.mem_singleton]; exact Ne.symm hw)
        simp only [Updates.handing, htasks, Multiset.cons_bind, hnone]
        rfl
      · rw [Hub.received_receive hrecv, if_neg fun hrx => hw (ha.unique w' hmem hrx.symm)]
  | @prebuildUpdates w' tasks htasks hfresh =>
    rw [Act.forwardedBy, List.append_nil]
    refine hh.of_eq (by simp [Updates.handing, htasks, Task.handing]) ?_
    rw [Hub.received_subscribe, if_neg]
    intro hrx
    have hmade := ha.made
    rw [hrx, hfresh] at hmade
    cases hmade
  | @call t hcall =>
    rw [Act.forwardedBy, List.append_nil]
    have hnone : t.handing w = 0 := handing_eq_zero (by simp [waits_of_isCall hcall])
    exact hh.of_eq (by simp [Updates.handing, hnone]) rfl
  | sentWorkspaceUpdate htasks | sentWorkspaceStatus htasks =>
    rw [Act.forwardedBy, List.append_nil]
    exact hh.of_eq (by simp [Updates.handing, htasks, Task.handing, handing_returned]) rfl
  | forwardWorkspaceUpdate | forwardWorkspaceStatus =>
    rw [Act.forwardedBy, List.append_nil]
    exact hh.of_eq rfl rfl
  | addPrebuildUpdateEvent htasks | sendPrebuildUpdate htasks | cleanupPrebuildUpdates htasks
  | dropReceiver htasks =>
    rw [Act.forwardedBy, List.append_nil]
    exact hh.of_eq (by simp [Updates.handing, htasks, Task.handing]) (by simp)
  | sendWorkspaceUpdate htasks | addWorkspaceStatus htasks | sendWorkspaceStatus htasks
  | sentPrebuildUpdate htasks | workspaceUpdates htasks | closeWorkspaceUpdates htasks
  | cleanupWorkspaceUpdates htasks | allWorkspaceUpdates htasks | closeAllWorkspaceUpdates htasks
  | cleanupAllWorkspaceUpdates htasks | stopWaiting htasks =>
    rw [Act.forwardedBy, List.append_nil]
    exact hh.of_eq (by simp [Updates.handing, htasks, Task.handing]) rfl

/-- Every run does. -/
theorem HandsOn.run {as : List Act} {l : List WorkspaceUpdateEvent} (hrun : Run Step s as s')
    (ha : Alone w s) (hh : HandsOn w l s) :
    HandsOn w (l ++ as.flatMap (Act.forwardedBy w)) s' := by
  induction hrun generalizing l with
  | nil => simpa using hh
  | cons hstep _ ih =>
    have h := ih (ha.step hstep) (hh.step hstep ha)
    rwa [List.append_assoc] at h

/-- A wait that begins has received nothing. -/
theorem HandsOn.of_wait {s₁ : Updates} (hm : Made s) (h : Step s (.wait w) s₁) :
    HandsOn w [] s₁ := by
  have halone := Alone.of_wait hm h
  cases h with
  | prebuildUpdates htasks hfresh =>
    have hrest := halone.handing_rest rfl rfl
    refine ⟨none, ?_, ?_⟩
    · rw [Updates.handing, Multiset.cons_bind, hrest]
      rfl
    · rw [Hub.received_subscribe, if_pos rfl]
      rfl

/-- What a wait hands on is published for its workspace. -/
theorem sublist_forwardedBy (as : List Act) :
    (as.flatMap (Act.forwardedBy w)).Sublist
      (Broadcast.published w.workspaceId (as.map Act.ws)) := by
  rw [Broadcast.published, List.flatMap_map]
  induction as with
  | nil => exact .slnil
  | cons a as ih =>
    rw [List.flatMap_cons, List.flatMap_cons]
    refine List.Sublist.append ?_ ih
    cases a with
    | publish workspaceId event caller =>
      rw [Act.forwardedBy, Act.ws, Broadcast.Act.publishedFor]
      split
      · next h => rw [if_pos h.2]
      · exact List.nil_sublist _
    | _ => exact List.nil_sublist _

/-- While a workspace waits for a prebuild, every line of the build, kept before or published since,
has been handed on to the stream of the workspace once, or is the one being handed on, or has been
sent to the wait, or is being sent to it; they are handed on in the order in which they came. -/
theorem forwarded_of_run {s₁ : Updates} {as bs : List Act} (hrun : Run Step {} as s)
    (hwait : Step s (.wait w) s₁) (hrun' : Run Step s₁ bs s')
    (hopen : s'.prebuildUpdates.isOpen w.rx = true) :
    ∃ next : Option WorkspaceUpdateEvent,
      s'.handing w = (next.toList : Multiset WorkspaceUpdateEvent) ∧
      bs.flatMap (Act.forwardedBy w) ++ next.toList =
        (s'.prebuildUpdates.received w.rx).filterMap line ∧
      (bs.flatMap (Act.forwardedBy w) ++ next.toList ++
          (s'.prebuildUpdates.queue w.rx).filterMap line : List WorkspaceUpdateEvent) +
        (s'.prebuild.flyingTo w.rx).filterMap line =
        ((s.prebuildUpdates.seen w.prebuildId ++
          Broadcast.published w.prebuildId (bs.map Act.prebuild)).filterMap line :
          Multiset WorkspaceUpdateEvent) ∧
      (bs.flatMap (Act.forwardedBy w)).Sublist
        (Broadcast.published w.workspaceId (bs.map Act.ws)) := by
  have hmade : Made s := Run.invariant Made (fun _ _ _ => Made.step) hrun (fun w hw => by cases hw)
  have howed := Broadcast.Owed.of_subscribe (wired_prebuild hrun) hwait.prebuild
  have hend := (Broadcast.Run.owed (Broadcast.Run.within (g := Act.prebuild) hrun' Step.prebuild)
    howed).2 hopen
  obtain ⟨next, hnext, hlines⟩ := HandsOn.run hrun' (.of_wait hmade hwait) (.of_wait hmade hwait)
  rw [List.nil_append] at hlines
  refine ⟨next, hnext, hlines, ?_, sublist_forwardedBy bs⟩
  have hall := congrArg (Multiset.filterMap line) hend.owed
  rw [Multiset.filterMap_add, Multiset.filterMap_coe, Multiset.filterMap_coe, Hub.sent_eq,
    List.filterMap_append] at hall
  rw [hlines]
  exact hall

/-- A line of a prebuild is handed on to the workspace that waits for it. -/
theorem forwarded_of_run_line : ∃ (s : Updates) (next : Option WorkspaceUpdateEvent),
    s.handing ⟨1, 2, 0⟩ = (next.toList : Multiset WorkspaceUpdateEvent) ∧
    [.stdout "ready"] ++ next.toList = (s.prebuildUpdates.received 0).filterMap line := by
  have hrun : Run Step {} [.other] { tasks := .preparePrebuild 1 2 ::ₘ 0 } :=
    .cons (.call rfl) .nil
  have hwait := @Step.prebuildUpdates { tasks := .preparePrebuild 1 2 ::ₘ 0 } ⟨1, 2, 0⟩ 0 rfl rfl
  obtain ⟨next, hnext, hlines, -, -⟩ := forwarded_of_run hrun hwait
    (.cons (.call (t := .addPrebuildUpdateEvent 2 (.stdout "ready")) rfl)
      (.cons (@Step.addPrebuildUpdateEvent _ 2 (.stdout "ready") {.waitForPrebuild ⟨1, 2, 0⟩} rfl)
        (.cons (@Step.sendPrebuildUpdate _ (.stdout "ready") 0 [] {.waitForPrebuild ⟨1, 2, 0⟩} rfl)
          (.cons (@Step.sentPrebuildUpdate _ (.stdout "ready") {.waitForPrebuild ⟨1, 2, 0⟩} rfl)
            (.cons (@Step.receivePrebuildUpdate _ ⟨1, 2, 0⟩ (.stdout "ready") _ 0 rfl rfl)
              (.cons (@Step.addWorkspaceUpdateEvent _ none 1 (.stdout "ready") (some ⟨1, 2, 0⟩) 0
                rfl) .nil)))))) rfl
  exact ⟨_, next, hnext, hlines⟩

end UpdateStreams

end Lapdev
