import Lapdev.Db.LiveRows
import Lapdev.Logic.Interleaving

/-!
# Concurrent rewrites of label and selector rows

`replace_workload_labels` and `replace_service_selectors` delete the live rows of a workload or a
service and insert new ones, each statement in a transaction of its own. Two events about one owner
may both delete before either inserts, and then the rows of both stay live
(`rewrites_add_up`). Where no deletion falls between the deletion and the last insertion of another
rewrite of the same rows, the live rows are those of one event (`settled_of_run`).
-/

namespace Lapdev

open RustStd Sql Programs Runs

variable {Text : Type}

/-- The call by which an event rewrites the rows of a service or of a catalog workload. -/
inductive RowRewrite
  | serviceSelectors (serviceId clusterId : Uuid) («namespace» : String)
      (selectors : BTreeMap String String) (timestamp : Timestamp)
  | workloadLabels (workloadId appCatalogId clusterId : Uuid) («namespace» : String)
      (labels : BTreeMap String String) (timestamp : Timestamp)

namespace RowRewrite

/-- The statements of the call. -/
def program : RowRewrite → Query Text PUnit
  | serviceSelectors serviceId clusterId «namespace» selectors timestamp =>
    DbApi.replaceServiceSelectors serviceId clusterId «namespace» selectors timestamp
  | workloadLabels workloadId appCatalogId clusterId «namespace» labels timestamp =>
    DbApi.replaceWorkloadLabels workloadId appCatalogId clusterId «namespace» labels timestamp

def owner : RowRewrite → RowOwner
  | serviceSelectors serviceId .. => .service serviceId
  | workloadLabels workloadId .. => .workload workloadId

/-- The map the call writes. -/
def entries : RowRewrite → BTreeMap String String
  | serviceSelectors _ _ _ selectors _ => selectors
  | workloadLabels _ _ _ _ labels _ => labels

/-- The live row of an entry. -/
def liveRow : RowRewrite → (_ : String) × String → LiveRow
  | serviceSelectors _ clusterId «namespace» _ _, entry =>
    ⟨clusterId, «namespace», entry.1, entry.2⟩
  | workloadLabels _ _ clusterId «namespace» _ _, entry =>
    ⟨clusterId, «namespace», entry.1, entry.2⟩

/-- The rows the call writes. -/
def rows (e : RowRewrite) : List LiveRow := e.entries.entries.map e.liveRow

/-- For a workload, the query that counts rows finds it exactly by the selectors whose entries are
labels of the event. -/
def CountExact (db : Database Text) : RowRewrite → Prop
  | serviceSelectors .. => True
  | workloadLabels workloadId _ clusterId «namespace» labels _ =>
    ∀ selector : BTreeMap String String, selector.entries ≠ [] →
      ∃ ids, (DbApi.findWorkloadsMatchingSelector clusterId «namespace» selector).run db =
          (.ok ids, db) ∧
        (workloadId ∈ ids ↔ ∀ k v, selector.lookup k = some v → labels.lookup k = some v)

/-- The live rows of the event's owner are those of the event, one for each key. -/
structure Settled (db : Database Text) (e : RowRewrite) : Prop where
  rows : liveRows db e.owner = e.rows
  keys : ((liveRows db e.owner).map (·.key)).Nodup
  count : e.CountExact db

/-! ## The statements of a call -/

/-- The deletion with which a call starts. -/
def deleteLive : RowRewrite → Query Text PUnit
  | serviceSelectors serviceId _ _ _ timestamp =>
    Database.onClusterServiceSelectors fun t =>
      t.updateMany (fun row => row.serviceId = serviceId && row.deletedAt = none)
        fun row => { row with deletedAt := some timestamp }
  | workloadLabels workloadId _ _ _ _ timestamp =>
    Database.onCatalogWorkloadLabels fun t =>
      t.updateMany (fun row => row.workloadId = workloadId && row.deletedAt = none)
        fun row => { row with deletedAt := some timestamp }

/-- The insertion of one entry. -/
def insertEntry : RowRewrite → (_ : String) × String → Query Text PUnit
  | serviceSelectors serviceId clusterId «namespace» _ timestamp, entry =>
    Database.onClusterServiceSelectors fun t =>
      t.insert
        { createdAt := timestamp
          deletedAt := none
          clusterId
          «namespace»
          serviceId
          labelKey := entry.1
          labelValue := entry.2 }
  | workloadLabels workloadId appCatalogId clusterId «namespace» _ timestamp, entry =>
    Database.onCatalogWorkloadLabels fun t =>
      t.insert
        { createdAt := timestamp
          deletedAt := none
          appCatalogId
          workloadId
          clusterId
          «namespace»
          labelKey := entry.1
          labelValue := entry.2 }

/-- The insertion of some entries. -/
def insertEntries (e : RowRewrite) (entries : List ((_ : String) × String)) : Query Text PUnit :=
  Program.forEach e.insertEntry entries

theorem program_eq (e : RowRewrite) :
    (e.program : Query Text PUnit) =
      (e.deleteLive >>= fun _ => e.insertEntries e.entries.entries) := by
  cases e <;> rfl

theorem insertEntries_cons (e : RowRewrite) (entry : (_ : String) × String)
    (rest : List ((_ : String) × String)) :
    (e.insertEntries (entry :: rest) : Query Text PUnit) =
      (e.insertEntry entry >>= fun _ => e.insertEntries rest) :=
  rfl

section
variable {db : Database Text} {g : PUnit → Query Text PUnit}

theorem advance_onClusterServiceSelectors {f : Table KubeClusterServiceSelector.Model →
    Except DbErr (Table KubeClusterServiceSelector.Model)}
    {t : Table KubeClusterServiceSelector.Model} (h : f db.clusterServiceSelectors = .ok t) :
    (Database.onClusterServiceSelectors f >>= g).advance db =
      some (g ⟨⟩, { db with clusterServiceSelectors := t }) :=
  Program.advance_write_bind (by rw [h])

theorem advance_onCatalogWorkloadLabels {f : Table KubeAppCatalogWorkloadLabel.Model →
    Except DbErr (Table KubeAppCatalogWorkloadLabel.Model)}
    {t : Table KubeAppCatalogWorkloadLabel.Model} (h : f db.catalogWorkloadLabels = .ok t) :
    (Database.onCatalogWorkloadLabels f >>= g).advance db =
      some (g ⟨⟩, { db with catalogWorkloadLabels := t }) :=
  Program.advance_write_bind (by rw [h])

/-- The deletion succeeds and leaves its owner without live rows. -/
theorem advance_deleteLive (e : RowRewrite) (db : Database Text) :
    ∃ db', (e.deleteLive >>= g).advance db = some (g ⟨⟩, db') ∧ Writes e.owner [] db db' := by
  cases e with
  | serviceSelectors serviceId clusterId «namespace» selectors timestamp =>
    obtain ⟨t, ht⟩ := db.clusterServiceSelectors.updateMany_of_conflict_imp
      (p := fun row => row.serviceId = serviceId && row.deletedAt = none)
      (f := fun row => { row with deletedAt := some timestamp }) fun _ _ _ _ h => h
    exact ⟨_, advance_onClusterServiceSelectors ht, writes_deleteSelectors ht⟩
  | workloadLabels workloadId appCatalogId clusterId «namespace» labels timestamp =>
    obtain ⟨t, ht⟩ := db.catalogWorkloadLabels.updateMany_of_conflict_imp
      (p := fun row => row.workloadId = workloadId && row.deletedAt = none)
      (f := fun row => { row with deletedAt := some timestamp }) fun _ _ _ _ h => h
    exact ⟨_, advance_onCatalogWorkloadLabels ht, writes_deleteLabels ht⟩

/-- An insertion succeeds and adds one live row. -/
theorem advance_insertEntry (e : RowRewrite) (entry : (_ : String) × String) (db : Database Text) :
    ∃ db', (e.insertEntry entry >>= g).advance db = some (g ⟨⟩, db') ∧
      Writes e.owner (liveRows db e.owner ++ [e.liveRow entry]) db db' := by
  cases e with
  | serviceSelectors serviceId clusterId «namespace» selectors timestamp =>
    obtain ⟨t, ht⟩ := db.clusterServiceSelectors.insert_of_not_conflict
      ⟨timestamp, none, clusterId, «namespace», serviceId, entry.1, entry.2⟩
      fun _ _ h => h
    exact ⟨_, advance_onClusterServiceSelectors ht, writes_insertSelector rfl ht⟩
  | workloadLabels workloadId appCatalogId clusterId «namespace» labels timestamp =>
    obtain ⟨t, ht⟩ := db.catalogWorkloadLabels.insert_of_not_conflict
      ⟨timestamp, none, appCatalogId, workloadId, clusterId, «namespace», entry.1, entry.2⟩
      fun _ _ h => h
    exact ⟨_, advance_onCatalogWorkloadLabels ht, writes_insertLabel rfl ht⟩

/-- The insertions succeed and add a live row each. -/
theorem run_insertEntries (e : RowRewrite) (entries : List ((_ : String) × String))
    (db : Database Text) :
    ∃ db', (e.insertEntries entries).run db = (.ok ⟨⟩, db') ∧
      Writes e.owner (liveRows db e.owner ++ entries.map e.liveRow) db db' := by
  induction entries generalizing db with
  | nil => exact ⟨db, rfl, (List.append_nil _).symm, fun _ _ => rfl⟩
  | cons entry rest ih =>
    obtain ⟨db₁, hadvance, hwrites⟩ := e.advance_insertEntry entry db
      (g := fun _ => e.insertEntries rest)
    obtain ⟨db₂, hrun, hwrites'⟩ := ih db₁
    refine ⟨db₂, ?_, ?_, fun o ho => (hwrites'.others o ho).trans (hwrites.others o ho)⟩
    · rw [insertEntries_cons, Program.run_of_advance hadvance, hrun]
    · rw [hwrites'.own, hwrites.own, List.map_cons, List.append_assoc, List.singleton_append]

/-- **A call by itself** leaves its rows, and those of the other owners. -/
theorem run_program (e : RowRewrite) (db : Database Text) :
    ∃ db', (e.program : Query Text PUnit).run db = (.ok ⟨⟩, db') ∧ Writes e.owner e.rows db db' := by
  obtain ⟨db₁, hadvance, hwrites⟩ := e.advance_deleteLive db
    (g := fun _ => e.insertEntries e.entries.entries)
  obtain ⟨db₂, hrun, hwrites'⟩ := e.run_insertEntries e.entries.entries db₁
  refine ⟨db₂, ?_, ?_, fun o ho => (hwrites'.others o ho).trans (hwrites.others o ho)⟩
  · rw [program_eq, Program.run_of_advance hadvance, hrun]
  · rw [hwrites'.own, hwrites.own, List.nil_append, rows]

/-- An insertion is not the deletion a call starts with. -/
theorem insertEntries_cons_ne (e : RowRewrite) (entry : (_ : String) × String)
    (rest : List ((_ : String) × String)) :
    (e.insertEntries (entry :: rest) : Query Text PUnit) ≠ e.program := by
  intro h
  obtain ⟨db₁, h₁, hw₁⟩ := e.advance_insertEntry entry (.empty Text)
    (g := fun _ => e.insertEntries rest)
  obtain ⟨db₂, h₂, hw₂⟩ := e.advance_deleteLive (.empty Text)
    (g := fun _ => e.insertEntries e.entries.entries)
  rw [← insertEntries_cons, h, program_eq, h₂] at h₁
  obtain ⟨-, rfl⟩ := Prod.mk.inj (Option.some.inj h₁)
  have := hw₁.own.symm.trans hw₂.own
  simp at this

end

/-- The rows of an event settle its owner. -/
theorem settled_of_rows {db : Database Text} {e : RowRewrite}
    (h : liveRows db e.owner = e.rows) : Settled db e where
  rows := h
  keys := by
    rw [h, rows, List.map_map]
    have hkey : (fun row : LiveRow => row.key) ∘ e.liveRow = Sigma.fst := by
      cases e <;> rfl
    rw [hkey]
    exact e.entries.nodupKeys
  count := by
    cases e with
    | serviceSelectors => trivial
    | workloadLabels workloadId appCatalogId clusterId «namespace» labels timestamp =>
      intro selector hselector
      exact DbApi.mem_findWorkloadsMatchingSelector h hselector

/-- Where a call stands: before its deletion, or with some entries left to insert. -/
def remaining (e : RowRewrite) : Option (List ((_ : String) × String)) → Query Text PUnit
  | none => e.program
  | some entries => e.insertEntries entries

/-- A call that is done has nothing left to insert. -/
theorem eq_of_remaining_eq_done {e : RowRewrite} {left : Option (List ((_ : String) × String))}
    {a : PUnit} (h : (e.remaining left : Query Text PUnit) = .done a) : left = some [] := by
  match left with
  | none => cases e <;> cases h
  | some [] => rfl
  | some (entry :: rest) => cases e <;> cases h

end RowRewrite

/-! ## Interleavings -/

section
variable {I : Type} [DecidableEq I] {events : I → RowRewrite}
  {sys sys' : Processes (Database Text) QueryErr PUnit I}
  {left : I → Option (List ((_ : String) × String))}

/-- The calls of some events, none of which has started. -/
def RowRewrite.processes (db : Database Text) (events : I → RowRewrite) :
    Processes (Database Text) QueryErr PUnit I :=
  ⟨db, fun i => (events i).program⟩

/-- The condition under which the rows add up to those of one event: a call deletes only while every
other call on the same rows has not started or is done. -/
def Apart (events : I → RowRewrite) (sys : Processes (Database Text) QueryErr PUnit I) (i : I) :
    Prop :=
  sys.programs i = (events i).program → ∀ j ≠ i, (events j).owner = (events i).owner →
    sys.programs j = (events j).program ∨ sys.programs j = .done ⟨⟩

/-- Where each call stands, and what that says of the live rows: of the calls that have deleted the
rows of an owner, only one may have entries left to insert, and its rows are the live rows and the
rest. -/
structure Settling (events : I → RowRewrite) (sys : Processes (Database Text) QueryErr PUnit I)
    (left : I → Option (List ((_ : String) × String))) : Prop where
  programs : ∀ i, sys.programs i = (events i).remaining (left i)
  owners : ∀ i rest, left i = some rest → ∃ j rest', (events j).owner = (events i).owner ∧
    left j = some rest' ∧
    liveRows sys.state (events i).owner ++ rest'.map (events j).liveRow = (events j).rows ∧
    ∀ k ≠ j, (events k).owner = (events i).owner → ∀ rest'', left k = some rest'' → rest'' = []

/-- A statement of a call that leaves it the only one with entries left on its rows. -/
theorem Settling.update (h : Settling events sys left) {i : I} {db' : Database Text}
    {rows : List LiveRow} {rest : List ((_ : String) × String)}
    (hw : Writes (events i).owner rows sys.state db')
    (hrows : rows ++ rest.map (events i).liveRow = (events i).rows)
    (hothers : ∀ k ≠ i, (events k).owner = (events i).owner →
      ∀ rest', left k = some rest' → rest' = []) :
    Settling events ⟨db', Function.update sys.programs i ((events i).insertEntries rest)⟩
      (Function.update left i (some rest)) where
  programs := by
    intro k
    rcases eq_or_ne k i with rfl | hk
    · simp [RowRewrite.remaining]
    · simp [hk, h.programs]
  owners := by
    intro k rest₁ hrest₁
    by_cases howner : (events k).owner = (events i).owner
    · refine ⟨i, rest, howner.symm, Function.update_self .., ?_, ?_⟩
      · rw [howner, hw.own, hrows]
      · intro l hl hlowner rest'' hrest''
        rw [Function.update_of_ne hl] at hrest''
        exact hothers l hl (hlowner.trans howner) rest'' hrest''
    · have hk : k ≠ i := fun hk => howner (hk ▸ rfl)
      rw [Function.update_of_ne hk] at hrest₁
      obtain ⟨j, rest', hjowner, hj, hrows, hlast⟩ := h.owners k rest₁ hrest₁
      have hji : j ≠ i := fun hji => howner (hjowner ▸ hji ▸ rfl)
      refine ⟨j, rest', hjowner, by rw [Function.update_of_ne hji, hj], ?_, ?_⟩
      · rw [hw.others _ howner, hrows]
      · intro l hl hlowner rest'' hrest''
        have hli : l ≠ i := fun hli => howner (hlowner ▸ hli ▸ rfl)
        rw [Function.update_of_ne hli] at hrest''
        exact hlast l hl hlowner rest'' hrest''

/-- A call that deletes while the others are apart is the one with entries left. -/
theorem Settling.delete (h : Settling events sys left) {i : I} {db' : Database Text}
    (hi : left i = none) (hapart : Apart events sys i)
    (hw : Writes (events i).owner [] sys.state db') :
    Settling events
      ⟨db', Function.update sys.programs i ((events i).insertEntries (events i).entries.entries)⟩
      (Function.update left i (some (events i).entries.entries)) := by
  have hstart : sys.programs i = (events i).program := by rw [h.programs, hi, RowRewrite.remaining]
  refine h.update hw rfl ?_
  intro k hk howner rest hrest
  have hprogram := h.programs k
  rw [hrest, RowRewrite.remaining] at hprogram
  rcases hapart hstart k hk howner with hdelete | hdone
  · cases rest with
    | nil => rfl
    | cons entry rest =>
      exact absurd (hprogram.symm.trans hdelete) (RowRewrite.insertEntries_cons_ne _ _ _)
  · exact Option.some.inj (RowRewrite.eq_of_remaining_eq_done (hprogram.symm.trans hdone))

/-- A call that inserts an entry moves it from the entries left to the live rows. -/
theorem Settling.insert (h : Settling events sys left) {i : I} {entry : (_ : String) × String}
    {rest : List ((_ : String) × String)} {db' : Database Text}
    (hi : left i = some (entry :: rest))
    (hw : Writes (events i).owner
      (liveRows sys.state (events i).owner ++ [(events i).liveRow entry]) sys.state db') :
    Settling events ⟨db', Function.update sys.programs i ((events i).insertEntries rest)⟩
      (Function.update left i (some rest)) := by
  obtain ⟨j, rest', -, hj, hrows, hlast⟩ := h.owners i _ hi
  have hij : i = j := by
    by_contra hne
    cases hlast i hne rfl _ hi
  subst hij
  cases hi.symm.trans hj
  refine h.update hw ?_ hlast
  rw [← hrows, List.append_assoc]
  rfl

/-- What a step keeps. -/
theorem Settling.step (sys : Processes (Database Text) QueryErr PUnit I) (i : I)
    (sys' : Processes (Database Text) QueryErr PUnit I) (hstep : Processes.Step sys i sys')
    (hapart : Apart events sys i) (h : ∃ left, Settling events sys left) :
    ∃ left, Settling events sys' left := by
  obtain ⟨left, h⟩ := h
  obtain ⟨m, db', hadvance, rfl⟩ := Processes.step_iff.1 hstep
  rw [h.programs] at hadvance
  match hi : left i with
  | none =>
    obtain ⟨db₁, h₁, hw⟩ := (events i).advance_deleteLive sys.state
      (g := fun _ => (events i).insertEntries (events i).entries.entries)
    rw [hi, RowRewrite.remaining, RowRewrite.program_eq, h₁] at hadvance
    obtain ⟨rfl, rfl⟩ := Prod.mk.inj (Option.some.inj hadvance)
    exact ⟨_, h.delete hi hapart hw⟩
  | some [] =>
    rw [hi] at hadvance
    cases hadvance
  | some (entry :: rest) =>
    obtain ⟨db₁, h₁, hw⟩ := (events i).advance_insertEntry entry sys.state
      (g := fun _ => (events i).insertEntries rest)
    rw [hi, RowRewrite.remaining, RowRewrite.insertEntries_cons, h₁] at hadvance
    obtain ⟨rfl, rfl⟩ := Prod.mk.inj (Option.some.inj hadvance)
    exact ⟨_, h.insert hi hw⟩

/-- **Rewrites that stay apart settle.** Once all calls have finished, the live rows of every owner
are the map one of the events wrote, each key once, and the count of the label rows is exact. -/
theorem settled_of_run {db : Database Text} {as : List I}
    (hrun : Run (Guarded Processes.Step (Apart events)) (RowRewrite.processes db events) as sys)
    (hfinished : sys.Finished) (i : I) :
    ∃ j, (events j).owner = (events i).owner ∧ (events j).Settled sys.state := by
  have hinit : ∃ left, Settling events (RowRewrite.processes db events) left :=
    ⟨fun _ => none, fun _ => rfl, fun _ _ h => nomatch h⟩
  obtain ⟨left, h⟩ := Run.invariant_of_guard _ Settling.step hrun hinit
  have hleft : ∀ i, left i = some [] := by
    intro i
    obtain ⟨a, ha⟩ := hfinished i
    exact RowRewrite.eq_of_remaining_eq_done ((h.programs i).symm.trans ha)
  obtain ⟨j, rest', howner, hj, hrows, -⟩ := h.owners i [] (hleft i)
  cases (hleft j).symm.trans hj
  rw [List.map_nil, List.append_nil] at hrows
  exact ⟨j, howner, RowRewrite.settled_of_rows (howner ▸ hrows)⟩

end

/-- Two events with the same labels of one workload. -/
def relabelTwice : Bool → RowRewrite :=
  fun _ => .workloadLabels 1 2 3 "default" (HashTable.collect [("app", "web")]) 0

/-- One of two events after the other. -/
theorem settled_of_run_apart : ∃ sys : Processes (Database Unit) QueryErr PUnit Bool,
    ∀ i, ∃ j, (relabelTwice j).owner = (relabelTwice i).owner ∧
      (relabelTwice j).Settled sys.state := by
  have hrun : ∃ sys, Run (Guarded Processes.Step (Apart relabelTwice))
      (RowRewrite.processes (.empty Unit) relabelTwice) [false, false, true, true] sys ∧
        sys.Finished := by
    refine ⟨_, .cons ⟨rfl, ?_⟩ <| .cons ⟨rfl, ?_⟩ <| .cons ⟨rfl, ?_⟩ <| .cons ⟨rfl, ?_⟩ .nil,
      fun i => ⟨⟨⟩, by cases i <;> rfl⟩⟩
    all_goals
      rintro - (_ | _) hj -
    · exact absurd rfl hj
    · exact .inl rfl
    · exact absurd rfl hj
    · exact .inl rfl
    · exact .inr rfl
    · exact absurd rfl hj
    · exact .inr rfl
    · exact absurd rfl hj
  obtain ⟨sys, hrun, hfinished⟩ := hrun
  exact ⟨sys, settled_of_run hrun hfinished⟩

/-- Both calls delete before either inserts: the label has two live rows. -/
theorem rewrites_add_up : ¬∀ (db : Database Unit) (events : Bool → RowRewrite) (as : List Bool)
    (sys : Processes (Database Unit) QueryErr PUnit Bool),
    Run Processes.Step (RowRewrite.processes db events) as sys → sys.Finished →
      ∀ i, ∃ j, (events j).owner = (events i).owner ∧ (events j).Settled sys.state := by
  intro h
  obtain ⟨j, -, hsettled⟩ := h (.empty Unit) relabelTwice [false, true, false, true] _
    (.cons rfl <| .cons rfl <| .cons rfl <| .cons rfl .nil)
    (fun i => ⟨⟨⟩, by cases i <;> rfl⟩) false
  have hkeys := hsettled.keys
  cases j <;> revert hkeys <;> decide +kernel

end Lapdev
