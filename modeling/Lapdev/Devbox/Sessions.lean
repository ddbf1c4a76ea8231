import Lapdev.Db.DevboxSessions
import Lapdev.Logic.Run

/-!
# Devbox connections

The connects and disconnects of devbox RPC connections (`api/src/devbox.rs`), of any number of users
and connections, one statement at a time. The connections of a user share one session row, and the
cleanup of a connection acts on the active session of the user, whoever opened it: it revokes the
row and clears the routes of its active environment. `sessionKept_of_run` says that this does harm
only to a connection that is there when the cleanup of another one is carried out.

A connection that is displaced is told so over its own RPC client, which changes nothing here.
-/

namespace Lapdev

open RustStd Sql Runs

/-- Source: `api/src/state.rs`, without the channels to the client. -/
structure DevboxSessionHandle where
  sessionId : Uuid
  deviceName : String
  connectionId : Uuid

/-- Where a connection stands between `devbox_rpc_websocket` and the end of `handle_devbox_rpc`. -/
inductive DevboxPhase
  /-- The bearer token is authenticated. -/
  | authenticated
  /-- The session row is created or updated. -/
  | created
  /-- The connection is registered, and its RPC server runs. -/
  | serving
  /-- The connection is unregistered again. -/
  | unregistered
  /-- The clearing of the routes is spawned. -/
  | spawned
  /-- `revoke_active_devbox_session` has found the row that it revokes, or none. -/
  | revoking (row : Option Uuid)
  | closed
  deriving DecidableEq

namespace DevboxPhase

/-- The connection has opened the session, and is not unregistered yet. -/
def connected : DevboxPhase → Bool
  | created | serving => true
  | _ => false

/-- The connect is half done. -/
def connecting : DevboxPhase → Bool
  | authenticated | created => true
  | _ => false

/-- The connection has opened the session. -/
def opened : DevboxPhase → Bool
  | authenticated => false
  | _ => true

/-- The connection has still to look for the row, or to revoke the one it found. -/
def revokes : DevboxPhase → Bool
  | authenticated | revoking none | closed => false
  | _ => true

end DevboxPhase

/-- A connection. `routesCleared` records that a disconnect has cleared the routes of the session's
active environment while the connection was connected. -/
structure RpcConnection where
  userId : Uuid
  sessionId : Uuid
  deviceName : String
  phase : DevboxPhase
  routesCleared : Bool

/-- A spawned `clear_devbox_routes_for_environment` of a disconnect. -/
structure ClearTask where
  connectionId : Uuid
  userId : Uuid
  environmentId : Uuid
  deriving DecidableEq

/-- The session table, the connections, and the tasks under way. `updating` holds the rows that an
`update_devbox_session_active_environment` has found. -/
structure DevboxServer where
  sessions : Table KubeDevboxSession.Model
  activeDevboxSessions : HashTable Uuid (BTreeMap Uuid DevboxSessionHandle)
  connections : Uuid → Option RpcConnection
  clearing : List ClearTask
  updating : List (Uuid × Uuid)

/-- One statement of a connection or of a task. -/
inductive DevboxAction
  | connect (c userId sessionId : Uuid) (deviceName : String)
  | create (c : Uuid) (token : String) (newId : Uuid) (expiresAt now : Timestamp)
  | register (c : Uuid)
  | disconnect (c : Uuid)
  | spawnClear (c : Uuid)
  | findActive (c : Uuid)
  | revoke (c : Uuid) (now : Timestamp)
  | clear (task : ClearTask) (cleared : Bool)
  | selectEnvironment (userId environmentId : Uuid)
  | updateEnvironment (row environmentId : Uuid)

namespace DevboxServer

open DevboxSessions

/-- The server before its first connection. -/
def idle (sessions : Table KubeDevboxSession.Model) : DevboxServer :=
  ⟨sessions, ∅, fun _ => none, [], []⟩

/-- The connection is registered in `active_devbox_sessions`. -/
def Registered (s : DevboxServer) (userId c : Uuid) : Prop :=
  (HashTable.lookup₂ s.activeDevboxSessions userId c).isSome

/-- A connect of the user is half done. -/
def HalfDone (s : DevboxServer) (userId : Uuid) : Prop :=
  ∃ c conn, s.connections c = some conn ∧ conn.userId = userId ∧ conn.phase.connecting = true

/-- The environment that is active in the session of the user. -/
def activeEnvironment (s : DevboxServer) (userId : Uuid) : Option Uuid :=
  (session s.sessions userId).bind (·.activeEnvironmentId)

/-- A connection goes on. -/
def advance (s : DevboxServer) (c : Uuid) (conn : RpcConnection) (phase : DevboxPhase) :
    DevboxServer :=
  { s with connections := Function.update s.connections c (some { conn with phase }) }

/-- The registration of a connection. -/
def register (s : DevboxServer) (c : Uuid) (conn : RpcConnection) :
    HashTable Uuid (BTreeMap Uuid DevboxSessionHandle) :=
  s.activeDevboxSessions.insert conn.userId
    (((s.activeDevboxSessions.lookup conn.userId).getD ∅).insert c
      ⟨conn.sessionId, conn.deviceName, c⟩)

/-- The cleanup of a connection in `active_devbox_sessions`. -/
def unregister (s : DevboxServer) (c : Uuid) (conn : RpcConnection) :
    HashTable Uuid (BTreeMap Uuid DevboxSessionHandle) :=
  match s.activeDevboxSessions.lookup conn.userId with
  | none => s.activeDevboxSessions
  | some entries =>
    if (entries.erase c).entries.isEmpty then s.activeDevboxSessions.erase conn.userId
    else s.activeDevboxSessions.insert conn.userId (entries.erase c)

/-- The task that a disconnect spawns, if the active session of the user has an environment. -/
def clearTask (s : DevboxServer) (c : Uuid) (conn : RpcConnection) : List ClearTask :=
  match (getActiveDevboxSession s.sessions conn.userId).bind (·.activeEnvironmentId) with
  | some environmentId => [⟨c, conn.userId, environmentId⟩]
  | none => []

/-- The table after the update of `revoke_active_devbox_session`; an error is only logged. -/
def revokeFound (s : DevboxServer) (row : Option Uuid) (now : Timestamp) :
    Table KubeDevboxSession.Model :=
  match row with
  | none => s.sessions
  | some id =>
    match revokeRow s.sessions id now with
    | .ok sessions => sessions
    | .error _ => s.sessions

/-- The connections after the routes of an environment are cleared. -/
def clearRoutes (s : DevboxServer) (task : ClearTask) (c : Uuid) : Option RpcConnection :=
  (s.connections c).map fun conn =>
    if conn.userId = task.userId ∧ conn.phase.connected = true ∧
        s.activeEnvironment task.userId = some task.environmentId then
      { conn with routesCleared := true }
    else conn

/-- The statements of the connections and of the tasks, in any order. -/
inductive Step (hash : String → String) : DevboxServer → DevboxAction → DevboxServer → Prop
  | connect {s : DevboxServer} {c userId sessionId : Uuid} {deviceName : String}
      (hfree : s.connections c = none) :
      Step hash s (.connect c userId sessionId deviceName)
        { s with
          connections := Function.update s.connections c
            (some ⟨userId, sessionId, deviceName, .authenticated, false⟩) }
  | create {s : DevboxServer} {c : Uuid} {conn : RpcConnection} {token : String} {newId : Uuid}
      {expiresAt now : Timestamp} {sessions : Table KubeDevboxSession.Model}
      (hconn : s.connections c = some conn) (hphase : conn.phase = .authenticated)
      (hcreate : createOrUpdateDevboxSession s.sessions hash newId conn.userId token
        conn.deviceName expiresAt now = .ok sessions) :
      Step hash s (.create c token newId expiresAt now)
        { s.advance c conn .created with sessions := sessions }
  | createFails {s : DevboxServer} {c : Uuid} {conn : RpcConnection} {token : String}
      {newId : Uuid} {expiresAt now : Timestamp} {e : DbErr}
      (hconn : s.connections c = some conn) (hphase : conn.phase = .authenticated)
      (hcreate : createOrUpdateDevboxSession s.sessions hash newId conn.userId token
        conn.deviceName expiresAt now = .error e) :
      Step hash s (.create c token newId expiresAt now)
        { s with connections := Function.update s.connections c none }
  | register {s : DevboxServer} {c : Uuid} {conn : RpcConnection}
      (hconn : s.connections c = some conn) (hphase : conn.phase = .created) :
      Step hash s (.register c)
        { s.advance c conn .serving with activeDevboxSessions := s.register c conn }
  | disconnect {s : DevboxServer} {c : Uuid} {conn : RpcConnection}
      (hconn : s.connections c = some conn) (hphase : conn.phase = .serving) :
      Step hash s (.disconnect c)
        { s.advance c conn .unregistered with activeDevboxSessions := s.unregister c conn }
  | spawnClear {s : DevboxServer} {c : Uuid} {conn : RpcConnection}
      (hconn : s.connections c = some conn) (hphase : conn.phase = .unregistered) :
      Step hash s (.spawnClear c)
        { s.advance c conn .spawned with clearing := s.clearTask c conn ++ s.clearing }
  | findActive {s : DevboxServer} {c : Uuid} {conn : RpcConnection}
      (hconn : s.connections c = some conn) (hphase : conn.phase = .spawned) :
      Step hash s (.findActive c)
        (s.advance c conn
          (.revoking ((getActiveDevboxSession s.sessions conn.userId).map (·.id))))
  | revoke {s : DevboxServer} {c : Uuid} {conn : RpcConnection} {row : Option Uuid}
      {now : Timestamp} (hconn : s.connections c = some conn)
      (hphase : conn.phase = .revoking row) :
      Step hash s (.revoke c now)
        { s.advance c conn .closed with sessions := s.revokeFound row now }
  | clear {s : DevboxServer} {task : ClearTask} {cleared : Bool} (htask : task ∈ s.clearing) :
      Step hash s (.clear task cleared)
        { s with
          clearing := s.clearing.erase task
          connections := if cleared then s.clearRoutes task else s.connections }
  | selectEnvironment {s : DevboxServer} {userId environmentId : Uuid}
      {row : KubeDevboxSession.Model}
      (hrow : getActiveDevboxSession s.sessions userId = some row) :
      Step hash s (.selectEnvironment userId environmentId)
        { s with updating := (row.id, environmentId) :: s.updating }
  | updateEnvironment {s : DevboxServer} {row environmentId : Uuid}
      {sessions : Table KubeDevboxSession.Model} (hfound : (row, environmentId) ∈ s.updating)
      (hupdate : setActiveEnvironment s.sessions row (some environmentId) = .ok sessions) :
      Step hash s (.updateEnvironment row environmentId)
        { s with sessions, updating := s.updating.erase (row, environmentId) }

/-- **The session of a user is kept.** While one of the user's connections is registered and no
connect is half done, the session is not revoked and the routes of its active environment have not
been cleared under the connection by the disconnect of another one; after the last disconnect the
session is revoked. -/
structure SessionKept (s : DevboxServer) (userId : Uuid) : Prop where
  active : (∃ c, s.Registered userId c) → ¬s.HalfDone userId →
    ∃ row, session s.sessions userId = some row ∧ row.revokedAt = none
  routes : ¬s.HalfDone userId → ∀ c conn, s.Registered userId c → s.connections c = some conn →
    conn.routesCleared = false
  revoked : (∃ c conn, s.connections c = some conn ∧ conn.userId = userId ∧
      conn.phase = .closed) →
    (∀ c conn, s.connections c = some conn → conn.userId = userId → conn.phase.opened = true →
      conn.phase = .closed) →
    ∃ row, session s.sessions userId = some row ∧ row.revokedAt ≠ none

/-- No connection of the user is connected. -/
def NoneConnected (s : DevboxServer) (userId : Uuid) : Prop :=
  ∀ c conn, s.connections c = some conn → conn.userId = userId → conn.phase.connected = false

/-- A cleanup is carried out alone: when it revokes the session, or clears the routes of the
session's active environment, no connection of the user is connected. -/
def CleansUpAlone (s : DevboxServer) : DevboxAction → Prop
  | .revoke c _ => ∀ conn id, s.connections c = some conn → conn.phase = .revoking (some id) →
      s.NoneConnected conn.userId
  | .clear task true =>
      s.activeEnvironment task.userId = some task.environmentId → s.NoneConnected task.userId
  | _ => True

/-! ## The invariant -/

/-- Some connection of the user has still to revoke the session. -/
def Revoking (s : DevboxServer) (userId : Uuid) : Prop :=
  ∃ c conn, s.connections c = some conn ∧ conn.userId = userId ∧ conn.phase.revokes = true

/-- The connections that serve are the registered ones; a row that was found belongs to the user;
a session that was opened is revoked or will be; a connected connection has an active session and
its routes. -/
structure Consistent (s : DevboxServer) : Prop where
  registered : ∀ userId c, s.Registered userId c ↔
    ∃ conn, s.connections c = some conn ∧ conn.userId = userId ∧ conn.phase = .serving
  found : ∀ c conn id, s.connections c = some conn → conn.phase = .revoking (some id) →
    ∃ row, session s.sessions conn.userId = some row ∧ row.id = id
  opened : ∀ c conn, s.connections c = some conn → conn.phase.opened = true →
    ∃ row, session s.sessions conn.userId = some row ∧
      (row.revokedAt ≠ none ∨ s.Revoking conn.userId)
  active : ∀ c conn, s.connections c = some conn → conn.phase.connected = true →
    ∃ row, session s.sessions conn.userId = some row ∧ row.revokedAt = none
  uncleared : ∀ c conn, s.connections c = some conn → conn.routesCleared = false

theorem consistent_idle (sessions : Table KubeDevboxSession.Model) :
    (idle sessions).Consistent where
  registered userId c := by
    refine ⟨fun h => ?_, fun ⟨_, h, _⟩ => nomatch h⟩
    rw [Registered, HashTable.lookup₂] at h
    simp [idle] at h
  found _ _ _ h := nomatch h
  opened _ _ h := nomatch h
  active _ _ h := nomatch h
  uncleared _ _ h := nomatch h

/-- In a consistent state the sessions are kept. -/
theorem Consistent.sessionKept {s : DevboxServer} (h : s.Consistent) (userId : Uuid) :
    s.SessionKept userId := by
  constructor
  · rintro ⟨c, hreg⟩ -
    obtain ⟨conn, hconn, rfl, hphase⟩ := (h.registered userId c).1 hreg
    exact h.active c conn hconn (by rw [hphase]; rfl)
  · exact fun _ c conn _ hconn => h.uncleared c conn hconn
  · rintro ⟨c, conn, hconn, rfl, hphase⟩ hall
    obtain ⟨row, hrow, hrevoked | ⟨c', conn', hconn', huser, hrevokes⟩⟩ :=
      h.opened c conn hconn (by rw [hphase]; rfl)
    · exact ⟨row, hrow, hrevoked⟩
    · -- a connection that has still to revoke has opened the session and is not closed
      have hopened : conn'.phase.opened = true := by
        revert hrevokes
        cases conn'.phase <;> simp [DevboxPhase.revokes, DevboxPhase.opened]
      rw [hall c' conn' hconn' huser hopened] at hrevokes
      cases hrevokes

section
variable {s : DevboxServer} {c : Uuid} {conn : RpcConnection}

/-- A connection goes on, and leaves the session table: its phase has what the invariant asks. -/
theorem Consistent.advance (h : s.Consistent) (hconn : s.connections c = some conn)
    {phase : DevboxPhase} {active : HashTable Uuid (BTreeMap Uuid DevboxSessionHandle)}
    {clearing : List ClearTask}
    (hregistered : ∀ userId c', (HashTable.lookup₂ active userId c').isSome ↔
      if userId = conn.userId ∧ c' = c then phase = .serving else s.Registered userId c')
    (hfound : ∀ id, phase = .revoking (some id) →
      ∃ row, session s.sessions conn.userId = some row ∧ row.id = id)
    (hopened : phase.opened = true → conn.phase.opened = true)
    (hconnected : phase.connected = true → conn.phase.connected = true)
    (hrevokes : conn.phase.revokes = true → phase.revokes = true ∨
      ∃ row, session s.sessions conn.userId = some row ∧ row.revokedAt ≠ none) :
    Consistent { s.advance c conn phase with activeDevboxSessions := active, clearing } := by
  constructor
  · intro userId c'
    refine (hregistered userId c').trans ?_
    split
    · next heq =>
      obtain ⟨rfl, rfl⟩ := heq
      constructor
      · exact fun hphase => ⟨_, Function.update_self .., rfl, hphase⟩
      · rintro ⟨conn', hconn', -, hphase⟩
        rcases update_eq_some hconn' with ⟨-, heq⟩ | ⟨hne, -⟩
        · cases heq
          exact hphase
        · exact absurd rfl hne
    · next hne =>
      rw [h.registered]
      constructor
      · rintro ⟨conn', hconn', huser, hphase⟩
        have hc : c' ≠ c := by
          rintro rfl
          rw [hconn] at hconn'
          cases hconn'
          exact hne ⟨huser.symm, rfl⟩
        exact ⟨conn', update_of_eq_some hc hconn', huser, hphase⟩
      · rintro ⟨conn', hconn', huser, hphase⟩
        rcases update_eq_some hconn' with ⟨rfl, heq⟩ | ⟨-, hold⟩
        · cases heq
          exact absurd ⟨huser.symm, rfl⟩ hne
        · exact ⟨conn', hold, huser, hphase⟩
  · intro c' conn' id hconn' hphase
    rcases update_eq_some hconn' with ⟨rfl, heq⟩ | ⟨-, hold⟩
    · cases heq
      exact hfound id hphase
    · exact h.found c' conn' id hold hphase
  · have hkept : ∀ userId row, session s.sessions userId = some row →
        (row.revokedAt ≠ none ∨ s.Revoking userId) →
        row.revokedAt ≠ none ∨ Revoking
          { s.advance c conn phase with activeDevboxSessions := active, clearing } userId := by
      rintro userId row hrow (hrevoked | ⟨c', conn', hconn', rfl, hrev⟩)
      · exact .inl hrevoked
      · by_cases hc : c' = c
        · subst hc
          rw [hconn] at hconn'
          cases hconn'
          rcases hrevokes hrev with hphase | ⟨row', hrow', hrevoked⟩
          · exact .inr ⟨c', _, Function.update_self .., rfl, hphase⟩
          · cases hrow.symm.trans hrow'
            exact .inl hrevoked
        · exact .inr ⟨c', conn', update_of_eq_some hc hconn', rfl, hrev⟩
    intro c' conn' hconn' hphase
    rcases update_eq_some hconn' with ⟨rfl, heq⟩ | ⟨-, hold⟩
    · cases heq
      obtain ⟨row, hrow, hor⟩ := h.opened c' conn hconn (hopened hphase)
      exact ⟨row, hrow, hkept _ row hrow hor⟩
    · obtain ⟨row, hrow, hor⟩ := h.opened c' conn' hold hphase
      exact ⟨row, hrow, hkept _ row hrow hor⟩
  · intro c' conn' hconn' hphase
    rcases update_eq_some hconn' with ⟨rfl, heq⟩ | ⟨-, hold⟩
    · cases heq
      exact h.active c' conn hconn (hconnected hphase)
    · exact h.active c' conn' hold hphase
  · intro c' conn' hconn'
    rcases update_eq_some hconn' with ⟨rfl, heq⟩ | ⟨-, hold⟩
    · cases heq
      exact h.uncleared c' conn hconn
    · exact h.uncleared c' conn' hold

/-- A connection that goes on between two phases in which it is not registered. -/
theorem Consistent.registered_advance (h : s.Consistent) (hconn : s.connections c = some conn)
    {phase : DevboxPhase} (hold : conn.phase ≠ .serving) (hnew : phase ≠ .serving)
    (userId c' : Uuid) :
    s.Registered userId c' ↔
      if userId = conn.userId ∧ c' = c then phase = .serving else s.Registered userId c' := by
  split
  · next heq =>
    obtain ⟨rfl, rfl⟩ := heq
    refine iff_of_false (fun hreg => ?_) hnew
    obtain ⟨conn', hconn', -, hphase⟩ := (h.registered _ _).1 hreg
    rw [hconn] at hconn'
    cases hconn'
    exact hold hphase
  · exact Iff.rfl

/-- What is registered after a registration. -/
theorem registered_register (userId c' : Uuid) :
    (HashTable.lookup₂ (s.register c conn) userId c').isSome ↔
      if userId = conn.userId ∧ c' = c then DevboxPhase.serving = .serving
      else s.Registered userId c' := by
  rw [register, HashTable.lookup₂_insert, HashTable.lookup_insert, HashTable.lookup_getD_empty,
    Registered]
  by_cases hu : userId = conn.userId
  · by_cases hc : c' = c
    · simp [hu, hc]
    · simp [hu, hc]
  · simp [hu]

/-- What is registered after a cleanup. -/
theorem registered_unregister (userId c' : Uuid) :
    (HashTable.lookup₂ (s.unregister c conn) userId c').isSome ↔
      if userId = conn.userId ∧ c' = c then DevboxPhase.unregistered = .serving
      else s.Registered userId c' := by
  have hlookup : HashTable.lookup₂ (s.unregister c conn) userId c' =
      if userId = conn.userId ∧ c' = c then none
      else HashTable.lookup₂ s.activeDevboxSessions userId c' := by
    unfold unregister
    cases hl : s.activeDevboxSessions.lookup conn.userId with
    | none =>
      split_ifs with heq
      · rw [HashTable.lookup₂, heq.1, hl, Option.bind_none]
      · rfl
    | some entries =>
      dsimp only
      rw [HashTable.lookup₂_store _ _ _ (fun hempty => List.isEmpty_iff.1 hempty),
        HashTable.lookup_erase]
      by_cases hu : userId = conn.userId
      · have hold : HashTable.lookup₂ s.activeDevboxSessions userId c' = entries.lookup c' := by
          rw [HashTable.lookup₂, hu, hl, Option.bind_some]
        rw [if_pos hu, hold]
        simp only [hu, true_and]
      · rw [if_neg hu, if_neg fun h => hu h.1]
  rw [hlookup, Registered]
  split_ifs
  · simp
  · rfl

/-! ## The steps -/

/-- A connection that does not serve may go on to not serve. -/
theorem exists_serving_update {v : Option RpcConnection}
    (hold : ∀ conn, s.connections c = some conn → conn.phase ≠ .serving)
    (hnew : ∀ conn, v = some conn → conn.phase ≠ .serving) (userId c' : Uuid) :
    (∃ conn, s.connections c' = some conn ∧ conn.userId = userId ∧ conn.phase = .serving) ↔
      ∃ conn, Function.update s.connections c v c' = some conn ∧ conn.userId = userId ∧
        conn.phase = .serving := by
  constructor
  · rintro ⟨conn, hconn, huser, hphase⟩
    have hne : c' ≠ c := by
      rintro rfl
      exact hold conn hconn hphase
    exact ⟨conn, update_of_eq_some hne hconn, huser, hphase⟩
  · rintro ⟨conn, hconn, huser, hphase⟩
    rcases update_eq_some hconn with ⟨-, heq⟩ | ⟨-, hconn'⟩
    · exact absurd hphase (hnew conn heq)
    · exact ⟨conn, hconn', huser, hphase⟩

/-- A connect adds a connection that has not opened the session. -/
theorem Consistent.connect (h : s.Consistent) (hfree : s.connections c = none)
    (userId sessionId : Uuid) (deviceName : String) : Consistent
      { s with
        connections := Function.update s.connections c
          (some ⟨userId, sessionId, deviceName, .authenticated, false⟩) } := by
  have hne : ∀ {c' conn'}, s.connections c' = some conn' → c' ≠ c := by
    rintro c' conn' hconn' rfl
    rw [hfree] at hconn'
    cases hconn'
  constructor
  · intro u c'
    refine (h.registered u c').trans (exists_serving_update (fun conn' hconn' => ?_) ?_ u c')
    · exact absurd rfl (hne hconn')
    · rintro _ ⟨⟩
      nofun
  · intro c' conn' id hconn' hphase
    rcases update_eq_some hconn' with ⟨-, heq⟩ | ⟨-, hold⟩
    · cases heq
      cases hphase
    · exact h.found c' conn' id hold hphase
  · intro c' conn' hconn' hphase
    rcases update_eq_some hconn' with ⟨-, heq⟩ | ⟨-, hold⟩
    · cases heq
      cases hphase
    · obtain ⟨row, hrow, hrevoked | ⟨c'', conn'', hconn'', huser, hrevokes⟩⟩ :=
        h.opened c' conn' hold hphase
      · exact ⟨row, hrow, .inl hrevoked⟩
      · exact ⟨row, hrow,
          .inr ⟨c'', conn'', update_of_eq_some (hne hconn'') hconn'', huser, hrevokes⟩⟩
  · intro c' conn' hconn' hphase
    rcases update_eq_some hconn' with ⟨-, heq⟩ | ⟨-, hold⟩
    · cases heq
      cases hphase
    · exact h.active c' conn' hold hphase
  · intro c' conn' hconn'
    rcases update_eq_some hconn' with ⟨-, heq⟩ | ⟨-, hold⟩
    · cases heq
      rfl
    · exact h.uncleared c' conn' hold

/-- A connect that opens the session makes it active, and has still to revoke it. -/
theorem Consistent.create (h : s.Consistent) (hconn : s.connections c = some conn)
    (hphase : conn.phase = .authenticated) {sessions : Table KubeDevboxSession.Model}
    (hown : ∃ row, session sessions conn.userId = some row ∧ row.revokedAt = none ∧
      ∀ old, session s.sessions conn.userId = some old → row.id = old.id)
    (hothers : ∀ u, u ≠ conn.userId → session sessions u = session s.sessions u) :
    Consistent { s.advance c conn .created with sessions := sessions } := by
  obtain ⟨row, hrow, hactive, hid⟩ := hown
  have hrevoking : ∀ userId, s.Revoking userId →
      Revoking { s.advance c conn .created with sessions := sessions } userId := by
    rintro userId ⟨c', conn', hconn', huser, hrevokes⟩
    have hne : c' ≠ c := by
      rintro rfl
      rw [hconn] at hconn'
      cases hconn'
      rw [hphase] at hrevokes
      cases hrevokes
    exact ⟨c', conn', update_of_eq_some hne hconn', huser, hrevokes⟩
  have hself : Revoking { s.advance c conn .created with sessions := sessions } conn.userId :=
    ⟨c, _, Function.update_self .., rfl, rfl⟩
  constructor
  · intro userId c'
    refine (h.registered userId c').trans
      (exists_serving_update (fun conn' hconn' => ?_) ?_ userId c')
    · cases hconn.symm.trans hconn'
      rw [hphase]
      nofun
    · rintro _ ⟨⟩
      nofun
  · intro c' conn' id hconn' hphase'
    rcases update_eq_some hconn' with ⟨-, heq⟩ | ⟨-, hold⟩
    · cases heq
      cases hphase'
    · obtain ⟨old, hold', rfl⟩ := h.found c' conn' id hold hphase'
      by_cases hu : conn'.userId = conn.userId
      · rw [hu] at hold' ⊢
        exact ⟨row, hrow, hid old hold'⟩
      · exact ⟨old, (hothers _ hu).trans hold', rfl⟩
  · intro c' conn' hconn' hphase'
    by_cases hu : conn'.userId = conn.userId
    · rw [hu]
      exact ⟨row, hrow, .inr hself⟩
    · rcases update_eq_some hconn' with ⟨-, heq⟩ | ⟨-, hold⟩
      · cases heq
        exact absurd rfl hu
      · obtain ⟨old, hold', hor⟩ := h.opened c' conn' hold hphase'
        exact ⟨old, (hothers _ hu).trans hold', hor.imp id (hrevoking _)⟩
  · intro c' conn' hconn' hphase'
    by_cases hu : conn'.userId = conn.userId
    · rw [hu]
      exact ⟨row, hrow, hactive⟩
    · rcases update_eq_some hconn' with ⟨-, heq⟩ | ⟨-, hold⟩
      · cases heq
        exact absurd rfl hu
      · obtain ⟨old, hold', hor⟩ := h.active c' conn' hold hphase'
        exact ⟨old, (hothers _ hu).trans hold', hor⟩
  · intro c' conn' hconn'
    rcases update_eq_some hconn' with ⟨-, heq⟩ | ⟨-, hold⟩
    · cases heq
      exact h.uncleared c conn hconn
    · exact h.uncleared c' conn' hold

/-- A connect that fails leaves nothing behind. -/
theorem Consistent.createFails (h : s.Consistent) (hconn : s.connections c = some conn)
    (hphase : conn.phase = .authenticated) :
    Consistent { s with connections := Function.update s.connections c none } := by
  have hkeep : ∀ {c' conn'}, Function.update s.connections c none c' = some conn' →
      s.connections c' = some conn' := by
    intro c' conn' hconn'
    rcases update_eq_some hconn' with ⟨-, heq⟩ | ⟨-, hold⟩
    · cases heq
    · exact hold
  refine ⟨fun userId c' => ?_, fun c' conn' id hconn' => h.found c' conn' id (hkeep hconn'), ?_,
    fun c' conn' hconn' => h.active c' conn' (hkeep hconn'),
    fun c' conn' hconn' => h.uncleared c' conn' (hkeep hconn')⟩
  · refine (h.registered userId c').trans
      (exists_serving_update (fun conn' hconn' => ?_) (by simp) userId c')
    cases hconn.symm.trans hconn'
    rw [hphase]
    nofun
  · intro c' conn' hconn' hopened
    obtain ⟨row, hrow, hrevoked | ⟨c'', conn'', hconn'', huser, hrevokes⟩⟩ :=
      h.opened c' conn' (hkeep hconn') hopened
    · exact ⟨row, hrow, .inl hrevoked⟩
    · have hne : c'' ≠ c := by
        rintro rfl
        cases hconn.symm.trans hconn''
        rw [hphase] at hrevokes
        cases hrevokes
      exact ⟨row, hrow, .inr ⟨c'', conn'', update_of_eq_some hne hconn'', huser, hrevokes⟩⟩

/-- Rows that keep their identifiers may be revoked where no connection of the user is connected. -/
theorem Consistent.sessions (h : s.Consistent) {sessions : Table KubeDevboxSession.Model}
    (hkept : ∀ userId row, session s.sessions userId = some row →
      ∃ row', session sessions userId = some row' ∧ row'.id = row.id ∧
        (row.revokedAt ≠ none → row'.revokedAt ≠ none) ∧
        (row.revokedAt = none → row'.revokedAt = none ∨ s.NoneConnected userId)) :
    Consistent { s with sessions := sessions } := by
  constructor
  · exact h.registered
  · intro c conn id hconn hphase
    obtain ⟨row, hrow, rfl⟩ := h.found c conn id hconn hphase
    obtain ⟨row', hrow', hid, -⟩ := hkept _ row hrow
    exact ⟨row', hrow', hid⟩
  · intro c conn hconn hphase
    obtain ⟨row, hrow, hor⟩ := h.opened c conn hconn hphase
    obtain ⟨row', hrow', -, hrevoked, -⟩ := hkept _ row hrow
    exact ⟨row', hrow', hor.imp hrevoked id⟩
  · intro c conn hconn hphase
    obtain ⟨row, hrow, hactive⟩ := h.active c conn hconn hphase
    obtain ⟨row', hrow', -, -, hor⟩ := hkept _ row hrow
    refine ⟨row', hrow', (hor hactive).resolve_right fun hnone => ?_⟩
    rw [hnone c conn hconn rfl] at hphase
    cases hphase
  · exact h.uncleared

/-- The row that a cleanup has found is revoked, and the other rows stay. -/
theorem Consistent.session_revokeFound (h : s.Consistent) (hconn : s.connections c = some conn)
    {row : Option Uuid} (hphase : conn.phase = .revoking row) (now : Timestamp) (userId : Uuid) :
    session (s.revokeFound row now) userId =
      if row.isSome ∧ userId = conn.userId then
        (session s.sessions userId).map fun r => { r with revokedAt := some now }
      else session s.sessions userId := by
  cases row with
  | none => rfl
  | some id =>
    obtain ⟨found, hfound, rfl⟩ := h.found c conn id hconn hphase
    obtain ⟨sessions, hrevoke⟩ := exists_updateOne hfound
      (f := fun r => { r with revokedAt := some now }) fun _ => ⟨rfl, rfl⟩
    have hsession := session_updateOne hrevoke (fun _ => rfl) userId
    have hrevoked : s.revokeFound (some found.id) now = sessions := by
      rw [revokeFound, revokeRow, hrevoke]
    rw [hrevoked, hsession]
    by_cases hu : userId = conn.userId
    · rw [if_pos ⟨rfl, hu⟩, hu, hfound, Option.map_some, Option.map_some, if_pos rfl]
    · rw [if_neg fun h => hu h.2]
      cases hrow : session s.sessions userId with
      | none => rfl
      | some r => rw [Option.map_some, if_neg fun hid => hu (eq_of_session_id hrow hfound hid)]

/-- A cleanup that is carried out alone revokes the session of nobody. -/
theorem Consistent.revoke (h : s.Consistent) (hconn : s.connections c = some conn)
    {row : Option Uuid} (hphase : conn.phase = .revoking row) (now : Timestamp)
    (halone : row.isSome → s.NoneConnected conn.userId) :
    Consistent { s.advance c conn .closed with sessions := s.revokeFound row now } := by
  have hsession := h.session_revokeFound hconn hphase now
  have hsessions : Consistent { s with sessions := s.revokeFound row now } := by
    refine h.sessions fun userId r hr => ?_
    rw [hsession, hr]
    split
    · next heq =>
      refine ⟨_, rfl, rfl, fun _ => ?_, fun _ => .inr (heq.2 ▸ halone heq.1)⟩
      simp
    · exact ⟨r, rfl, rfl, id, fun hactive => .inl hactive⟩
  refine hsessions.advance hconn ?_ ?_ ?_ ?_ ?_
  · exact hsessions.registered_advance hconn (by rw [hphase]; nofun) nofun
  · exact nofun
  · rw [hphase]
    exact fun _ => rfl
  · exact nofun
  · -- it revokes only if it has found a row
    intro hrevokes
    rw [hphase] at hrevokes
    cases row with
    | none => cases hrevokes
    | some id =>
      obtain ⟨found, hfound, rfl⟩ := h.found c conn id hconn hphase
      refine .inr ⟨{ found with revokedAt := some now }, ?_, nofun⟩
      rw [hsession, if_pos ⟨rfl, rfl⟩, hfound]
      rfl

/-- The cleanup looks for the active session of the user. -/
theorem Consistent.findActive (h : s.Consistent) (hconn : s.connections c = some conn)
    (hphase : conn.phase = .spawned) :
    Consistent (s.advance c conn
      (.revoking ((getActiveDevboxSession s.sessions conn.userId).map (·.id)))) := by
  refine h.advance hconn (h.registered_advance hconn (by rw [hphase]; nofun) nofun) ?_ ?_ nofun ?_
  · intro id hid
    obtain ⟨row, hrow, rfl⟩ := Option.map_eq_some_iff.1 (DevboxPhase.revoking.inj hid)
    rw [getActiveDevboxSession_eq, Option.filter_eq_some_iff] at hrow
    exact ⟨row, hrow.1, rfl⟩
  · rw [hphase]
    exact fun _ => rfl
  · intro _
    obtain ⟨row, hrow, -⟩ := h.opened c conn hconn (by rw [hphase]; rfl)
    rw [getActiveDevboxSession_eq, hrow, Option.filter_some]
    by_cases hactive : row.revokedAt = none
    · exact .inl (by simp [hactive, DevboxPhase.revokes])
    · exact .inr ⟨row, rfl, hactive⟩

/-- Routes that are cleared alone are cleared under no connection. -/
theorem clearRoutes_eq_self {task : ClearTask}
    (halone : s.activeEnvironment task.userId = some task.environmentId →
      s.NoneConnected task.userId) : s.clearRoutes task = s.connections := by
  funext c
  unfold clearRoutes
  cases hconn : s.connections c with
  | none => rfl
  | some conn =>
    rw [Option.map_some, if_neg]
    rintro ⟨huser, hconnected, hactive⟩
    rw [halone hactive c conn hconn huser] at hconnected
    cases hconnected

/-- Every step keeps the invariant, where a cleanup is carried out alone. -/
theorem Consistent.step {hash : String → String} {s s' : DevboxServer} {action : DevboxAction}
    (hstep : Step hash s action s') (halone : s.CleansUpAlone action) (h : s.Consistent) :
    s'.Consistent := by
  cases hstep with
  | connect hfree => exact h.connect hfree _ _ _
  | create hconn hphase hcreate =>
    obtain ⟨hown, hothers⟩ := session_createOrUpdateDevboxSession hcreate
    exact h.create hconn hphase hown hothers
  | createFails hconn hphase hcreate => exact h.createFails hconn hphase
  | register hconn hphase =>
    refine h.advance hconn registered_register nofun ?_ ?_ ?_
    · rw [hphase]
      exact fun _ => rfl
    · rw [hphase]
      exact fun _ => rfl
    · exact fun _ => .inl rfl
  | disconnect hconn hphase =>
    refine h.advance hconn registered_unregister nofun ?_ nofun ?_
    · rw [hphase]
      exact fun _ => rfl
    · exact fun _ => .inl rfl
  | spawnClear hconn hphase =>
    refine h.advance hconn (h.registered_advance hconn (by rw [hphase]; nofun) nofun) nofun ?_
      nofun ?_
    · rw [hphase]
      exact fun _ => rfl
    · exact fun _ => .inl rfl
  | findActive hconn hphase => exact h.findActive hconn hphase
  | revoke hconn hphase =>
    exact h.revoke hconn hphase _ fun hrow => by
      obtain ⟨id, rfl⟩ := Option.isSome_iff_exists.1 hrow
      exact halone _ id hconn hphase
  | @clear task cleared htask =>
    have hconnections : (if cleared then s.clearRoutes task else s.connections) =
        s.connections := by
      split
      · next hcleared =>
        subst hcleared
        exact clearRoutes_eq_self halone
      · rfl
    rw [hconnections]
    exact ⟨h.registered, h.found, h.opened, h.active, h.uncleared⟩
  | selectEnvironment hrow => exact ⟨h.registered, h.found, h.opened, h.active, h.uncleared⟩
  | updateEnvironment hfound hupdate =>
    have hkept := h.sessions fun userId row hrow => by
      rw [session_updateOne hupdate (fun _ => rfl), hrow, Option.map_some]
      refine ⟨_, rfl, ?_⟩
      split
      · exact ⟨rfl, fun h => h, fun h => .inl h⟩
      · exact ⟨rfl, fun h => h, fun h => .inl h⟩
    exact ⟨hkept.registered, hkept.found, hkept.opened, hkept.active, hkept.uncleared⟩

end

/-- What a cleanup that is not carried out alone does: a connection that serves loses its session or
its routes. -/
theorem Consistent.cleansUpAlone_of_sessionKept {hash : String → String} {s s' : DevboxServer}
    {action : DevboxAction} (h : s.Consistent) (hstep : Step hash s action s')
    (hdone : ∀ userId, ¬s.HalfDone userId) (hkept : ∀ userId, s'.SessionKept userId) :
    s.CleansUpAlone action := by
  -- a connected connection serves
  have hserving : ∀ {c conn}, s.connections c = some conn → conn.phase.connected = true →
      conn.phase = .serving := by
    intro c conn hconn hconnected
    cases hphase : conn.phase with
    | serving => rfl
    | created => exact absurd ⟨c, conn, hconn, rfl, by rw [hphase]; rfl⟩ (hdone conn.userId)
    | _ =>
      rw [hphase] at hconnected
      cases hconnected
  cases hstep with
  | @revoke c conn row now hconn hphase =>
    intro conn₁ id hconn₁ hphase₁ c' conn' hconn' huser
    cases hconn.symm.trans hconn₁
    cases hphase.symm.trans hphase₁
    by_contra hconnected
    have hphase' := hserving hconn' (by simpa using hconnected)
    have hreg := (h.registered conn.userId c').2 ⟨conn', hconn', huser, hphase'⟩
    obtain ⟨row, hrow, hactive⟩ := (hkept conn.userId).active ⟨c', hreg⟩ fun hhalf => by
      obtain ⟨c'', conn'', hconn'', huser'', hconnecting⟩ := hhalf
      rcases update_eq_some hconn'' with ⟨-, heq⟩ | ⟨-, hold⟩
      · cases heq
        cases hconnecting
      · exact hdone _ ⟨c'', conn'', hold, huser'', hconnecting⟩
    have hrow' : session (s.revokeFound (some id) now) conn.userId = some row := hrow
    rw [h.session_revokeFound hconn hphase, if_pos ⟨rfl, rfl⟩] at hrow'
    obtain ⟨old, -, rfl⟩ := Option.map_eq_some_iff.1 hrow'
    cases hactive
  | @clear task cleared htask =>
    cases cleared with
    | false => trivial
    | true =>
      intro hactive c conn hconn huser
      by_contra hconnected
      have hconnected' : conn.phase.connected = true := by simpa using hconnected
      have hphase := hserving hconn hconnected'
      have hreg := (h.registered task.userId c).2 ⟨conn, hconn, huser, hphase⟩
      have hcleared : s.clearRoutes task c = some { conn with routesCleared := true } := by
        rw [clearRoutes, hconn, Option.map_some, if_pos ⟨huser, hconnected', hactive⟩]
      have := (hkept task.userId).routes (fun hhalf => ?_) c _ hreg hcleared
      · cases this
      · obtain ⟨c'', conn'', hconn'', huser'', hconnecting⟩ := hhalf
        obtain ⟨old, hold, rfl⟩ := Option.map_eq_some_iff.1 hconn''
        refine hdone task.userId ⟨c'', old, hold, ?_, ?_⟩
        · revert huser''
          split <;> exact id
        · revert hconnecting
          split <;> exact id
  | _ => trivial

/-- **The sessions are kept** in every state of a run in which every cleanup is carried out alone.
From such a state, where no connect is half done, a step keeps them exactly if it is no cleanup
that is not. -/
theorem sessionKept_of_run {hash : String → String} {sessions : Table KubeDevboxSession.Model}
    {actions : List DevboxAction} {s : DevboxServer}
    (hrun : Run (Guarded (Step hash) CleansUpAlone) (idle sessions) actions s) :
    (∀ userId, s.SessionKept userId) ∧
      ∀ action s', Step hash s action s' → (∀ userId, ¬s.HalfDone userId) →
        ((∀ userId, s'.SessionKept userId) ↔ s.CleansUpAlone action) := by
  have h : s.Consistent := Run.invariant_of_guard Consistent (fun _ _ _ => Consistent.step) hrun
    (consistent_idle sessions)
  refine ⟨h.sessionKept, fun action s' hstep hdone => ⟨?_, fun halone => ?_⟩⟩
  · exact h.cleansUpAlone_of_sessionKept hstep hdone
  · exact (Consistent.step hstep halone h).sessionKept

/-- The first connection of the user `1` selects an environment and disconnects, its routes are
cleared, and then a second one connects. -/
def reconnection : List DevboxAction :=
  [.connect 7 1 3 "laptop", .create 7 "token" 5 100 10, .register 7, .selectEnvironment 1 9,
    .updateEnvironment 5 9, .disconnect 7, .spawnClear 7, .findActive 7, .revoke 7 20,
    .clear ⟨7, 1, 9⟩ true, .connect 8 1 4 "desktop", .create 8 "other" 6 100 30, .register 8]

/-- The session is kept through a disconnect and a second connect. -/
theorem sessionKept_of_run_reconnection :
    ∃ s, Run (Guarded (Step id) CleansUpAlone) (idle .empty) reconnection s ∧
      (s.connections 7).map RpcConnection.phase = some .closed ∧
      (s.connections 8).map RpcConnection.phase = some .serving ∧ s.SessionKept 1 := by
  have hrun : ∃ s, Run (Guarded (Step id) CleansUpAlone) (idle .empty) reconnection s ∧
      (s.connections 7).map RpcConnection.phase = some .closed ∧
      (s.connections 8).map RpcConnection.phase = some .serving := by
    refine ⟨_, .cons ⟨.connect rfl, trivial⟩ (.cons ⟨.create rfl rfl rfl, trivial⟩
      (.cons ⟨.register rfl rfl, trivial⟩ (.cons ⟨.selectEnvironment rfl, trivial⟩
        (.cons ⟨.updateEnvironment List.mem_cons_self rfl, trivial⟩
          (.cons ⟨.disconnect rfl rfl, trivial⟩ (.cons ⟨.spawnClear rfl rfl, trivial⟩
            (.cons ⟨.findActive rfl rfl, trivial⟩ (.cons ⟨.revoke rfl rfl, ?_⟩
              (.cons ⟨.clear List.mem_cons_self, ?_⟩ (.cons ⟨.connect rfl, trivial⟩
                (.cons ⟨.create rfl rfl rfl, trivial⟩
                  (.cons ⟨.register rfl rfl, trivial⟩ .nil)))))))))))), rfl, rfl⟩
    -- the first connection is the only one when it revokes the session and when its routes go
    · intro conn id hconn hphase c' conn' hconn' huser
      rcases update_eq_some hconn' with ⟨-, heq⟩ | ⟨hne, hold⟩
      · cases heq
        rfl
      · simp only [advance, idle, Function.update_of_ne hne] at hold
        cases hold
    · intro hactive c' conn' hconn' huser
      rcases update_eq_some hconn' with ⟨-, heq⟩ | ⟨hne, hold⟩
      · cases heq
        rfl
      · simp only [advance, idle, Function.update_of_ne hne] at hold
        cases hold
  obtain ⟨s, hrun, hclosed, hserving⟩ := hrun
  exact ⟨s, hrun, hclosed, hserving, (sessionKept_of_run hrun).1 1⟩

/-- A second connection connects before the first one disconnects. -/
def twoConnections : List DevboxAction :=
  [.connect 7 1 3 "laptop", .create 7 "token" 5 100 10, .register 7, .connect 8 1 4 "desktop",
    .create 8 "token" 6 100 20, .register 8, .disconnect 7, .spawnClear 7, .findActive 7,
    .revoke 7 30]

/-- The cleanup of the first connection revokes the session of the second one. -/
theorem displaced_connection_revokes :
    ∃ s, Run (Step id) (idle .empty) twoConnections s ∧ ¬s.SessionKept 1 := by
  refine ⟨_, .cons (.connect rfl) (.cons (.create rfl rfl rfl) (.cons (.register rfl rfl)
    (.cons (.connect rfl) (.cons (.create rfl rfl rfl) (.cons (.register rfl rfl)
      (.cons (.disconnect rfl rfl) (.cons (.spawnClear rfl rfl) (.cons (.findActive rfl rfl)
        (.cons (.revoke rfl rfl) .nil))))))))), ?_⟩
  intro h
  obtain ⟨row, hrow, hactive⟩ := h.active ⟨8, rfl⟩ fun hhalf => by
    obtain ⟨c, conn, hconn, -, hconnecting⟩ := hhalf
    rcases update_eq_some hconn with ⟨-, heq⟩ | ⟨hne, hold⟩
    · cases heq
      cases hconnecting
    · simp only [advance, idle, Function.update_of_ne hne] at hold
      rcases update_eq_some hold with ⟨-, heq⟩ | ⟨hne', hold'⟩
      · cases heq
        cases hconnecting
      · simp only [Function.update_of_ne hne', Function.update_of_ne hne] at hold'
        cases hold'
  cases hrow
  cases hactive

end DevboxServer

end Lapdev
