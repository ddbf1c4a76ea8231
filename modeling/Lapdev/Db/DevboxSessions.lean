import Lapdev.Db.Entities

/-!
# The devbox sessions of users

The rows of `kube_devbox_session` and the queries of `db/src/api.rs` on them. A user has one row at
most, which `session` finds; every query is read as what it does to `session`.
-/

namespace Lapdev

open RustStd Sql

/-- Source: `db/entities/src/kube_devbox_session.rs`. -/
structure KubeDevboxSession.Model where
  id : Uuid
  userId : Uuid
  sessionTokenHash : String
  tokenPrefix : String
  deviceName : String
  activeEnvironmentId : Option Uuid
  createdAt : Timestamp
  expiresAt : Timestamp
  lastUsedAt : Timestamp
  revokedAt : Option Timestamp
  deriving DecidableEq

/-- The primary key, and `kube_devbox_session_user_unique_idx`. -/
instance : Entity KubeDevboxSession.Model where
  Conflict r r' := r.id = r'.id ∨ r.userId = r'.userId
  symm := fun h => h.imp Eq.symm Eq.symm
  dec := fun _ _ => inferInstance

namespace DevboxSessions

variable (sessions : Table KubeDevboxSession.Model)

/-- Source: `db/src/api.rs`, one transaction; `hash` is the hash of a token in hexadecimal digits,
`newId` the identifier of a new row. -/
def createOrUpdateDevboxSession (hash : String → String) (newId userId : Uuid)
    (sessionToken deviceName : String) (expiresAt now : Timestamp) :
    Except DbErr (Table KubeDevboxSession.Model) :=
  let tokenHash := hash sessionToken
  let tokenPrefix := String.ofList (sessionToken.toList.take 12)
  match sessions.latest (fun r => r.userId = userId) (·.createdAt) with
  | some existing =>
    sessions.updateOne (fun r => r.id = existing.id) fun r =>
      { r with
        sessionTokenHash := tokenHash
        tokenPrefix := tokenPrefix
        deviceName := deviceName
        expiresAt := expiresAt
        lastUsedAt := now
        revokedAt := none }
  | none =>
    sessions.insert
      { id := newId
        userId := userId
        sessionTokenHash := tokenHash
        tokenPrefix := tokenPrefix
        deviceName := deviceName
        activeEnvironmentId := none
        createdAt := now
        expiresAt := expiresAt
        lastUsedAt := now
        revokedAt := none }

/-- Source: `db/src/api.rs`. -/
def getActiveDevboxSession (userId : Uuid) : Option KubeDevboxSession.Model :=
  sessions.one fun r => r.userId = userId ∧ r.revokedAt = none

/-- The update of `revoke_active_devbox_session`, on the row it has found. -/
def revokeRow (id : Uuid) (now : Timestamp) : Except DbErr (Table KubeDevboxSession.Model) :=
  sessions.updateOne (fun r => r.id = id) fun r => { r with revokedAt := some now }

/-- The update of `update_devbox_session_active_environment`, on the row it has found. -/
def setActiveEnvironment (id : Uuid) (environmentId : Option Uuid) :
    Except DbErr (Table KubeDevboxSession.Model) :=
  sessions.updateOne (fun r => r.id = id) fun r => { r with activeEnvironmentId := environmentId }

/-- The row of a user. -/
def session (userId : Uuid) : Option KubeDevboxSession.Model :=
  sessions.one fun r => r.userId = userId

/-! ## What the queries do to the row of a user -/

variable {sessions}

theorem conflict_iff {r r' : KubeDevboxSession.Model} :
    Entity.Conflict r r' ↔ r.id = r'.id ∨ r.userId = r'.userId :=
  Iff.rfl

theorem session_eq_some {userId : Uuid} {row : KubeDevboxSession.Model} :
    session sessions userId = some row ↔ row ∈ sessions.rows ∧ row.userId = userId := by
  constructor
  · intro h
    obtain ⟨hmem, huser⟩ := Table.mem_of_one h
    exact ⟨hmem, by simpa using huser⟩
  · rintro ⟨hmem, rfl⟩
    refine Table.one_eq_some hmem (by simp) fun r' hr' huser => ?_
    exact Table.eq_of_conflict hr' hmem (.inr (by simpa using huser))

/-- Rows with one identifier belong to one user. -/
theorem eq_of_session_id {u u' : Uuid} {row row' : KubeDevboxSession.Model}
    (h : session sessions u = some row) (h' : session sessions u' = some row')
    (hid : row.id = row'.id) : u = u' := by
  obtain ⟨hmem, rfl⟩ := session_eq_some.1 h
  obtain ⟨hmem', rfl⟩ := session_eq_some.1 h'
  rw [Table.eq_of_conflict hmem hmem' (.inl hid)]

/-- The active session of a user is the row of the user, unless it is revoked. -/
theorem getActiveDevboxSession_eq (userId : Uuid) :
    getActiveDevboxSession sessions userId =
      (session sessions userId).filter fun row => row.revokedAt = none := by
  ext row
  rw [Option.filter_eq_some_iff, session_eq_some]
  constructor
  · intro h
    obtain ⟨hmem, hrow⟩ := Table.mem_of_one h
    have hrow' : row.userId = userId ∧ row.revokedAt = none := by simpa using hrow
    exact ⟨⟨hmem, hrow'.1⟩, by simpa using hrow'.2⟩
  · rintro ⟨⟨hmem, huser⟩, hactive⟩
    refine Table.one_eq_some hmem (by simpa [huser] using hactive) fun r' hr' hrow => ?_
    have hrow' : r'.userId = userId ∧ r'.revokedAt = none := by simpa using hrow
    exact Table.eq_of_conflict hr' hmem (.inr (hrow'.1.trans huser.symm))

/-- An update by the identifier that keeps who a row belongs to changes that row of `session`. -/
theorem session_updateOne {t' : Table KubeDevboxSession.Model} {id : Uuid}
    {f : KubeDevboxSession.Model → KubeDevboxSession.Model}
    (h : sessions.updateOne (fun r => r.id = id) f = .ok t')
    (huser : ∀ r, (f r).userId = r.userId) (userId : Uuid) :
    session t' userId =
      (session sessions userId).map fun row => if row.id = id then f row else row := by
  have hrows := Table.rows_updateMany (Table.updateOne_eq_ok.1 h).2
  have hkeep : ∀ r : KubeDevboxSession.Model,
      (if r.id = id then f r else r).userId = r.userId := by
    intro r
    split
    · exact huser r
    · rfl
  ext row
  rw [session_eq_some, hrows, List.mem_map, Option.map_eq_some_iff]
  simp only [decide_eq_true_eq, session_eq_some]
  constructor
  · rintro ⟨⟨r, hr, rfl⟩, hrow⟩
    exact ⟨r, ⟨hr, (hkeep r).symm.trans hrow⟩, rfl⟩
  · rintro ⟨r, ⟨hr, hrow⟩, rfl⟩
    exact ⟨⟨r, hr, rfl⟩, (hkeep r).trans hrow⟩

/-- An update of a row that is there, and keeps its identifier and its user, succeeds. -/
theorem exists_updateOne {userId : Uuid} {row : KubeDevboxSession.Model}
    (hrow : session sessions userId = some row)
    {f : KubeDevboxSession.Model → KubeDevboxSession.Model}
    (hf : ∀ r, (f r).id = r.id ∧ (f r).userId = r.userId) :
    ∃ t', sessions.updateOne (fun r => r.id = row.id) f = .ok t' := by
  have hkeep : ∀ r : KubeDevboxSession.Model, (if r.id = row.id then f r else r).id = r.id ∧
      (if r.id = row.id then f r else r).userId = r.userId := by
    intro r
    split
    · exact hf r
    · exact ⟨rfl, rfl⟩
  obtain ⟨t', ht'⟩ := Table.updateMany_of_conflict_imp (t := sessions)
    (p := fun r => r.id = row.id) (f := f) fun r _ r' _ hc => by
      simp only [decide_eq_true_eq] at hc
      rw [conflict_iff, (hkeep r).1, (hkeep r').1, (hkeep r).2, (hkeep r').2] at hc
      exact conflict_iff.2 hc
  exact ⟨t', Table.updateOne_eq_ok.2
    ⟨⟨row, (session_eq_some.1 hrow).1, by simp⟩, ht'⟩⟩

/-- The most recent row of a user is the only one. -/
theorem latest_eq (userId : Uuid) :
    sessions.latest (fun r => r.userId = userId) (·.createdAt) = session sessions userId := by
  cases hlatest : sessions.latest (fun r => r.userId = userId) (·.createdAt) with
  | none =>
    refine (Option.eq_none_iff_forall_not_mem.2 fun row hrow => ?_).symm
    obtain ⟨hmem, huser⟩ := session_eq_some.1 hrow
    exact of_decide_eq_false (Table.latest_eq_none.1 hlatest row hmem) huser
  | some row =>
    obtain ⟨hmem, huser⟩ := Table.mem_of_latest hlatest
    exact (session_eq_some.2 ⟨hmem, of_decide_eq_true huser⟩).symm

/-- After a connect the user's row is active: the row that was there, or a new one. The rows of the
other users stay. -/
theorem session_createOrUpdateDevboxSession {t' : Table KubeDevboxSession.Model}
    {hash : String → String} {newId userId : Uuid} {sessionToken deviceName : String}
    {expiresAt now : Timestamp}
    (h : createOrUpdateDevboxSession sessions hash newId userId sessionToken deviceName expiresAt
      now = .ok t') :
    (∃ row, session t' userId = some row ∧ row.revokedAt = none ∧
      ∀ old, session sessions userId = some old → row.id = old.id) ∧
    ∀ u, u ≠ userId → session t' u = session sessions u := by
  unfold createOrUpdateDevboxSession at h
  rw [latest_eq] at h
  cases hold : session sessions userId with
  | some existing =>
    rw [hold] at h
    have hsession := session_updateOne h (fun _ => rfl) userId
    rw [hold, Option.map_some, if_pos rfl] at hsession
    refine ⟨⟨_, hsession, rfl, ?_⟩, fun u hu => ?_⟩
    · rintro _ ⟨⟩
      rfl
    · rw [session_updateOne h (fun _ => rfl)]
      cases hrow : session sessions u with
      | none => rfl
      | some row =>
        rw [Option.map_some, if_neg fun hid => hu (eq_of_session_id hrow hold hid)]
  | none =>
    rw [hold] at h
    have hmem : ∀ r, r ∈ t'.rows ↔ _ := fun r => Table.mem_insert h
    have hsession := session_eq_some.2 ⟨(hmem _).2 (.inr rfl), rfl⟩
    refine ⟨⟨_, hsession, rfl, ?_⟩, fun u hu => ?_⟩
    · rintro _ ⟨⟩
    · ext row
      rw [session_eq_some, session_eq_some, hmem]
      constructor
      · rintro ⟨hrow | rfl, huser⟩
        · exact ⟨hrow, huser⟩
        · exact absurd huser.symm hu
      · exact fun ⟨hrow, huser⟩ => ⟨.inl hrow, huser⟩

end DevboxSessions

end Lapdev
