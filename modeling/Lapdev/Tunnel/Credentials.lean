import Lapdev.Logic.Tickets
import Lapdev.RustStd.HashMap
import Lapdev.RustStd.Utf8

/-!
# The credentials of a direct endpoint

`DirectCredentialStore` of `tunnel/src/direct/credential.rs` holds the tokens that a peer may present,
each with the time at which it expires. Every method runs under the lock and reads the clock there,
`remove` reads it twice. Expired tokens are dropped along the way, by every method that writes and by
a task every minute. After any calls the tokens are those that were issued and neither replaced nor
presented since, but for expired ones (`removes_iff_of_calls`).
-/

namespace Lapdev

open RustStd

namespace Tunnel

/-- `DateTime<Utc>`. -/
abbrev DateTime := Int

/-- Source: `credential.rs`. -/
structure DirectCredentialStore where
  tokens : HashTable Str DateTime

namespace DirectCredentialStore

/-- Source: `credential.rs`. -/
def cleanupExpired (now : DateTime) (tokens : HashTable Str DateTime) : HashTable Str DateTime :=
  if tokens.entries = [] then tokens else tokens.retain fun _ expiresAt => now ≤ expiresAt

/-- Source: `new`. -/
def new : DirectCredentialStore := ⟨∅⟩

/-- Source: `replace`. -/
def replace (_ : DirectCredentialStore) (token : Str) (expiresAt now : DateTime) :
    DirectCredentialStore :=
  ⟨cleanupExpired now (AList.insert token expiresAt ∅)⟩

/-- Source: `insert`. -/
def insert (store : DirectCredentialStore) (token : Str) (expiresAt now : DateTime) :
    DirectCredentialStore :=
  ⟨cleanupExpired now (store.tokens.insert token expiresAt)⟩

/-- Source: `remove`; the clock is read before the token is taken out and after. -/
def remove (store : DirectCredentialStore) (token : Str) (now later : DateTime) :
    Bool × DirectCredentialStore :=
  let tokens := cleanupExpired now store.tokens
  (match tokens.lookup token with
    | some expiry => decide (later ≤ expiry)
    | none => false,
    ⟨tokens.erase token⟩)

/-- Source: `contains`. -/
def contains (store : DirectCredentialStore) (token : Str) (now : DateTime) : Bool :=
  ((store.tokens.lookup token).map fun expiry => decide (now ≤ expiry)).getD false

/-- Source: `cleanup_expired_now`. -/
def cleanupExpiredNow (store : DirectCredentialStore) (now : DateTime) : DirectCredentialStore :=
  ⟨cleanupExpired now store.tokens⟩

section
variable {store : DirectCredentialStore} {token token' : Str} {expiresAt now later : DateTime}

theorem lookup_cleanupExpired (now : DateTime) (tokens : HashTable Str DateTime) (token : Str) :
    (cleanupExpired now tokens).lookup token =
      (tokens.lookup token).filter fun expiresAt => now ≤ expiresAt := by
  unfold cleanupExpired
  split
  · next hempty => rw [HashTable.lookup_of_entries_eq_nil hempty, Option.filter_none]
  · exact HashTable.lookup_retain _ _ _

theorem lookup_cleanupExpired_eq_some {tokens : HashTable Str DateTime} :
    (cleanupExpired now tokens).lookup token = some expiresAt ↔
      tokens.lookup token = some expiresAt ∧ now ≤ expiresAt := by
  rw [lookup_cleanupExpired, Option.filter_eq_some_iff, decide_eq_true_eq]

/-- A token is taken exactly if it is stored and has not expired. -/
theorem remove_eq_true : (store.remove token now later).1 = true ↔
    ∃ expiry, store.tokens.lookup token = some expiry ∧ now ≤ expiry ∧ later ≤ expiry := by
  change (match (cleanupExpired now store.tokens).lookup token with
    | some expiry => decide (later ≤ expiry)
    | none => false) = true ↔ _
  constructor
  · intro h
    split at h
    · next expiry hlookup =>
      obtain ⟨hstored, hfresh⟩ := lookup_cleanupExpired_eq_some.1 hlookup
      exact ⟨expiry, hstored, hfresh, of_decide_eq_true h⟩
    · cases h
  · rintro ⟨expiry, hstored, hfresh, hlater⟩
    rw [lookup_cleanupExpired_eq_some.2 ⟨hstored, hfresh⟩]
    exact decide_eq_true hlater

theorem contains_eq_true : store.contains token now = true ↔
    ∃ expiry, store.tokens.lookup token = some expiry ∧ now ≤ expiry := by
  unfold contains
  cases store.tokens.lookup token <;> simp

end

/-! ## Calls -/

/-- A call of the store that changes it, with what it reads of the clock. -/
inductive Call
  | replace (token : Str) (expiresAt now : DateTime)
  | insert (token : Str) (expiresAt now : DateTime)
  | remove (token : Str) (now later : DateTime)
  | cleanupExpiredNow (now : DateTime)

/-- The store after a call. -/
def apply (store : DirectCredentialStore) : Call → DirectCredentialStore
  | .replace token expiresAt now => store.replace token expiresAt now
  | .insert token expiresAt now => store.insert token expiresAt now
  | .remove token now later => (store.remove token now later).2
  | .cleanupExpiredNow now => store.cleanupExpiredNow now

/-- What a call means for the tokens as tickets. -/
def events (store : DirectCredentialStore) : Call → List (Tickets.Event Str DateTime)
  | .replace token expiresAt _ => [.revokeAll, .issue token expiresAt]
  | .insert token expiresAt _ => [.issue token expiresAt]
  | .remove token now later =>
    if (store.remove token now later).1 then [.use token later] else []
  | .cleanupExpiredNow _ => []

/-- The latest time that a call reads. -/
def Call.latest : Call → DateTime
  | .replace _ _ now | .insert _ _ now | .cleanupExpiredNow now => now
  | .remove _ now later => max now later

/-- A store, what has happened to its tokens, and the latest time that was read. -/
structure Traced where
  store : DirectCredentialStore
  events : List (Tickets.Event Str DateTime)
  clock : DateTime

/-- A new store. -/
def Traced.new (clock : DateTime) : Traced := ⟨.new, [], clock⟩

/-- A traced store after a call. -/
def Traced.apply (traced : Traced) (call : Call) : Traced :=
  ⟨traced.store.apply call, traced.events ++ traced.store.events call,
    max traced.clock call.latest⟩

/-- The store has the tokens that are good, and has taken only tokens that were. -/
structure Traced.Sound (traced : Traced) : Prop where
  kept : Tickets.Kept (Tickets.after traced.events) (fun token => traced.store.tokens.lookup token)
    traced.clock
  fair : Tickets.Fair traced.events

section
variable {traced : Traced}

theorem Traced.Sound.new (clock : DateTime) : (Traced.new clock).Sound :=
  ⟨.refl _ _, .nil⟩

/-- The stored tokens after a cleanup. -/
theorem Kept.cleanupExpired {tickets : Tickets Str DateTime} {tokens : HashTable Str DateTime}
    {clock clock' now : DateTime}
    (h : Tickets.Kept tickets (fun token => tokens.lookup token) clock) (hle : clock ≤ clock')
    (hnow : now ≤ clock') :
    Tickets.Kept tickets (fun token => (cleanupExpired now tokens).lookup token) clock' :=
  h.forget hle (fun ht => (lookup_cleanupExpired_eq_some.1 ht).1)
    (fun ht hfresh => lookup_cleanupExpired_eq_some.2 ⟨ht, hnow.trans hfresh⟩)

/-- The stored tokens after one is written. -/
theorem Kept.insert {tickets : Tickets Str DateTime} {tokens : HashTable Str DateTime}
    {clock : DateTime} (h : Tickets.Kept tickets (fun token => tokens.lookup token) clock)
    (token : Str) (expiresAt : DateTime) :
    Tickets.Kept (Function.update tickets token (some expiresAt))
      (fun token' => (tokens.insert token expiresAt).lookup token') clock := by
  have heq : (fun token' => (tokens.insert token expiresAt).lookup token') =
      Function.update (fun token' => tokens.lookup token') token (some expiresAt) := by
    funext token'
    rw [HashTable.lookup_insert, Function.update_apply]
  rw [heq]
  exact h.update token _

/-- The stored tokens after one is taken out. -/
theorem Kept.erase {tickets : Tickets Str DateTime} {tokens : HashTable Str DateTime}
    {clock : DateTime} (h : Tickets.Kept tickets (fun token => tokens.lookup token) clock)
    (token : Str) :
    Tickets.Kept (Function.update tickets token none)
      (fun token' => (tokens.erase token).lookup token') clock := by
  have heq : (fun token' => (tokens.erase token).lookup token') =
      Function.update (fun token' => tokens.lookup token') token none := by
    funext token'
    rw [HashTable.lookup_erase, Function.update_apply]
  rw [heq]
  exact h.update token _

/-- Every call keeps it. -/
theorem Traced.Sound.apply (h : traced.Sound) (call : Call) : (traced.apply call).Sound := by
  have hclock : traced.clock ≤ max traced.clock call.latest := le_max_left _ _
  cases call with
  | replace token expiresAt now =>
    constructor
    · have hempty : Tickets.Kept (Tickets.after (traced.events ++ [.revokeAll]))
          (fun token' => AList.lookup token' (∅ : HashTable Str DateTime)) traced.clock := by
        rw [Tickets.after_append_singleton]
        exact .refl _ _
      have hissued := Kept.cleanupExpired (Kept.insert hempty token expiresAt) hclock
        (le_max_right _ _)
      change Tickets.Kept (Tickets.after (traced.events ++ [.revokeAll, .issue token expiresAt])) _ _
      rw [List.append_cons, Tickets.after_append_singleton]
      exact hissued
    · change Tickets.Fair (traced.events ++ [.revokeAll, .issue token expiresAt])
      rw [List.append_cons]
      exact (h.fair.append_singleton (e := .revokeAll) trivial).append_singleton trivial
  | insert token expiresAt now =>
    constructor
    · change Tickets.Kept (Tickets.after (traced.events ++ [.issue token expiresAt])) _ _
      rw [Tickets.after_append_singleton]
      exact Kept.cleanupExpired (Kept.insert h.kept token expiresAt) hclock (le_max_right _ _)
    · exact h.fair.append_singleton trivial
  | cleanupExpiredNow now =>
    change Traced.Sound ⟨_, traced.events ++ [], _⟩
    rw [List.append_nil]
    exact ⟨Kept.cleanupExpired h.kept hclock (le_max_right _ _), h.fair⟩
  | remove token now later =>
    have hnow : now ≤ max traced.clock (max now later) := (le_max_left _ _).trans (le_max_right _ _)
    have hlater : later ≤ max traced.clock (max now later) :=
      (le_max_right _ _).trans (le_max_right _ _)
    have hclean := Kept.cleanupExpired h.kept hclock hnow
    change Traced.Sound ⟨_, traced.events ++ (if _ then _ else _), _⟩
    by_cases hremove : (traced.store.remove token now later).1 = true
    · rw [if_pos hremove]
      obtain ⟨expiry, hstored, -, hgood⟩ := remove_eq_true.1 hremove
      constructor
      · change Tickets.Kept (Tickets.after (traced.events ++ [.use token later])) _ _
        rw [Tickets.after_append_singleton]
        exact Kept.erase hclean token
      · exact h.fair.append_singleton ⟨expiry, h.kept.of_table hstored, hgood⟩
    · rw [if_neg hremove, List.append_nil]
      refine ⟨hclean.forget le_rfl ?_ ?_, h.fair⟩
      · intro token' expiry ht
        change AList.lookup token' (AList.erase token _) = _ at ht
        rw [HashTable.lookup_erase] at ht
        split at ht
        · cases ht
        · exact ht
      · -- the token that is taken out has expired
        intro token' expiry ht hfresh
        change AList.lookup token' (AList.erase token _) = _
        have hne : token' ≠ token := by
          rintro rfl
          obtain ⟨hstored, -⟩ := lookup_cleanupExpired_eq_some.1 ht
          exact hremove (remove_eq_true.2
            ⟨expiry, hstored, hnow.trans hfresh, hlater.trans hfresh⟩)
        rw [HashTable.lookup_erase, if_neg hne]
        exact ht

/-- So do many. -/
theorem Traced.Sound.foldl (h : traced.Sound) (calls : List Call) :
    (calls.foldl Traced.apply traced).Sound := by
  induction calls generalizing traced with
  | nil => exact h
  | cons call calls ih => exact ih (h.apply call)

end

/-- **The store.** After any calls only a token is taken that was issued, has not been taken or
replaced since and has not expired, and no token has been taken more often than it was issued. Where
the clock is not behind an earlier reading, every such token is taken, and `contains` knows it. -/
theorem removes_iff_of_calls (start : DateTime) (calls : List Call) (token : Str)
    {now later : DateTime} (hnow : (calls.foldl Traced.apply (.new start)).clock ≤ now)
    (hlater : now ≤ later) :
    let traced := calls.foldl Traced.apply (.new start)
    (∀ now later, (traced.store.remove token now later).1 = true →
      (Tickets.after traced.events).Good token later) ∧
    ((traced.store.remove token now later).1 = true ↔
      (Tickets.after traced.events).Good token later) ∧
    (traced.store.contains token now = true ↔ (Tickets.after traced.events).Good token now) ∧
    traced.events.countP (Tickets.Event.uses token) ≤
      traced.events.countP (Tickets.Event.issues token) := by
  intro traced
  have hsound : traced.Sound := (Traced.Sound.new start).foldl calls
  refine ⟨?_, ?_, ?_, Tickets.uses_le_issues hsound.fair token⟩
  · intro now later hremove
    obtain ⟨expiry, hstored, -, hgood⟩ := remove_eq_true.1 hremove
    exact ⟨expiry, hsound.kept.of_table hstored, hgood⟩
  · rw [remove_eq_true, hsound.kept.good_iff (hnow.trans hlater)]
    constructor
    · rintro ⟨expiry, hstored, -, hgood⟩
      exact ⟨expiry, hstored, hgood⟩
    · rintro ⟨expiry, hstored, hgood⟩
      exact ⟨expiry, hstored, hlater.trans hgood, hgood⟩
  · rw [contains_eq_true, hsound.kept.good_iff hnow]

/-- A token that was taken is not taken again. -/
theorem removes_iff_taken :
    let traced := [Call.insert ['t'] 120 0, .remove ['t'] 5 5].foldl Traced.apply (.new 0)
    ((traced.store.remove ['t'] 7 8).1 = true ↔ (Tickets.after traced.events).Good ['t'] 8) :=
  (removes_iff_of_calls 0 [.insert ['t'] 120 0, .remove ['t'] 5 5] ['t'] (by decide) (by decide)).2.1

end DirectCredentialStore

end Tunnel

end Lapdev
