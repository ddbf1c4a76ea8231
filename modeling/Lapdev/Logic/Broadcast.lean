import Lapdev.Logic.Run
import Mathlib.Data.Multiset.Bind
import Mathlib.Data.Multiset.Replicate
import Mathlib.Order.Lattice

/-!
# Feeds with subscribers

Feeds of events, one for each key, under one lock. Who publishes an event adds it to the feed and
takes a copy of the subscribers under the lock, and sends the event to them one by one after the
lock has been released, so that several events can be on their way at once (`System.flying`). Who
subscribes gets a channel that starts with the events the feed has kept. A subscriber that is gone
stays in the feed until somebody cleans it up.

`Run.owed` is the rule: a subscriber that has not gone has been sent, or is about to be sent, the
events kept when it subscribed and those published since, each once. `Run.in_order` says when they
arrive in the order in which they were published, and `Run.agree` that all subscribers of a feed
have the same kept events.
-/

namespace Broadcast

open Runs

variable {K E C : Type*}

/-- What is particular to a table of feeds. -/
structure Policy (E : Type*) where
  /-- The event is kept for later subscribers. -/
  keeps : E → Bool
  /-- Publishing makes a feed. -/
  creates : Bool
  /-- Cleaning up removes a feed without subscribers. -/
  removes : Bool

/-- What a feed keeps of an event. -/
def Policy.kept (p : Policy E) (e : E) : List E := if p.keeps e then [e] else []

/-- A key's record: the events that it keeps, and who subscribes to it. -/
structure Feed (E C : Type*) where
  seen : List E := []
  subscribers : List C := []

/-- An unbounded channel. -/
structure Channel (E : Type*) where
  received : List E := []
  queue : List E := []
  closed : Bool := false

/-- All that has been sent to a receiver that is there. -/
def Channel.sent (ch : Channel E) : List E := ch.received ++ ch.queue

/-- The feeds of the keys and the channels of the subscribers. -/
structure Hub (K E C : Type*) where
  feeds : K → Option (Feed E C) := fun _ => none
  channels : C → Option (Channel E) := fun _ => none

namespace Hub

/-- The receiver of the channel is there. -/
def isOpen (hub : Hub K E C) (c : C) : Bool := (hub.channels c).any fun ch => !ch.closed

/-- The events a new subscriber is sent at once. -/
def seen (hub : Hub K E C) (k : K) : List E := ((hub.feeds k).map Feed.seen).getD []

/-- Those who subscribe to a key, in the order of their subscriptions. -/
def subscribers (hub : Hub K E C) (k : K) : List C :=
  ((hub.feeds k).map Feed.subscribers).getD []

/-- What the receiver has taken. -/
def received (hub : Hub K E C) (c : C) : List E :=
  ((hub.channels c).map Channel.received).getD []

/-- What has been sent and not yet been taken. -/
def queue (hub : Hub K E C) (c : C) : List E := ((hub.channels c).map Channel.queue).getD []

/-- What has been sent over a channel. -/
def sent (hub : Hub K E C) (c : C) : List E := ((hub.channels c).map Channel.sent).getD []

variable {p : Policy E} {hub hub' : Hub K E C} {k j : K} {c d : C} {e : E}

/-- What was sent to a channel is what was received from it and what is still in its queue. -/
theorem sent_eq : hub.sent c = hub.received c ++ hub.queue c := by
  cases h : hub.channels c <;> simp [sent, received, queue, h, Channel.sent]

/-! ## Under the lock -/

section Feeds
variable [DecidableEq K]

/-- An event is published: the feeds after it and the subscribers it is to be sent to. -/
def publish (p : Policy E) (hub : Hub K E C) (k : K) (e : E) : Hub K E C × List C :=
  match hub.feeds k with
  | some feed =>
    let feeds := Function.update hub.feeds k (some { feed with seen := feed.seen ++ p.kept e })
    ({ hub with feeds }, feed.subscribers)
  | none =>
    if p.creates then
      ({ hub with feeds := Function.update hub.feeds k (some { seen := p.kept e }) }, [])
    else (hub, [])

/-- The subscribers that have gone are taken out of a feed. -/
def cleanup (p : Policy E) (hub : Hub K E C) (k : K) : Hub K E C :=
  match hub.feeds k with
  | some feed =>
    let live := feed.subscribers.filter hub.isOpen
    let feed' := if p.removes && live.isEmpty then none else some { feed with subscribers := live }
    { hub with feeds := Function.update hub.feeds k feed' }
  | none => hub

/-- A publication leaves the subscribers of every key. -/
@[simp] theorem subscribers_publish :
    (hub.publish p k e).1.subscribers j = hub.subscribers j := by
  unfold publish
  split
  · next feed h =>
    by_cases hj : j = k
    · subst hj
      simp [subscribers, h]
    · simp [subscribers, hj]
  · next h =>
    split
    · by_cases hj : j = k
      · subst hj
        simp [subscribers, h]
      · simp [subscribers, hj]
    · rfl

/-- A publication is to be sent to those who subscribe to its key at that time. -/
@[simp] theorem publish_snd : (hub.publish p k e).2 = hub.subscribers k := by
  unfold publish
  split
  · next h => simp [subscribers, h]
  · next h =>
    have hnone : hub.subscribers k = [] := by simp [subscribers, h]
    rw [hnone]
    split <;> rfl

/-- A publication itself puts nothing into a channel: the messages fly. -/
@[simp] theorem channels_publish : (hub.publish p k e).1.channels = hub.channels := by
  unfold publish
  split
  · rfl
  · split <;> rfl

@[simp] theorem received_publish : (hub.publish p k e).1.received d = hub.received d := by
  rw [received, channels_publish, received]

/-- What is published is kept where the feed is there or made. -/
theorem seen_publish : (hub.publish p k e).1.seen j =
    if j = k ∧ ((hub.feeds k).isSome ∨ p.creates) then hub.seen j ++ p.kept e else hub.seen j := by
  unfold publish
  split
  · next feed h =>
    by_cases hj : j = k
    · subst hj
      simp [seen, h]
    · simp [seen, hj]
  · next h =>
    split
    · next hc =>
      by_cases hj : j = k
      · subst hj
        simp [seen, h, hc]
      · simp [seen, hj]
    · next hc => simp [h, hc]

@[simp] theorem channels_cleanup : (hub.cleanup p k).channels = hub.channels := by
  unfold cleanup
  split <;> rfl

@[simp] theorem received_cleanup : (hub.cleanup p k).received d = hub.received d := by
  rw [received, channels_cleanup, received]

/-- A cleanup drops those subscribers of its key whose channels are closed, and nobody else. -/
theorem subscribers_cleanup : (hub.cleanup p k).subscribers j =
    if j = k then (hub.subscribers j).filter hub.isOpen else hub.subscribers j := by
  unfold cleanup
  split
  · next feed h =>
    by_cases hj : j = k
    · subst hj
      by_cases hgone : (p.removes && (feed.subscribers.filter hub.isOpen).isEmpty) = true
      · have hnil := List.isEmpty_iff.1 (Bool.and_eq_true_iff.1 hgone).2
        simp only [subscribers, h, Function.update_self, hgone, if_true]
        simp [hnil]
      · simp [subscribers, h, hgone]
    · simp [subscribers, hj]
  · next h =>
    by_cases hj : j = k
    · subst hj
      simp [subscribers, h]
    · simp [hj]

/-- A feed with a subscriber that is there keeps its events. -/
theorem seen_cleanup_of_mem (hc : c ∈ hub.subscribers j) (hopen : hub.isOpen c = true) :
    (hub.cleanup p k).seen j = hub.seen j := by
  unfold cleanup
  split
  · next feed h =>
    by_cases hj : j = k
    · subst hj
      have hlive : (feed.subscribers.filter hub.isOpen).isEmpty = false := by
        refine List.isEmpty_eq_false_iff_exists_mem.2 ⟨c, List.mem_filter.2 ⟨?_, hopen⟩⟩
        simpa [subscribers, h] using hc
      simp [seen, h, hlive]
    · simp [seen, hj]
  · rfl

/-- Cleaning up forgets the events of a feed or leaves them. -/
theorem mem_seen_cleanup (h : e ∈ (hub.cleanup p k).seen j) : e ∈ hub.seen j := by
  unfold cleanup at h
  split at h
  · next feed hfeed =>
    by_cases hj : j = k
    · subst hj
      by_cases hgone : (p.removes && (feed.subscribers.filter hub.isOpen).isEmpty) = true
      · simp [seen, hgone] at h
      · simpa [seen, hfeed, hgone] using h
    · simpa [seen, hj] using h
  · exact h

end Feeds

/-! ## Over the channels -/

section Channels
variable [DecidableEq C]

/-- The channel of a receiver is replaced. -/
def setChannel (hub : Hub K E C) (c : C) (ch : Channel E) : Hub K E C :=
  { hub with channels := Function.update hub.channels c (some ch) }

/-- An event is sent over a channel; it is lost if the receiver has gone. -/
def send (hub : Hub K E C) (c : C) (e : E) : Hub K E C :=
  match hub.channels c with
  | some ch => if ch.closed then hub else hub.setChannel c { ch with queue := ch.queue ++ [e] }
  | none => hub

/-- The receiver takes the first event of the queue. -/
def receive (hub : Hub K E C) (c : C) : Option (E × Hub K E C) :=
  match hub.channels c with
  | some ⟨received, e :: queue, closed⟩ =>
    some (e, hub.setChannel c ⟨received ++ [e], queue, closed⟩)
  | _ => none

/-- The receiver goes. -/
def close (hub : Hub K E C) (c : C) : Hub K E C :=
  match hub.channels c with
  | some ch => hub.setChannel c { ch with queue := [], closed := true }
  | none => hub

/-- Setting a channel leaves the others. -/
theorem channels_setChannel (ch : Channel E) :
    (hub.setChannel c ch).channels d = if d = c then some ch else hub.channels d := by
  simp [setChannel, Function.update_apply]

@[simp] theorem feeds_setChannel (ch : Channel E) : (hub.setChannel c ch).feeds = hub.feeds := rfl

@[simp] theorem feeds_send : (hub.send c e).feeds = hub.feeds := by
  unfold send
  split
  · split <;> rfl
  · rfl

@[simp] theorem subscribers_send : (hub.send c e).subscribers k = hub.subscribers k := by
  rw [subscribers, feeds_send, subscribers]

@[simp] theorem seen_send : (hub.send c e).seen k = hub.seen k := by
  rw [seen, feeds_send, seen]

@[simp] theorem isOpen_send : (hub.send c e).isOpen d = hub.isOpen d := by
  unfold send
  split
  · next ch h =>
    split
    · rfl
    · next hopen =>
      by_cases hd : d = c
      · subst hd
        simp [isOpen, channels_setChannel, h, hopen]
      · simp [isOpen, channels_setChannel, hd]
  · rfl

@[simp] theorem isSome_channels_send :
    ((hub.send c e).channels d).isSome = (hub.channels d).isSome := by
  unfold send
  split
  · next ch h =>
    split
    · rfl
    · by_cases hd : d = c
      · subst hd
        simp [channels_setChannel, h]
      · simp [channels_setChannel, hd]
  · rfl

@[simp] theorem received_send : (hub.send c e).received d = hub.received d := by
  unfold send
  split
  · next ch h =>
    split
    · rfl
    · by_cases hd : d = c
      · subst hd
        simp [received, channels_setChannel, h]
      · simp [received, channels_setChannel, hd]
  · rfl

/-- Only a receiver that is there gets what is sent. -/
theorem sent_send : (hub.send c e).sent d =
    if d = c ∧ hub.isOpen c = true then hub.sent d ++ [e] else hub.sent d := by
  unfold send
  split
  · next ch h =>
    split
    · next hclosed => simp [isOpen, h, hclosed]
    · next hopen =>
      by_cases hd : d = c
      · subst hd
        simp [sent, isOpen, channels_setChannel, h, hopen, Channel.sent]
      · simp [sent, channels_setChannel, hd]
  · next h => simp [isOpen, h]

/-- What is received was the first event of the queue. -/
theorem receive_eq_some (h : hub.receive c = some (e, hub')) :
    ∃ ch queue, hub.channels c = some ch ∧ ch.queue = e :: queue ∧
      hub' = hub.setChannel c ⟨ch.received ++ [e], queue, ch.closed⟩ := by
  unfold receive at h
  split at h
  · next received e' queue closed hch =>
    obtain ⟨rfl, rfl⟩ := Prod.mk.inj (Option.some.inj h)
    exact ⟨_, queue, hch, rfl, rfl⟩
  · cases h

/-- A receiver leaves the feeds. -/
theorem feeds_receive (h : hub.receive c = some (e, hub')) : hub'.feeds = hub.feeds := by
  obtain ⟨ch, queue, -, -, rfl⟩ := receive_eq_some h
  rfl

/-- A receiver leaves the subscribers. -/
theorem subscribers_receive (h : hub.receive c = some (e, hub')) :
    hub'.subscribers k = hub.subscribers k := by
  rw [subscribers, feeds_receive h, subscribers]

/-- A receiver leaves what has been published. -/
theorem seen_receive (h : hub.receive c = some (e, hub')) : hub'.seen k = hub.seen k := by
  rw [seen, feeds_receive h, seen]

/-- A receiver leaves its channel open. -/
theorem isOpen_receive (h : hub.receive c = some (e, hub')) : hub'.isOpen d = hub.isOpen d := by
  obtain ⟨ch, queue, hch, -, rfl⟩ := receive_eq_some h
  by_cases hd : d = c
  · subst hd
    simp [isOpen, channels_setChannel, hch]
  · simp [isOpen, channels_setChannel, hd]

/-- A receiver takes what it is given, after what it took before. -/
theorem received_receive (h : hub.receive c = some (e, hub')) : hub'.received d =
    if d = c then hub.received d ++ [e] else hub.received d := by
  obtain ⟨ch, queue, hch, -, rfl⟩ := receive_eq_some h
  by_cases hd : d = c
  · subst hd
    simp [received, channels_setChannel, hch]
  · simp [received, channels_setChannel, hd]

/-- A receiver leaves the channels that there are. -/
theorem isSome_channels_receive (h : hub.receive c = some (e, hub')) :
    (hub'.channels d).isSome = (hub.channels d).isSome := by
  obtain ⟨ch, queue, hch, -, rfl⟩ := receive_eq_some h
  by_cases hd : d = c
  · subst hd
    simp [channels_setChannel, hch]
  · simp [channels_setChannel, hd]

/-- What a receiver takes was sent before. -/
theorem sent_receive (h : hub.receive c = some (e, hub')) : hub'.sent d = hub.sent d := by
  obtain ⟨ch, queue, hch, hqueue, rfl⟩ := receive_eq_some h
  by_cases hd : d = c
  · subst hd
    simp [sent, channels_setChannel, hch, Channel.sent, hqueue]
  · simp [sent, channels_setChannel, hd]

@[simp] theorem feeds_close : (hub.close c).feeds = hub.feeds := by
  unfold close
  split <;> rfl

@[simp] theorem subscribers_close : (hub.close c).subscribers k = hub.subscribers k := by
  rw [subscribers, feeds_close, subscribers]

@[simp] theorem seen_close : (hub.close c).seen k = hub.seen k := by
  rw [seen, feeds_close, seen]

/-- A channel that is closed is not open any more, and the others are as they were. -/
theorem isOpen_close : (hub.close c).isOpen d = (hub.isOpen d && d ≠ c) := by
  unfold close
  split
  · by_cases hd : d = c
    · simp [isOpen, channels_setChannel, hd]
    · simp [isOpen, channels_setChannel, hd]
  · next h =>
    by_cases hd : d = c
    · simp [isOpen, hd, h]
    · simp [hd]

@[simp] theorem isSome_channels_close :
    ((hub.close c).channels d).isSome = (hub.channels d).isSome := by
  unfold close
  split
  · next ch h =>
    by_cases hd : d = c
    · subst hd
      simp [channels_setChannel, h]
    · simp [channels_setChannel, hd]
  · rfl

@[simp] theorem received_close : (hub.close c).received d = hub.received d := by
  unfold close
  split
  · next ch h =>
    by_cases hd : d = c
    · subst hd
      simp [received, channels_setChannel, h]
    · simp [received, channels_setChannel, hd]
  · rfl

/-- Closing a channel loses nothing of another one. -/
theorem sent_close_of_ne (hd : d ≠ c) : (hub.close c).sent d = hub.sent d := by
  unfold close
  split
  · simp [sent, channels_setChannel, hd]
  · rfl

end Channels

/-! ## A subscription -/

variable [DecidableEq K] [DecidableEq C]

/-- A new channel gets what the feed has kept and becomes a subscriber. -/
def subscribe (hub : Hub K E C) (k : K) (c : C) : Hub K E C :=
  let feed := (hub.feeds k).getD {}
  let feed' := { feed with subscribers := feed.subscribers ++ [c] }
  { hub with feeds := Function.update hub.feeds k (some feed') }.setChannel c { queue := feed.seen }

/-- A subscriber is added behind those of its key. -/
theorem subscribers_subscribe : (hub.subscribe k c).subscribers j =
    if j = k then hub.subscribers j ++ [c] else hub.subscribers j := by
  by_cases hj : j = k
  · subst hj
    cases h : hub.feeds j <;> simp [subscribe, subscribers, h]
  · simp [subscribe, subscribers, hj]

@[simp] theorem seen_subscribe : (hub.subscribe k c).seen j = hub.seen j := by
  by_cases hj : j = k
  · subst hj
    cases h : hub.feeds j <;> simp [subscribe, seen, h]
  · simp [subscribe, seen, hj]

/-- A new channel counts as sent what its key has published before it. -/
theorem sent_subscribe : (hub.subscribe k c).sent d =
    if d = c then hub.seen k else hub.sent d := by
  by_cases hd : d = c
  · subst hd
    cases h : hub.feeds k <;>
      simp [subscribe, sent, seen, channels_setChannel, h, Channel.sent]
  · simp [subscribe, sent, channels_setChannel, hd]

/-- A new channel has received nothing. -/
theorem received_subscribe : (hub.subscribe k c).received d =
    if d = c then [] else hub.received d := by
  by_cases hd : d = c
  · simp [subscribe, received, channels_setChannel, hd]
  · simp [subscribe, received, channels_setChannel, hd]

/-- A new channel is open. -/
theorem isOpen_subscribe : (hub.subscribe k c).isOpen d = (d = c || hub.isOpen d) := by
  by_cases hd : d = c
  · simp [subscribe, isOpen, channels_setChannel, hd]
  · simp [subscribe, isOpen, channels_setChannel, hd]

/-- A new channel is there. -/
theorem isSome_channels_subscribe :
    ((hub.subscribe k c).channels d).isSome = (d = c || (hub.channels d).isSome) := by
  by_cases hd : d = c
  · simp [subscribe, channels_setChannel, hd]
  · simp [subscribe, channels_setChannel, hd]

end Hub

/-! ## What is on its way -/

/-- Feeds, and the events that are being sent: each with the channel it is for. -/
structure System (K E C : Type*) where
  hub : Hub K E C := {}
  flying : Multiset (C × E) := 0

/-- What happens to feeds that others see. -/
inductive Act (K E C : Type*)
  | publish (k : K) (e : E)
  | subscribe (k : K) (c : C)
  | other

/-- The event if it is published for this feed. -/
def Act.publishedFor [DecidableEq K] (k : K) : Act K E C → List E
  | publish j e => if j = k then [e] else []
  | subscribe _ _ => []
  | other => []

/-- The events published for a feed, in order. -/
def published [DecidableEq K] (k : K) (as : List (Act K E C)) : List E :=
  as.flatMap (Act.publishedFor k)

variable [DecidableEq K] [DecidableEq C]

/-- A step on feeds. Events are sent one by one, in any order. -/
inductive Step (p : Policy E) : System K E C → Act K E C → System K E C → Prop
  | publish {s : System K E C} {k : K} {e : E} :
      Step p s (.publish k e) ⟨(s.hub.publish p k e).1,
        ((s.hub.publish p k e).2.map (·, e) : List (C × E)) + s.flying⟩
  | send {s : System K E C} {c : C} {e : E} {flying : Multiset (C × E)} :
      s.flying = (c, e) ::ₘ flying → Step p s .other ⟨s.hub.send c e, flying⟩
  | subscribe {s : System K E C} {k : K} {c : C} : s.hub.channels c = none →
      Step p s (.subscribe k c) ⟨s.hub.subscribe k c, s.flying⟩
  | receive {s : System K E C} {c : C} {e : E} {hub : Hub K E C} :
      s.hub.receive c = some (e, hub) → Step p s .other ⟨hub, s.flying⟩
  | close {s : System K E C} {c : C} : Step p s .other ⟨s.hub.close c, s.flying⟩
  | cleanup {s : System K E C} {k : K} : Step p s .other ⟨s.hub.cleanup p k, s.flying⟩
  | skip {s : System K E C} : Step p s .other s

variable {p : Policy E} {s s' : System K E C} {a : Act K E C} {k : K} {c : C} {l : List E}

/-- A step to a state that is equal. -/
theorem Step.trans_eq {s₁ : System K E C} (h : Step p s a s₁) (heq : s' = s₁) : Step p s a s' := by
  rwa [heq]

/-- Channels are made by subscribing, and a feed keeps what its policy says. -/
structure Wired (p : Policy E) (s : System K E C) : Prop where
  subscribed : ∀ k c, c ∈ s.hub.subscribers k → (s.hub.channels c).isSome
  sending : ∀ x ∈ s.flying, (s.hub.channels x.1).isSome
  kept : ∀ k, ∀ e ∈ s.hub.seen k, p.keeps e

omit [DecidableEq K] [DecidableEq C] in
/-- At the start nobody subscribes. -/
theorem Wired.init : Wired p ({} : System K E C) := by
  refine ⟨fun k c hc => ?_, fun x hx => ?_, fun k e he => ?_⟩
  · cases hc
  · exact absurd hx (Multiset.notMem_zero x)
  · cases he

/-- Every step keeps the wiring. -/
theorem Wired.step (h : Step p s a s') (hw : Wired p s) : Wired p s' := by
  cases h with
  | publish =>
    refine ⟨fun j d hd => ?_, fun x hx => ?_, fun j e' he' => ?_⟩
    · rw [Hub.subscribers_publish] at hd
      rw [Hub.channels_publish]
      exact hw.subscribed j d hd
    · rw [Hub.channels_publish]
      rcases Multiset.mem_add.1 hx with hx | hx
      · obtain ⟨d, hd, rfl⟩ := List.mem_map.1 (Multiset.mem_coe.1 hx)
        rw [Hub.publish_snd] at hd
        exact hw.subscribed _ d hd
      · exact hw.sending x hx
    · rw [Hub.seen_publish] at he'
      split at he'
      · rcases List.mem_append.1 he' with he' | he'
        · exact hw.kept j e' he'
        · rw [Policy.kept] at he'
          split at he'
          · next hkeeps => rwa [List.mem_singleton.1 he']
          · cases he'
      · exact hw.kept j e' he'
  | send hfl =>
    refine ⟨fun j d hd => ?_, fun x hx => ?_, fun j e' he' => ?_⟩
    · rw [Hub.isSome_channels_send]
      exact hw.subscribed j d (by simpa using hd)
    · rw [Hub.isSome_channels_send]
      exact hw.sending x (by rw [hfl]; exact Multiset.mem_cons_of_mem hx)
    · exact hw.kept j e' (by simpa using he')
  | subscribe hfresh =>
    refine ⟨fun j d hd => ?_, fun x hx => ?_, fun j e' he' => ?_⟩
    · rw [Hub.isSome_channels_subscribe]
      rw [Hub.subscribers_subscribe] at hd
      split at hd
      · rcases List.mem_append.1 hd with hd | hd
        · simp [hw.subscribed j d hd]
        · simp [List.mem_singleton.1 hd]
      · simp [hw.subscribed j d hd]
    · rw [Hub.isSome_channels_subscribe]
      simp [hw.sending x hx]
    · rw [Hub.seen_subscribe] at he'
      exact hw.kept j e' he'
  | receive hrecv =>
    refine ⟨fun j d hd => ?_, fun x hx => ?_, fun j e' he' => ?_⟩
    · rw [Hub.isSome_channels_receive hrecv]
      exact hw.subscribed j d (by simpa only [Hub.subscribers_receive hrecv] using hd)
    · rw [Hub.isSome_channels_receive hrecv]
      exact hw.sending x hx
    · exact hw.kept j e' (by simpa only [Hub.seen_receive hrecv] using he')
  | close =>
    refine ⟨fun j d hd => ?_, fun x hx => ?_, fun j e' he' => ?_⟩
    · rw [Hub.isSome_channels_close]
      exact hw.subscribed j d (by simpa using hd)
    · rw [Hub.isSome_channels_close]
      exact hw.sending x hx
    · exact hw.kept j e' (by simpa using he')
  | cleanup =>
    refine ⟨fun j d hd => ?_, fun x hx => ?_, fun j e' he' => ?_⟩
    · rw [Hub.channels_cleanup]
      rw [Hub.subscribers_cleanup] at hd
      split at hd
      · exact hw.subscribed j d (List.mem_of_mem_filter hd)
      · exact hw.subscribed j d hd
    · rw [Hub.channels_cleanup]
      exact hw.sending x hx
    · exact hw.kept j e' (Hub.mem_seen_cleanup he')
  | skip => exact hw

/-- A channel stays. -/
theorem Step.isSome_channels (h : Step p s a s') (hc : (s.hub.channels c).isSome) :
    (s'.hub.channels c).isSome := by
  cases h with
  | publish => rwa [Hub.channels_publish]
  | send => rwa [Hub.isSome_channels_send]
  | subscribe => rw [Hub.isSome_channels_subscribe, hc, Bool.or_true]
  | receive hrecv => rwa [Hub.isSome_channels_receive hrecv]
  | close => rwa [Hub.isSome_channels_close]
  | cleanup => rwa [Hub.channels_cleanup]
  | skip => exact hc

/-- After a subscription its channel is there. -/
theorem Step.isSome_of_subscribe (h : Step p s (.subscribe k c) s') :
    (s'.hub.channels c).isSome := by
  cases h with
  | subscribe => simp [Hub.isSome_channels_subscribe]

/-! ## One subscriber -/

/-- The events that are being sent to a subscriber. -/
def System.flyingTo (s : System K E C) (c : C) : Multiset E :=
  s.flying.bind fun x => if x.1 = c then {x.2} else 0

/-- A subscriber of a feed that is owed these events. -/
structure Follows (p : Policy E) (s : System K E C) (k : K) (c : C) (l : List E) : Prop where
  subscribed : (s.hub.subscribers k).count c = 1
  elsewhere : ∀ j ≠ k, c ∉ s.hub.subscribers j
  owed : (s.hub.sent c : Multiset E) + s.flyingTo c = (l : Multiset E)
  kept : l.filter p.keeps = s.hub.seen k

/-- A channel that is open follows a feed. -/
def Owed (p : Policy E) (k : K) (c : C) (l : List E) (s : System K E C) : Prop :=
  (s.hub.channels c).isSome ∧ (s.hub.isOpen c = true → Follows p s k c l)

/-- A publication flies to a channel as often as it subscribes to the key. -/
theorem flyingTo_publish {j : K} {e : E} :
    System.flyingTo (⟨(s.hub.publish p j e).1,
      ((s.hub.publish p j e).2.map (·, e) : List (C × E)) + s.flying⟩ : System K E C) c =
      Multiset.replicate ((s.hub.subscribers j).count c) e + s.flyingTo c := by
  rw [System.flyingTo, System.flyingTo, Multiset.add_bind, Hub.publish_snd]
  congr 1
  generalize s.hub.subscribers j = subs
  induction subs with
  | nil => rfl
  | cons d subs ih =>
    rw [List.map_cons, ← Multiset.cons_coe, Multiset.cons_bind, ih, List.count_cons]
    by_cases hd : d = c
    · rw [if_pos hd, if_pos (beq_iff_eq.2 hd), Multiset.replicate_succ, Multiset.singleton_add]
    · rw [if_neg hd, if_neg (by simpa using hd), Nat.add_zero, zero_add]

omit [DecidableEq K] in
/-- A message that lands is one less of those that fly to its channel. -/
theorem flyingTo_of_cons (hub : Hub K E C) {d : C} {e : E} {flying : Multiset (C × E)}
    (h : s.flying = (d, e) ::ₘ flying) : s.flyingTo c =
      (if d = c then {e} else 0) + System.flyingTo (⟨hub, flying⟩ : System K E C) c := by
  rw [System.flyingTo, System.flyingTo, h, Multiset.cons_bind]

/-- A step adds what it publishes for the feed to what its subscriber is owed. -/
theorem Owed.step (h : Step p s a s') (ho : Owed p k c l s) :
    Owed p k c (l ++ a.publishedFor k) s' := by
  obtain ⟨hsome, hfollows⟩ := ho
  cases h with
  | @publish j e =>
    refine ⟨by rwa [Hub.channels_publish], fun hopen => ?_⟩
    have hf := hfollows (by rwa [Hub.isOpen, Hub.channels_publish] at hopen)
    have hsent : (s.hub.publish p j e).1.sent c = s.hub.sent c := by
      rw [Hub.sent, Hub.channels_publish, Hub.sent]
    refine ⟨by simpa using hf.subscribed, by simpa using hf.elsewhere, ?_, ?_⟩
    · rw [hsent, flyingTo_publish]
      by_cases hj : j = k
      · subst hj
        rw [hf.subscribed, Multiset.replicate_one, ← add_assoc, add_right_comm, hf.owed,
          Act.publishedFor, if_pos rfl, ← Multiset.coe_add, Multiset.coe_singleton]
      · rw [List.count_eq_zero.2 (hf.elsewhere j hj), Multiset.replicate_zero, zero_add, hf.owed,
          Act.publishedFor, if_neg hj, List.append_nil]
    · rw [Hub.seen_publish, List.filter_append, hf.kept]
      by_cases hj : j = k
      · subst hj
        have hfeed : (s.hub.feeds j).isSome := by
          by_contra hnone
          have hsub := hf.subscribed
          rw [Hub.subscribers, Option.not_isSome_iff_eq_none.1 hnone] at hsub
          cases hsub
        rw [if_pos ⟨rfl, .inl hfeed⟩, Act.publishedFor, if_pos rfl, Policy.kept, List.filter_cons,
          List.filter_nil]
      · rw [if_neg fun h => hj h.1.symm, Act.publishedFor, if_neg hj, List.filter_nil,
          List.append_nil]
  | @send d e flying hfl =>
    refine ⟨by rwa [Hub.isSome_channels_send], fun hopen => ?_⟩
    rw [Hub.isOpen_send] at hopen
    have hf := hfollows hopen
    rw [Act.publishedFor, List.append_nil]
    refine ⟨by simpa using hf.subscribed,
      by simpa using hf.elsewhere, ?_, by simpa using hf.kept⟩
    have howed := hf.owed
    rw [flyingTo_of_cons (s.hub.send d e) hfl] at howed
    rw [Hub.sent_send]
    by_cases hd : d = c
    · subst hd
      rw [if_pos rfl, ← add_assoc, ← Multiset.coe_singleton, Multiset.coe_add] at howed
      rw [if_pos ⟨rfl, hopen⟩]
      exact howed
    · rw [if_neg hd, zero_add] at howed
      rw [if_neg fun h => hd h.1.symm]
      exact howed
  | @subscribe j d hfresh =>
    have hne : c ≠ d := by
      rintro rfl
      rw [hfresh] at hsome
      cases hsome
    refine ⟨by rw [Hub.isSome_channels_subscribe, hsome, Bool.or_true], fun hopen => ?_⟩
    have hf := hfollows (by simpa [Hub.isOpen_subscribe, hne] using hopen)
    rw [Act.publishedFor, List.append_nil]
    refine ⟨?_, fun i hi hmem => ?_, ?_, by rw [Hub.seen_subscribe, hf.kept]⟩
    · rw [Hub.subscribers_subscribe]
      split
      · rw [List.count_append, hf.subscribed, List.count_singleton,
          if_neg (by simpa using hne.symm)]
      · exact hf.subscribed
    · rw [Hub.subscribers_subscribe] at hmem
      split at hmem
      · rcases List.mem_append.1 hmem with hmem | hmem
        · exact hf.elsewhere i hi hmem
        · exact hne (List.mem_singleton.1 hmem)
      · exact hf.elsewhere i hi hmem
    · rw [Hub.sent_subscribe, if_neg hne]
      exact hf.owed
  | receive hrecv =>
    refine ⟨by rwa [Hub.isSome_channels_receive hrecv], fun hopen => ?_⟩
    have hf := hfollows (by rwa [Hub.isOpen_receive hrecv] at hopen)
    rw [Act.publishedFor, List.append_nil]
    refine ⟨by simpa only [Hub.subscribers_receive hrecv] using hf.subscribed,
      by simpa only [Hub.subscribers_receive hrecv] using hf.elsewhere, ?_,
      by simpa only [Hub.seen_receive hrecv] using hf.kept⟩
    rw [Hub.sent_receive hrecv]
    exact hf.owed
  | @close d =>
    refine ⟨by rwa [Hub.isSome_channels_close], fun hopen => ?_⟩
    rw [Hub.isOpen_close, Bool.and_eq_true_iff, decide_eq_true_iff] at hopen
    have hf := hfollows hopen.1
    rw [Act.publishedFor, List.append_nil]
    refine ⟨by simpa using hf.subscribed,
      by simpa using hf.elsewhere, ?_, by simpa using hf.kept⟩
    rw [Hub.sent_close_of_ne hopen.2]
    exact hf.owed
  | @cleanup j =>
    refine ⟨by rwa [Hub.channels_cleanup], fun hopen => ?_⟩
    have hopen : s.hub.isOpen c = true := by rwa [Hub.isOpen, Hub.channels_cleanup] at hopen
    have hf := hfollows hopen
    have hmem : c ∈ s.hub.subscribers k :=
      List.count_pos_iff.1 (by rw [hf.subscribed]; exact one_pos)
    rw [Act.publishedFor, List.append_nil]
    refine ⟨?_, fun i hi hmem => ?_, ?_, by rw [Hub.seen_cleanup_of_mem hmem hopen, hf.kept]⟩
    · rw [Hub.subscribers_cleanup]
      split
      · rw [List.count_filter hopen, hf.subscribed]
      · exact hf.subscribed
    · rw [Hub.subscribers_cleanup] at hmem
      split at hmem
      · exact hf.elsewhere i hi (List.mem_of_mem_filter hmem)
      · exact hf.elsewhere i hi hmem
    · rw [Hub.sent, Hub.channels_cleanup]
      exact hf.owed
  | skip =>
    rw [Act.publishedFor, List.append_nil]
    exact ⟨hsome, hfollows⟩

omit [DecidableEq K] in
/-- Nothing is on its way to a channel that has not been made. -/
theorem Wired.flyingTo_eq_zero (hw : Wired p s) (hfresh : s.hub.channels c = none) :
    s.flyingTo c = 0 := by
  refine Multiset.eq_zero_of_forall_notMem fun e he => ?_
  obtain ⟨x, hx, hxe⟩ := Multiset.mem_bind.1 he
  split at hxe
  · next hxc =>
    have hsome := hw.sending x hx
    rw [hxc, hfresh] at hsome
    cases hsome
  · exact Multiset.notMem_zero e hxe

/-- A new subscriber is owed what the feed has kept. -/
theorem Owed.of_subscribe (hw : Wired p s) (h : Step p s (.subscribe k c) s') :
    Owed p k c (s.hub.seen k) s' := by
  cases h with
  | subscribe hfresh =>
    have hnew : ∀ j, c ∉ s.hub.subscribers j := by
      intro j hmem
      have hsome := hw.subscribed j c hmem
      rw [hfresh] at hsome
      cases hsome
    refine ⟨by simp [Hub.isSome_channels_subscribe], fun _ => ⟨?_, fun j hj hmem => ?_, ?_, ?_⟩⟩
    · rw [Hub.subscribers_subscribe, if_pos rfl, List.count_append, List.count_eq_zero.2 (hnew k),
        List.count_singleton, if_pos (beq_self_eq_true c)]
    · rw [Hub.subscribers_subscribe, if_neg hj] at hmem
      exact hnew j hmem
    · have hflying : System.flyingTo (⟨s.hub.subscribe k c, s.flying⟩ : System K E C) c = 0 :=
        hw.flyingTo_eq_zero hfresh
      rw [Hub.sent_subscribe, if_pos rfl, hflying, add_zero]
    · rw [Hub.seen_subscribe]
      exact List.filter_eq_self.2 (hw.kept k)

/-- A subscriber is sent what the feed had kept when it subscribed and what is published from then
on, each event once, however events, subscriptions, receivers that go and cleaning up interleave. -/
theorem Run.owed {as : List (Act K E C)} (hrun : Run (Step p) s as s') (ho : Owed p k c l s) :
    Owed p k c (l ++ published k as) s' := by
  induction hrun generalizing l with
  | nil => simpa [published] using ho
  | cons hstep _ ih =>
    have h := ih (ho.step hstep)
    rwa [List.append_assoc] at h

/-- Every run keeps the wiring. -/
theorem Run.wired {as : List (Act K E C)} (hrun : Run (Step p) s as s') (hw : Wired p s) :
    Wired p s' :=
  Run.invariant (Wired p) (fun _ _ _ hstep => Wired.step hstep) hrun hw

/-- Nobody is left who could send over the channel. -/
def System.ended (s : System K E C) (c : C) : Prop :=
  (∀ k, c ∉ s.hub.subscribers k) ∧ s.flyingTo c = 0

omit [DecidableEq K] in
/-- The stream of a subscriber that is there does not end. -/
theorem Follows.not_ended (h : Follows p s k c l) : ¬s.ended c := by
  intro hended
  have hcount := h.subscribed
  rw [List.count_eq_zero.2 (hended.1 k)] at hcount
  cases hcount

/-! ## In order -/

/-- At most one event is on its way to a subscriber, and it is the next one. -/
def InOrder (c : C) (l : List E) (s : System K E C) : Prop :=
  s.hub.isOpen c = true → ∃ next : Option E,
    s.flyingTo c = (next.toList : Multiset E) ∧ s.hub.sent c ++ next.toList = l

/-- An event is published for the feed of the subscriber only when the one before has been sent. -/
def OneAtATime (k : K) (c : C) (s : System K E C) (a : Act K E C) : Prop :=
  a.publishedFor k ≠ [] → s.flyingTo c = 0

/-- While one publication of a key is sent at a time, a channel receives in the order of the
publications. -/
theorem InOrder.step (h : Step p s a s') (hone : OneAtATime k c s a) (ho : Owed p k c l s)
    (hin : InOrder c l s) : InOrder c (l ++ a.publishedFor k) s' := by
  obtain ⟨hsome, hfollows⟩ := ho
  cases h with
  | @publish j e =>
    intro hopen
    have hopen : s.hub.isOpen c = true := by rwa [Hub.isOpen, Hub.channels_publish] at hopen
    have hf := hfollows hopen
    obtain ⟨next, hflying, hsent⟩ := hin hopen
    have hsent' : (s.hub.publish p j e).1.sent c = s.hub.sent c := by
      rw [Hub.sent, Hub.channels_publish, Hub.sent]
    rw [flyingTo_publish, hsent']
    by_cases hj : j = k
    · subst hj
      rw [OneAtATime, Act.publishedFor, if_pos rfl] at hone
      have hnone := hone (List.cons_ne_nil e [])
      -- what was published before has been sent
      cases next with
      | some e' =>
        rw [hnone] at hflying
        exact absurd hflying.symm (mt (Multiset.coe_eq_zero _).1 (List.cons_ne_nil e' []))
      | none =>
        refine ⟨some e, ?_, ?_⟩
        · rw [hf.subscribed, hnone, add_zero]
          rfl
        · rw [Act.publishedFor, if_pos rfl, ← hsent, Option.toList_none, List.append_nil]
          rfl
    · refine ⟨next, ?_, ?_⟩
      · rw [List.count_eq_zero.2 (hf.elsewhere j hj), Multiset.replicate_zero, zero_add, hflying]
      · rw [Act.publishedFor, if_neg hj, List.append_nil, hsent]
  | @send d e flying hfl =>
    intro hopen
    rw [Hub.isOpen_send] at hopen
    obtain ⟨next, hflying, hsent⟩ := hin hopen
    rw [flyingTo_of_cons (s.hub.send d e) hfl] at hflying
    rw [Act.publishedFor, List.append_nil, Hub.sent_send]
    by_cases hd : d = c
    · subst hd
      rw [if_pos rfl] at hflying
      rw [if_pos ⟨rfl, hopen⟩]
      cases next with
      | none =>
        rw [Multiset.singleton_add] at hflying
        exact absurd hflying Multiset.cons_ne_zero
      | some e' =>
        rw [Option.toList_some, Multiset.coe_singleton, Multiset.singleton_add] at hflying
        obtain ⟨rfl, hzero⟩ := (Multiset.singleton_eq_cons_iff _).1 hflying.symm
        exact ⟨none, hzero, by simpa using hsent⟩
    · rw [if_neg hd, zero_add] at hflying
      rw [if_neg fun h => hd h.1.symm]
      exact ⟨next, hflying, hsent⟩
  | @subscribe j d hfresh =>
    have hne : c ≠ d := by
      rintro rfl
      rw [hfresh] at hsome
      cases hsome
    intro hopen
    rw [Act.publishedFor, List.append_nil, Hub.sent_subscribe, if_neg hne]
    exact hin (by simpa [Hub.isOpen_subscribe, hne] using hopen)
  | receive hrecv =>
    intro hopen
    rw [Act.publishedFor, List.append_nil, Hub.sent_receive hrecv]
    exact hin (by rwa [Hub.isOpen_receive hrecv] at hopen)
  | @close d =>
    intro hopen
    rw [Hub.isOpen_close, Bool.and_eq_true_iff, decide_eq_true_iff] at hopen
    rw [Act.publishedFor, List.append_nil, Hub.sent_close_of_ne hopen.2]
    exact hin hopen.1
  | cleanup =>
    intro hopen
    rw [Act.publishedFor, List.append_nil, Hub.sent, Hub.channels_cleanup]
    exact hin (by rwa [Hub.isOpen, Hub.channels_cleanup] at hopen)
  | skip =>
    rw [Act.publishedFor, List.append_nil]
    exact hin

/-- What a feed has kept is sent at once. -/
theorem InOrder.of_subscribe (hw : Wired p s) (h : Step p s (.subscribe k c) s') :
    InOrder c (s.hub.seen k) s' := by
  cases h with
  | subscribe hfresh =>
    refine fun _ => ⟨none, hw.flyingTo_eq_zero hfresh, ?_⟩
    rw [Hub.sent_subscribe, if_pos rfl, Option.toList_none, List.append_nil]

/-- Events that are published one at a time arrive in the order in which they are published. -/
theorem Run.in_order {as : List (Act K E C)}
    (hrun : Run (Guarded (Step p) (OneAtATime k c)) s as s') (ho : Owed p k c l s)
    (hin : InOrder c l s) : InOrder c (l ++ published k as) s' := by
  induction hrun generalizing l with
  | nil => simpa [published] using hin
  | cons hstep _ ih =>
    have h := ih (ho.step hstep.1) (hin.step hstep.1 hstep.2 ho)
    rwa [List.append_assoc] at h

/-! ## Feeds inside a larger system -/

section Within
variable {S A : Type*} {step : S → A → S → Prop} {f : S → System K E C} {g : A → Act K E C}
  {guard : System K E C → Act K E C → Prop} {t t' : S} {as : List A}

/-- A system whose steps are steps of feeds takes runs of feeds. -/
theorem Run.within (hrun : Run step t as t')
    (h : ∀ {t a t'}, step t a t' → Step p (f t) (g a) (f t')) :
    Run (Step p) (f t) (as.map g) (f t') := by
  induction hrun with
  | nil => exact .nil
  | cons hstep _ ih => exact .cons (h hstep) ih

/-- The same for runs whose steps meet a guard. -/
theorem Run.within_guarded (hrun : Run (Guarded step fun t a => guard (f t) (g a)) t as t')
    (h : ∀ {t a t'}, step t a t' → Step p (f t) (g a) (f t')) :
    Run (Guarded (Step p) guard) (f t) (as.map g) (f t') := by
  induction hrun with
  | nil => exact .nil
  | cons hstep _ ih => exact .cons ⟨h hstep.1, hstep.2⟩ ih

end Within

end Broadcast
