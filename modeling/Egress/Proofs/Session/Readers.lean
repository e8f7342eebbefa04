import Egress.Broadcast
import Egress.Connectivity
import Egress.Proofs.Following

/-!
# The publisher of the tunnel's state and its readers

`b.After h`: the broadcast `b` is what the history `h` of a publisher and any number of readers has
led to, from its first state on. Whoever looks at the state sees the first one with all changes
applied in order, and looking accounts for nothing; a reader is told of a change exactly when there
was one that it has not accounted for, also when the publisher is gone by then, and is told of the
end only when there is none.
-/

set_option autoImplicit false

namespace Egress

namespace Broadcast

/-- What the publisher of a state and its readers can do. -/
inductive Event where
  /-- The publisher changes the state. -/
  | updated (f : TunnelState → TunnelState)
  /-- The publisher changes the connectivity alone. -/
  | connected (c : Connectivity)
  /-- The publisher makes another reader. -/
  | joined
  /-- A reader is copied. -/
  | copied (k : Nat)
  /-- The publisher looks at the state. -/
  | shown
  /-- A reader looks at the state. -/
  | shownTo (k : Nat)
  /-- A reader asks for a change and is told what is new. -/
  | polled (k : Nat) (news : News)
  /-- A reader goes away. -/
  | left (k : Nat)
  /-- The publisher goes away. -/
  | dropped

namespace Event

/-- The change of the state in an event. -/
def change? : Event → Option (TunnelState → TunnelState)
  | updated f => some f
  | connected c => some (·.setConnectivity c)
  | _ => none

/-- Whether an event changes the state. -/
def changes (e : Event) : Bool :=
  e.change?.isSome

/-- What an event does to the readers. -/
def attention : Event → Attention Unit
  | joined => .beginsNow ()
  | copied k => .copies k
  | polled k news => news.attention k
  | _ => .unmoved

end Event

/-- The readers at the end of a history, the first being there from the beginning. -/
def readersAfter (h : List Event) : List (Follower Unit Event) :=
  followers Event.attention [⟨(), []⟩] h

/-- The first state with all changes of a history applied in order. -/
def stateAfter : List Event → TunnelState
  | [] => {}
  | e :: h => match e.change? with
    | some f => f (stateAfter h)
    | none => stateAfter h

/-- What a publisher and its readers have led to (module doc). A reader that went away does nothing
any more, nor does the publisher. -/
inductive After : List Event → Broadcast TunnelState → Prop
  | start : After [] (.start {})
  | updated {h : List Event} {b b' : Broadcast TunnelState} (f : TunnelState → TunnelState) :
      After h b → b.update? f = some b' → After (.updated f :: h) b'
  | connected {h : List Event} {b b' : Broadcast TunnelState} (c : Connectivity) :
      After h b → b.update? (·.setConnectivity c) = some b' → After (.connected c :: h) b'
  | joined {h : List Event} {b b' : Broadcast TunnelState} :
      After h b → b.join? = some b' → After (.joined :: h) b'
  | copied {h : List Event} {b b' : Broadcast TunnelState} {k : Nat} :
      After h b → .left k ∉ h → b.copy? k = some b' → After (.copied k :: h) b'
  | shown {h : List Event} {b : Broadcast TunnelState} :
      After h b → .dropped ∉ h → After (.shown :: h) b
  | shownTo {h : List Event} {b : Broadcast TunnelState} {k : Nat} :
      After h b → .left k ∉ h → After (.shownTo k :: h) b
  | polled {h : List Event} {b b' : Broadcast TunnelState} {k : Nat} {news : News} :
      After h b → .left k ∉ h → b.poll? k = some (news, b') → After (.polled k news :: h) b'
  | left {h : List Event} {b : Broadcast TunnelState} {k : Nat} :
      After h b → .left k ∉ h → After (.left k :: h) b
  | dropped {h : List Event} {b : Broadcast TunnelState} :
      After h b → .dropped ∉ h → After (.dropped :: h) b.close

/-! ## One event -/

section
variable {α : Type} {b b' : Broadcast α} {k : Nat} {news : News}

theorem update?_eq_some_iff {f : α → α} : b.update? f = some b' ↔
    b.channel.closed = false ∧ { b with channel := b.channel.modify f } = b' := by
  cases hc : b.channel.closed <;> simp [update?, hc]

theorem join?_eq_some_iff : b.join? = some b' ↔
    b.channel.closed = false ∧ b.add b.channel.subscribe = b' := by
  cases hc : b.channel.closed <;> simp [join?, hc]

theorem copy?_eq_some_iff : b.copy? k = some b' ↔
    ∃ s, b.readers[k]? = some s ∧ b.add s = b' :=
  Option.map_eq_some_iff

theorem poll?_eq_some_iff : b.poll? k = some (news, b') ↔
    ∃ s, b.readers[k]? = some s ∧ (b.channel.poll s).1 = news ∧
      { b with readers := b.readers.set k (b.channel.poll s).2 } = b' := by
  rw [poll?, Option.map_eq_some_iff]
  simp only [Prod.mk.injEq]

end

/-! ## The state and the readers after a history -/

/-- The readers' subscriptions, each to the one thing there is. -/
def subscriptions {α : Type} (b : Broadcast α) : List (Unit × Subscription) :=
  b.readers.map (Prod.mk ())

/-- What the broadcast holds after a history. -/
structure Follows (h : List Event) (b : Broadcast TunnelState) : Prop where
  value : b.channel.value = stateAfter h
  version : b.channel.version = h.countP Event.changes
  closed : b.channel.closed = true ↔ .dropped ∈ h
  readers : List.Forall₂ (Agree (fun _ => Event.changes) h) b.subscriptions (readersAfter h)

section
variable {h : List Event} {b b' : Broadcast TunnelState} {e : Event}

/-- The readers after an event, if they are subscribed as it says. -/
theorem Follows.next_readers (hb : b.Follows h)
    (hs : b'.subscriptions =
      e.attention.subscribe (fun _ => (e :: h).countP Event.changes) b.subscriptions) :
    List.Forall₂ (Agree (fun _ => Event.changes) (e :: h)) b'.subscriptions
      (readersAfter (e :: h)) := by
  rw [hs]
  exact agree_follow hb.readers e e.attention

/-- A change of the state is counted, and no reader has accounted for it. -/
theorem Follows.modify (hb : b.Follows h) {f : TunnelState → TunnelState}
    (hf : e.change? = some f) (ha : e.attention = .unmoved) (hd : e ≠ .dropped) :
    Follows (e :: h) { b with channel := b.channel.modify f } where
  value := by
    rw [stateAfter, hf]
    exact congrArg f hb.value
  version := by
    have hchanges : e.changes = true := by rw [Event.changes, hf]; rfl
    rw [List.countP_cons_of_pos hchanges]
    exact congrArg (· + 1) hb.version
  closed := by
    rw [List.mem_cons, or_iff_right hd.symm]
    exact hb.closed
  readers := hb.next_readers (by rw [ha]; rfl)

/-- What changes no state and leaves the channel as it is. -/
theorem Follows.quiet (hb : b.Follows h) (hf : e.change? = none) (hd : e ≠ .dropped)
    (hc : b'.channel = b.channel)
    (hs : b'.subscriptions =
      e.attention.subscribe (fun _ => b.channel.version) b.subscriptions) :
    Follows (e :: h) b' := by
  have hcount : (e :: h).countP Event.changes = b.channel.version := by
    rw [List.countP_cons_of_neg (by simp [Event.changes, hf]), hb.version]
  constructor
  · rw [hc, stateAfter, hf]
    exact hb.value
  · rw [hc, hcount]
  · rw [hc, List.mem_cons, or_iff_right hd.symm]
    exact hb.closed
  · refine hb.next_readers ?_
    rw [hcount]
    exact hs

theorem Follows.close (hb : b.Follows h) : Follows (.dropped :: h) b.close where
  value := hb.value
  version := hb.version
  closed := by simp [Broadcast.close, Channel.close]
  readers := hb.next_readers rfl

theorem subscriptions_add (s : Subscription) :
    (b.add s).subscriptions = b.subscriptions ++ [((), s)] :=
  List.map_append

theorem subscriptions_getElem? {k : Nat} {s : Subscription} (hs : b.readers[k]? = some s) :
    b.subscriptions[k]? = some ((), s) := by
  rw [subscriptions, List.getElem?_map, hs, Option.map_some]

theorem After.follows (hb : After h b) : b.Follows h := by
  induction hb with
  | start => exact ⟨rfl, rfl, by simp [Broadcast.start], .cons ⟨rfl, rfl⟩ .nil⟩
  | updated f _ hupdate ih =>
    obtain ⟨-, rfl⟩ := update?_eq_some_iff.1 hupdate
    exact ih.modify rfl rfl (by simp)
  | connected c _ hupdate ih =>
    obtain ⟨-, rfl⟩ := update?_eq_some_iff.1 hupdate
    exact ih.modify rfl rfl (by simp)
  | joined _ hjoin ih =>
    obtain ⟨-, rfl⟩ := join?_eq_some_iff.1 hjoin
    exact ih.quiet rfl (by simp) rfl (subscriptions_add _)
  | copied _ _ hcopy ih =>
    obtain ⟨s, hs, rfl⟩ := copy?_eq_some_iff.1 hcopy
    refine ih.quiet rfl (by simp) rfl ?_
    rw [subscriptions_add, Event.attention, Attention.subscribe, subscriptions_getElem? hs]
    rfl
  | shown _ _ ih => exact ih.quiet rfl (by simp) rfl rfl
  | shownTo _ _ ih => exact ih.quiet rfl (by simp) rfl rfl
  | polled _ _ hpoll ih =>
    obtain ⟨s, hs, rfl, rfl⟩ := poll?_eq_some_iff.1 hpoll
    refine ih.quiet rfl (by simp) rfl ?_
    rw [Event.attention, ← set_poll (subscriptions_getElem? hs) _ rfl]
    exact List.map_set
  | left _ _ ih => exact ih.quiet rfl (by simp) rfl rfl
  | dropped _ _ ih => exact ih.close

end

/-- Whatever a publisher and its readers do: who looks at the state sees the first one with all
changes so far applied in order; as long as the publisher is there it can change the state and make
readers; and every reader that asks is told of a change if and only if there was one that it has not
accounted for, else of the end if the publisher is gone, and else has to wait. -/
theorem readers_informed {h : List Event} {b : Broadcast TunnelState} (hb : After h b) :
    b.channel.value = stateAfter h ∧
    (.dropped ∉ h → b.snapshot? = some (stateAfter h) ∧ b.join?.isSome = true ∧
      ∀ f, (b.update? f).isSome = true) ∧
    b.readers.length = (readersAfter h).length ∧
    ∀ k reader, (readersAfter h)[k]? = some reader → (b.copy? k).isSome = true ∧
      ∃ news b', b.poll? k = some (news, b') ∧
        (news = .changed ↔ ∃ e ∈ reader.missed, e.changes = true) ∧
        (news = .closed ↔ .dropped ∈ h ∧ ¬∃ e ∈ reader.missed, e.changes = true) ∧
        (news = .pending ↔ .dropped ∉ h ∧ ¬∃ e ∈ reader.missed, e.changes = true) := by
  have hf := hb.follows
  refine ⟨hf.value, fun hd => ?_, ?_, fun k reader hk => ?_⟩
  · have hopen : b.channel.closed = false := by rwa [← hf.closed, Bool.not_eq_true] at hd
    simp [snapshot?, join?, update?, hopen, hf.value]
  · simpa [subscriptions] using hf.readers.length_eq
  · have hrel := forall₂_getElem? hf.readers k
    rw [hk] at hrel
    generalize hs : b.subscriptions[k]? = s at hrel
    cases hrel with
    | some hagree =>
      obtain ⟨s, hread, rfl⟩ := Option.map_eq_some_iff.1 ((List.getElem?_map ..).symm.trans hs)
      obtain ⟨hchanged, hclosed, hpending⟩ := hagree.poll_iff hf.version
      refine ⟨by rw [copy?, hread]; rfl, _, _, poll?_eq_some_iff.2 ⟨s, hread, rfl, rfl⟩, hchanged,
        ?_, ?_⟩
      · rw [hclosed, hf.closed]
      · rw [hpending, ← hf.closed, Bool.not_eq_true]

/-- The first reader is copied and goes away; then the state is changed with only the copy to read
it, a reader is made, and the publisher goes away. -/
def sampleHistory : List Event :=
  [.dropped, .joined, .connected .up, .left 0, .copied 0]

/-- What that leads to. -/
def sampleBroadcast : Broadcast TunnelState where
  channel := { value := ({} : TunnelState).setConnectivity .up, version := 1, closed := true }
  readers := [⟨0⟩, ⟨0⟩, ⟨1⟩]

theorem readers_informed_sample :
    After sampleHistory sampleBroadcast ∧
    sampleBroadcast.channel.value = ({} : TunnelState).setConnectivity .up ∧
    (∃ b, sampleBroadcast.poll? 1 = some (.changed, b)) ∧
    ∃ b, sampleBroadcast.poll? 2 = some (.closed, b) := by
  have hcopied : After [.copied 0] { Broadcast.start {} with readers := [⟨0⟩, ⟨0⟩] } :=
    .copied .start List.not_mem_nil rfl
  have hleft : After [.left 0, .copied 0] { Broadcast.start {} with readers := [⟨0⟩, ⟨0⟩] } :=
    .left hcopied (by simp)
  have hafter : After sampleHistory sampleBroadcast :=
    .dropped (.joined (.connected .up hleft rfl) rfl) (by simp)
  obtain ⟨hvalue, -, -, hreaders⟩ := readers_informed hafter
  obtain ⟨-, news, b, hcopy, hchanged, -⟩ := hreaders 1 _ rfl
  obtain ⟨-, news', b', hnew, -, hclosed, -⟩ := hreaders 2 _ rfl
  obtain rfl := hchanged.2 ⟨.connected .up, by simp [Follower.miss], rfl⟩
  obtain rfl := hclosed.2 ⟨by simp [sampleHistory], by simp [Follower.miss, Event.changes,
    Event.change?]⟩
  exact ⟨hafter, hvalue, ⟨b, hcopy⟩, b', hnew⟩

end Broadcast

end Egress
