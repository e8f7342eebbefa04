import Mathlib.Data.List.Forall2
import Egress.Channel

/-!
# Following

What those who follow something have not accounted for, seen in two ways. From outside it is a
matter of the events that happened: `followers attention start h` lists everyone who follows, in the
order in which they came, with the events that each has missed since it last accounted for
everything. A subscription only has a number, how many of the events that matter had happened by
then. `Agree` says that the number is the right one; events keep it (`agree_follow`), and then a poll
tells of a change exactly when an event that matters was missed (`Agree.poll_iff`). Histories have
the newest event first.
-/

set_option autoImplicit false

namespace Egress

variable {τ ε : Type}

/-- What an event does to those who follow. -/
inductive Attention (τ : Type) where
  /-- Nobody comes, and nobody accounts for anything. -/
  | unmoved
  /-- Someone begins to follow who counts from the first event. -/
  | beginsAtStart (topic : τ)
  /-- Someone begins to follow who has accounted for everything so far. -/
  | beginsNow (topic : τ)
  /-- Someone begins to follow who has accounted for what another one has. -/
  | copies (k : Nat)
  /-- One of those who follow accounts for everything so far. -/
  | accounts (k : Nat)

/-- Who learns of a change accounts for everything so far. -/
def News.attention (k : Nat) : News → Attention τ
  | .changed => .accounts k
  | .pending | .closed => .unmoved

/-! ## What was missed -/

/-- Someone who follows a topic. -/
structure Follower (τ ε : Type) where
  topic : τ
  /-- The events since everything was accounted for, the newest first. -/
  missed : List ε

/-- The follower after an event. -/
def Follower.miss (e : ε) (f : Follower τ ε) : Follower τ ε :=
  { f with missed := e :: f.missed }

/-- The follower with everything accounted for. -/
def Follower.account (f : Follower τ ε) : Follower τ ε :=
  { f with missed := [] }

/-- Those who follow at the end of a history, after what its last event does to them. -/
def Attention.follow (h : List ε) : Attention τ → List (Follower τ ε) → List (Follower τ ε)
  | unmoved, fs => fs
  | beginsAtStart t, fs => fs ++ [⟨t, h⟩]
  | beginsNow t, fs => fs ++ [⟨t, []⟩]
  | copies k, fs => fs ++ fs[k]?.toList
  | accounts k, fs => fs.modify k .account

/-- Those who follow at the end of a history; `start` were there from the beginning. -/
def followers (attention : ε → Attention τ) (start : List (Follower τ ε)) :
    List ε → List (Follower τ ε)
  | [] => start
  | e :: h =>
    (attention e).follow (e :: h) ((followers attention start h).map (.miss e))

/-! ## What subscriptions count -/

/-- The subscriptions after what an event does to them, where there have been `version t` events
that matter to the topic `t`. -/
def Attention.subscribe (version : τ → Nat) :
    Attention τ → List (τ × Subscription) → List (τ × Subscription)
  | unmoved, ss => ss
  | beginsAtStart t, ss => ss ++ [(t, ⟨0⟩)]
  | beginsNow t, ss => ss ++ [(t, ⟨version t⟩)]
  | copies k, ss => ss ++ ss[k]?.toList
  | accounts k, ss => ss.modify k fun s => (s.1, ⟨version s.1⟩)

/-- A subscription stands for a follower: with the events that matter and were missed, it counts all
that matter. -/
structure Agree (matters : τ → ε → Bool) (h : List ε) (s : τ × Subscription)
    (f : Follower τ ε) : Prop where
  topic : s.1 = f.topic
  seen : s.2.seen + f.missed.countP (matters s.1) = h.countP (matters s.1)

section
variable {α β : Type} {R : α → β → Prop} {l : List α} {l' : List β}

theorem forall₂_getElem? (h : List.Forall₂ R l l') (k : Nat) : Option.Rel R l[k]? l'[k]? := by
  induction h generalizing k with
  | nil => exact .none
  | cons hab _ ih =>
    cases k with
    | zero => exact .some hab
    | succ k => exact ih k

theorem forall₂_toList_getElem? (h : List.Forall₂ R l l') (k : Nat) :
    List.Forall₂ R l[k]?.toList l'[k]?.toList := by
  have hk := forall₂_getElem? h k
  generalize l[k]? = a, l'[k]? = b at hk ⊢
  cases hk with
  | none => exact .nil
  | some hab => exact .cons hab .nil

theorem forall₂_modify {f : α → α} {g : β → β} (hfg : ∀ a b, R a b → R (f a) (g b))
    (h : List.Forall₂ R l l') (k : Nat) : List.Forall₂ R (l.modify k f) (l'.modify k g) := by
  induction h generalizing k with
  | nil => simp
  | cons hab h ih =>
    cases k with
    | zero => exact .cons (hfg _ _ hab) h
    | succ k => exact .cons hab (ih k)

end

section
variable {matters : τ → ε → Bool} {h : List ε} {s : τ × Subscription} {f : Follower τ ε}

theorem Agree.miss (e : ε) (hs : Agree matters h s f) : Agree matters (e :: h) s (f.miss e) := by
  refine ⟨hs.topic, ?_⟩
  rw [Follower.miss, List.countP_cons, List.countP_cons, ← hs.seen, Nat.add_assoc]

theorem Agree.account (hs : Agree matters h s f) :
    Agree matters h (s.1, ⟨h.countP (matters s.1)⟩) f.account :=
  ⟨hs.topic, rfl⟩

theorem agree_atStart (t : τ) : Agree matters h (t, ⟨0⟩) ⟨t, h⟩ :=
  ⟨rfl, Nat.zero_add _⟩

theorem agree_now (t : τ) : Agree matters h (t, ⟨h.countP (matters t)⟩) ⟨t, []⟩ :=
  ⟨rfl, rfl⟩

/-- Whatever an event does, subscriptions keep standing for those who follow. -/
theorem agree_follow {ss : List (τ × Subscription)} {fs : List (Follower τ ε)}
    (hs : List.Forall₂ (Agree matters h) ss fs) (e : ε) (a : Attention τ) :
    List.Forall₂ (Agree matters (e :: h))
      (a.subscribe (fun t => (e :: h).countP (matters t)) ss)
      (a.follow (e :: h) (fs.map (.miss e))) := by
  have hmiss : List.Forall₂ (Agree matters (e :: h)) ss (fs.map (.miss e)) :=
    List.forall₂_map_right_iff.2 (hs.imp fun _ _ => Agree.miss e)
  cases a with
  | unmoved => exact hmiss
  | beginsAtStart t => exact List.rel_append hmiss (.cons (agree_atStart t) .nil)
  | beginsNow t => exact List.rel_append hmiss (.cons (agree_now t) .nil)
  | copies k => exact List.rel_append hmiss (forall₂_toList_getElem? hmiss k)
  | accounts k => exact forall₂_modify (fun _ _ => Agree.account) hmiss k

/-- Some event that matters was missed if and only if the number of them has grown. -/
theorem Agree.seen_lt_iff (hs : Agree matters h s f) :
    s.2.seen < h.countP (matters s.1) ↔ ∃ e ∈ f.missed, matters s.1 e = true := by
  rw [← List.countP_pos_iff, ← hs.seen]
  omega

end

/-! ## Polls -/

section
variable {α : Type} {c : Channel α} {s : Subscription}

theorem poll_of_lt (h : s.seen < c.version) : c.poll s = (.changed, ⟨c.version⟩) :=
  if_pos h

theorem poll_of_not_lt (h : ¬s.seen < c.version) :
    c.poll s = (if c.closed then .closed else .pending, s) := by
  rw [Channel.poll, if_neg h]
  split <;> rfl

theorem set_of_getElem? {β : Type} {l : List β} {k : Nat} {b : β} (h : l[k]? = some b) :
    l.set k b = l := by
  obtain ⟨hk, rfl⟩ := List.getElem?_eq_some_iff.1 h
  exact List.set_getElem_self hk

/-- A poll changes the subscriptions as its news say. -/
theorem set_poll {ss : List (τ × Subscription)} {k : Nat} {t : τ} (hk : ss[k]? = some (t, s))
    (version : τ → Nat) (hv : c.version = version t) :
    ss.set k (t, (c.poll s).2) = ((c.poll s).1.attention k).subscribe version ss := by
  by_cases h : s.seen < c.version
  · rw [poll_of_lt h, hv, News.attention, Attention.subscribe, List.modify_eq_set_getElem?, hk]
    rfl
  · rw [poll_of_not_lt h, set_of_getElem? hk]
    split <;> rfl

/-- What a poll tells a subscription that stands for a follower. -/
theorem Agree.poll_iff {matters : τ → ε → Bool} {h : List ε} {t : τ} {f : Follower τ ε}
    (hs : Agree matters h (t, s) f) (hv : c.version = h.countP (matters t)) :
    ((c.poll s).1 = .changed ↔ ∃ e ∈ f.missed, matters t e = true) ∧
    ((c.poll s).1 = .closed ↔ c.closed = true ∧ ¬∃ e ∈ f.missed, matters t e = true) ∧
    ((c.poll s).1 = .pending ↔ c.closed = false ∧ ¬∃ e ∈ f.missed, matters t e = true) := by
  rw [← hs.seen_lt_iff, ← hv]
  by_cases h : s.seen < c.version
  · simp [poll_of_lt h, h]
  · cases hc : c.closed <;> simp [poll_of_not_lt h, h, hc]

end

end Egress
