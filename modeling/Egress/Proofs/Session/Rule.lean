import Egress.Proofs.Session.Course

/-!
# Reasoning about calls

`Assures I Q p l t v`: when the exchanges `l` were made, the transport is `t` and what is published
is `v`, a call of which `p` is left keeps `I` whenever it publishes and ends with `Q`, whatever the
router replies and the directories are. This is what holds of everything the call can make
(`assures_published`, `assures_ended`), and it is computed request by request; operations on the
router enter with their traces (`assures_onRouter`).
-/

set_option autoImplicit false

namespace Egress.Session

open SessionAccess

variable {α β : Type}

/-- What a call assures (module doc). -/
def Assures (I : List (Exchange SessionAccess) → Channel TunnelState → Prop)
    (Q : List (Exchange SessionAccess) → Transport → Channel TunnelState → α → Prop) :
    Procedure SessionAccess α → List (Exchange SessionAccess) → Transport →
      Channel TunnelState → Prop
  | .done a, l, t, v => Q l t v a
  | .ask .acquire k, l, t, v => Assures I Q (k t) (l ++ [⟨.acquire, t⟩]) t v
  | .ask (.release t') k, l, _, v => Assures I Q (k ()) (l ++ [⟨.release t', ()⟩]) t' v
  | .ask (.directory vendor) k, l, t, v => ∀ d : Option Directory,
    (∀ x, d = some x → x.root.Distinct) → Assures I Q (k d) (l ++ [⟨.directory vendor, d⟩]) t v
  | .ask (.publish change) k, l, t, v =>
    I (l ++ [⟨.publish change, ()⟩]) (v.modify change) ∧
      Assures I Q (k ()) (l ++ [⟨.publish change, ()⟩]) t (v.modify change)
  | .ask .snapshot k, l, t, v => Assures I Q (k v.value) (l ++ [⟨.snapshot, v.value⟩]) t v
  | .ask (.router q) k, l, t, v => ∀ r, Assures I Q (k r) (l ++ [⟨.router q, r⟩]) t v

section
variable {I : List (Exchange SessionAccess) → Channel TunnelState → Prop}
  {Q : List (Exchange SessionAccess) → Transport → Channel TunnelState → α → Prop}

/-- A step of the call keeps what it assures, and publishes only what `I` holds of. -/
theorem Assures.step {q : SessionAccess.Request} {k : SessionAccess.Reply q →
    Procedure SessionAccess α} {l : List (Exchange SessionAccess)} {s s' : Session}
    {r : SessionAccess.Reply q} (h : Assures I Q (.ask q k) l s.transport s.published)
    (ha : s.Answers q r s') :
    Assures I Q (k r) (l ++ [⟨q, r⟩]) s'.transport s'.published ∧
      ∀ change, q = .publish change → I (l ++ [⟨q, r⟩]) s'.published := by
  cases q with
  | acquire =>
    obtain ⟨rfl, ht, hv⟩ := ha.acquire
    rw [ht, hv]
    exact ⟨h, fun _ hq => nomatch hq⟩
  | release t =>
    obtain ⟨ht, hv⟩ := ha.release
    rw [ht, hv]
    exact ⟨h, fun _ hq => nomatch hq⟩
  | directory vendor =>
    obtain ⟨hd, ht, hv⟩ := ha.directory
    rw [ht, hv]
    exact ⟨h r hd, fun _ hq => nomatch hq⟩
  | publish change =>
    obtain ⟨ht, hv⟩ := ha.publish
    rw [ht, hv]
    exact ⟨h.2, fun _ _ => h.1⟩
  | snapshot =>
    obtain ⟨rfl, ht, hv⟩ := ha.snapshot
    rw [ht, hv]
    exact ⟨h, fun _ hq => nomatch hq⟩
  | router q =>
    obtain ⟨ht, hv⟩ := ha.router
    rw [ht, hv]
    exact ⟨h r, fun _ hq => nomatch hq⟩

/-- Whatever exchanges a call has made, it still assures what it did before. -/
theorem Assures.makes {p p' : Procedure SessionAccess α} {l l' : List (Exchange SessionAccess)}
    {s s' : Session} (h : Assures I Q p l s.transport s.published) (hm : s.Makes p l' s' p') :
    Assures I Q p' (l ++ l') s'.transport s'.published := by
  induction hm generalizing l with
  | nothing s p => simpa using h
  | ask ha _ ih => simpa using ih (h.step ha).1

theorem assures_ended {p : Procedure SessionAccess α} {l : List (Exchange SessionAccess)}
    {s s' : Session} {a : α} (h : Assures I Q p [] s.transport s.published)
    (hm : s.Makes p l s' (.done a)) : Q l s'.transport s'.published a :=
  h.makes hm

theorem assures_published {p p' : Procedure SessionAccess α}
    {l : List (Exchange SessionAccess)} {change : TunnelState → TunnelState} {s s' : Session}
    (h : Assures I Q p [] s.transport s.published)
    (hm : s.Makes p (l ++ [⟨.publish change, ()⟩]) s' p') :
    I (l ++ [⟨.publish change, ()⟩]) s'.published := by
  obtain ⟨s₁, p₁, h₁, h₂⟩ := makes_append.1 hm
  have ha := h.makes h₁
  cases h₂ with
  | ask hs hn =>
    obtain ⟨rfl, rfl⟩ := makes_nil hn
    exact (ha.step hs).2 change rfl

theorem assures_bind {p : Procedure SessionAccess β} {f : β → Procedure SessionAccess α}
    {l : List (Exchange SessionAccess)} {t : Transport} {v : Channel TunnelState} :
    Assures I Q (p >>= f) l t v ↔ Assures I (fun l t v b => Assures I Q (f b) l t v) p l t v := by
  induction p generalizing l t v with
  | done b => rfl
  | ask q k ih =>
    rw [Procedure.ask_bind]
    cases q <;> simp only [Assures, ih]

/-- An operation on the router publishes nothing; what counts are its traces. -/
theorem assures_onRouter {p : Procedure Router α} {l : List (Exchange SessionAccess)}
    {t : Transport} {v : Channel TunnelState} :
    Assures I Q (onRouter p) l t v ↔ ∀ e a, p.Ends e a → Q (l ++ e.map lift) t v a := by
  induction p generalizing l with
  | done a =>
    rw [onRouter_done]
    constructor
    · intro h e b he
      obtain ⟨rfl, rfl⟩ := Procedure.ends_done.1 he
      rw [List.map_nil, List.append_nil]
      exact h
    · intro h
      have := h [] a (.done a)
      rwa [List.map_nil, List.append_nil] at this
  | ask q k ih =>
    rw [onRouter_ask]
    constructor
    · intro h e a he
      obtain ⟨r, e', rfl, he'⟩ := Procedure.ends_ask.1 he
      have := (ih r).1 (h r) e' a he'
      rwa [List.append_assoc] at this
    · intro h (r : Router.Reply q)
      refine (ih r).2 fun e a he => ?_
      have := h (⟨q, r⟩ :: e) a (Procedure.ends_ask.2 ⟨r, e, rfl, he⟩)
      rwa [List.map_cons, List.append_cons] at this

section
variable {f : Option Directory → Procedure SessionAccess α} {g : Unit → Procedure SessionAccess α}
  {l : List (Exchange SessionAccess)} {t : Transport} {v : Channel TunnelState}

theorem assures_directory_bind {vendor : String} :
    Assures I Q (directory vendor >>= f) l t v ↔ ∀ d : Option Directory,
      (∀ x, d = some x → x.root.Distinct) → Assures I Q (f d) (l ++ [⟨.directory vendor, d⟩]) t v :=
  Iff.rfl

theorem assures_publish_bind {change : TunnelState → TunnelState} :
    Assures I Q (publish change >>= g) l t v ↔
      I (l ++ [⟨.publish change, ()⟩]) (v.modify change) ∧
        Assures I Q (g ()) (l ++ [⟨.publish change, ()⟩]) t (v.modify change) :=
  Iff.rfl

theorem assures_note_bind {level : Level} {text : String} :
    Assures I Q (note level text >>= g) l t v ↔
      Assures I Q (g ()) (l ++ [lift ⟨.note ⟨level, .session, text⟩, ()⟩]) t v :=
  ⟨fun h => h (), fun h _ => h⟩

/-- The body of a call has the transport to itself until it gives it back. -/
theorem assures_exclusive {body : Transport → Procedure SessionAccess (Transport × α)} :
    Assures I Q (exclusive body) [] t v ↔
      Assures I (fun l _ v x => Q (l ++ [⟨.release x.1, ()⟩]) x.1 v x.2) (body t)
        [⟨.acquire, t⟩] t v := by
  show Assures I Q (body t >>= fun x => release x.1 >>= fun _ => pure x.2) [⟨.acquire, t⟩] t v ↔ _
  exact assures_bind

end

end

end Egress.Session
