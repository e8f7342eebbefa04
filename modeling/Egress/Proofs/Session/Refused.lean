import Egress.Proofs.Session.Evidence

/-!
# Selections that are refused

A selection is refused when it fails before a configuration was installed: the vendor or the exit is
not known, or the configuration could not be pushed (`SelectError.refuses`). A refused selection
changes nothing: each of its exchanges keeps the transport and what is published
(`Selected.keeps`), the only effect it can have on the router is an install that failed
(`Selected.refused_effects`), and calls made later cannot tell that it was made.
-/

set_option autoImplicit false

namespace Egress

/-- Whether a selection failed before a configuration was installed. -/
def SelectError.refuses : SelectError → Bool
  | unknownVendor _ | exitNotFound .. | push _ => true
  | restart _ | status _ => false

namespace SessionAccess

/-- An exchange keeps what is published, and the transport `t`. -/
def Keeps (t : Transport) : Exchange SessionAccess → Prop
  | ⟨.release t', _⟩ => t' = t
  | ⟨.publish _, _⟩ => False
  | _ => True

theorem keeps_lift (t : Transport) (x : Exchange Router) : Keeps t (lift x) :=
  trivial

theorem Keeps.not_publish {t : Transport} {x : Exchange SessionAccess} (h : Keeps t x)
    (change : TunnelState → TunnelState) : x.request ≠ .publish change := by
  obtain ⟨q, r⟩ := x
  rintro rfl
  exact h

end SessionAccess

namespace Transport

/-- A push that fails has done nothing to the router, or an install that failed. -/
theorem pushed_error_effects {t : Transport} {vendor exit : String} {l : List (Exchange Router)}
    {e : TransportError} (h : Pushed t vendor exit l (.error e)) :
    Router.effects l = [] ∨ ∃ content,
      Router.effects l = [.install content t.router.configFile t.router.configMode (.error e)] := by
  cases h with
  | missing => exact .inl rfl
  | unread => exact .inl rfl
  | unrendered => exact .inl rfl
  | unstaged => exact .inl rfl
  | installed => exact .inr ⟨_, rfl⟩

end Transport

namespace Session

open SessionAccess

/-! ## Exchanges that change nothing -/

theorem Answers.agrees {s s' : Session} {q : SessionAccess.Request} {r : SessionAccess.Reply q}
    (h : s.Answers q r s') (hk : Keeps s.transport ⟨q, r⟩) : s.Agrees s' := by
  cases q with
  | acquire => exact ⟨h.acquire.2.1, h.acquire.2.2⟩
  | release t => exact ⟨h.release.1.trans hk, h.release.2⟩
  | directory vendor => exact ⟨h.directory.2.1, h.directory.2.2⟩
  | publish change => exact hk.elim
  | snapshot => exact ⟨h.snapshot.2.1, h.snapshot.2.2⟩
  | router q => exact ⟨h.router.1, h.router.2⟩

theorem Makes.agrees {α : Type} {s s' : Session} {p p' : Procedure SessionAccess α}
    {l : List (Exchange SessionAccess)} (h : s.Makes p l s' p')
    (hl : ∀ x ∈ l, Keeps s.transport x) : s.Agrees s' := by
  induction h with
  | nothing s p => exact .refl s
  | ask ha _ ih =>
    have h₁ := ha.agrees (hl _ (List.mem_cons_self ..))
    refine h₁.trans (ih fun x hx => ?_)
    rw [h₁.transport_eq]
    exact hl x (List.mem_cons_of_mem _ hx)

/-! ## A refused selection -/

section
variable {vendor exit : String} {t t' : Transport} {v v' : Channel TunnelState}
  {l : List (Exchange SessionAccess)}

theorem Pointed.keeps {path : List String} {r : Except TransportError Unit}
    (h : Pointed vendor exit t path l r) : ∀ x ∈ l, Keeps t x := by
  cases h with
  | pushed _ _ _ =>
    intro x hx
    simp only [List.mem_cons, List.mem_map] at hx
    rcases hx with rfl | rfl | rfl | ⟨y, -, rfl⟩
    · trivial
    · trivial
    · exact keeps_lift t _
    · exact keeps_lift t y

theorem BroughtUp.not_refuses {s : Selection} {e : SelectError}
    (h : BroughtUp s t v l t' v' (.error e)) : e.refuses = false := by
  cases h with
  | restartFailed => rfl
  | statusFailed => rfl

section
variable {e : SelectError} (h : Selected vendor exit t v l t' v' (.error e))
  (he : e.refuses = true)
include h he

theorem Selected.keeps : ∀ x ∈ l, Keeps t x := by
  cases h with
  | unknownVendor => simp [Keeps]
  | exitNotFound => simp [Keeps]
  | pushFailed hp =>
    intro x hx
    rcases List.mem_append.1 hx with hx | hx
    · exact hp.keeps x hx
    · obtain rfl := List.mem_singleton.1 hx
      exact rfl
  | pushed _ hb =>
    rw [hb.not_refuses] at he
    cases he

/-- A refused selection has done nothing to the router, or an install that failed. -/
theorem Selected.refused_effects :
    effects l = [] ∨ ∃ content reason, e = .push reason ∧
      effects l = [.install content t.router.configFile t.router.configMode (.error reason)] := by
  cases h with
  | unknownVendor => exact .inl rfl
  | exitNotFound => exact .inl rfl
  | @pushFailed path l reason hp =>
    obtain ⟨l', hpushed, heffects⟩ := effects_pointed hp
    rw [effects_append, effects_release, effects_nil, List.append_nil, heffects]
    rcases Transport.pushed_error_effects hpushed with hnone | ⟨content, hinstall⟩
    · exact .inl hnone
    · exact .inr ⟨content, reason, rfl, hinstall⟩
  | pushed _ hb =>
    rw [hb.not_refuses] at he
    cases he

end

end

/-- A refused selection leaves no trace in the session. From its first exchange to its last the
transport is the one it found and nothing is published, so no reader hears of anything; the router
was asked to run no command, and to install a configuration only when that is what failed. The calls
that can be made afterwards, with their exchanges and results, are those that could have been made
without it. -/
theorem select_refused {vendor exit : String} {s s' : Session}
    {l : List (Exchange SessionAccess)} {e : SelectError}
    (h : s.Makes (select vendor exit) l s' (.done (.error e))) (he : e.refuses = true) :
    (∀ l₁ l₂ s₁ p, l = l₁ ++ l₂ → s.Makes (select vendor exit) l₁ s₁ p →
      s₁.transport = s.transport ∧ s₁.published = s.published ∧
        ∀ x, s₁.published.poll x = s.published.poll x) ∧
    (∀ x ∈ l, ∀ change, x.request ≠ .publish change) ∧
    (effects l = [] ∨ ∃ content reason, e = .push reason ∧
      effects l = [.install content s.transport.router.configFile s.transport.router.configMode
        (.error reason)]) ∧
    ∀ p later u, s'.Serves (p :: later) u ↔ s.Serves (p :: later) u := by
  have hm : s.Makes (Call.select vendor exit).procedure l s' (.done (.error e)) := h
  have hd : Selected vendor exit s.transport s.published l s'.transport s'.published (.error e) :=
    hm.did
  have hkeeps := hd.keeps he
  have hagrees : s.Agrees s' := h.agrees hkeeps
  refine ⟨fun l₁ l₂ s₁ p hl h₁ => ?_, fun x hx => (hkeeps x hx).not_publish,
    hd.refused_effects he, fun p later u => ⟨fun hs => ?_, fun hs => ?_⟩⟩
  · have h₁ : s.Agrees s₁ := h₁.agrees fun x hx => hkeeps x (hl ▸ List.mem_append_left l₂ hx)
    exact ⟨h₁.transport_eq, h₁.published_eq, fun x => by rw [h₁.published_eq]⟩
  · exact (hagrees.symm.serves hs).resolve_left fun hnil => nomatch hnil.1
  · exact (hagrees.serves hs).resolve_left fun hnil => nomatch hnil.1

/-- A router that takes no files. -/
def Sample.jammed : (q : Router.Request) → StateM Unit (Router.Reply q)
  | .install .. => pure (.error .emptyCommand)
  | q => Sample.router [] q

/-- The session with a tunnel through the first exit. -/
def Sample.selected : Session :=
  Sample.after [] (.select "acme" "a") Sample.session

/-- The tunnel is up through one exit; then the configuration for another cannot be installed. -/
theorem select_refused_sample :
    ∃ l s' e, Sample.selected.Makes (select "acme" "b") l s' (.done (.error e)) ∧
      e.refuses = true ∧ effects l ≠ [] ∧ s'.transport.selection = some ⟨"acme", "a", []⟩ ∧
      s'.published.value.connectivity = .up := by
  have hdistinct : Sample.selected.registry.Distinct :=
    Sample.registry_after [] (.select "acme" "a") Sample.session ▸ Sample.distinct
  have hm := makes_call Sample.jammed (select "acme" "b") Sample.selected hdistinct ()
  have hfails : (match ((call Sample.jammed (select "acme" "b") Sample.selected).run ()).1.1 with
      | .ok _ => false
      | .error e => e.refuses) = true := by decide +kernel
  cases hx : ((call Sample.jammed (select "acme" "b") Sample.selected).run ()).1.1 with
  | ok x =>
    rw [hx] at hfails
    cases hfails
  | error e =>
    rw [hx] at hm hfails
    obtain ⟨ht, hv, -⟩ := (select_refused hm hfails).1 _ [] _ _ (List.append_nil _).symm hm
    refine ⟨_, _, e, hm, hfails, ?_, ?_, ?_⟩
    · exact List.ne_nil_of_length_pos (by decide +kernel)
    · rw [ht]
      decide +kernel
    · rw [hv]
      decide +kernel

end Session

end Egress
