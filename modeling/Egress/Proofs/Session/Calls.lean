import Egress.Proofs.Session.Rule

/-!
# What the calls do

One relation for each call says which exchanges it can make, and which transport, published state
and result it then leaves: `Selected`, `Checked`, `StatusRefreshed`; `Call.Did` joins them. Beside
them stand relations for calls that have just published something and may not be at their end,
joined as `Call.Published`. They hold of everything the calls can make (`Makes.did`,
`Makes.published`); later modules read them and no procedure.
-/

set_option autoImplicit false

namespace Egress

namespace Session

open SessionAccess Procedure

/-! ## Bringing the tunnel up -/

/-- Bringing the tunnel up for `s` made these exchanges, and left this transport, published state
and result. -/
inductive BroughtUp (s : Selection) (t : Transport) (v : Channel TunnelState) :
    List (Exchange SessionAccess) → Transport → Channel TunnelState →
      Except SelectError TunnelState → Prop
  | restartFailed {e : List (Exchange Router)} {t' : Transport} {err : RestartError} (n : Note) :
      Transport.Restarted t (Router.effects e) (t', .error err) →
      BroughtUp s t v
        (e.map lift ++ [⟨.publish (·.setConnectivity t'.lastProbe), ()⟩, lift ⟨.note n, ()⟩]) t'
        (v.modify (·.setConnectivity t'.lastProbe)) (.error (.restart err))
  | statusFailed {e e' : List (Exchange Router)} {t' : Transport} {err : TransportError} :
      Transport.Restarted t (Router.effects e) (t', .ok ()) →
      Transport.StatusRead t' (Router.effects e') (.error err) →
      BroughtUp s t v (e.map lift ++ e'.map lift) t' v (.error (.status err))
  | up {e e' : List (Exchange Router)} {t' : Transport} {text : String} :
      Transport.Restarted t (Router.effects e) (t', .ok ()) →
      Transport.StatusRead t' (Router.effects e') (.ok text) →
      BroughtUp s t v
        (e.map lift ++ e'.map lift ++
          [⟨.publish (.broughtUp s text), ()⟩, ⟨.snapshot, v.value.broughtUp s text⟩]) t'
        (v.modify (.broughtUp s text)) (.ok (v.value.broughtUp s text))

/-- Bringing the tunnel up for `s` made these exchanges, and has just published this. -/
inductive BringUpPublished (s : Selection) (t : Transport) (v : Channel TunnelState) :
    List (Exchange SessionAccess) → Channel TunnelState → Prop
  | restartFailed {e : List (Exchange Router)} {t' : Transport} {err : RestartError} :
      Transport.Restarted t (Router.effects e) (t', .error err) →
      BringUpPublished s t v (e.map lift ++ [⟨.publish (·.setConnectivity t'.lastProbe), ()⟩])
        (v.modify (·.setConnectivity t'.lastProbe))
  | up {e e' : List (Exchange Router)} {t' : Transport} {text : String} :
      Transport.Restarted t (Router.effects e) (t', .ok ()) →
      Transport.StatusRead t' (Router.effects e') (.ok text) →
      BringUpPublished s t v
        (e.map lift ++ e'.map lift ++ [⟨.publish (.broughtUp s text), ()⟩])
        (v.modify (.broughtUp s text))

section
variable {I : List (Exchange SessionAccess) → Channel TunnelState → Prop}

theorem assures_bringUp {Q : List (Exchange SessionAccess) → Transport → Channel TunnelState →
      Transport × Except SelectError TunnelState → Prop}
    {s : Selection} {t t₀ : Transport} {v : Channel TunnelState}
    {l : List (Exchange SessionAccess)}
    (hI : ∀ l' v', BringUpPublished s t v l' v' → I (l ++ l') v')
    (hQ : ∀ l' t' v' r, BroughtUp s t v l' t' v' r → Q (l ++ l') t₀ v' (t', r)) :
    Assures I Q (bringUp t s) l t₀ v := by
  refine assures_bind.2 (assures_onRouter.2 fun e ⟨t', restarted⟩ he => ?_)
  have hr := Transport.restart_ends he
  cases restarted with
  | error err =>
    refine ⟨?_, ?_⟩
    · rw [List.append_assoc]
      exact hI _ _ (.restartFailed hr)
    · intro _
      show Q (l ++ e.map lift ++ [_] ++ [_]) t₀ _ _
      rw [List.append_assoc, List.append_assoc]
      exact hQ _ _ _ _ (.restartFailed _ hr)
  | ok u =>
    refine assures_bind.2 (assures_onRouter.2 fun e' status he' => ?_)
    have hs := Transport.status_ends he'
    rw [List.append_assoc]
    cases status with
    | error err => exact hQ _ _ _ _ (.statusFailed hr hs)
    | ok text =>
      refine ⟨?_, ?_⟩
      · rw [List.append_assoc]
        exact hI _ _ (.up hr hs)
      · show Q (l ++ (e.map lift ++ e'.map lift) ++ [_] ++ [_]) t₀ _ _
        rw [List.append_assoc, List.append_assoc]
        exact hQ _ _ _ _ (.up hr hs)

end

/-! ## The calls -/

/-- What a selection announces. -/
def selecting (vendor exit : String) (path : List String) : Note :=
  ⟨.info, .session,
    "Selecting " ++ vendor ++ " exit " ++ exit ++ " (" ++ "/".intercalate path ++ ")"⟩

/-- `exit` was found in the directory of `vendor`, at `path`, and the configuration for it was
pushed with this result; these are the exchanges from the beginning of the call. -/
inductive Pointed (vendor exit : String) (t : Transport) (path : List String) :
    List (Exchange SessionAccess) → Except TransportError Unit → Prop
  | pushed {d : Directory} {e : List (Exchange Router)} {r : Except TransportError Unit} :
      d.root.Distinct → d.find? exit = some path → Transport.Pushed t vendor exit e r →
      Pointed vendor exit t path
        (⟨.acquire, t⟩ :: ⟨.directory vendor, some d⟩ ::
          lift ⟨.note (selecting vendor exit path), ()⟩ :: e.map lift) r

/-- A call of `select` made these exchanges, and left this transport, published state and
result. -/
inductive Selected (vendor exit : String) (t : Transport) (v : Channel TunnelState) :
    List (Exchange SessionAccess) → Transport → Channel TunnelState →
      Except SelectError TunnelState → Prop
  | unknownVendor :
      Selected vendor exit t v
        [⟨.acquire, t⟩, ⟨.directory vendor, none⟩, ⟨.release t, ()⟩] t v
        (.error (.unknownVendor vendor))
  | exitNotFound {d : Directory} : d.find? exit = none →
      Selected vendor exit t v
        [⟨.acquire, t⟩, ⟨.directory vendor, some d⟩, ⟨.release t, ()⟩] t v
        (.error (.exitNotFound vendor exit))
  | pushFailed {path : List String} {l : List (Exchange SessionAccess)} {e : TransportError} :
      Pointed vendor exit t path l (.error e) →
      Selected vendor exit t v (l ++ [⟨.release t, ()⟩]) t v (.error (.push e))
  | pushed {path : List String} {l l' : List (Exchange SessionAccess)} {t' : Transport}
      {v' : Channel TunnelState} {r : Except SelectError TunnelState} :
      Pointed vendor exit t path l (.ok ()) →
      BroughtUp ⟨vendor, exit, path⟩ (t.select vendor exit path)
        (v.modify (·.setConnectivity .down)) l' t' v' r →
      Selected vendor exit t v
        (l ++ ⟨.publish (·.setConnectivity .down), ()⟩ :: (l' ++ [⟨.release t', ()⟩])) t' v' r

/-- A call of `select` made these exchanges, and has just published this. -/
inductive SelectPublished (vendor exit : String) (t : Transport) (v : Channel TunnelState) :
    List (Exchange SessionAccess) → Channel TunnelState → Prop
  | down {path : List String} {l : List (Exchange SessionAccess)} :
      Pointed vendor exit t path l (.ok ()) →
      SelectPublished vendor exit t v (l ++ [⟨.publish (·.setConnectivity .down), ()⟩])
        (v.modify (·.setConnectivity .down))
  | later {path : List String} {l l' : List (Exchange SessionAccess)} {v' : Channel TunnelState} :
      Pointed vendor exit t path l (.ok ()) →
      BringUpPublished ⟨vendor, exit, path⟩ (t.select vendor exit path)
        (v.modify (·.setConnectivity .down)) l' v' →
      SelectPublished vendor exit t v
        (l ++ ⟨.publish (·.setConnectivity .down), ()⟩ :: l') v'

/-- A call of `check` made these exchanges, and left this published state and result. -/
inductive Checked (t : Transport) (v : Channel TunnelState) :
    List (Exchange SessionAccess) → Channel TunnelState → Connectivity → Prop
  | published {e : List (Exchange Router)} {c : Connectivity} :
      Transport.Probed t (Router.effects e) c →
      Checked t v
        (⟨.acquire, t⟩ :: (e.map lift ++ [⟨.publish (·.setConnectivity c), ()⟩,
          ⟨.release t, ()⟩]))
        (v.modify (·.setConnectivity c)) c

/-- A call of `check` made these exchanges, and has just published this. -/
inductive CheckPublished (t : Transport) (v : Channel TunnelState) :
    List (Exchange SessionAccess) → Channel TunnelState → Prop
  | published {e : List (Exchange Router)} {c : Connectivity} :
      Transport.Probed t (Router.effects e) c →
      CheckPublished t v (⟨.acquire, t⟩ :: (e.map lift ++ [⟨.publish (·.setConnectivity c), ()⟩]))
        (v.modify (·.setConnectivity c))

/-- A call of `refreshStatus` made these exchanges, and left this published state and result. -/
inductive StatusRefreshed (t : Transport) (v : Channel TunnelState) :
    List (Exchange SessionAccess) → Channel TunnelState → Except TransportError String → Prop
  | failed {e : List (Exchange Router)} {err : TransportError} :
      Transport.StatusRead t (Router.effects e) (.error err) →
      StatusRefreshed t v (⟨.acquire, t⟩ :: (e.map lift ++ [⟨.release t, ()⟩])) v (.error err)
  | published {e : List (Exchange Router)} {text : String} :
      Transport.StatusRead t (Router.effects e) (.ok text) →
      StatusRefreshed t v
        (⟨.acquire, t⟩ :: (e.map lift ++ [⟨.publish (.withStatus text), ()⟩, ⟨.release t, ()⟩]))
        (v.modify (.withStatus text)) (.ok text)

/-- A call of `refreshStatus` made these exchanges, and has just published this. -/
inductive StatusPublished (t : Transport) (v : Channel TunnelState) :
    List (Exchange SessionAccess) → Channel TunnelState → Prop
  | published {e : List (Exchange Router)} {text : String} :
      Transport.StatusRead t (Router.effects e) (.ok text) →
      StatusPublished t v (⟨.acquire, t⟩ :: (e.map lift ++ [⟨.publish (.withStatus text), ()⟩]))
        (v.modify (.withStatus text))

end Session

open Session

/-- A call made these exchanges, and left this transport, published state and result. -/
def Call.Did (t : Transport) (v : Channel TunnelState) : (c : Call) →
    List (Exchange SessionAccess) → Transport → Channel TunnelState → c.Result → Prop
  | select vendor exit, l, t', v', r => Selected vendor exit t v l t' v' r
  | check, l, t', v', r => t' = t ∧ Checked t v l v' r
  | refreshStatus, l, t', v', r => t' = t ∧ StatusRefreshed t v l v' r

/-- A call made these exchanges, and has just published this. -/
def Call.Published (t : Transport) (v : Channel TunnelState) : Call →
    List (Exchange SessionAccess) → Channel TunnelState → Prop
  | select vendor exit, l, v' => SelectPublished vendor exit t v l v'
  | check, l, v' => CheckPublished t v l v'
  | refreshStatus, l, v' => StatusPublished t v l v'

namespace Session

open SessionAccess

section
variable {t : Transport} {v : Channel TunnelState}

theorem assures_select (vendor exit : String) :
    Assures (SelectPublished vendor exit t v) (Selected vendor exit t v) (select vendor exit) []
      t v := by
  refine assures_exclusive.2 (assures_directory_bind.2 fun d hd => ?_)
  cases d with
  | none => exact .unknownVendor
  | some d =>
    cases hpath : d.find? exit with
    | none =>
      simp only [hpath]
      exact .exitNotFound hpath
    | some path =>
      simp only [hpath]
      refine assures_note_bind.2 (assures_bind.2 (assures_onRouter.2 fun e r he => ?_))
      have hp := Pointed.pushed (hd d rfl) hpath (Transport.push_ends he)
      cases r with
      | error err => exact .pushFailed hp
      | ok u =>
        refine assures_publish_bind.2 ⟨.down hp, assures_bringUp (fun l' v' h => ?_)
          fun l' t' v' r h => ?_⟩
        · rw [← List.append_cons]
          exact .later hp h
        · rw [← List.append_cons, List.append_assoc]
          exact .pushed hp h

theorem assures_check :
    Assures (CheckPublished t v) (fun l t' v' c => t' = t ∧ Checked t v l v' c) check [] t v := by
  refine assures_exclusive.2 (assures_bind.2 (assures_onRouter.2 fun e c he => ?_))
  have hp := Transport.probe_ends he
  refine assures_publish_bind.2 ⟨.published hp, rfl, ?_⟩
  have := Checked.published hp (v := v)
  simpa using this

theorem assures_refreshStatus :
    Assures (StatusPublished t v) (fun l t' v' r => t' = t ∧ StatusRefreshed t v l v' r)
      refreshStatus [] t v := by
  refine assures_exclusive.2 (assures_bind.2 (assures_onRouter.2 fun e r he => ?_))
  have hs := Transport.status_ends he
  cases r with
  | error err => exact ⟨rfl, .failed hs⟩
  | ok text =>
    refine assures_publish_bind.2 ⟨.published hs, rfl, ?_⟩
    have := StatusRefreshed.published hs (v := v)
    simpa using this

end

theorem assures_call (c : Call) (t : Transport) (v : Channel TunnelState) :
    Assures (c.Published t v) (c.Did t v) c.procedure [] t v := by
  cases c with
  | select vendor exit => exact assures_select vendor exit
  | check => exact assures_check
  | refreshStatus => exact assures_refreshStatus

/-- What a call did, when it has ended. -/
theorem Makes.did {c : Call} {s s' : Session} {l : List (Exchange SessionAccess)} {r : c.Result}
    (h : s.Makes c.procedure l s' (.done r)) :
    c.Did s.transport s.published l s'.transport s'.published r :=
  assures_ended (assures_call c s.transport s.published) h

/-- What a call has published, just after it did. -/
theorem Makes.published {c : Call} {s s' : Session} {l : List (Exchange SessionAccess)}
    {change : TunnelState → TunnelState} {p : Procedure SessionAccess c.Result}
    (h : s.Makes c.procedure (l ++ [⟨.publish change, ()⟩]) s' p) :
    c.Published s.transport s.published (l ++ [⟨.publish change, ()⟩]) s'.published :=
  assures_published (assures_call c s.transport s.published) h

end Session

end Egress
