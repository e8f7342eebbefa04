import Egress.Proofs.Session.Evidence

/-!
# What the published state remembers

Apart from the connectivity and its label, a session's published state is a function of the calls
that were made (`TunnelState.Recorded`): vendor, exit and path are those of the last selection that
succeeded, and the status text is what the status command gave last in a call that succeeded and
runs it. Calls that fail, and health checks, are not remembered.
-/

set_option autoImplicit false

namespace Egress

/-- The directory of `vendor` was looked at, and `exit` found in it at `path`, where it is. -/
def SessionAccess.Found (vendor exit : String) (path : List String)
    (l : List (Exchange SessionAccess)) : Prop :=
  ∃ d : Directory, ⟨.directory vendor, some d⟩ ∈ l ∧ d.find? exit = some path ∧
    d.root.LeadsTo path exit

theorem SessionAccess.Found.append {vendor exit : String} {path : List String}
    {l : List (Exchange SessionAccess)} (h : Found vendor exit path l)
    (l' : List (Exchange SessionAccess)) : Found vendor exit path (l ++ l') := by
  obtain ⟨d, hd, hpath⟩ := h
  exact ⟨d, List.mem_append_left _ hd, hpath⟩

namespace Performed

/-- The call is a selection that succeeded. -/
def selected : Performed → Bool
  | ⟨.select _ _, _, x⟩ => x.isOk
  | _ => false

/-- The call runs the status command and succeeded. -/
def readStatus : Performed → Bool
  | ⟨.select _ _, _, x⟩ => x.isOk
  | ⟨.refreshStatus, _, x⟩ => x.isOk
  | ⟨.check, _, _⟩ => false

/-- The call is a selection that succeeded, and found the exit at `path`. -/
def Chose (p : Performed) (vendor exit : String) (path : List String) : Prop :=
  ∃ l s, p = ⟨.select vendor exit, l, .ok s⟩ ∧ SessionAccess.Found vendor exit path l

end Performed

namespace TunnelState

/-- Vendor, exit, path and status text of a published state are those that the calls left
(module doc). -/
structure Recorded (r : RouterSettings) (h : List Performed) (s : TunnelState) : Prop where
  selection : match latest Performed.selected h with
    | none => s.vendor = none ∧ s.exit = none ∧ s.path = []
    | some p => ∃ vendor exit, p.Chose vendor exit s.path ∧
      s.vendor = some vendor ∧ s.exit = some exit
  statusText : match latest Performed.readStatus h with
    | none => s.statusText = ""
    | some p => ∃ command, CommandOf r.statusCommand command ∧
      latest Effect.isStatus p.effects = some (.run .status command (.ok s.statusText))

/-- At most the connectivity and its label are different. -/
def SameApart (s s' : TunnelState) : Prop :=
  s' = { s with connectivity := s'.connectivity, label := s'.label }

theorem Recorded.congr {r : RouterSettings} {h : List Performed} {s s' : TunnelState}
    (hs : s.Recorded r h) (h' : s.SameApart s') : s'.Recorded r h := by
  rw [h']
  exact ⟨hs.selection, hs.statusText⟩

theorem Recorded.append_other {r : RouterSettings} {h : List Performed} {s : TunnelState}
    {p : Performed} (hs : s.Recorded r h) (h₁ : p.selected = false) (h₂ : p.readStatus = false) :
    s.Recorded r (h ++ [p]) := by
  constructor
  · rw [latest_append_of_neg (by simpa using h₁)]
    exact hs.selection
  · rw [latest_append_of_neg (by simpa using h₂)]
    exact hs.statusText

end TunnelState

namespace Session

open SessionAccess

/-! ## One call -/

section
variable {t t' : Transport} {v v' : Channel TunnelState} {l : List (Exchange SessionAccess)}
  {vendor exit : String} {path : List String} {r : RouterSettings}

theorem Pointed.found {x : Except TransportError Unit} (h : Pointed vendor exit t path l x) :
    Found vendor exit path l := by
  cases h with
  | @pushed d e r hd hpath _ =>
    exact ⟨d, by simp, hpath, Node.find?_walk exit d.root hd hpath⟩

theorem selected_error_sameApart {e : SelectError}
    (h : Selected vendor exit t v l t' v' (.error e)) : v.value.SameApart v'.value := by
  cases h with
  | unknownVendor => rfl
  | exitNotFound => rfl
  | pushFailed => rfl
  | pushed _ hb =>
    cases hb with
    | restartFailed => rfl
    | statusFailed => rfl

theorem checked_sameApart {c : Connectivity} (h : Checked t v l v' c) :
    v.value.SameApart v'.value := by
  cases h
  rfl

/-- The status command that is run after a restart is the one of the transport before it. -/
theorem statusRead_after {es es' : List Effect} {text : String}
    (hr : Transport.Restarted t es (t', .ok ())) (hs : Transport.StatusRead t' es' (.ok text)) :
    ∃ command, CommandOf t.router.statusCommand command ∧
      es' = [.run .status command (.ok text)] := by
  obtain ⟨command, hc, he⟩ := Transport.statusRead_ok hs
  have hrouter : t'.router = t.router := Transport.restarted_router hr
  exact ⟨command, hrouter ▸ Transport.commandOf hc, he⟩

/-- What a selection that succeeded leaves. -/
theorem selected_ok {s : TunnelState} (h : Selected vendor exit t v l t' v' (.ok s)) :
    v'.value = s ∧ ∃ path text, s = v.value.broughtUp ⟨vendor, exit, path⟩ text ∧
      Found vendor exit path l ∧ ∃ es command, CommandOf t.router.statusCommand command ∧
        effects l = es ++ [.run .status command (.ok text)] := by
  cases h with
  | @pushed path _ _ _ _ _ hp hb =>
    cases hb with
    | @up _ _ _ text hr hs =>
      obtain ⟨command, hc, he⟩ := statusRead_after hr hs
      refine ⟨rfl, path, text, rfl, hp.found.append _, ?_⟩
      simp only [effects_append, effects_publish, effects_map_lift, effects_snapshot,
        effects_release, effects_nil, List.append_nil, he]
      rw [← List.append_assoc]
      exact ⟨_, command, hc, rfl⟩

theorem statusRefreshed_error {e : TransportError} (h : StatusRefreshed t v l v' (.error e)) :
    v' = v := by
  cases h
  rfl

theorem statusRefreshed_ok {text : String} (h : StatusRefreshed t v l v' (.ok text)) :
    v'.value = v.value.withStatus text ∧ ∃ command, CommandOf t.router.statusCommand command ∧
      effects l = [.run .status command (.ok text)] := by
  cases h with
  | published hs =>
    obtain ⟨command, hc, he⟩ := Transport.statusRead_ok hs
    exact ⟨rfl, command, Transport.commandOf hc, by simpa using he⟩

/-- What a selection leaves when it succeeds, whatever was before. -/
theorem recorded_broughtUp {h : List Performed} {s s' : TunnelState} {text : String}
    (hfound : Found vendor exit path l)
    (he : ∃ es command, CommandOf r.statusCommand command ∧
      effects l = es ++ [.run .status command (.ok text)]) :
    (s.broughtUp ⟨vendor, exit, path⟩ text).Recorded r
      (h ++ [⟨.select vendor exit, l, .ok s'⟩]) := by
  constructor
  · rw [latest_of_pos rfl]
    exact ⟨vendor, exit, ⟨l, s', rfl, hfound⟩, rfl, rfl⟩
  · obtain ⟨es, command, hc, he⟩ := he
    rw [latest_of_pos rfl]
    refine ⟨command, hc, ?_⟩
    rw [Performed.effects, he]
    exact latest_of_pos rfl

theorem recorded_withStatus {h : List Performed} {s : TunnelState} {text : String}
    (hs : s.Recorded r h) (he : ∃ command, CommandOf r.statusCommand command ∧
      effects l = [.run .status command (.ok text)]) :
    (s.withStatus text).Recorded r (h ++ [⟨.refreshStatus, l, .ok text⟩]) := by
  constructor
  · rw [latest_append_of_neg (by simp [Performed.selected])]
    exact hs.selection
  · obtain ⟨command, hc, he⟩ := he
    rw [latest_of_pos rfl]
    refine ⟨command, hc, ?_⟩
    rw [Performed.effects, he]
    rfl

/-- After a call, what is published is what the calls left, if it was before. -/
theorem did_recorded {h : List Performed} {c : Call} {x : c.Result} (ht : t.router = r)
    (hv : v.value.Recorded r h) (hd : c.Did t v l t' v' x) :
    v'.value.Recorded r (h ++ [⟨c, l, x⟩]) := by
  subst ht
  cases c with
  | select vendor exit =>
    cases x with
    | error e => exact (hv.append_other rfl rfl).congr (selected_error_sameApart hd)
    | ok s =>
      obtain ⟨hs, path, text, rfl, hfound, he⟩ := selected_ok hd
      rw [hs]
      exact recorded_broughtUp hfound he
  | check => exact (hv.append_other rfl rfl).congr (checked_sameApart hd.2)
  | refreshStatus =>
    cases x with
    | error e =>
      rw [statusRefreshed_error hd.2]
      exact hv.append_other rfl rfl
    | ok text =>
      obtain ⟨hs, he⟩ := statusRefreshed_ok hd.2
      rw [hs]
      exact recorded_withStatus hv he

/-- What a call publishes is what the calls before it left, or they and this one when it
succeeds. -/
theorem published_recorded {h : List Performed} {c : Call} (ht : t.router = r)
    (hv : v.value.Recorded r h) (hd : c.Published t v l v') :
    v'.value.Recorded r h ∨ ∃ x : c.Result, (⟨c, l, x⟩ : Performed).readStatus = true ∧
      v'.value.Recorded r (h ++ [⟨c, l, x⟩]) := by
  subst ht
  cases c with
  | select vendor exit =>
    cases hd with
    | down => exact .inl (hv.congr rfl)
    | @later path _ _ _ hp hb =>
      cases hb with
      | restartFailed => exact .inl (hv.congr rfl)
      | @up _ _ _ text hr hs =>
        obtain ⟨command, hc, he⟩ := statusRead_after hr hs
        refine .inr ⟨.ok (v.value.broughtUp ⟨vendor, exit, path⟩ text), rfl,
          recorded_broughtUp (hp.found.append _) ?_⟩
        simp only [effects_append, effects_publish, effects_map_lift, effects_nil,
          List.append_nil, he]
        rw [← List.append_assoc]
        exact ⟨_, command, hc, rfl⟩
  | check =>
    cases hd
    exact .inl (hv.congr rfl)
  | refreshStatus =>
    cases hd with
    | published hs =>
      obtain ⟨command, hc, he⟩ := Transport.statusRead_ok hs
      exact .inr ⟨.ok _, rfl,
        recorded_withStatus hv ⟨command, Transport.commandOf hc, by simpa using he⟩⟩

end

/-! ## Courses -/

section
variable {registry : Registry} {r : RouterSettings} {templates : List (String × String)}
  {h : List Performed} {s : Session}

theorem serves_recorded (hs : (fresh registry r templates).Serves h s) :
    s.published.value.Recorded r h := by
  induction hs with
  | start => exact ⟨⟨rfl, rfl, rfl⟩, rfl⟩
  | call c hs hm ih => exact did_recorded (serves_trusted hs).router ih hm.did

/-- After any calls, what is published is what they left; so is all that a further call publishes,
where the call counts as soon as it publishes its success. Selections that fail and health checks
change no more than the connectivity, and a selection that succeeds returns what is published. -/
theorem published_remembers (hs : (fresh registry r templates).Serves h s) :
    s.published.value.Recorded r h ∧
    (∀ (c : Call) (l : List (Exchange SessionAccess)) (change : TunnelState → TunnelState)
        (s' : Session) (p : Procedure SessionAccess c.Result),
      s.Makes c.procedure (l ++ [⟨.publish change, ()⟩]) s' p →
      s'.published.value.Recorded r h ∨ ∃ x : c.Result,
        (⟨c, l ++ [⟨.publish change, ()⟩], x⟩ : Performed).readStatus = true ∧
          s'.published.value.Recorded r (h ++ [⟨c, l ++ [⟨.publish change, ()⟩], x⟩])) ∧
    (∀ (vendor exit : String) (l : List (Exchange SessionAccess)) (s' : Session) (e : SelectError),
      s.Makes (select vendor exit) l s' (.done (.error e)) →
      s.published.value.SameApart s'.published.value) ∧
    (∀ (l : List (Exchange SessionAccess)) (s' : Session) (x : Connectivity),
      s.Makes check l s' (.done x) → s.published.value.SameApart s'.published.value) ∧
    ∀ (vendor exit : String) (l : List (Exchange SessionAccess)) (s' : Session) (x : TunnelState),
      s.Makes (select vendor exit) l s' (.done (.ok x)) → s'.published.value = x := by
  refine ⟨serves_recorded hs, fun c l change s' p hm => ?_, fun vendor exit l s' e hm => ?_,
    fun l s' x hm => ?_, fun vendor exit l s' x hm => ?_⟩
  · exact published_recorded (serves_trusted hs).router (serves_recorded hs) hm.published
  · have hm' : s.Makes (Call.select vendor exit).procedure l s' (.done (.error e)) := hm
    exact selected_error_sameApart hm'.did
  · have hm' : s.Makes Call.check.procedure l s' (.done x) := hm
    exact checked_sameApart hm'.did.2
  · have hm' : s.Makes (Call.select vendor exit).procedure l s' (.done (.ok x)) := hm
    exact (selected_ok hm'.did).1

/-- A selection that worked and another that did not. -/
theorem published_remembers_sample :
    ∃ h s, Sample.session.Serves h s ∧ s.published.value.exit = some "a" ∧
      s.published.value.Recorded Sample.settings h := by
  have h₁ := Sample.serves_after .start rfl [] (.select "acme" "a")
  have h₂ := Sample.serves_after h₁ (Sample.registry_after ..) ["start b"] (.select "acme" "b")
  have hexit : (Sample.after ["start b"] (.select "acme" "b")
      (Sample.after [] (.select "acme" "a") Sample.session)).published.value.exit = some "a" := by
    decide +kernel
  exact ⟨_, _, h₂, hexit, (published_remembers h₂).1⟩

end

end Session

end Egress
