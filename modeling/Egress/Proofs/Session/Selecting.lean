import Egress.Proofs.Router.Sequence
import Egress.Proofs.Session.Calls

/-!
# All that a selection does

A selection does nothing to the router unless its configuration is `Installable`: the session knows
the vendor and its directory has the exit, and the router lets the vendor's template be read and its
content be staged. Then it carries out the sequence of a selection up to the first failure, for the
selection it is making and not for an earlier one, and succeeds if and only if nothing in the
sequence fails (`selected_sequence`).
-/

set_option autoImplicit false

namespace Egress.Session

open SessionAccess Handler

/-- All that comes before a configuration is installed goes well for a selection on `s`, with a
router in the state `w`: the exit is in the directory of the vendor, and once the selection was
announced, the vendor's template can be read, rendered and its content staged. -/
structure Installable {σ : Type} (router : (q : Router.Request) → StateM σ (Router.Reply q))
    (s : Session) (w : σ) (vendor exit : String) (path : List String) (content : String) :
    Prop where
  found : ∃ d, s.registry.get? vendor = some d ∧ d.find? exit = some path
  prepared : ∃ file text staged, Keyed.get? vendor s.transport.templates = some file ∧
    reply router (.template file) (after router [.note (selecting vendor exit path)] w)
      = .ok text ∧
    Template.render (Transport.exitVariables vendor exit) text = .ok content ∧
    reply router (.stage s.transport.router.configFile content)
      (after router [.note (selecting vendor exit path), .template file] w) = .ok staged

section
variable {σ : Type} {router : (q : Router.Request) → StateM σ (Router.Reply q)} {s s' : Session}
  {w : σ} {vendor exit content content' : String} {t t' : Transport} {v v' : Channel TunnelState}
  {path path' : List String} {l l' : List (Exchange SessionAccess)}

theorem Installable.path_eq (h : Installable router s w vendor exit path content) {d : Directory}
    (hd : s.registry.get? vendor = some d) : d.find? exit = some path := by
  obtain ⟨d', hd', hpath⟩ := h.found
  obtain rfl : d' = d := Option.some.inj (hd'.symm.trans hd)
  exact hpath

theorem Installable.prepared_of (h : Installable router s w vendor exit path content)
    {file : String} (hfile : Keyed.get? vendor s.transport.templates = some file) :
    ∃ text staged, reply router (.template file)
        (after router [.note (selecting vendor exit path)] w) = .ok text ∧
      Template.render (Transport.exitVariables vendor exit) text = .ok content ∧
      reply router (.stage s.transport.router.configFile content)
        (after router [.note (selecting vendor exit path), .template file] w) = .ok staged := by
  obtain ⟨file', text, staged, hfile', h⟩ := h.prepared
  obtain rfl : file' = file := Option.some.inj (hfile'.symm.trans hfile)
  exact ⟨text, staged, h⟩

/-- There is one configuration at most that can be installed. -/
theorem Installable.unique (h : Installable router s w vendor exit path content)
    (h' : Installable router s w vendor exit path' content') :
    path' = path ∧ content' = content := by
  obtain ⟨d, hd, hpath⟩ := h.found
  obtain rfl : path' = path := Option.some.inj ((h'.path_eq hd).symm.trans hpath)
  obtain ⟨file, text, -, hfile, htext, hcontent, -⟩ := h.prepared
  obtain ⟨text', -, htext', hcontent', -⟩ := h'.prepared_of hfile
  obtain rfl : text' = text := Except.ok.inj (htext'.symm.trans htext)
  exact ⟨rfl, Except.ok.inj (hcontent'.symm.trans hcontent)⟩

/-- A configuration is pushed by installing it, or not at all if it cannot be installed. -/
theorem pointed_installable {x : Except TransportError Unit}
    (h : Pointed vendor exit s.transport path l x) (hf : Follows router (l ++ l') s w) :
    (∃ content, Installable router s w vendor exit path content ∧
      effects l
        = [.install content s.transport.router.configFile s.transport.router.configMode x]) ∨
    (effects l = [] ∧ x.isOk = false ∧
      ∀ path' content, ¬ Installable router s w vendor exit path' content) := by
  cases h with
  | @pushed d e x _ hpath hp =>
    obtain ⟨-, hd, -, hf⟩ := hf
    -- another path would have been announced with another note
    have hsame {path' : List String} {content : String}
        (hin : Installable router s w vendor exit path' content) : path' = path :=
      Option.some.inj ((hin.path_eq hd.symm).symm.trans hpath)
    cases hp with
    | missing hfile =>
      refine .inr ⟨rfl, rfl, fun path' content hin => ?_⟩
      obtain ⟨file, -, -, hfile', -⟩ := hin.prepared
      rw [hfile] at hfile'
      cases hfile'
    | unread fault hfile =>
      refine .inr ⟨rfl, rfl, fun path' content hin => ?_⟩
      obtain rfl := hsame hin
      obtain ⟨text, -, htext, -⟩ := hin.prepared_of hfile
      obtain ⟨hread, -⟩ := hf
      cases hread.trans htext
    | unrendered hfile he =>
      refine .inr ⟨rfl, rfl, fun path' content hin => ?_⟩
      obtain rfl := hsame hin
      obtain ⟨text, -, htext, hcontent, -⟩ := hin.prepared_of hfile
      obtain ⟨hread, -⟩ := hf
      obtain rfl : _ = text := Except.ok.inj (hread.trans htext)
      rw [he] at hcontent
      cases hcontent
    | unstaged fault hfile hcontent =>
      refine .inr ⟨rfl, rfl, fun path' content hin => ?_⟩
      obtain rfl := hsame hin
      obtain ⟨text, staged, htext, hcontent', hstaged⟩ := hin.prepared_of hfile
      obtain ⟨hread, hstage, -⟩ := hf
      obtain rfl : _ = text := Except.ok.inj (hread.trans htext)
      obtain rfl : content = _ := Except.ok.inj (hcontent'.symm.trans hcontent)
      cases hstage.trans hstaged
    | @installed file text content staged n x hfile hcontent =>
      obtain ⟨hread, hstage, -⟩ := hf
      exact .inl ⟨content, ⟨⟨d, hd.symm, hpath⟩, file, text, staged, hfile, hread.symm, hcontent,
        hstage.symm⟩, rfl⟩

/-- A restart that succeeds and the reading of the status after it are the commands of the
sequence. -/
theorem brought_sequence {s : Selection} {e e' : List (Exchange Router)}
    {x : Except TransportError String} (hr : Transport.Restarted t (Router.effects e) (t', .ok ()))
    (hstat : Transport.StatusRead t' (Router.effects e') x) (hs : t.selection = some s) :
    ∃ a : Replies, a.install = .ok () ∧ t.router.Polling s a.checks ∧
      Router.effects e ++ Router.effects e' =
        upToFailure (t.router.commandEffects s t.lastProbe a) ∧
      (x.isOk = true ↔ t.router.Succeeds s t.lastProbe a) := by
  have hframe := Transport.restarted_frame hr
  have hs' : t'.selection = some s := by rw [hframe]; exact hs
  have hrouter : t'.router = t.router := Transport.restarted_router hr
  obtain ⟨-, hup, -⟩ := Transport.restarted_ok rfl hr
  obtain ⟨stop, start, checks, hp, hends, h⟩ := Transport.restarted_ok_sequence hr hs
  obtain ⟨status, hstatus, hread⟩ := Transport.statusRead_sequence hstat hs' hup
  rw [hrouter] at hstatus hread
  obtain ⟨he, hok⟩ := h (.ok ()) status
  refine ⟨⟨.ok (), stop, start, checks, status⟩, rfl, hp, ?_, ?_⟩
  · rw [he, hread ⟨.ok (), stop, start, checks, status⟩ rfl hends]
  · rw [hok, hstatus]
    exact ⟨fun h => ⟨rfl, h⟩, fun h => h.2⟩

/-- Bringing the tunnel up carries out the commands of the sequence. -/
theorem broughtUp_sequence {s : Selection} {x : Except SelectError TunnelState}
    (h : BroughtUp s t v l t' v' x) (hs : t.selection = some s) :
    ∃ a : Replies, a.install = .ok () ∧ t.router.Polling s a.checks ∧
      effects l = upToFailure (t.router.commandEffects s t.lastProbe a) ∧
      (x.isOk = true ↔ t.router.Succeeds s t.lastProbe a) := by
  cases h with
  | restartFailed n hr =>
    obtain ⟨stop, start, checks, hp, h⟩ := Transport.restarted_error_sequence hr hs
    obtain ⟨he, hok⟩ := h (.ok ()) (.ok "")
    refine ⟨⟨.ok (), stop, start, checks, .ok ""⟩, rfl, hp, ?_, ⟨nofun, fun h => absurd h hok⟩⟩
    rw [← he, effects_append, effects_map_lift]
    exact List.append_nil _
  | @statusFailed e e' t' err hr hstat =>
    obtain ⟨a, hinstall, hp, he, hok⟩ := brought_sequence hr hstat hs
    refine ⟨a, hinstall, hp, ?_, hok⟩
    rw [← he, effects_append, effects_map_lift, effects_map_lift]
  | @up e e' t' text hr hstat =>
    obtain ⟨a, hinstall, hp, he, hok⟩ := brought_sequence hr hstat hs
    refine ⟨a, hinstall, hp, ?_, hok⟩
    rw [← he, effects_append, effects_append, effects_map_lift, effects_map_lift]
    exact List.append_nil _

/-- A selection does nothing to the router when its configuration cannot be installed, and then
fails; else it carries out its sequence up to the first failure, and succeeds if and only if there
is none. -/
theorem selected_sequence {x : Except SelectError TunnelState}
    (h : Selected vendor exit s.transport v l t' v' x) (hf : Follows router l s w) :
    (effects l = [] ∧ x.isOk = false ∧
      ∀ path content, ¬ Installable router s w vendor exit path content) ∨
    ∃ path content a, Installable router s w vendor exit path content ∧
      s.transport.router.Polling ⟨vendor, exit, path⟩ a.checks ∧
      effects l = upToFailure
        (s.transport.router.sequence ⟨vendor, exit, path⟩ s.transport.lastProbe content a) ∧
      (x.isOk = true ↔
        s.transport.router.Succeeds ⟨vendor, exit, path⟩ s.transport.lastProbe a) := by
  cases h with
  | unknownVendor =>
    obtain ⟨-, hd, -⟩ := hf
    refine .inl ⟨rfl, rfl, fun path content hin => ?_⟩
    obtain ⟨d, hd', -⟩ := hin.found
    cases hd.trans hd'
  | exitNotFound hnone =>
    obtain ⟨-, hd, -⟩ := hf
    refine .inl ⟨rfl, rfl, fun path content hin => ?_⟩
    have hpath := hin.path_eq hd.symm
    rw [hnone] at hpath
    cases hpath
  | @pushFailed path l e hp =>
    rcases pointed_installable hp hf with ⟨content, hin, he⟩ | ⟨he, -, hin⟩
    · obtain ⟨checks, hchecks⟩ :=
        RouterSettings.exists_polling s.transport.router ⟨vendor, exit, path⟩
      refine .inr ⟨path, content, ⟨.error e, .ok "", .ok "", checks, .ok ""⟩, hin, hchecks, ?_,
        nofun, fun hok => nomatch hok.install⟩
      rw [effects_append, he, RouterSettings.sequence, upToFailure_cons_of_fails rfl]
      rfl
    · exact .inl ⟨by simpa using he, rfl, hin⟩
  | @pushed path l l' t' v' x hp hb =>
    rcases pointed_installable hp hf with ⟨content, hin, he⟩ | ⟨-, hfalse, -⟩
    · obtain ⟨a, hinstall, hpoll, hcommands, hok⟩ := broughtUp_sequence hb rfl
      refine .inr ⟨path, content, a, hin, hpoll, ?_, hok⟩
      rw [RouterSettings.sequence, hinstall, upToFailure_cons rfl, effects_append, he]
      simp only [effects_publish, effects_append, effects_release, effects_nil, List.append_nil]
      rw [hcommands]
      rfl
    · cases hfalse

/-- Everything that one call of `select` does to the router, whatever the session before it and
whatever the router replies. If its configuration cannot be installed it does nothing and fails.
Else it carries out the sequence for the new selection up to the first failure, where the health
checks end with a match or when the time is over; it runs the status command if and only if the last
health check matched and that command can be rendered; and it succeeds if and only if nothing
fails. -/
theorem select_carries_out_sequence (router : (q : Router.Request) → StateM σ (Router.Reply q))
    (s : Session) (hs : s.registry.Distinct) (w : σ) (vendor exit : String) :
    let l := exchanges router (select vendor exit) s w
    let x := ((call router (select vendor exit) s).run w).1.1
    ((¬ ∃ path content, Installable router s w vendor exit path content) →
      effects l = [] ∧ x.isOk = false) ∧
    ∀ path content, Installable router s w vendor exit path content →
      ∃ a, s.transport.router.Polling ⟨vendor, exit, path⟩ a.checks ∧
        effects l = upToFailure
          (s.transport.router.sequence ⟨vendor, exit, path⟩ s.transport.lastProbe content a) ∧
        ((∃ e ∈ effects l, e.isStatus = true) ↔
          lastCheckMatched s.transport.router (effects l) = true ∧
            ∃ command, Selection.render ⟨vendor, exit, path⟩ .up s.transport.router.statusCommand
              = .ok command) ∧
        (x.isOk = true ↔
          s.transport.router.Succeeds ⟨vendor, exit, path⟩ s.transport.lastProbe a) := by
  intro l x
  have hm : s.Makes (Call.select vendor exit).procedure l _ (.done x) :=
    makes_call router (select vendor exit) s hs w
  rcases selected_sequence hm.did (follows_exchanges router (select vendor exit) s w) with
    ⟨he, hx, hnone⟩ | ⟨path, content, a, hin, hpoll, he, hok⟩
  · exact ⟨fun _ => ⟨he, hx⟩, fun path content hin => absurd hin (hnone path content)⟩
  · refine ⟨fun hnone => absurd ⟨path, content, hin⟩ hnone, fun path' content' hin' => ?_⟩
    obtain ⟨rfl, rfl⟩ := hin.unique hin'
    refine ⟨a, hpoll, he, ?_, hok⟩
    rw [he]
    exact RouterSettings.status_mem_sequence hpoll

/-- A selection that worked. -/
theorem select_carries_out_sequence_sample :
    Sample.session.registry.Distinct ∧
    Installable (Sample.router []) Sample.session () "acme" "a" [] "" ∧
    ∃ a, Sample.settings.Succeeds ⟨"acme", "a", []⟩ .unknown a ∧
      effects (exchanges (Sample.router []) (select "acme" "a") Sample.session ())
        = upToFailure (Sample.settings.sequence ⟨"acme", "a", []⟩ .unknown "" a) := by
  have hin : Installable (Sample.router []) Sample.session () "acme" "a" [] "" :=
    ⟨⟨_, rfl, by decide⟩, "acme.conf", "", "", rfl, rfl, by decide +kernel, rfl⟩
  obtain ⟨-, hsequence⟩ := select_carries_out_sequence (Sample.router []) Sample.session
    Sample.distinct () "acme" "a"
  obtain ⟨a, -, he, -, hs⟩ := hsequence [] "" hin
  have hok : ((call (Sample.router []) (select "acme" "a") Sample.session).run ()).1.1.isOk
      = true := by decide +kernel
  exact ⟨Sample.distinct, hin, a, hs.1 hok, he⟩

/-- A health check can match without the status command being run: when it cannot be rendered. -/
theorem select_matched_without_status :
    ∃ l s' x, (fresh Sample.registry
        { Sample.settings with statusCommand := "status \x7b\x7b .Nope \x7d\x7d" }
        [("acme", "acme.conf")]).Makes (select "acme" "a") l s' (.done x) ∧
      lastCheckMatched Sample.settings (effects l) = true ∧
      ∀ e ∈ effects l, e.isStatus = false := by
  refine ⟨_, _, _, makes_call (Sample.router []) (select "acme" "a") _ Sample.distinct (), ?_, ?_⟩
  · decide +kernel
  · decide +kernel

end

end Egress.Session
