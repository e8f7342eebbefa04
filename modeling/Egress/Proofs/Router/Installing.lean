import Egress.Proofs.Host.Lawful
import Egress.Proofs.Router.Command
import Egress.Router.Access

/-!
# Installing on this machine

Where this machine is the router, a configuration is written to a new file next to its destination,
the file gets its permission bits and takes the place of what is there, and in the end it is removed
if it is still where it was made. Each of these requests may be refused. On every lawful machine,
the first one that is refused says why the installation fails, and the files are as they were; if
none is refused, the destination is all that changes (`push_all_or_nothing`). That a new file is not
the destination itself has to be assumed (`Local.Fresh`): it would be removed in the end.
-/

set_option autoImplicit false

namespace Egress

open Handler

variable {ω Place : Type} [DecidableEq Place]
  {answer : (q : Machine.Request) → StateM ω (Machine.Reply q)} {filing : ω → Machine.Filing Place}
  {v : Machine.Filing Place} {w : ω} {dir content path destination : String} {l : Place}
  {bytes : List UInt8} {mode : Nat}

namespace Local

/-! ## Staging -/

section
variable (answer) (dir content : String) (w : ω)

/-- What is asked for to stage a file. -/
def stageRequests (path : String) : List Machine.Request :=
  [.create dir, .append path content, .flush path]

/-- A new file is made and written. -/
structure Stages (path : String) : Prop where
  created : reply answer (.create dir) w = .ok path
  written : reply answer (.append path content) (after answer [.create dir] w) = .ok ()
  flushed : reply answer (.flush path) (after answer [.create dir, .append path content] w) = .ok ()

/-- Why no file can be staged. -/
inductive Unstaged : Fault → Prop
  | uncreated {fault : Fault} : reply answer (.create dir) w = .error fault → Unstaged fault
  | unwritten {path : String} {fault : Fault} : reply answer (.create dir) w = .ok path →
      reply answer (.append path content) (after answer [.create dir] w) = .error fault →
      Unstaged fault
  | unflushed {path : String} {fault : Fault} : reply answer (.create dir) w = .ok path →
      reply answer (.append path content) (after answer [.create dir] w) = .ok () →
      reply answer (.flush path) (after answer [.create dir, .append path content] w)
        = .error fault →
      Unstaged fault

theorem carry_stage : carry answer (stage dir content) w
    = match reply answer (.create dir) w with
      | .error fault => (.error fault, after answer [.create dir] w)
      | .ok path =>
        match reply answer (.append path content) (after answer [.create dir] w) with
        | .error fault =>
          (.error fault, after answer [.create dir, .append path content, .remove path] w)
        | .ok () =>
          match reply answer (.flush path) (after answer [.create dir, .append path content] w) with
          | .error fault =>
            (.error fault, after answer (stageRequests dir content path ++ [.remove path]) w)
          | .ok () => (.ok path, after answer (stageRequests dir content path) w) := by
  rw [stage, Machine.create, carry_perform_bind]
  cases reply answer (.create dir) w with
  | error fault => rfl
  | ok path =>
    dsimp only
    rw [Machine.append, carry_perform_bind]
    change carry (S := Machine) answer _ (after answer [.create dir, .append path content] w) = _
    cases reply answer (.append path content) (after answer [.create dir] w) with
    | error fault => rfl
    | ok done =>
      dsimp only
      rw [Machine.flush, carry_perform_bind]
      change carry (S := Machine) answer _ (after answer (stageRequests dir content path) w) = _
      cases reply answer (.flush path) (after answer [.create dir, .append path content] w) with
      | error fault => rfl
      | ok done => rfl

end

theorem Stages.carry_eq (h : Stages answer dir content w path) :
    carry answer (stage dir content) w
      = (.ok path, after answer (stageRequests dir content path) w) := by
  simp only [carry_stage, h.created, h.written, h.flushed]

theorem Unstaged.carry_eq {fault : Fault} (h : Unstaged answer dir content w fault) :
    (carry answer (stage dir content) w).1 = .error fault := by
  rw [carry_stage]
  cases h with
  | uncreated hcreate => simp only [hcreate]
  | unwritten hcreate hwrite => simp only [hcreate, hwrite]
  | unflushed hcreate hwrite hflush => simp only [hcreate, hwrite, hflush]

theorem stages_or_unstaged (answer : (q : Machine.Request) → StateM ω (Machine.Reply q))
    (dir content : String) (w : ω) : (∃ path, Stages answer dir content w path) ∨
      ∃ fault, Unstaged answer dir content w fault := by
  cases hcreate : reply answer (.create dir) w with
  | error fault => exact .inr ⟨fault, .uncreated hcreate⟩
  | ok path =>
    cases hwrite : reply answer (.append path content) (after answer [.create dir] w) with
    | error fault => exact .inr ⟨fault, .unwritten hcreate hwrite⟩
    | ok done =>
      cases hflush : reply answer (.flush path)
          (after answer [.create dir, .append path content] w) with
      | error fault => exact .inr ⟨fault, .unflushed hcreate hwrite hflush⟩
      | ok done => exact .inl ⟨path, hcreate, hwrite, hflush⟩

/-! ## Files of a lawful machine -/

section
variable (hlawful : Machine.Lawful answer filing)
include hlawful

theorem files_created (h : reply answer (.create dir) w = .ok path) : ∃ l, (filing w).Spare path l ∧
    filing (after answer [.create dir] w) = (filing w).put l (some (.file [] 0o600)) := by
  obtain ⟨l, hlocated, hvacant, hchangeable, hfiling⟩ := hlawful.answers h
  exact ⟨l, ⟨hlocated, hvacant, hchangeable⟩, hfiling⟩

theorem files_removed (hspare : v.Spare path l)
    (hw : filing w = v.put l (some (.file bytes mode))) :
    filing (after answer [.remove path] w) = v :=
  hspare.of_remove (hw ▸ hlawful w (.remove path))

theorem Stages.files (h : Stages answer dir content w path) : ∃ l, (filing w).Spare path l ∧
    filing (after answer (stageRequests dir content path) w)
      = (filing w).put l (some (.file (Text.encode content) 0o600)) := by
  obtain ⟨l, hspare, hcreated⟩ := files_created hlawful h.created
  have hwritten := hspare.of_alters (hcreated ▸ hlawful.answers h.written)
  have hflushed := hspare.of_alters (hwritten ▸ hlawful.answers h.flushed)
  exact ⟨l, hspare, hflushed⟩

theorem Unstaged.files {fault : Fault} (h : Unstaged answer dir content w fault) :
    filing (carry answer (stage dir content) w).2 = filing w := by
  rw [carry_stage]
  cases h with
  | uncreated hcreate =>
    simp only [hcreate]
    exact hlawful.answers hcreate
  | unwritten hcreate hwrite =>
    simp only [hcreate, hwrite]
    obtain ⟨l, hspare, hcreated⟩ := files_created hlawful hcreate
    obtain ⟨bytes, mode, hwritten⟩ := hspare.of_spoils (hcreated ▸ hlawful.answers hwrite)
    exact files_removed hlawful hspare hwritten
  | unflushed hcreate hwrite hflush =>
    simp only [hcreate, hwrite, hflush]
    obtain ⟨l, hspare, hcreated⟩ := files_created hlawful hcreate
    have hwritten := hspare.of_alters (hcreated ▸ hlawful.answers hwrite)
    obtain ⟨bytes, mode, hflushed⟩ := hspare.of_spoils (hwritten ▸ hlawful.answers hflush)
    exact files_removed hlawful hspare hflushed

end

/-! ## Installing what is staged -/

section
variable (answer) (path destination : String) (mode : Nat) (w : ω)

/-- Why a staged file cannot be installed. -/
inductive Uninstalled : TransportError → Prop
  | unset {fault : Fault} : reply answer (.setMode path mode) w = .error fault →
      Uninstalled (.io fault)
  | unmoved {fault : Fault} : reply answer (.setMode path mode) w = .ok () →
      reply answer (.rename path destination) (after answer [.setMode path mode] w)
        = .error fault →
      Uninstalled (.copy destination fault.message)

theorem carry_install : carry answer (install path destination mode) w
    = match reply answer (.setMode path mode) w with
      | .error fault => (.error (.io fault), after answer [.setMode path mode] w)
      | .ok () =>
        match reply answer (.rename path destination) (after answer [.setMode path mode] w) with
        | .error fault => (.error (.copy destination fault.message),
            after answer [.setMode path mode, .rename path destination] w)
        | .ok () => (.ok (), after answer [.setMode path mode, .rename path destination,
            .note ⟨.debug, .commands, "Installed " ++ destination⟩] w) := by
  rw [install, Machine.setMode, carry_perform_bind]
  cases reply answer (.setMode path mode) w with
  | error fault => rfl
  | ok done =>
    dsimp only
    rw [Machine.rename, carry_perform_bind]
    change carry (S := Machine) answer _
      (after answer [.setMode path mode, .rename path destination] w) = _
    cases reply answer (.rename path destination) (after answer [.setMode path mode] w) with
    | error fault => rfl
    | ok done => rfl

end

theorem Uninstalled.carry_eq {e : TransportError}
    (h : Uninstalled answer path destination mode w e) :
    (carry answer (install path destination mode) w).1 = .error e := by
  rw [carry_install]
  cases h with
  | unset hset => simp only [hset]
  | unmoved hset hmove => simp only [hset, hmove]

/-- A staged file is put in its place, or it is still where it was staged. -/
theorem install_cases (destination : String) (bits : Nat) (hlawful : Machine.Lawful answer filing)
    (hspare : v.Spare path l) (hw : filing w = v.put l (some (.file bytes mode))) :
    ((carry answer (install path destination bits) w).1 = .ok () ∧
      v.Placed (filing (carry answer (install path destination bits) w).2) destination bytes
        (bits % 0o10000)) ∨
    ∃ e, Uninstalled answer path destination bits w e ∧ ∃ bytes' mode',
      filing (carry answer (install path destination bits) w).2
        = v.put l (some (.file bytes' mode')) := by
  rw [carry_install]
  cases hset : reply answer (.setMode path bits) w with
  | error fault =>
    exact .inr ⟨_, .unset hset, hspare.of_spoils (hw ▸ hlawful.answers hset)⟩
  | ok done =>
    have hready := hspare.of_alters (hw ▸ hlawful.answers hset)
    cases hmove : reply answer (.rename path destination) (after answer [.setMode path bits] w) with
    | error fault =>
      have hstill : filing (after answer [.setMode path bits, .rename path destination] w)
          = filing (after answer [.setMode path bits] w) := hlawful.answers hmove
      exact .inr ⟨_, .unmoved hset hmove, _, _, hstill.trans hready⟩
    | ok done =>
      obtain ⟨target, htarget, hmoved⟩ := hspare.of_rename (hready ▸ hlawful.answers hmove)
      have hnoted := hlawful (after answer [.setMode path bits, .rename path destination] w)
        (.note ⟨.debug, .commands, "Installed " ++ destination⟩)
      exact .inl ⟨rfl, target, htarget, hnoted.trans hmoved⟩

/-! ## Operations on the router -/

section
variable {α : Type} (answer) (w : ω)

/-- Carries out operations on a router that is this machine. -/
def operate (p : Procedure Router α) (w : ω) : α × ω :=
  carry (S := Machine) answer (p.run Local.answer) w

theorem operate_pure (a : α) : operate answer (pure a) w = (a, w) := rfl

theorem operate_perform_bind (q : Router.Request) (f : Router.Reply q → Procedure Router α) :
    operate answer (.perform q >>= f) w = operate answer (f (carry answer (Local.answer q) w).1)
      (carry answer (Local.answer q) w).2 :=
  carry_bind (S := Machine) answer (Local.answer q)
    (fun r => Procedure.run (S := Router) Local.answer (f r)) w

theorem operate_template (path : String) (f : Except Fault String → Procedure Router α) :
    operate answer (Router.template path >>= f) w
      = operate answer (f (reply answer (.readText path) w)) (after answer [.readText path] w) :=
  rfl

theorem operate_stage (destination content : String)
    (f : Except Fault String → Procedure Router α) :
    operate answer (Router.stage destination content >>= f) w
      = operate answer (f (carry answer (stage (Host.stagingDir destination) content) w).1)
        (carry answer (stage (Host.stagingDir destination) content) w).2 :=
  operate_perform_bind ..

theorem operate_note (level : Level) (topic : Topic) (text : String)
    (f : Unit → Procedure Router α) : operate answer (Router.note level topic text >>= f) w
      = operate answer (f ()) (after answer [.note ⟨level, topic, text⟩] w) := rfl

theorem operate_install (file : StagedFile) (destination : String) (mode : Nat)
    (f : Except TransportError Unit → Procedure Router α) :
    operate answer (Router.install file destination mode >>= f) w
      = operate answer (f (carry answer (install file.path destination mode) w).1)
        (carry answer (install file.path destination mode) w).2 :=
  operate_perform_bind ..

theorem operate_discard (file : StagedFile) (f : Unit → Procedure Router α) :
    operate answer (Router.discard file >>= f) w
      = operate answer (f ()) (after answer [.remove file.path] w) := rfl

end

/-- A file that is made for a destination is not where the destination leads. -/
def Fresh (answer : (q : Machine.Request) → StateM ω (Machine.Reply q))
    (filing : ω → Machine.Filing Place) (destination : String) (w : ω) : Prop :=
  ∀ path, reply answer (.create (Host.stagingDir destination)) w = .ok path →
    (filing w).place? path ≠ (filing w).place? destination

/-- A new file stands where nothing stood, so not at a destination where something does. -/
theorem fresh_of_standing (hlawful : Machine.Lawful answer filing)
    (hl : (filing w).place? destination = some l) (he : (filing w).stands? l ≠ none)
    (path : String) : Fresh answer filing destination (after answer [.readText path] w) := by
  intro file hcreate heq
  have hread := hlawful.files_read path w
  obtain ⟨k, hspare, -⟩ := files_created hlawful hcreate
  rw [hread] at hspare heq
  obtain rfl : k = l := Option.some.inj (hspare.located.symm.trans (heq.trans hl))
  exact he hspare.vacant

end Local

namespace Transport

open Local

section
variable (answer) (t : Transport) (vendor exit : String) (w : ω)

/-- The vendor has a template that can be read, and it makes this content of the exit. -/
def Renders (path content : String) : Prop :=
  Keyed.get? vendor t.templates = some path ∧ ∃ text, reply answer (.readText path) w = .ok text ∧
    Template.render (exitVariables vendor exit) text = .ok content

/-- What is said of an installation. -/
def installing : Note :=
  ⟨.info, .transport,
    "Installing " ++ vendor ++ " config for " ++ exit ++ " at " ++ t.router.configFile⟩

/-- Why no configuration can be installed. -/
inductive Uninstallable : TransportError → Prop
  | missing : Keyed.get? vendor t.templates = none → Uninstallable (.missingTemplate vendor)
  | unread {path : String} {fault : Fault} : Keyed.get? vendor t.templates = some path →
      reply answer (.readText path) w = .error fault →
      Uninstallable (.render (.unreadable path fault))
  | unrendered {path text : String} {e : RenderError} :
      Keyed.get? vendor t.templates = some path → reply answer (.readText path) w = .ok text →
      Template.render (exitVariables vendor exit) text = .error e → Uninstallable (.render e)
  | unstaged {path content : String} {fault : Fault} : Renders answer t vendor exit w path content →
      Unstaged answer (Host.stagingDir t.router.configFile) content
        (after answer [.readText path] w) fault →
      Uninstallable (.io fault)
  | uninstalled {path content staged : String} {e : TransportError} :
      Renders answer t vendor exit w path content →
      Stages answer (Host.stagingDir t.router.configFile) content (after answer [.readText path] w)
        staged →
      Uninstalled answer staged t.router.configFile t.router.configMode
        (after answer (.readText path :: stageRequests (Host.stagingDir t.router.configFile) content
          staged ++ [.note (t.installing vendor exit)]) w) e →
      Uninstallable e

end

variable {t : Transport} {vendor exit : String}

/-- What becomes of a push, reply by reply. -/
theorem operate_push (answer : (q : Machine.Request) → StateM ω (Machine.Reply q)) (t : Transport)
    (vendor exit : String) (w : ω) : operate answer (t.push vendor exit) w
      = match Keyed.get? vendor t.templates with
        | none => (.error (.missingTemplate vendor), w)
        | some path =>
          match reply answer (.readText path) w with
          | .error fault =>
            (.error (.render (.unreadable path fault)), after answer [.readText path] w)
          | .ok text =>
            match Template.render (exitVariables vendor exit) text with
            | .error e => (.error (.render e), after answer [.readText path] w)
            | .ok content =>
              let written := carry answer (stage (Host.stagingDir t.router.configFile) content)
                (after answer [.readText path] w)
              match written.1 with
              | .error fault => (.error (.io fault), written.2)
              | .ok staged =>
                let installed := carry answer
                  (install staged t.router.configFile t.router.configMode)
                  (after answer [.note (t.installing vendor exit)] written.2)
                (installed.1, after answer [.remove staged] installed.2) := by
  unfold push
  cases Keyed.get? vendor t.templates with
  | none => rfl
  | some path =>
    dsimp only
    rw [operate_template]
    cases reply answer (.readText path) w with
    | error fault => rfl
    | ok text =>
      dsimp only
      rw [← exitVariables]
      cases Template.render (exitVariables vendor exit) text with
      | error e => rfl
      | ok content =>
        dsimp only
        rw [operate_stage]
        cases (carry answer (stage (Host.stagingDir t.router.configFile) content)
          (after answer [.readText path] w)).1 with
        | error fault => rfl
        | ok staged =>
          dsimp only
          rw [operate_note, operate_install, operate_discard, operate_pure]
          rfl

theorem operate_unstaged {fault : Fault} (hrenders : t.Renders answer vendor exit w path content)
    (hunstaged : Unstaged answer (Host.stagingDir t.router.configFile) content
      (after answer [.readText path] w) fault) :
    operate answer (t.push vendor exit) w = (.error (.io fault),
      (carry answer (stage (Host.stagingDir t.router.configFile) content)
        (after answer [.readText path] w)).2) := by
  obtain ⟨hpath, text, htext, hcontent⟩ := hrenders
  simp only [operate_push, hpath, htext, hcontent, hunstaged.carry_eq]

/-- What is left of a push when a file is staged. -/
theorem operate_staged {staged : String} (hrenders : t.Renders answer vendor exit w path content)
    (hstages : Stages answer (Host.stagingDir t.router.configFile) content
      (after answer [.readText path] w) staged) :
    operate answer (t.push vendor exit) w =
      let installed := carry answer (install staged t.router.configFile t.router.configMode)
        (after answer (.readText path :: stageRequests (Host.stagingDir t.router.configFile) content
          staged ++ [.note (t.installing vendor exit)]) w)
      (installed.1, after answer [.remove staged] installed.2) := by
  obtain ⟨hpath, text, htext, hcontent⟩ := hrenders
  simp only [operate_push, hpath, htext, hcontent, hstages.carry_eq]
  rfl

theorem Uninstallable.operate_eq {e : TransportError}
    (h : Uninstallable answer t vendor exit w e) :
    (operate answer (t.push vendor exit) w).1 = .error e := by
  cases h with
  | missing hpath => simp only [operate_push, hpath]
  | unread hpath htext => simp only [operate_push, hpath, htext]
  | unrendered hpath htext hcontent => simp only [operate_push, hpath, htext, hcontent]
  | unstaged hrenders hunstaged => rw [operate_unstaged hrenders hunstaged]
  | uninstalled hrenders hstages huninstalled =>
    rw [operate_staged hrenders hstages]
    exact huninstalled.carry_eq

/-- Where there is nothing to install, nothing is done to the files. -/
theorem push_unrendered (hlawful : Machine.Lawful answer filing)
    (hnone : ¬ ∃ path content, t.Renders answer vendor exit w path content) :
    ∃ e, Uninstallable answer t vendor exit w e ∧
      filing (operate answer (t.push vendor exit) w).2 = filing w := by
  cases hpath : Keyed.get? vendor t.templates with
  | none =>
    refine ⟨_, .missing hpath, ?_⟩
    simp only [operate_push, hpath]
  | some path =>
    have hread := hlawful.files_read path w
    cases htext : reply answer (.readText path) w with
    | error fault =>
      refine ⟨_, .unread hpath htext, ?_⟩
      simp only [operate_push, hpath, htext, hread]
    | ok text =>
      cases hcontent : Template.render (exitVariables vendor exit) text with
      | ok content => exact absurd ⟨path, content, hpath, text, htext, hcontent⟩ hnone
      | error e =>
        refine ⟨_, .unrendered hpath htext hcontent, ?_⟩
        simp only [operate_push, hpath, htext, hcontent, hread]

/-- What is to be installed is put in its place, or removed again without a trace. -/
theorem push_rendered (hlawful : Machine.Lawful answer filing)
    (hfresh : Fresh answer filing t.router.configFile (after answer [.readText path] w))
    (hrenders : t.Renders answer vendor exit w path content) :
    ((operate answer (t.push vendor exit) w).1 = .ok () ∧
      (filing w).Placed (filing (operate answer (t.push vendor exit) w).2) t.router.configFile
        (Text.encode content) (t.router.configMode % 0o10000)) ∨
    ∃ e, Uninstallable answer t vendor exit w e ∧
      filing (operate answer (t.push vendor exit) w).2 = filing w := by
  have hread := hlawful.files_read path w
  rcases stages_or_unstaged answer (Host.stagingDir t.router.configFile) content
    (after answer [.readText path] w) with ⟨staged, hstages⟩ | ⟨fault, hunstaged⟩
  · obtain ⟨l, hspare, hstaged⟩ := hstages.files hlawful
    have hapart := hfresh staged hstages.created
    rw [hread] at hspare hstaged hapart
    have hnoted := (hlawful (after answer (stageRequests (Host.stagingDir t.router.configFile)
      content staged) (after answer [.readText path] w)) (.note (t.installing vendor exit))).trans
      hstaged
    rw [operate_staged hrenders hstages]
    rcases install_cases t.router.configFile t.router.configMode hlawful hspare hnoted with
      ⟨hok, target, htarget, hinstalled⟩ | ⟨e, huninstalled, bytes, mode, hstill⟩
    · have hne : l ≠ target := by
        rintro rfl
        exact hapart (hspare.located.trans htarget.symm)
      have hgone := hspare.of_remove_moved hne (hinstalled ▸ hlawful _ (.remove staged))
      exact .inl ⟨hok, target, htarget, hgone⟩
    · exact .inr ⟨e, .uninstalled hrenders hstages huninstalled,
        files_removed hlawful hspare hstill⟩
  · refine .inr ⟨_, .unstaged hrenders hunstaged, ?_⟩
    rw [operate_unstaged hrenders hunstaged]
    exact (hunstaged.files hlawful).trans hread

/-- The text that is rendered is the one in the template's file. -/
theorem Renders.holds (hlawful : Machine.Lawful answer filing)
    (h : t.Renders answer vendor exit w path content) :
    ∃ text, (filing w).Holds path text ∧
      Template.render (exitVariables vendor exit) text = .ok content := by
  obtain ⟨-, text, htext, hcontent⟩ := h
  exact ⟨text, (hlawful.answers htext).1, hcontent⟩

theorem push_cases (t : Transport) (vendor exit : String)
    (hlawful : Machine.Lawful answer filing)
    (hfresh : ∀ path, Fresh answer filing t.router.configFile (after answer [.readText path] w)) :
    (∃ path content, t.Renders answer vendor exit w path content ∧
      (operate answer (t.push vendor exit) w).1 = .ok () ∧
      (filing w).Placed (filing (operate answer (t.push vendor exit) w).2) t.router.configFile
        (Text.encode content) (t.router.configMode % 0o10000)) ∨
    ∃ e, Uninstallable answer t vendor exit w e ∧
      filing (operate answer (t.push vendor exit) w).2 = filing w := by
  by_cases hrenders : ∃ path content, t.Renders answer vendor exit w path content
  · obtain ⟨path, content, hrenders⟩ := hrenders
    exact (push_rendered hlawful (hfresh path) hrenders).imp_left fun h =>
      ⟨path, content, hrenders, h⟩
  · exact .inr (push_unrendered hlawful hrenders)

theorem push_all_or_nothing (hlawful : Machine.Lawful answer filing) (t : Transport)
    (vendor exit : String) (w : ω)
    (hfresh : ∀ path, Fresh answer filing t.router.configFile (after answer [.readText path] w)) :
    (∀ e, (operate answer (t.push vendor exit) w).1 = .error e ↔
      Uninstallable answer t vendor exit w e) ∧
    ((operate answer (t.push vendor exit) w).1 = .ok () →
      ∃ path text content, Keyed.get? vendor t.templates = some path ∧
        (filing w).Holds path text ∧
        Template.render (exitVariables vendor exit) text = .ok content ∧
        (filing w).Placed (filing (operate answer (t.push vendor exit) w).2) t.router.configFile
          (Text.encode content) (t.router.configMode % 0o10000)) ∧
    ∀ e, (operate answer (t.push vendor exit) w).1 = .error e →
      filing (operate answer (t.push vendor exit) w).2 = filing w := by
  rcases push_cases t vendor exit hlawful hfresh with
    ⟨path, content, hrenders, hok, hplaced⟩ | ⟨e, hfailed, hfiles⟩
  · rw [hok]
    refine ⟨fun e => ⟨nofun, fun he => ?_⟩, fun _ => ?_, nofun⟩
    · rw [← hok, he.operate_eq]
    · obtain ⟨text, htext, hcontent⟩ := hrenders.holds hlawful
      exact ⟨path, text, content, hrenders.1, htext, hcontent, hplaced⟩
  · rw [hfailed.operate_eq]
    refine ⟨fun e' => ⟨fun he => ?_, fun he' => ?_⟩, nofun, fun _ _ => hfiles⟩
    · obtain rfl := Except.error.inj he
      exact hfailed
    · rw [← hfailed.operate_eq, he'.operate_eq]

/-- A machine with a template and a configuration that was installed before. -/
def sampleMachine : Host :=
  { files := { entries := [(["etc"], .directory 0o755),
      (["etc", "acme.tmpl"], .file (Text.encode "conn {{ .Vendor }}") 0o644),
      (["etc", "vpn.conf"], .file (Text.encode "conn old") 0o600)] } }

def sampleInstaller : Transport :=
  { router := { configFile := "/etc/vpn.conf", configMode := 0o10640 },
    templates := [("acme", "/etc/acme.tmpl")] }

/-- The machine, told to refuse the permission bits. -/
def sampleRefusing : Host × List (Option Fault) :=
  (sampleMachine, [none, none, none, none, none, some .denied])

/-- The installed file is replaced, and gets the low twelve permission bits. Where these are
refused, it stays as it was. -/
theorem push_all_or_nothing_sample :
    (∃ path text content, Keyed.get? "acme" sampleInstaller.templates = some path ∧
      (Host.filing sampleMachine).Holds path text ∧
      Template.render (exitVariables "acme" "a") text = .ok content ∧
      (Host.filing sampleMachine).Placed
        (Host.filing (operate Host.answer (sampleInstaller.push "acme" "a") sampleMachine).2)
        "/etc/vpn.conf" (Text.encode content) 0o640) ∧
    (operate (Machine.refusing Host.answer) (sampleInstaller.push "acme" "a") sampleRefusing).1
      = .error (.io .denied) ∧
    Host.filing (operate (Machine.refusing Host.answer) (sampleInstaller.push "acme" "a")
      sampleRefusing).2.1 = Host.filing sampleMachine := by
  have hplace : (Host.filing sampleMachine).place? "/etc/vpn.conf" = some ["etc", "vpn.conf"] := rfl
  have hentry : (Host.filing sampleMachine).stands? ["etc", "vpn.conf"] ≠ none := nofun
  have hdone : (operate Host.answer (sampleInstaller.push "acme" "a") sampleMachine).1
      = .ok () := by decide +kernel
  have hrefused : (operate (Machine.refusing Host.answer) (sampleInstaller.push "acme" "a")
      sampleRefusing).1 = .error (.io .denied) := by decide +kernel
  obtain ⟨-, hok, -⟩ := push_all_or_nothing Host.lawful sampleInstaller "acme" "a" sampleMachine
    (fresh_of_standing Host.lawful hplace hentry)
  obtain ⟨-, -, herror⟩ := push_all_or_nothing Host.lawful.refusing sampleInstaller "acme" "a"
    sampleRefusing (fresh_of_standing Host.lawful.refusing hplace hentry)
  exact ⟨hok hdone, hrefused, herror _ hrefused⟩

end Transport

end Egress
