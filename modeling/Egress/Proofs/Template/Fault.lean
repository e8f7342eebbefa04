import Egress.Proofs.Except
import Egress.Proofs.Template.Scan

/-!
# Where rendering fails

A template is rendered from the left, so what is put behind a template that renders is rendered as
if it stood alone, only that its offsets count from the start of the whole (`renderAt_append`). A
template that fails is cut in two by its first fault: the part before it renders, and what stands
behind it decides alone what is wrong (`exists_fault`). From these two follows which errors
a template can have and what they say (`render_faults`).
-/

set_option autoImplicit false

namespace Egress

/-- The same fault seen from a template that begins further to the left, by some bytes. -/
def RenderError.later (bytes : Nat) : RenderError → RenderError
  | .unterminated offset => .unterminated (bytes + offset)
  | e => e

namespace Template

open Text

variable {vars : Variables} {offset : Nat} {a b out : List Char}

/-! ## One text behind another -/

/-- Where a template stands matters for the offset of its fault alone. -/
theorem renderAt_add (bytes offset : Nat) (cs : List Char) :
    renderAt vars (bytes + offset) cs = (renderAt vars offset cs).mapError (.later bytes) := by
  induction layout cs generalizing offset with
  | text h =>
    rw [renderAt_text h, renderAt_text h]
    rfl
  | opened hbefore hrest =>
    rw [renderAt_opened hbefore hrest, renderAt_opened hbefore hrest, Nat.add_assoc]
    rfl
  | @hole before inside after hbefore hinside _ ih =>
    cases hname : vars (holeName inside) with
    | none =>
      rw [renderAt_unset hbefore hinside hname, renderAt_unset hbefore hinside hname]
      rfl
    | some value =>
      rw [renderAt_filled hbefore hinside hname, renderAt_filled hbefore hinside hname,
        Nat.add_assoc, Nat.add_assoc, ih, Nat.add_assoc]
      cases renderAt vars (offset + (byteLength before + byteLength (hole inside))) after <;> rfl

/-- A text without an opening mark changes only where the holes behind it stand. -/
theorem renderAt_text_append (ha : ¬ Doubled '\x7b' a)
    (hmeet : ¬ (a.getLast? = some '\x7b' ∧ b.head? = some '\x7b')) :
    renderAt vars offset (a ++ b)
      = (renderAt vars (offset + byteLength a) b).map (a ++ ·) := by
  have hfront {before rest : List Char} (hbefore : ¬ Doubled '\x7b' (before ++ ['\x7b']))
      (hb : b = before ++ opening ++ rest) : ¬ Doubled '\x7b' (a ++ before ++ ['\x7b']) := by
    have hhead : (before ++ ['\x7b']).head? = b.head? := by
      rw [hb]
      cases before <;> rfl
    rw [List.append_assoc, doubled_append_iff, hhead]
    rintro (h | h | h)
    · exact ha h
    · exact hbefore h
    · exact hmeet h
  cases layout b with
  | text hb =>
    have hab : ¬ Doubled '\x7b' (a ++ b) := by
      rw [doubled_append_iff]
      rintro (h | h | h)
      · exact ha h
      · exact hb h
      · exact hmeet h
    rw [renderAt_text hab, renderAt_text hb]
    rfl
  | @opened before rest hbefore hrest =>
    have hab := hfront hbefore rfl
    rw [renderAt_opened hbefore hrest, ← List.append_assoc, ← List.append_assoc,
      renderAt_opened hab hrest, byteLength_append, Nat.add_assoc]
    rfl
  | @hole before inside after hbefore hinside _ =>
    have hb : before ++ hole inside ++ after
        = before ++ opening ++ (inside ++ closing ++ after) := by simp [hole]
    have hab := hfront hbefore hb
    rw [← List.append_assoc, ← List.append_assoc]
    cases hname : vars (holeName inside) with
    | none =>
      rw [renderAt_unset hab hinside hname, renderAt_unset hbefore hinside hname]
      rfl
    | some value =>
      rw [renderAt_filled hab hinside hname, renderAt_filled hbefore hinside hname, map_map,
        byteLength_append]
      simp only [List.append_assoc, Nat.add_assoc]

/-- Behind a hole, a template ends as what stands there. -/
theorem getLast?_hole_append {before inside after : List Char} :
    (before ++ hole inside ++ after).getLast? = some '\x7b' ↔ after.getLast? = some '\x7b' := by
  rw [List.getLast?_append]
  cases after with
  | nil => simp [hole, closing, List.getLast?_append]
  | cons c after => simp

/-- What stands behind a template that renders is rendered as if it stood alone, unless the two make
an opening mark where they meet. -/
theorem renderAt_append (ha : renderAt vars offset a = .ok out)
    (hmeet : ¬ (a.getLast? = some '\x7b' ∧ b.head? = some '\x7b')) :
    renderAt vars offset (a ++ b)
      = (renderAt vars (offset + byteLength a) b).map (out ++ ·) := by
  induction layout a generalizing offset out with
  | text h =>
    rw [renderAt_text h] at ha
    obtain rfl := Except.ok.inj ha
    exact renderAt_text_append h hmeet
  | opened hbefore hrest =>
    rw [renderAt_opened hbefore hrest] at ha
    cases ha
  | @hole before inside after hbefore hinside _ ih =>
    cases hname : vars (holeName inside) with
    | none =>
      rw [renderAt_unset hbefore hinside hname] at ha
      cases ha
    | some value =>
      rw [renderAt_filled hbefore hinside hname] at ha
      obtain ⟨text, htext, rfl⟩ := map_eq_ok.1 ha
      rw [getLast?_hole_append] at hmeet
      rw [List.append_assoc, renderAt_filled hbefore hinside hname, ih htext hmeet, map_map,
        byteLength_append, byteLength_append]
      simp only [List.append_assoc, Nat.add_assoc]

/-! ## The first fault -/

/-- What is wrong with a template, first of all: the text before it renders. -/
inductive FirstFault (vars : Variables) (offset : Nat) : List Char → RenderError → Prop
  /-- A hole is opened and never closed. -/
  | opened {a rest out : List Char} : renderAt vars offset a = .ok out →
      a.getLast? ≠ some '\x7b' → ¬ Doubled '\x7d' rest →
      FirstFault vars offset (a ++ opening ++ rest) (.unterminated (offset + byteLength a))
  /-- A hole names a variable that has no value. -/
  | unset {a inside after out : List Char} : renderAt vars offset a = .ok out →
      a.getLast? ≠ some '\x7b' → ¬ Doubled '\x7d' (inside ++ ['\x7d']) →
      vars (holeName inside) = none →
      FirstFault vars offset (a ++ hole inside ++ after) (.unknownVariable (holeName inside))

theorem FirstFault.renderAt_eq {cs : List Char} {e : RenderError}
    (h : FirstFault vars offset cs e) : renderAt vars offset cs = .error e := by
  have hnil : ¬ Doubled '\x7b' ([] ++ ['\x7b']) := not_doubled_of_not_mem List.not_mem_nil
  cases h with
  | @opened a rest out ha hlast hrest =>
    have hopened : renderAt vars (offset + byteLength a) ([] ++ opening ++ rest) = _ :=
      renderAt_opened hnil hrest
    rw [List.append_assoc, renderAt_append ha fun h => hlast h.1]
    exact congrArg (Except.map _) hopened
  | @unset a inside after out ha hlast hinside hname =>
    have hunset : renderAt vars (offset + byteLength a) ([] ++ hole inside ++ after) = _ :=
      renderAt_unset hnil hinside hname
    rw [List.append_assoc, renderAt_append ha fun h => hlast h.1]
    exact congrArg (Except.map _) hunset

theorem FirstFault.of_error {cs : List Char} {e : RenderError}
    (h : renderAt vars offset cs = .error e) : FirstFault vars offset cs e := by
  induction layout cs generalizing offset with
  | text hcs =>
    rw [renderAt_text hcs] at h
    cases h
  | opened hbefore hrest =>
    rw [renderAt_opened hbefore hrest] at h
    obtain rfl := Except.error.inj h
    rw [doubled_append_mark_iff, not_or] at hbefore
    exact .opened (renderAt_text hbefore.1) hbefore.2 hrest
  | @hole before inside after hbefore hinside _ ih =>
    cases hname : vars (holeName inside) with
    | none =>
      rw [renderAt_unset hbefore hinside hname] at h
      obtain rfl := Except.error.inj h
      rw [doubled_append_mark_iff, not_or] at hbefore
      exact .unset (renderAt_text hbefore.1) hbefore.2 hinside hname
    | some value =>
      rw [renderAt_filled hbefore hinside hname] at h
      -- the part that renders begins with the hole just filled
      have hfront {a out : List Char}
          (ha : renderAt vars (offset + byteLength before + byteLength (hole inside)) a = .ok out) :
          renderAt vars offset (before ++ hole inside ++ a)
            = .ok (before ++ value.toList ++ out) := by
        rw [renderAt_filled hbefore hinside hname, ha]
        rfl
      cases ih (map_eq_error.1 h) with
      | @opened a rest out ha hlast hrest =>
        have hfault := FirstFault.opened (hfront ha) (mt getLast?_hole_append.1 hlast) hrest
        rw [byteLength_append, byteLength_append, ← Nat.add_assoc, ← Nat.add_assoc] at hfault
        simpa only [List.append_assoc] using hfault
      | @unset a inside' after out ha hlast hinside' hname' =>
        have hfault : FirstFault vars offset
            (before ++ hole inside ++ a ++ hole inside' ++ after) _ :=
          .unset (hfront ha) (mt getLast?_hole_append.1 hlast) hinside' hname'
        simpa only [List.append_assoc] using hfault

/-- Whatever is put behind it, a template with a name that has no value stays at fault for it. -/
theorem renderAt_append_of_unset {name : String}
    (h : renderAt vars offset a = .error (.unknownVariable name)) (b : List Char) :
    renderAt vars offset (a ++ b) = .error (.unknownVariable name) := by
  cases FirstFault.of_error h with
  | unset ha hlast hinside hname =>
    rw [List.append_assoc]
    exact (FirstFault.unset ha hlast hinside hname).renderAt_eq

/-- The beginning of a hole is not at fault for a name. -/
theorem renderAt_ne_unset_of_prefix {inside y : List Char}
    (hinside : ¬ Doubled '\x7d' (inside ++ ['\x7d'])) (hy : y <+: opening ++ (inside ++ ['\x7d']))
    (name : String) : renderAt vars offset y ≠ .error (.unknownVariable name) := by
  intro h
  have hnil : ¬ Doubled '\x7b' ([] ++ ['\x7b']) := not_doubled_of_not_mem List.not_mem_nil
  rcases List.prefix_cons_iff.1 hy with rfl | ⟨y₁, rfl, hy₁⟩
  · rw [renderAt_text not_doubled_nil] at h
    cases h
  rcases List.prefix_cons_iff.1 hy₁ with rfl | ⟨y₂, rfl, hy₂⟩
  · have hmark : renderAt vars offset ([] ++ ['\x7b']) = _ := renderAt_text hnil
    cases hmark.symm.trans h
  · have hopened : renderAt vars offset ([] ++ opening ++ y₂) = _ :=
      renderAt_opened hnil fun hd => hinside (hd.trans hy₂.isInfix)
    cases hopened.symm.trans h

/-- A beginning of a template that is at fault for a name reaches to the end of the hole. -/
theorem prefix_of_unset {inside q after : List Char} {name : String}
    (ha : renderAt vars offset a = .ok out) (hlast : a.getLast? ≠ some '\x7b')
    (hinside : ¬ Doubled '\x7d' (inside ++ ['\x7d'])) (hpre : q <+: a ++ hole inside ++ after)
    (hq : renderAt vars offset q = .error (.unknownVariable name)) : a ++ hole inside <+: q := by
  have hhole : a ++ hole inside = a ++ (opening ++ (inside ++ ['\x7d'])) ++ ['\x7d'] := by
    simp [hole, closing]
  rcases List.prefix_or_prefix_of_prefix (List.prefix_append (a ++ hole inside) after) hpre with
    hle | hle
  · exact hle
  rw [hhole, List.prefix_concat_iff, ← hhole] at hle
  rcases hle with rfl | hlt
  · exact List.prefix_refl _
  -- a shorter beginning ends before the hole or inside it, and is at fault for no name
  exfalso
  rcases List.prefix_or_prefix_of_prefix (List.prefix_append a _) hlt with ⟨y, rfl⟩ | ⟨s, rfl⟩
  · rw [renderAt_append ha fun h => hlast h.1, map_eq_error] at hq
    exact renderAt_ne_unset_of_prefix hinside ((List.prefix_append_right_inj a).1 hlt) name hq
  · rw [renderAt_append_of_unset hq] at ha
    cases ha

/-! ## Texts -/

theorem byteLength_ofList (cs : List Char) : byteLength cs = (String.ofList cs).utf8ByteSize := by
  induction cs with
  | nil => rfl
  | cons c cs ih =>
    have hcons : String.ofList (c :: cs) = String.singleton c ++ String.ofList cs := by
      rw [String.singleton_eq_ofList, ← String.ofList_append]
      rfl
    rw [hcons, String.utf8ByteSize_append, String.utf8ByteSize_singleton, byteLength, ih]

theorem render_ok_iff {template text : String} :
    render vars template = .ok text ↔ renderAt vars 0 template.toList = .ok text.toList := by
  rw [render_eq, map_eq_ok]
  constructor
  · rintro ⟨out, hout, rfl⟩
    rw [hout, String.toList_ofList]
  · intro h
    exact ⟨_, h, String.ofList_toList⟩

theorem render_error_iff {template : String} {e : RenderError} :
    render vars template = .error e ↔ renderAt vars 0 template.toList = .error e := by
  rw [render_eq, map_eq_error]

theorem toList_opening_append (before rest : String) :
    (before ++ "\x7b\x7b" ++ rest).toList = before.toList ++ opening ++ rest.toList := by
  rw [String.toList_append, String.toList_append]
  rfl

theorem toList_hole_append (before inside after : String) :
    (before ++ "\x7b\x7b" ++ inside ++ "\x7d\x7d" ++ after).toList
      = before.toList ++ hole inside.toList ++ after.toList := by
  simp only [String.toList_append, hole, List.append_assoc]
  rfl

/-- `template` fails at an opening mark behind `before`, the mark of a hole that is not closed. -/
structure OpenedAt (vars : Variables) (template : String) (offset : Nat) (before rest : String) :
    Prop where
  split : template = before ++ "\x7b\x7b" ++ rest
  offset_eq : offset = before.utf8ByteSize
  unclosed : ¬ Doubled '\x7d' rest.toList
  renders : ∃ text, render vars before = .ok text

/-- `template` fails at the hole with `inside` behind `before`, for its name has no value. -/
structure UnsetAt (vars : Variables) (template name before inside after : String) : Prop where
  split : template = before ++ "\x7b\x7b" ++ inside ++ "\x7d\x7d" ++ after
  /-- The mark is the first that opens a hole behind `before`. -/
  opens : before.toList.getLast? ≠ some '\x7b'
  /-- The mark is the first that closes the hole. -/
  closes : ¬ Doubled '\x7d' (inside.toList ++ ['\x7d'])
  name_eq : name = holeName inside.toList
  unset : vars name = none
  renders : ∃ text, render vars before = .ok text
  fails : render vars (before ++ "\x7b\x7b" ++ inside ++ "\x7d\x7d")
    = .error (.unknownVariable name)
  /-- Every beginning of the template that fails so reaches to the end of the hole. -/
  shortest : ∀ q r, template = q ++ r → render vars q = .error (.unknownVariable name) →
    ∃ s, q = before ++ "\x7b\x7b" ++ inside ++ "\x7d\x7d" ++ s
  lasting : ∀ more, render vars (template ++ more) = .error (.unknownVariable name)

theorem exists_openedAt {template : String} {offset : Nat}
    (h : render vars template = .error (.unterminated offset)) :
    ∃ before rest, OpenedAt vars template offset before rest := by
  have hfault := FirstFault.of_error (render_error_iff.1 h)
  generalize hcs : template.toList = cs at hfault
  cases hfault with
  | @opened a rest out ha hlast hrest =>
    refine ⟨String.ofList a, String.ofList rest, ?_, ?_, ?_, String.ofList out, ?_⟩
    · rw [← String.toList_inj, toList_opening_append, String.toList_ofList,
        String.toList_ofList, hcs]
    · rw [← byteLength_ofList, Nat.zero_add]
    · rwa [String.toList_ofList]
    · rwa [render_ok_iff, String.toList_ofList, String.toList_ofList]

theorem exists_unsetAt {template name : String}
    (h : render vars template = .error (.unknownVariable name)) :
    ∃ before inside after, UnsetAt vars template name before inside after := by
  have hfault := FirstFault.of_error (render_error_iff.1 h)
  generalize hcs : template.toList = cs at hfault
  cases hfault with
  | @unset a inside after out ha hlast hinside hname =>
    have hsplit : template
        = String.ofList a ++ "\x7b\x7b" ++ String.ofList inside ++ "\x7d\x7d"
          ++ String.ofList after := by
      rw [← String.toList_inj, toList_hole_append]
      simp only [String.toList_ofList, hcs]
    have hhole : (String.ofList a ++ "\x7b\x7b" ++ String.ofList inside ++ "\x7d\x7d").toList
        = a ++ hole inside := by
      simpa using toList_hole_append (String.ofList a) (String.ofList inside) ""
    refine ⟨String.ofList a, String.ofList inside, String.ofList after,
      hsplit, ?_, ?_, ?_, hname, ⟨String.ofList out, ?_⟩, ?_, fun q r hq herror => ?_,
      fun more => ?_⟩
    · rwa [String.toList_ofList]
    · rwa [String.toList_ofList]
    · rw [String.toList_ofList]
    · rwa [render_ok_iff, String.toList_ofList, String.toList_ofList]
    · rw [render_error_iff, hhole, ← List.append_nil (a ++ hole inside)]
      exact (FirstFault.unset ha hlast hinside hname).renderAt_eq
    · have hpre : q.toList <+: a ++ hole inside ++ after := by
        rw [← hcs, hq, String.toList_append]
        exact List.prefix_append _ _
      obtain ⟨s, hs⟩ := prefix_of_unset ha hlast hinside hpre (render_error_iff.1 herror)
      refine ⟨String.ofList s, ?_⟩
      rw [← String.toList_inj, String.toList_append, hhole, String.toList_ofList, hs]
    · rw [render_error_iff, String.toList_append]
      exact renderAt_append_of_unset (render_error_iff.1 h) more.toList

/-- What a text does when it is put behind one that renders to `out`: if it renders, what it renders
to follows, and if it fails, it fails as it does alone, that much further on. -/
theorem render_append {a b out : String} (ha : render vars a = .ok out)
    (hmeet : ¬ (a.toList.getLast? = some '\x7b' ∧ b.toList.head? = some '\x7b')) :
    render vars (a ++ b) = ((render vars b).map (out ++ ·)).mapError (.later a.utf8ByteSize) := by
  have happend := renderAt_append (render_ok_iff.1 ha) hmeet
  have hadd : renderAt vars (byteLength a.toList + 0) b.toList = _ :=
    renderAt_add (byteLength a.toList) 0 b.toList
  rw [Nat.add_zero] at hadd
  rw [Nat.zero_add, hadd, byteLength_ofList, String.ofList_toList] at happend
  rw [render_eq, render_eq, String.toList_append, happend]
  cases renderAt vars 0 b.toList with
  | error e => rfl
  | ok text =>
    refine congrArg Except.ok ?_
    rw [String.ofList_append, String.ofList_toList]

/-- Rendering fails at the first hole that is not closed or whose name has no value, and nowhere
else; what stands before it renders. -/
theorem render_faults (vars : Variables) :
    (∀ template offset, render vars template = .error (.unterminated offset) →
      ∃ before rest, OpenedAt vars template offset before rest) ∧
    (∀ before rest text, render vars before = .ok text → before.toList.getLast? ≠ some '\x7b' →
      ¬ Doubled '\x7d' rest.toList →
      render vars (before ++ "\x7b\x7b" ++ rest) = .error (.unterminated before.utf8ByteSize)) ∧
    (∀ template name, render vars template = .error (.unknownVariable name) →
      ∃ before inside after, UnsetAt vars template name before inside after) ∧
    ∀ a b out, render vars a = .ok out →
      ¬ (a.toList.getLast? = some '\x7b' ∧ b.toList.head? = some '\x7b') →
      (∀ text, render vars b = .ok text → render vars (a ++ b) = .ok (out ++ text)) ∧
      (∀ name, render vars b = .error (.unknownVariable name) →
        render vars (a ++ b) = .error (.unknownVariable name)) ∧
      ∀ offset, render vars b = .error (.unterminated offset) →
        render vars (a ++ b) = .error (.unterminated (a.utf8ByteSize + offset)) := by
  refine ⟨fun _ _ => exists_openedAt, fun before rest text ht hlast hrest => ?_,
    fun _ _ => exists_unsetAt, fun a b out ha hmeet => ?_⟩
  · have hfault := FirstFault.opened (render_ok_iff.1 ht) hlast hrest
    rw [render_error_iff, toList_opening_append, hfault.renderAt_eq, Nat.zero_add,
      byteLength_ofList, String.ofList_toList]
  · have happend := render_append ha hmeet
    refine ⟨fun text hb => ?_, fun name hb => ?_, fun offset hb => ?_⟩ <;>
      · rw [happend, hb]
        rfl

/-- Variables with one name. -/
def sampleVariables : Variables :=
  .ofList [("Exit", "é")]

theorem render_faults_sample :
    (render sampleVariables "ü\x7b\x7b.Exit\x7d\x7d \x7b\x7b" = .error (.unterminated 12) ∧
      ∃ before rest, OpenedAt sampleVariables "ü\x7b\x7b.Exit\x7d\x7d \x7b\x7b" 12 before rest) ∧
    render sampleVariables ("ü\x7b\x7bExit\x7d\x7d" ++ "\x7b\x7b" ++ "Exit\x7d")
      = .error (.unterminated ("ü\x7b\x7bExit\x7d\x7d" : String).utf8ByteSize) ∧
    (render sampleVariables "\x7b\x7bExit\x7d\x7d\x7b\x7b . Nope \x7d\x7d\x7b\x7b"
        = .error (.unknownVariable "Nope") ∧
      ∃ before inside after, UnsetAt sampleVariables
        "\x7b\x7bExit\x7d\x7d\x7b\x7b . Nope \x7d\x7d\x7b\x7b" "Nope" before inside after) ∧
    render sampleVariables ("\x7b\x7bExit\x7d\x7d\x7b" ++ " \x7b\x7bExit\x7d\x7d")
      = .ok ("é\x7b" ++ " é") := by
  obtain ⟨hopened, hopens, hunset, happend⟩ := render_faults sampleVariables
  have h₁ : render sampleVariables "ü\x7b\x7b.Exit\x7d\x7d \x7b\x7b"
      = .error (.unterminated 12) := by decide +kernel
  have h₂ : render sampleVariables "ü\x7b\x7bExit\x7d\x7d" = .ok "üé" := by decide +kernel
  have h₃ : render sampleVariables "\x7b\x7bExit\x7d\x7d\x7b\x7b . Nope \x7d\x7d\x7b\x7b"
      = .error (.unknownVariable "Nope") := by decide +kernel
  have h₄ : render sampleVariables "\x7b\x7bExit\x7d\x7d\x7b" = .ok "é\x7b" := by decide +kernel
  have h₅ : render sampleVariables " \x7b\x7bExit\x7d\x7d" = .ok " é" := by decide +kernel
  exact ⟨⟨h₁, hopened _ _ h₁⟩, hopens _ "Exit\x7d" _ h₂ (by decide) (by decide),
    ⟨h₃, hunset _ _ h₃⟩, (happend _ _ _ h₄ (by decide)).1 _ h₅⟩

end Template

end Egress
