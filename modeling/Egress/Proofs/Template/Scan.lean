import Egress.Template

/-!
# Where the holes of a template are

A template is one of three things: a text without an opening mark, a text up to an opening mark that
is not closed, or a text up to a hole with another template behind it (`Layout`). Each template is
laid out in one of these ways (`layout`), and each way says how the template is rendered
(`renderAt_text`, `renderAt_opened`, `renderAt_unset`, `renderAt_filled`), so proofs about rendering
go by induction on the layout and look at no search.
-/

set_option autoImplicit false

namespace Egress.Template

open Text

/-! ## Layouts -/

/-- What opens a hole. -/
def opening : List Char := ['\x7b', '\x7b']

/-- What closes a hole. -/
def closing : List Char := ['\x7d', '\x7d']

/-- A hole with something inside. -/
def hole (inside : List Char) : List Char :=
  opening ++ inside ++ closing

theorem byteLength_hole (inside : List Char) :
    byteLength (hole inside) = byteLength inside + 4 := by
  have hopening : byteLength opening = 2 := by decide
  have hclosing : byteLength closing = 2 := by decide
  rw [hole, byteLength_append, byteLength_append, hopening, hclosing]
  omega

theorem nextHole?_opening {before : List Char} (h : ¬ Doubled '\x7b' (before ++ ['\x7b']))
    (rest : List Char) :
    nextHole? (before ++ opening ++ rest) = some (before, cutAt '\x7d' rest) := by
  rw [nextHole?, List.append_assoc]
  exact congrArg (Option.map _) (cutAt_append h rest)

theorem nextHole?_hole {before inside : List Char} (hbefore : ¬ Doubled '\x7b' (before ++ ['\x7b']))
    (hinside : ¬ Doubled '\x7d' (inside ++ ['\x7d'])) (after : List Char) :
    nextHole? (before ++ hole inside ++ after) = some (before, some (inside, after)) := by
  have hsplit : before ++ hole inside ++ after
      = before ++ opening ++ (inside ++ '\x7d' :: '\x7d' :: after) := by simp [hole, closing]
  rw [hsplit, nextHole?_opening hbefore, cutAt_append hinside]

/-- How a template is laid out (module doc). -/
inductive Layout : List Char → Prop
  | text {cs : List Char} : ¬ Doubled '\x7b' cs → Layout cs
  | opened {before rest : List Char} : ¬ Doubled '\x7b' (before ++ ['\x7b']) →
      ¬ Doubled '\x7d' rest → Layout (before ++ opening ++ rest)
  | hole {before inside after : List Char} : ¬ Doubled '\x7b' (before ++ ['\x7b']) →
      ¬ Doubled '\x7d' (inside ++ ['\x7d']) → Layout after →
      Layout (before ++ hole inside ++ after)

/-- Every template is laid out in some way. -/
theorem layout (cs : List Char) : Layout cs := by
  cases hopen : cutAt '\x7b' cs with
  | none => exact .text (cutAt_eq_none_iff.1 hopen)
  | some x =>
    obtain ⟨before, rest⟩ := x
    obtain ⟨hcs, hbefore⟩ := eq_append_of_cutAt hopen
    cases hclose : cutAt '\x7d' rest with
    | none =>
      have hopened := Layout.opened hbefore (cutAt_eq_none_iff.1 hclose)
      rwa [List.append_assoc, opening, List.cons_append, List.cons_append, List.nil_append,
        ← hcs] at hopened
    | some y =>
      obtain ⟨inside, after⟩ := y
      obtain ⟨hrest, hinside⟩ := eq_append_of_cutAt hclose
      have hsplit : cs = before ++ hole inside ++ after := by
        simp [hcs, hrest, hole, opening, closing]
      exact hsplit ▸ .hole hbefore hinside (layout after)
termination_by cs.length
decreasing_by
  rw [hcs, hrest]
  simp only [List.length_append, List.length_cons]
  omega

/-! ## Rendering by the layout -/

/-- The text of a template that stands at an offset of a larger one. -/
def renderAt (vars : Variables) (offset : Nat) (cs : List Char) : Except RenderError (List Char) :=
  fillAll vars (parts offset cs)

section
variable {vars : Variables} {offset : Nat} {cs before inside after rest : List Char}

theorem render_eq (vars : Variables) (template : String) :
    render vars template = (renderAt vars 0 template.toList).map String.ofList := rfl

theorem renderAt_text (h : ¬ Doubled '\x7b' cs) : renderAt vars offset cs = .ok cs := by
  have hnext : nextHole? cs = none := by
    rw [nextHole?, cutAt_eq_none_iff.2 h]
    rfl
  have hparts : parts offset cs = [.literal cs] := by
    rw [parts]
    split <;> simp_all
  rw [renderAt, hparts]
  exact congrArg Except.ok (List.append_nil cs)

theorem renderAt_opened (hbefore : ¬ Doubled '\x7b' (before ++ ['\x7b']))
    (hrest : ¬ Doubled '\x7d' rest) :
    renderAt vars offset (before ++ opening ++ rest)
      = .error (.unterminated (offset + byteLength before)) := by
  have hnext : nextHole? (before ++ opening ++ rest) = some (before, none) := by
    rw [nextHole?_opening hbefore, cutAt_eq_none_iff.2 hrest]
  have hparts : parts offset (before ++ opening ++ rest)
      = [.literal before, .opened (offset + byteLength before)] := by
    rw [parts]
    split <;> simp_all
  rw [renderAt, hparts]
  rfl

theorem parts_hole (hbefore : ¬ Doubled '\x7b' (before ++ ['\x7b']))
    (hinside : ¬ Doubled '\x7d' (inside ++ ['\x7d'])) :
    parts offset (before ++ hole inside ++ after)
      = .literal before :: .hole (holeName inside)
        :: parts (offset + byteLength before + byteLength (hole inside)) after := by
  have hnext := nextHole?_hole hbefore hinside after
  rw [parts]
  split <;> simp_all [byteLength_hole, Nat.add_assoc]

theorem renderAt_unset (hbefore : ¬ Doubled '\x7b' (before ++ ['\x7b']))
    (hinside : ¬ Doubled '\x7d' (inside ++ ['\x7d'])) (hname : vars (holeName inside) = none) :
    renderAt vars offset (before ++ hole inside ++ after)
      = .error (.unknownVariable (holeName inside)) := by
  rw [renderAt, parts_hole hbefore hinside, fillAll, fillAll, Part.fill, Part.fill, hname]
  rfl

theorem renderAt_filled {value : String} (hbefore : ¬ Doubled '\x7b' (before ++ ['\x7b']))
    (hinside : ¬ Doubled '\x7d' (inside ++ ['\x7d']))
    (hname : vars (holeName inside) = some value) :
    renderAt vars offset (before ++ hole inside ++ after)
      = (renderAt vars (offset + byteLength before + byteLength (hole inside)) after).map
        (before ++ value.toList ++ ·) := by
  rw [renderAt, parts_hole hbefore hinside, fillAll, fillAll, Part.fill, Part.fill, hname, renderAt]
  cases fillAll vars (parts (offset + byteLength before + byteLength (hole inside)) after) with
  | error e => rfl
  | ok text => exact congrArg Except.ok (List.append_assoc ..).symm

end

end Egress.Template
