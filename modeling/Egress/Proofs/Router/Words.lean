import Egress.Proofs.Router.Shape
import Egress.Proofs.Text.Words
import Egress.Router.Access

/-!
# The words of a command

On this machine a command is cut at its blanks before anything of it is run (`Local.splits_iff`),
after the values have been filled in. The cut can be made in the shape already, where a value is a
piece in one place (`CommandShape.words`): values without blanks neither open a cut nor close one, so
every plain selection gets the same words with its own values inside (`selections_split_alike`).
Which program is run is no exception: where the first word has a value in it, it follows the
selection (`program_of_vendor`).
-/

set_option autoImplicit false

namespace Egress

open Text

/-! ## Values without blanks -/

/-- Has a character and no blanks. -/
def Solid (s : String) : Prop :=
  s ≠ "" ∧ ∀ c ∈ s.toList, isBlank c = false

instance (s : String) : Decidable (Solid s) :=
  decidable_of_iff (s ≠ "" ∧ s.toList.all (!isBlank ·) = true) (by simp [Solid])

/-- Is made of names without blanks. -/
structure Selection.Plain (s : Selection) : Prop where
  vendor : Solid s.vendor
  exit : Solid s.exit
  path_ne_nil : s.path ≠ []
  path : ∀ key ∈ s.path, Solid key

theorem Connectivity.label_solid (c : Connectivity) : Solid c.label := by
  cases c <;> decide

/-- Names without blanks have none when they are joined either. -/
theorem solid_intercalate {names : List String} (hne : names ≠ []) (h : ∀ n ∈ names, Solid n) :
    Solid ("/".intercalate names) := by
  induction names with
  | nil => exact absurd rfl hne
  | cons n names ih =>
    have hn : Solid n := h n List.mem_cons_self
    cases names with
    | nil => exact hn
    | cons m names =>
      obtain ⟨-, hrest⟩ := ih (by simp) fun k hk => h k (List.mem_cons_of_mem n hk)
      rw [String.intercalate_cons_cons]
      refine ⟨by simp, fun c hc => ?_⟩
      simp only [String.toList_append, List.mem_append] at hc
      rcases hc with (hc | hc) | hc
      · exact hn.2 c hc
      · obtain rfl : c = '/' := by simpa using hc
        rfl
      · exact hrest c hc

theorem CommandVariable.value_solid {t : Transport} {s : Selection} (ht : t.selection = some s)
    (hs : s.Plain) (v : CommandVariable) : Solid (v.value t) := by
  cases v with
  | vendor => simpa [value, ht] using hs.vendor
  | exit => simpa [value, ht] using hs.exit
  | connected => exact t.lastProbe.label_solid
  | exitPath => simpa [value, ht] using solid_intercalate hs.path_ne_nil hs.path

/-! ## Pieces -/

/-- A character of a template, or a value that takes the place of a hole. -/
inductive CommandPiece where
  | char (c : Char)
  | value (v : CommandVariable)
  deriving DecidableEq, Repr

namespace CommandPiece

/-- Is blank whatever the values are. -/
def isBlank : CommandPiece → Bool
  | char c => Text.isBlank c
  | value _ => false

/-- Is the same whatever the values are. -/
def Fixed : CommandPiece → Prop
  | char _ => True
  | value _ => False

def fill (t : Transport) : CommandPiece → List Char
  | char c => [c]
  | value v => (v.value t).toList

/-- The text of some pieces for a transport. -/
def fillAll (t : Transport) (pieces : List CommandPiece) : String :=
  String.ofList (pieces.flatMap (fill t))

theorem Fixed.fill_eq {p : CommandPiece} (h : p.Fixed) (t t' : Transport) :
    p.fill t = p.fill t' := by
  cases p with
  | char c => rfl
  | value v => exact h.elim

theorem fillAll_eq_of_fixed {pieces : List CommandPiece} (h : ∀ p ∈ pieces, p.Fixed)
    (t t' : Transport) : fillAll t pieces = fillAll t' pieces :=
  congrArg (fun css : List (List Char) => String.ofList css.flatten)
    (List.map_congr_left fun p hp => (h p hp).fill_eq t t')

end CommandPiece

namespace CommandShape

/-- The characters of the template outside of its holes, with a value for each hole. -/
def pieces : CommandShape → List CommandPiece
  | text cs _ => cs.map .char
  | hole before _ v _ _ _ after => before.map .char ++ .value v :: after.pieces

/-- The pieces that no blank of the template parts. -/
def words (shape : CommandShape) : List (List CommandPiece) :=
  wordsBy CommandPiece.isBlank shape.pieces

theorem filledChars_eq (t : Transport) (shape : CommandShape) :
    shape.filledChars t = shape.pieces.flatMap (CommandPiece.fill t) := by
  have hchars (cs : List Char) : (cs.map CommandPiece.char).flatMap (CommandPiece.fill t) = cs := by
    simp [List.flatMap_map, CommandPiece.fill]
  induction shape with
  | text cs clear => exact (hchars cs).symm
  | hole before inside v clear closed names after ih =>
    rw [filledChars, pieces, List.flatMap_append, List.flatMap_cons, hchars, ih, List.append_assoc]
    rfl

/-- Cutting after filling in is filling in after cutting. -/
theorem words_filled {t : Transport} {s : Selection} (ht : t.selection = some s) (hs : s.Plain)
    (shape : CommandShape) :
    (Text.words (shape.filled t).toList).map String.ofList
      = shape.words.map (CommandPiece.fillAll t) := by
  have hblank (p : CommandPiece) (hp : p.isBlank = true) :
      ∃ c, p.fill t = [c] ∧ isBlank c = true := by
    cases p with
    | char c => exact ⟨c, rfl, hp⟩
    | value v => cases hp
  have hsolid (p : CommandPiece) (hp : p.isBlank = false) :
      p.fill t ≠ [] ∧ ∀ c ∈ p.fill t, isBlank c = false := by
    cases p with
    | char c => exact ⟨List.cons_ne_nil c [], fun d hd => List.mem_singleton.1 hd ▸ hp⟩
    | value v =>
      obtain ⟨hne, hv⟩ := v.value_solid ht hs
      exact ⟨by simpa [CommandPiece.fill] using hne, hv⟩
  rw [filled, String.toList_ofList, filledChars_eq, words_flatMap hblank hsolid, List.map_map]
  rfl

end CommandShape

/-! ## Running a command -/

namespace Local

/-- What a command is run as: nothing at all, or a program with arguments. -/
def Splits (command : String) : List String → Prop
  | [] => run command = .done (.error .emptyCommand)
  | program :: args =>
    ∃ n k, run command = .ask (.note n) fun _ => .ask (.spawn program args) k

theorem Splits.unique {command : String} {ws ws' : List String} (h : Splits command ws)
    (h' : Splits command ws') : ws = ws' := by
  cases ws with
  | nil =>
    cases ws' with
    | nil => rfl
    | cons program' args' =>
      obtain ⟨n', k', h'⟩ := h'
      cases h.symm.trans h'
  | cons program args =>
    obtain ⟨n, k, h⟩ := h
    cases ws' with
    | nil => cases h.symm.trans h'
    | cons program' args' =>
      obtain ⟨n', k', h'⟩ := h'
      injection h.symm.trans h' with _ hspawn
      injection congrFun hspawn ((): Unit) with hspawn
      cases hspawn
      rfl

theorem splits_words (command : String) :
    Splits command ((Text.words command.toList).map String.ofList) := by
  cases hwords : (Text.words command.toList).map String.ofList with
  | nil =>
    simp only [Splits, run, hwords]
    rfl
  | cons program args =>
    simp only [Splits, run, hwords]
    exact ⟨_, _, rfl⟩

theorem splits_iff (command : String) (ws : List String) :
    Splits command ws ↔ (Text.words command.toList).map String.ofList = ws := by
  refine ⟨(splits_words command).unique, ?_⟩
  rintro rfl
  exact splits_words command

end Local

/-- A template that makes commands at all makes one for each of two plain selections, and these are
run as equally many words: the same characters of the template in every word, with the own values of
each selection between them. Words without a hole are the same, and there is nothing to run for the
one selection only if there is nothing to run for the other. -/
theorem selections_split_alike {template : String}
    (hrenders : ∃ u : Transport, ∃ command, u.command template = .ok command)
    {t t' : Transport} {s s' : Selection} (ht : t.selection = some s) (hs : s.Plain)
    (ht' : t'.selection = some s') (hs' : s'.Plain) :
    ∃ shape : CommandShape, shape.template = template ∧
      ∃ command command', t.command template = .ok command ∧ t'.command template = .ok command' ∧
        Local.Splits command (shape.words.map (CommandPiece.fillAll t)) ∧
        Local.Splits command' (shape.words.map (CommandPiece.fillAll t')) ∧
        (∀ w ∈ shape.words, (∀ p ∈ w, p.Fixed) →
          CommandPiece.fillAll t w = CommandPiece.fillAll t' w) ∧
        (Local.run command = .done (.error .emptyCommand) ↔
          Local.run command' = .done (.error .emptyCommand)) := by
  rcases Transport.commands_alike template with ⟨shape, hshape, hcommand⟩ | ⟨-, e, hfails⟩
  · have hsplits : Local.Splits (shape.filled t) (shape.words.map (CommandPiece.fillAll t)) :=
      (Local.splits_iff _ _).2 (shape.words_filled ht hs)
    have hsplits' : Local.Splits (shape.filled t') (shape.words.map (CommandPiece.fillAll t')) :=
      (Local.splits_iff _ _).2 (shape.words_filled ht' hs')
    -- a command is empty if its shape has no words
    have hempty (u : Transport)
        (hu : Local.Splits (shape.filled u) (shape.words.map (CommandPiece.fillAll u))) :
        Local.run (shape.filled u) = .done (.error .emptyCommand) ↔ shape.words = [] := by
      rw [← List.map_eq_nil_iff (f := CommandPiece.fillAll u), ← (Local.splits_iff _ _).1 hu]
      exact Local.splits_iff _ []
    exact ⟨shape, hshape, _, _, hcommand t, hcommand t', hsplits, hsplits',
      fun w _ hw => CommandPiece.fillAll_eq_of_fixed hw t t',
      (hempty t hsplits).trans (hempty t' hsplits').symm⟩
  · obtain ⟨u, command, hu⟩ := hrenders
    rw [hfails u] at hu
    cases hu

/-- A transport with a selection. -/
def Transport.selected (vendor exit : String) (path : List String) : Transport :=
  Transport.select { router := {} } vendor exit path

/-- Two values in one word. -/
theorem selections_split_alike_sample :
    ∃ command command' ws ws',
      (Transport.selected "acme" "a" ["us"]).command "vpn up {{ .Vendor }}-{{ .Exit }}"
        = .ok command ∧
      (Transport.selected "globex" "b" ["de", "fra"]).command "vpn up {{ .Vendor }}-{{ .Exit }}"
        = .ok command' ∧
      Local.Splits command ws ∧ Local.Splits command' ws' ∧ ws.length = ws'.length := by
  have hrenders : ∃ u : Transport, ∃ command,
      u.command "vpn up {{ .Vendor }}-{{ .Exit }}" = .ok command :=
    ⟨Transport.selected "acme" "a" ["us"], "vpn up acme-a", by decide +kernel⟩
  have hacme : (Transport.selected "acme" "a" ["us"]).selection = some ⟨"acme", "a", ["us"]⟩ := rfl
  have hglobex : (Transport.selected "globex" "b" ["de", "fra"]).selection
      = some ⟨"globex", "b", ["de", "fra"]⟩ := rfl
  obtain ⟨shape, -, command, command', hc, hc', hs, hs', -⟩ := selections_split_alike hrenders
    hacme ⟨by decide, by decide, by decide, by decide⟩
    hglobex ⟨by decide, by decide, by decide, by decide⟩
  exact ⟨command, command', _, _, hc, hc', hs, hs', by simp⟩

/-- The program is a word like every other: where a value makes it, each selection runs another. -/
theorem program_of_vendor :
    Selection.Plain ⟨"acme", "a", ["us"]⟩ ∧ Selection.Plain ⟨"globex", "a", ["us"]⟩ ∧
    (Transport.selected "acme" "a" ["us"]).command "{{ .Vendor }} status {{ .Exit }}"
      = .ok "acme status a" ∧
    (Transport.selected "globex" "a" ["us"]).command "{{ .Vendor }} status {{ .Exit }}"
      = .ok "globex status a" ∧
    Local.Splits "acme status a" ["acme", "status", "a"] ∧
    Local.Splits "globex status a" ["globex", "status", "a"] :=
  ⟨⟨by decide, by decide, by decide, by decide⟩, ⟨by decide, by decide, by decide, by decide⟩,
    by decide +kernel, by decide +kernel, (Local.splits_iff _ _).2 (by decide),
    (Local.splits_iff _ _).2 (by decide)⟩

end Egress
