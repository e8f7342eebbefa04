import Egress.Proofs.Template.Scan
import Egress.Proofs.Text.Trim

/-!
# Writing templates

A template can be written piece by piece: a text, a hole in one of its spellings, a text, and so on
(`written`). As long as the texts make no opening mark, neither alone nor with the hole behind them,
rendering what was written puts the values in the places of the holes and leaves everything else as
it is (`render_written`). Values are not looked at: they can be templates themselves.
-/

set_option autoImplicit false

namespace Egress.Template

open Text

/-- A hole as it is written: blanks around a name, and perhaps a dot in front of it with blanks of
its own behind it. -/
structure WrittenHole where
  name : String
  lead : String := ""
  /-- The blanks behind the dot, if there is one. -/
  dot : Option String := none
  tail : String := ""
  name_bare : Bare name.toList := by decide
  name_undotted : name.toList.head? ≠ some '.' := by decide
  name_unclosed : '\x7d' ∉ name.toList := by decide
  lead_blank : Blank lead.toList := by decide
  dot_blank : ∀ gap ∈ dot, Blank gap.toList := by decide
  tail_blank : Blank tail.toList := by decide

namespace WrittenHole

/-- What stands in front of the name. -/
def front (h : WrittenHole) : String :=
  match h.dot with
  | none => h.lead
  | some gap => h.lead ++ "." ++ gap

/-- What stands between the marks. -/
def inside (h : WrittenHole) : String :=
  h.front ++ h.name ++ h.tail

/-- The hole with its marks. -/
def text (h : WrittenHole) : String :=
  "\x7b\x7b" ++ h.inside ++ "\x7d\x7d"

theorem toList_text (h : WrittenHole) : h.text.toList = hole h.inside.toList := by
  rw [text, String.toList_append, String.toList_append]
  rfl

theorem not_mem_of_blank {cs : List Char} (h : Blank cs) : '\x7d' ∉ cs := by
  intro hm
  have hblank := h _ hm
  revert hblank
  decide

theorem not_mem_inside (h : WrittenHole) : '\x7d' ∉ h.inside.toList := by
  have hfront : '\x7d' ∉ h.front.toList := by
    unfold front
    split
    · exact not_mem_of_blank h.lead_blank
    · rename_i gap hdot
      rw [String.toList_append, String.toList_append, List.mem_append, List.mem_append]
      rintro ((hm | hm) | hm)
      · exact not_mem_of_blank h.lead_blank hm
      · exact absurd (List.mem_singleton.1 hm) (by decide)
      · exact not_mem_of_blank (h.dot_blank gap hdot) hm
  rw [inside, String.toList_append, String.toList_append, List.mem_append, List.mem_append]
  rintro ((hm | hm) | hm)
  · exact hfront hm
  · exact h.name_unclosed hm
  · exact not_mem_of_blank h.tail_blank hm

/-- Behind a dot the name is found again, also when it is empty. -/
theorem trim_dotted {gap name : List Char} (hgap : Blank gap) (hname : Bare name) :
    ∃ rest, trim ('.' :: (gap ++ name)) = '.' :: rest ∧ trim rest = name := by
  cases name with
  | nil =>
    refine ⟨[], ?_, rfl⟩
    have htrim : trim ([] ++ ['.'] ++ (gap ++ [])) = trim ['.'] :=
      trim_append (List.forall_mem_nil _) (by simpa using hgap)
    exact htrim
  | cons c name =>
    have hbare : Bare ('.' :: (gap ++ c :: name)) := by
      refine ⟨fun d hd => ?_, fun d hd => hname.2 d ?_⟩
      · obtain rfl := Option.some.inj hd
        decide
      · simpa [List.getLast?_cons, List.getLast?_append] using hd
    refine ⟨gap ++ c :: name, trim_of_bare hbare, ?_⟩
    have htrim : trim (gap ++ c :: name ++ []) = trim (c :: name) :=
      trim_append hgap (List.forall_mem_nil _)
    rwa [List.append_nil, trim_of_bare hname] at htrim

/-- However a hole is written, its name is found again. -/
theorem holeName_inside (h : WrittenHole) : holeName h.inside.toList = h.name := by
  have hinside : h.inside.toList = h.front.toList ++ h.name.toList ++ h.tail.toList := by
    rw [inside, String.toList_append, String.toList_append]
  cases hdot : h.dot with
  | none =>
    have hfront : h.front = h.lead := by rw [front, hdot]
    have htrim : trim h.inside.toList = h.name.toList := by
      rw [hinside, hfront, trim_append h.lead_blank h.tail_blank, trim_of_bare h.name_bare]
    rw [holeName, htrim]
    split
    · rename_i rest hname
      exact absurd (by rw [hname]; rfl) h.name_undotted
    · exact String.ofList_toList
  | some gap =>
    have hfront : h.front = h.lead ++ "." ++ gap := by rw [front, hdot]
    have hsplit : h.inside.toList
        = h.lead.toList ++ ('.' :: (gap.toList ++ h.name.toList)) ++ h.tail.toList := by
      simp [hinside, hfront, String.toList_append]
    obtain ⟨rest, hrest, hname⟩ := trim_dotted (h.dot_blank gap hdot) h.name_bare
    rw [holeName, hsplit, trim_append h.lead_blank h.tail_blank, hrest]
    simp only [hname]
    exact String.ofList_toList

end WrittenHole

/-- A hole, the value of its name, and the text behind it. -/
structure Piece where
  hole : WrittenHole
  value : String
  after : String

/-- A template, written as a text and pieces behind it. -/
def written (first : String) : List Piece → String
  | [] => first
  | p :: rest => first ++ p.hole.text ++ written p.after rest

/-- The text with the values in the places of the holes. -/
def filled (first : String) : List Piece → String
  | [] => first
  | p :: rest => first ++ p.value ++ filled p.after rest

/-- Rendering what was written gives the values between the texts. -/
theorem render_written {vars : Variables} {first : String} {pieces : List Piece}
    (hclear : ∀ text ∈ first :: pieces.map (·.after), ¬ Doubled '\x7b' text.toList)
    (hends : ∀ text ∈ (first :: pieces.map (·.after)).dropLast, text.toList.getLast? ≠ some '\x7b')
    (hvalues : ∀ p ∈ pieces, vars p.hole.name = some p.value) :
    render vars (written first pieces) = .ok (filled first pieces) := by
  have hat (offset : Nat) :
      renderAt vars offset (written first pieces).toList = .ok (filled first pieces).toList := by
    induction pieces generalizing first offset with
    | nil => exact renderAt_text (hclear first List.mem_cons_self)
    | cons p pieces ih =>
      have hfirst : ¬ Doubled '\x7b' (first.toList ++ ['\x7b']) := by
        rw [doubled_append_mark_iff, not_or]
        exact ⟨hclear first List.mem_cons_self, hends first List.mem_cons_self⟩
      have hname : vars (holeName p.hole.inside.toList) = some p.value := by
        rw [p.hole.holeName_inside]
        exact hvalues p List.mem_cons_self
      have hrest := ih (fun text ht => hclear text (List.mem_cons_of_mem _ ht))
        (fun text ht => hends text (List.mem_cons_of_mem _ ht))
        fun q hq => hvalues q (List.mem_cons_of_mem _ hq)
      rw [written, String.toList_append, String.toList_append, p.hole.toList_text,
        renderAt_filled hfirst (not_doubled_of_not_mem p.hole.not_mem_inside) hname, hrest, filled,
        String.toList_append, String.toList_append]
      rfl
  rw [render_eq, hat]
  exact congrArg Except.ok String.ofList_toList

/-- A value that is a template, and one that ends in a bracket. -/
def sampleValues : Variables :=
  .ofList [("Exit", "\x7b\x7bVendor\x7d\x7d"), ("Vendor", "é\x7d")]

/-- Two holes side by side, the second with brackets behind it. -/
def samplePieces : List Piece :=
  [⟨{ name := "Exit", lead := "\u2003", dot := some " " }, "\x7b\x7bVendor\x7d\x7d", ""⟩,
   ⟨{ name := "Vendor", tail := "\t" }, "é\x7d", "\x7d \x7b"⟩]

theorem render_written_sample :
    written "\x7b ü" samplePieces
        = "\x7b ü\x7b\x7b\u2003. Exit\x7d\x7d\x7b\x7bVendor\t\x7d\x7d\x7d \x7b" ∧
      render sampleValues (written "\x7b ü" samplePieces)
        = .ok "\x7b ü\x7b\x7bVendor\x7d\x7dé\x7d\x7d \x7b" :=
  ⟨by decide, render_written (by decide) (by decide) (by decide)⟩

end Egress.Template
