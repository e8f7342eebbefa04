import Egress.Note

/-!
# Reports

A value together with what happened on the way to it: the hosts the name service was asked for and
the notes left, both in order. Reports are chained as a monad whose records add up
(`Report.asked_bind`, `Report.notes_bind`).
-/

set_option autoImplicit false

namespace Egress

/-- A value and the record of how it came about. -/
structure Report (α : Type) where
  value : α
  /-- Hosts the name service was asked for. -/
  asked : List String := []
  notes : List Note := []

namespace Report

variable {α β : Type}

instance : Monad Report where
  pure a := ⟨a, [], []⟩
  bind x f :=
    let y := f x.value
    ⟨y.value, x.asked ++ y.asked, x.notes ++ y.notes⟩

@[simp] theorem value_pure (a : α) : (pure a : Report α).value = a := rfl

@[simp] theorem asked_pure (a : α) : (pure a : Report α).asked = [] := rfl

@[simp] theorem notes_pure (a : α) : (pure a : Report α).notes = [] := rfl

@[simp] theorem value_bind (x : Report α) (f : α → Report β) :
    (x >>= f).value = (f x.value).value := rfl

@[simp] theorem asked_bind (x : Report α) (f : α → Report β) :
    (x >>= f).asked = x.asked ++ (f x.value).asked := rfl

@[simp] theorem notes_bind (x : Report α) (f : α → Report β) :
    (x >>= f).notes = x.notes ++ (f x.value).notes := rfl

instance : LawfulMonad Report := LawfulMonad.mk' _
  (fun x => by
    obtain ⟨v, a, n⟩ := x
    change (⟨v, a ++ [], n ++ []⟩ : Report _) = _
    simp)
  (fun a f => by
    change (⟨(f a).value, [] ++ (f a).asked, [] ++ (f a).notes⟩ : Report _) = _
    simp)
  (fun x f g => by
    change (⟨_, (x.asked ++ (f x.value).asked) ++ _, (x.notes ++ (f x.value).notes) ++ _⟩ :
      Report _) = _
    simp only [List.append_assoc]
    rfl)

/-- Leaves a note. -/
def note (level : Level) (topic : Topic) (text : String) : Report Unit :=
  ⟨(), [], [⟨level, topic, text⟩]⟩

@[simp] theorem asked_note (level : Level) (topic : Topic) (text : String) :
    (note level topic text).asked = [] := rfl

end Report

end Egress
