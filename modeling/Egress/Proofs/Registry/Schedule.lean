import Mathlib.Algebra.Ring.Nat
import Egress.Proofs.Registry.Isolation

/-!
# When refreshes are made

`s.Advances times x`: from the service `s` on, the clock moves forward and refreshes are made at the
`times`, each as soon as the clock stands where it is due or later; `x` is what comes of it. This is
how time passes, whether slept through or jumped over, and the two differ in where the clock stops:
at every time at which a refresh is due (`Awaits.sleep`), or at the end only (`Awaits.jump`). In
either case there is an interval between two refreshes at least (`Advances.spaced`). All this is for
a service whose clock can show the time an interval after its start; else nothing is ever refreshed
(`refreshes_on_schedule`).
-/

set_option autoImplicit false

namespace Egress

/-! ## Reports -/

/-- What follows a report depends on its value alone. -/
theorem Report.bind_congr {α β : Type} {x : Report α} {f g : α → Report β}
    (h : f x.value = g x.value) : x >>= f = x >>= g := by
  change (⟨(f x.value).value, x.asked ++ (f x.value).asked, x.notes ++ (f x.value).notes⟩ :
    Report β) = ⟨(g x.value).value, x.asked ++ (g x.value).asked, x.notes ++ (g x.value).notes⟩
  rw [h]

/-- A refresh asks for what the builds of all vendors ask for, in turn. -/
theorem Registry.asked_refresh (reg : Registry) (c : Config) (r : Resolver) :
    (reg.refresh c r).asked = reg.vendors.flatMap fun v => (c.build r v).asked := by
  have hchannels (channels : List (String × Channel Directory)) :
      (refreshChannels c r channels).asked =
        (Keyed.keys channels).flatMap fun v => (c.build r v).asked := by
    induction channels with
    | nil => rfl
    | cons entry channels ih =>
      obtain ⟨vendor, channel⟩ := entry
      rw [refreshChannels, Report.asked_bind, Keyed.keys, List.map_cons, List.flatMap_cons]
      congr 1
      split
      · exact (List.append_nil _).trans ih
      · exact (List.append_nil _).trans ih
  exact (List.append_nil _).trans (hchannels reg.channels)

namespace Service

/-- The service with its clock at another time. -/
def atTime (s : Service) (now : Nat) : Service :=
  { s with now }

/-! ## Refreshes at their times -/

/-- It is time for a refresh. -/
def Due (s : Service) : Prop :=
  ∃ due, s.refresher = .running due ∧ due ≤ s.now

/-- The clock moves forward, and at these times refreshes are made (module doc). -/
inductive Advances : Service → List Nat → Report Service → Prop
  | stays (s : Service) : Advances s [] (pure s)
  | waits {s : Service} {times : List Nat} {x : Report Service} (now : Nat) : ¬s.Due → s.now ≤ now →
      Advances (s.atTime now) times x → Advances s times x
  | refreshes {s : Service} {times : List Nat} {x : Report Service} : s.Due →
      Advances (s.round (s.now + s.interval)).value times x →
      Advances s (s.now :: times) (s.round (s.now + s.interval) >>= fun _ => x)

namespace Advances

variable {s : Service} {times times' : List Nat} {x : Report Service}

theorem trans {f : Service → Report Service} (h : s.Advances times x)
    (hf : x.value.Advances times' (f x.value)) : s.Advances (times ++ times') (x >>= f) := by
  induction h with
  | stays s =>
    rw [pure_bind]
    exact hf
  | waits now hdue hnow _ ih => exact .waits now hdue hnow (ih hf)
  | refreshes hdue _ ih =>
    rw [bind_assoc]
    exact .refreshes hdue (ih hf)

theorem round (h : s.Due) : s.Advances [s.now] (s.round (s.now + s.interval)) := by
  have hround := Advances.refreshes h (.stays _)
  rwa [show (s.round (s.now + s.interval) >>= fun _ => pure (s.round (s.now + s.interval)).value) =
    s.round (s.now + s.interval) from bind_pure _] at hround

theorem due_le {due : Nat} (h : s.Advances times x) (hs : s.refresher = .running due) :
    ∀ t ∈ times, due ≤ t := by
  induction h generalizing due with
  | stays s => exact fun _ ht => absurd ht List.not_mem_nil
  | waits now _ _ _ ih => exact ih hs
  | @refreshes s times x hdue _ ih =>
    obtain ⟨due', hs', hle⟩ := hdue
    obtain rfl : due' = due := Refresher.running.inj (hs'.symm.trans hs)
    rintro t (_ | ⟨_, ht⟩)
    · exact hle
    · exact Nat.le_trans (Nat.le_trans hle (Nat.le_add_right ..)) (ih rfl t ht)

/-- There is an interval between two refreshes at least. -/
theorem spaced (h : s.Advances times x) :
    times.Pairwise fun t t' => t + s.interval ≤ t' := by
  induction h with
  | stays s => exact .nil
  | waits now _ _ _ ih => exact ih
  | refreshes _ h ih => exact .cons (h.due_le rfl) ih

theorem interval_eq (h : s.Advances times x) : x.value.interval = s.interval := by
  induction h with
  | stays s => rfl
  | waits now _ _ _ ih => exact ih
  | refreshes _ _ ih => exact ih

/-- Every refresh is made for all vendors. -/
theorem registry_eq (h : s.Advances times x) :
    x.value.registry =
      s.registry.afterRounds (List.replicate times.length ⟨s.config, s.resolver⟩) := by
  induction h with
  | stays s => rfl
  | waits now _ _ _ ih => exact ih
  | refreshes _ _ ih => exact ih

theorem asked_eq (h : s.Advances times x) :
    x.asked = (List.replicate times.length
      (s.registry.vendors.flatMap fun v => (s.config.build s.resolver v).asked)).flatten := by
  induction h with
  | stays s => rfl
  | waits now _ _ _ ih => exact ih
  | @refreshes s times x _ _ ih =>
    have hround (due : Nat) : (s.round due).asked =
        s.registry.vendors.flatMap fun v => (s.config.build s.resolver v).asked := by
      simp only [Service.round, refresh, Report.asked_bind, Report.asked_pure, Report.asked_note,
        List.append_nil, Registry.asked_refresh]
    have hvendors : (s.round (s.now + s.interval)).value.registry.vendors = s.registry.vendors :=
      Registry.vendors_refresh ..
    rw [Report.asked_bind, hround, ih, hvendors, List.length_cons, List.replicate_succ,
      List.flatten_cons]
    rfl

end Advances

/-! ## Sleeping -/

/-- The service waits for its next refresh. -/
structure Awaits (s : Service) (due : Nat) : Prop where
  refresher : s.refresher = .running due
  ahead : s.now < due
  positive : 0 < s.interval

/-- How many of the times from `due` on, an interval apart, come by `finish`. -/
def roundsBy (due interval finish : Nat) : Nat :=
  (finish + interval - due) / interval

section
variable {due interval finish finish' : Nat}

theorem roundsBy_of_lt (hpos : 0 < interval) (h : finish < due) :
    roundsBy due interval finish = 0 :=
  Nat.div_eq_of_lt (by omega)

theorem roundsBy_of_le (hpos : 0 < interval) (h : due ≤ finish) :
    roundsBy due interval finish = roundsBy (due + interval) interval finish + 1 := by
  unfold roundsBy
  rw [← Nat.add_div_right _ hpos]
  congr 1
  omega

theorem roundsBy_add (h : finish ≤ finish') :
    roundsBy due interval finish +
        roundsBy (due + interval * roundsBy due interval finish) interval finish' =
      roundsBy due interval finish' := by
  have hle : roundsBy due interval finish ≤ roundsBy due interval finish' :=
    Nat.div_le_div_right (by omega)
  have hrest : roundsBy (due + interval * roundsBy due interval finish) interval finish' =
      roundsBy due interval finish' - roundsBy due interval finish := by
    rw [roundsBy, ← Nat.sub_sub, Nat.sub_mul_div, ← roundsBy]
  rw [hrest, Nat.add_sub_cancel' hle]

end

section
variable {s : Service} {due : Nat}

theorem Awaits.not_due (h : s.Awaits due) : ¬s.Due := by
  rintro ⟨due', hs, hle⟩
  obtain rfl : due' = due := Refresher.running.inj (hs.symm.trans h.refresher)
  exact absurd h.ahead (Nat.not_lt.2 hle)

/-- A refresh does not look at the clock. -/
theorem round_atTime (s : Service) (now next : Nat) :
    (s.atTime now).round next = s.round next >>= fun s => pure (s.atTime now) := by
  simp [round, refresh, atTime]

section
variable {finish : Nat} (hs : s.refresher = .running due)
include hs

theorem roundsUntil_of_lt (h : finish < due) (fuel : Nat) :
    roundsUntil finish fuel s = pure s := by
  cases fuel with
  | zero => rfl
  | succ fuel => simp [roundsUntil, hs, Nat.not_le.2 h]

theorem roundsUntil_of_le (h : due ≤ finish) (fuel : Nat) :
    roundsUntil finish (fuel + 1) s = s.round (due + s.interval) >>= roundsUntil finish fuel := by
  simp [roundsUntil, hs, h]

/-- Nor does the loop that makes the refreshes. -/
theorem roundsUntil_atTime (now fuel : Nat) :
    roundsUntil finish fuel (s.atTime now) =
      roundsUntil finish fuel s >>= fun s => pure (s.atTime now) := by
  induction fuel generalizing s due with
  | zero => rfl
  | succ fuel ih =>
    have hs' : (s.atTime now).refresher = .running due := hs
    rcases Nat.lt_or_ge finish due with hlt | hle
    · rw [roundsUntil_of_lt hs hlt, roundsUntil_of_lt hs' hlt, pure_bind]
    · rw [roundsUntil_of_le hs hle, roundsUntil_of_le hs' hle, round_atTime, bind_assoc, bind_assoc]
      exact Report.bind_congr ((pure_bind _ _).trans (ih rfl))

/-- With enough fuel it does not matter how much there is. -/
theorem roundsUntil_congr (hpos : 0 < s.interval) {fuel fuel' : Nat} (h : finish < due + fuel)
    (h' : finish < due + fuel') : roundsUntil finish fuel s = roundsUntil finish fuel' s := by
  induction fuel generalizing s due fuel' with
  | zero => rw [roundsUntil_of_lt hs h, roundsUntil_of_lt hs h]
  | succ fuel ih =>
    rcases Nat.lt_or_ge finish due with hlt | hle
    · rw [roundsUntil_of_lt hs hlt, roundsUntil_of_lt hs hlt]
    · obtain ⟨fuel', rfl⟩ : ∃ n, fuel' = n + 1 := ⟨fuel' - 1, by omega⟩
      rw [roundsUntil_of_le hs hle, roundsUntil_of_le hs hle]
      refine Report.bind_congr (ih rfl ?_ (?_ : _ < due + s.interval + _) ?_)
      · exact hpos
      · omega
      · omega

end

namespace Awaits

/-- A sleep in which no refresh is due. -/
theorem sleep_of_lt (h : s.Awaits due) {ms : Nat} (hlt : s.now + ms < due) :
    s.sleep ms = pure (s.atTime (s.now + ms)) := by
  rw [sleep, roundsUntil_of_lt h.refresher hlt, pure_bind]
  rfl

/-- A sleep goes up to the next refresh, and on from there. -/
theorem sleep_of_le (h : s.Awaits due) {ms : Nat} (hle : due ≤ s.now + ms) :
    s.sleep ms =
      (s.atTime due).round (due + s.interval) >>= fun s' => s'.sleep (s.now + ms - due) := by
  have hfinish : due + (s.now + ms - due) = s.now + ms := Nat.add_sub_cancel' hle
  have hnow := h.ahead
  rw [sleep, roundsUntil_of_le h.refresher hle, round_atTime, bind_assoc, bind_assoc]
  refine Report.bind_congr ?_
  -- both sides go on with the same loop: its fuel differs, but is enough, and so does the clock,
  -- which it leaves alone and which stands at the end of the sleep in either case
  have hdue : (s.round (due + s.interval)).value.refresher = .running (due + s.interval) := rfl
  have hfuel := roundsUntil_congr hdue h.positive
    (by omega : s.now + ms < due + s.interval + (s.now + ms - due + 1))
    (by omega : s.now + ms < due + s.interval + ms)
  rw [pure_bind, ← hfuel]
  change _ = roundsUntil (due + (s.now + ms - due)) (s.now + ms - due + 1)
    ((s.round (due + s.interval)).value.atTime due) >>= fun s' =>
      pure (s'.atTime (due + (s.now + ms - due)))
  rw [hfinish, roundsUntil_atTime hdue, bind_assoc]
  rfl

theorem atTime (h : s.Awaits due) {now : Nat} (hnow : now < due) : (s.atTime now).Awaits due :=
  ⟨h.refresher, hnow, h.positive⟩

/-- To show something of every sleep, show it of one in which no refresh is due, and of one in which
one is from what it goes on with. -/
@[elab_as_elim]
theorem sleep_induction {motive : Service → Nat → Nat → Prop}
    (short : ∀ {s : Service} {due ms : Nat}, s.Awaits due → s.now + ms < due →
      motive s due ms)
    (long : ∀ {s : Service} {due ms : Nat}, s.Awaits due → due ≤ s.now + ms →
      motive ((s.atTime due).round (due + s.interval)).value (due + s.interval)
        (s.now + ms - due) → motive s due ms)
    (h : s.Awaits due) (ms : Nat) : motive s due ms := by
  induction ms using Nat.strongRecOn generalizing s due with
  | ind ms ih =>
    have hahead := h.ahead
    have hpos := h.positive
    rcases Nat.lt_or_ge (s.now + ms) due with hlt | hle
    · exact short h hlt
    · -- what is left of the sleep is shorter, since the refresh was ahead
      refine long h hle (ih _ ?_ ⟨rfl, ?_, hpos⟩)
      · omega
      · exact Nat.lt_add_of_pos_right hpos

/-- A sleep goes through the times at which refreshes are due. -/
theorem sleep (h : s.Awaits due) (ms : Nat) :
    s.Advances (List.range' due (roundsBy due s.interval (s.now + ms)) s.interval) (s.sleep ms) ∧
      (s.sleep ms).value.Awaits (due + s.interval * roundsBy due s.interval (s.now + ms)) := by
  refine sleep_induction ?_ ?_ h ms
  · intro s due ms h hlt
    rw [h.sleep_of_lt hlt, roundsBy_of_lt h.positive hlt]
    exact ⟨.waits _ h.not_due (Nat.le_add_right ..) (.stays _), h.atTime hlt⟩
  · rintro s due ms h hle ⟨hadvances, hawaits⟩
    have hfinish : ((s.atTime due).round (due + s.interval)).value.now + (s.now + ms - due) =
        s.now + ms := Nat.add_sub_cancel' hle
    rw [hfinish] at hadvances hawaits
    rw [h.sleep_of_le hle, roundsBy_of_le h.positive hle, List.range'_succ]
    constructor
    · exact .waits due h.not_due (Nat.le_of_lt h.ahead)
        (.refreshes ⟨due, h.refresher, Nat.le_refl due⟩ hadvances)
    · have hnext (n : Nat) : due + s.interval * (n + 1) = due + s.interval + s.interval * n := by
        rw [Nat.mul_succ, Nat.add_right_comm, Nat.add_assoc]
      rw [hnext]
      exact hawaits

/-- Two sleeps are one. -/
theorem sleep_add (h : s.Awaits due) (a b : Nat) :
    (s.sleep a >>= fun s' => s'.sleep b) = s.sleep (a + b) := by
  refine sleep_induction ?_ ?_ h a
  · intro s due a h hlt
    have h' := h.atTime hlt
    rw [h.sleep_of_lt hlt, pure_bind]
    rcases Nat.lt_or_ge (s.now + a + b) due with hlt' | hle
    · have hsum : s.now + (a + b) < due := by omega
      rw [h.sleep_of_lt hsum, ← Nat.add_assoc]
      exact h'.sleep_of_lt hlt'
    · have hsum : due ≤ s.now + (a + b) := by omega
      rw [h.sleep_of_le hsum, ← Nat.add_assoc]
      exact h'.sleep_of_le hle
  · intro s due a h hle ih
    have hle' : due ≤ s.now + (a + b) := by omega
    have hrest : s.now + (a + b) - due = s.now + a - due + b := by omega
    rw [h.sleep_of_le hle, h.sleep_of_le hle', hrest, bind_assoc]
    exact Report.bind_congr ih

/-! ## Jumping -/

/-- A jump over times at which refreshes are due makes one at its end. -/
theorem jump_of_le (h : s.Awaits due) {ms : Nat} (hle : due ≤ s.now + ms) :
    s.Advances [s.now + ms] (s.jump ms) ∧
      (s.jump ms).value.Awaits (s.now + ms + s.interval) := by
  have hjump : s.jump ms = (s.atTime (s.now + ms)).round (s.now + ms + s.interval) := by
    simp [jump, Service.atTime, h.refresher, hle]
  rw [hjump]
  constructor
  · exact .waits (s.now + ms) h.not_due (Nat.le_add_right ..) (.round ⟨due, h.refresher, hle⟩)
  · exact ⟨rfl, Nat.lt_add_of_pos_right h.positive, h.positive⟩

theorem jump_of_lt (h : s.Awaits due) {ms : Nat} (hlt : s.now + ms < due) :
    s.jump ms = pure (s.atTime (s.now + ms)) := by
  simp [jump, Service.atTime, h.refresher, Nat.not_le.2 hlt]

end Awaits

end

/-! ## Sleeps and jumps in turn -/

/-- A way in which some seconds pass. -/
inductive Passage where
  | sleep (seconds : Nat)
  | jump (seconds : Nat)

/-- How many seconds pass. -/
def Passage.seconds : Passage → Nat
  | sleep n | jump n => n

/-- Some seconds pass. -/
def pass (s : Service) : Passage → Report Service
  | .sleep n => s.sleep (1000 * n)
  | .jump n => s.jump (1000 * n)

/-- Time passes in these ways, one after the other. -/
def passes (s : Service) : List Passage → Report Service
  | [] => pure s
  | p :: ps => s.pass p >>= fun s' => s'.passes ps

/-- When refreshes are made while some seconds pass. -/
def passTimes (s : Service) (p : Passage) : List Nat :=
  match s.refresher, p with
  | .running due, .sleep n =>
    List.range' due (roundsBy due s.interval (s.now + 1000 * n)) s.interval
  | .running due, .jump n => if due ≤ s.now + 1000 * n then [s.now + 1000 * n] else []
  | _, _ => []

/-- When refreshes are made while time passes in these ways, one after the other. -/
def passesTimes (s : Service) : List Passage → List Nat
  | [] => []
  | p :: ps => s.passTimes p ++ (s.pass p).value.passesTimes ps

section
variable {s : Service} {due : Nat}

theorem now_pass (s : Service) (p : Passage) : (s.pass p).value.now = s.now + 1000 * p.seconds := by
  cases p with
  | sleep n => rfl
  | jump n =>
    rw [pass, jump]
    split
    · split
      · rfl
      · rfl
    · rfl

theorem now_passes (s : Service) (ps : List Passage) :
    (s.passes ps).value.now = s.now + 1000 * (ps.map Passage.seconds).sum := by
  induction ps generalizing s with
  | nil => rfl
  | cons p ps ih =>
    rw [passes, Report.value_bind, ih, now_pass, List.map_cons, List.sum_cons, Nat.mul_add,
      Nat.add_assoc]

theorem Awaits.passTimes_sleep (h : s.Awaits due) (n : Nat) : s.passTimes (.sleep n) =
    List.range' due (roundsBy due s.interval (s.now + 1000 * n)) s.interval := by
  simp only [passTimes, h.refresher]

theorem Awaits.passTimes_jump (h : s.Awaits due) (n : Nat) : s.passTimes (.jump n) =
    if due ≤ s.now + 1000 * n then [s.now + 1000 * n] else [] := by
  simp only [passTimes, h.refresher]

theorem Awaits.pass (h : s.Awaits due) (p : Passage) :
    s.Advances (s.passTimes p) (s.pass p) ∧ ∃ next, (s.pass p).value.Awaits next := by
  cases p with
  | sleep n =>
    rw [h.passTimes_sleep]
    exact (h.sleep (1000 * n)).imp_right fun hnext => ⟨_, hnext⟩
  | jump n =>
    rw [h.passTimes_jump]
    rcases Nat.lt_or_ge (s.now + 1000 * n) due with hlt | hle
    · rw [Service.pass, h.jump_of_lt hlt, if_neg (Nat.not_le.2 hlt)]
      exact ⟨.waits _ h.not_due (Nat.le_add_right ..) (.stays _), _, h.atTime hlt⟩
    · rw [if_pos hle]
      exact (h.jump_of_le hle).imp_right fun hnext => ⟨_, hnext⟩

theorem Awaits.passes (h : s.Awaits due) (ps : List Passage) :
    s.Advances (s.passesTimes ps) (s.passes ps) ∧ ∃ next, (s.passes ps).value.Awaits next := by
  induction ps generalizing s due with
  | nil => exact ⟨.stays s, due, h⟩
  | cons p ps ih =>
    obtain ⟨hadvances, next, hawaits⟩ := h.pass p
    obtain ⟨hrest, last, hlast⟩ := ih hawaits
    exact ⟨hadvances.trans hrest, last, hlast⟩

/-- While the clock goes through all times, refreshes are made an interval apart. -/
theorem Awaits.passesTimes_sleep (h : s.Awaits due) (ns : List Nat) :
    s.passesTimes (ns.map .sleep) =
      List.range' due (roundsBy due s.interval (s.now + 1000 * ns.sum)) s.interval := by
  induction ns generalizing s due with
  | nil =>
    rw [List.sum_nil, Nat.mul_zero, Nat.add_zero, roundsBy_of_lt h.positive h.ahead]
    rfl
  | cons n ns ih =>
    obtain ⟨hadvances, hawaits⟩ := h.sleep (1000 * n)
    have hrest := ih hawaits
    have hnow : (s.sleep (1000 * n)).value.now = s.now + 1000 * n := rfl
    have hle : s.now + 1000 * n ≤ s.now + 1000 * (n + ns.sum) := by omega
    rw [hadvances.interval_eq, hnow, Nat.add_assoc, ← Nat.mul_add] at hrest
    rw [List.map_cons, passesTimes, h.passTimes_sleep, Service.pass, hrest, List.sum_cons,
      List.range'_append, roundsBy_add hle]

/-- Nothing happens any more once the refresher has ended. -/
theorem passes_of_ended (h : s.refresher = .ended) (ps : List Passage) :
    ∃ now, s.passes ps = pure (s.atTime now) := by
  induction ps generalizing s with
  | nil => exact ⟨s.now, rfl⟩
  | cons p ps ih =>
    have hpass : s.pass p = pure (s.atTime (s.now + 1000 * p.seconds)) := by
      cases p with
      | sleep n => simp [pass, sleep, roundsUntil, h, Passage.seconds, atTime]
      | jump n => simp [pass, jump, h, Passage.seconds, atTime]
    obtain ⟨now, hnow⟩ := ih (s := s.atTime (s.now + 1000 * p.seconds)) h
    exact ⟨now, by rw [passes, hpass, pure_bind, hnow]; rfl⟩

end

/-! ## The schedule -/

/-- What came of starting a service and letting time pass in some ways: `x`, with refreshes at the
`times`. -/
structure OnSchedule (s : Service) (ps : List Passage) (times : List Nat) (x : Report Service) :
    Prop where
  advances : s.start.Advances times x
  spaced : times.Pairwise fun t t' => t + s.interval ≤ t'
  /-- Sleeps, however long each is, leave out no refresh and delay none. -/
  slept : ∀ ns : List Nat, ps = ns.map .sleep →
    times = List.range' (s.now + s.interval) (1000 * ns.sum / s.interval) s.interval
  clock : x.value.now = s.now + 1000 * (ps.map Passage.seconds).sum
  interval : x.value.interval = s.interval
  /-- Every refresh was made for all vendors. -/
  registry : x.value.registry =
    s.registry.afterRounds (List.replicate times.length ⟨s.config, s.resolver⟩)
  asked : x.asked = (List.replicate times.length
    (s.registry.vendors.flatMap fun v => (s.config.build s.resolver v).asked)).flatten

/-- What comes next when a service waits for a refresh that is due at some time. -/
structure GoesOn (s : Service) (due : Nat) : Prop where
  split : ∀ a b, s.passes [.sleep a, .sleep b] = s.passes [.sleep (a + b)]
  /-- Of the refreshes missed in a jump one is made, at its end. -/
  late : ∀ n, due ≤ s.now + 1000 * n →
    s.Advances [s.now + 1000 * n] (s.pass (.jump n)) ∧
      (s.pass (.jump n)).value.Awaits (s.now + 1000 * n + s.interval)
  early : ∀ n, s.now + 1000 * n < due →
    s.pass (.jump n) = pure (s.atTime (s.now + 1000 * n))
  /-- Once it was cancelled nothing happens any more but that time passes. -/
  cancelled : s.cancel.refresher = .ended ∧ s.cancel.registry = s.registry.close ∧
    ∀ ps, ∃ now, s.cancel.passes ps = pure (s.cancel.atTime now)

theorem Awaits.goesOn {s : Service} {due : Nat} (h : s.Awaits due) : s.GoesOn due where
  split a b := by
    have hadd := h.sleep_add (1000 * a) (1000 * b)
    rw [← Nat.mul_add] at hadd
    simpa [Service.passes, Service.pass] using hadd
  late n hle := h.jump_of_le hle
  early n hlt := h.jump_of_lt hlt
  cancelled := by
    have hcancel : s.cancel = { s.stop with cancelled := true } := by
      rw [cancel, h.refresher]
    rw [hcancel]
    exact ⟨rfl, rfl, passes_of_ended rfl⟩

section
variable {s : Service}

theorem start_eq (hpos : 0 < s.interval) (hcancel : s.cancelled = false)
    (htime : s.clock + s.interval < clockEnd) :
    s.start = { s with refresher := .running (s.now + s.interval) } := by
  simp [start, hcancel, keepsTime, hpos, htime]

theorem start_awaits (hpos : 0 < s.interval) (hcancel : s.cancelled = false)
    (htime : s.clock + s.interval < clockEnd) : s.start.Awaits (s.now + s.interval) := by
  rw [start_eq hpos hcancel htime]
  exact ⟨rfl, Nat.lt_add_of_pos_right hpos, hpos⟩

theorem start_onSchedule (hpos : 0 < s.interval) (hcancel : s.cancelled = false)
    (htime : s.clock + s.interval < clockEnd) (ps : List Passage) :
    s.OnSchedule ps (s.start.passesTimes ps) (s.start.passes ps) := by
  have hstart := start_eq hpos hcancel htime
  have hinterval : s.start.interval = s.interval := by rw [hstart]
  have hnow : s.start.now = s.now := by rw [hstart]
  have hawaits := start_awaits hpos hcancel htime
  obtain ⟨hadvances, -⟩ := hawaits.passes ps
  refine
    { advances := hadvances
      spaced := hinterval ▸ hadvances.spaced
      slept := ?_
      clock := hnow ▸ now_passes s.start ps
      interval := hadvances.interval_eq.trans hinterval
      registry := by rw [hadvances.registry_eq, hstart]
      asked := by rw [hadvances.asked_eq, hstart] }
  rintro ns rfl
  rw [hawaits.passesTimes_sleep, hinterval, hnow, roundsBy]
  congr 2
  omega

end

/-- A service that is started makes its first refresh an interval later. From then on, as time
passes in sleeps and jumps of whole seconds, two refreshes are an interval apart at least, and
exactly if nothing is jumped over; every refresh is made for all vendors; it makes no difference
where a sleep is interrupted; and a jump makes up for all it missed with one refresh at its end, an
interval after which the next is due. Once it was cancelled the service makes no more. This takes a
clock that can show the time of the first refresh: else the refresher ends where it starts. -/
theorem refreshes_on_schedule {s : Service} {seconds : Nat} (hpos : 0 < seconds)
    (hinterval : s.interval = 1000 * seconds) (hcancel : s.cancelled = false) :
    (s.clock + s.interval < clockEnd → s.start.Awaits (s.now + s.interval) ∧
      ∀ ps, s.OnSchedule ps (s.start.passesTimes ps) (s.start.passes ps) ∧
        ∃ due, (s.start.passes ps).value.Awaits due ∧ (s.start.passes ps).value.GoesOn due) ∧
    (clockEnd ≤ s.clock + s.interval → s.start.refresher = .ended ∧
      ∀ ps, ∃ now, s.start.passes ps = pure (s.start.atTime now)) := by
  have hms : 0 < s.interval := by omega
  constructor
  · intro htime
    have hawaits := start_awaits hms hcancel htime
    refine ⟨hawaits, fun ps => ⟨start_onSchedule hms hcancel htime ps, ?_⟩⟩
    obtain ⟨-, due, hdue⟩ := hawaits.passes ps
    exact ⟨due, hdue, hdue.goesOn⟩
  · intro htime
    have hstart : s.start = s.stop := by simp [start, keepsTime, Nat.not_lt.2 htime]
    rw [hstart]
    exact ⟨rfl, passes_of_ended rfl⟩

theorem refreshes_on_schedule_sample :
    0 < 1 ∧ (sampleService sampleLost).interval = 1000 * 1 ∧
    (sampleService sampleLost).cancelled = false ∧
    (sampleService sampleLost).OnSchedule [.sleep 2, .jump 3, .sleep 1] [1000, 2000, 5000, 6000]
      ((sampleService sampleLost).start.passes [.sleep 2, .jump 3, .sleep 1]) := by
  have hpos : 0 < 1 := Nat.one_pos
  have hinterval : (sampleService sampleLost).interval = 1000 * 1 := rfl
  have hcancel : (sampleService sampleLost).cancelled = false := rfl
  have htimes : (sampleService sampleLost).start.passesTimes [.sleep 2, .jump 3, .sleep 1] =
      [1000, 2000, 5000, 6000] := rfl
  obtain ⟨hschedule, -⟩ := refreshes_on_schedule hpos hinterval hcancel
  obtain ⟨-, hall⟩ := hschedule (by decide)
  exact ⟨hpos, hinterval, hcancel, htimes ▸ (hall _).1⟩

/-- A service that is started ten seconds after its machine, with an interval that no clock can show
a second later. -/
def sampleEndless : Service :=
  { sampleService sampleComplete with
    clockStart := 1000 * 10, interval := 1000 * 9223372036854775807 }

/-- It awaits no refresh, and those who subscribed are told at once that there will be none. -/
theorem endless_awaits_nothing :
    sampleEndless.interval = 1000 * 9223372036854775807 ∧ sampleEndless.cancelled = false ∧
    ¬sampleEndless.start.Awaits (sampleEndless.now + sampleEndless.interval) ∧
    (sampleEndless.start.registry.poll? "acme" ⟨0⟩).map Prod.fst = some .closed := by
  refine ⟨rfl, rfl, fun h => ?_, rfl⟩
  have hended : sampleEndless.start.refresher = .ended := rfl
  exact absurd (hended.symm.trans h.refresher) nofun

end Service

end Egress
