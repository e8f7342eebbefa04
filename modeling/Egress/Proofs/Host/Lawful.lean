import Egress.Proofs.Host.Filing
import Egress.Proofs.Host.Paths
import Egress.Proofs.Host.Run

/-!
# Files of a machine in memory

A machine in memory answers what has to do with its files as a machine may (`Host.lawful`). A new
file stands where nothing stood, because its name is longer than every name that looks like it
(`entryAt_of_fresh`). Paths lead to where they led for as long as only files come and go
(`filing_eq`).
-/

set_option autoImplicit false

namespace Egress.Host

namespace FileStore

variable {s s' : FileStore} {l : Location}

/-! ## Names that nothing has -/

theorem le_foldl_max (ns : List Nat) (start : Nat) :
    start ≤ ns.foldl max start ∧ ∀ n ∈ ns, n ≤ ns.foldl max start := by
  induction ns generalizing start with
  | nil => simp
  | cons m ns ih =>
    obtain ⟨hstart, hns⟩ := ih (max start m)
    refine ⟨Nat.le_trans (Nat.le_max_left start m) hstart, fun n hn => ?_⟩
    rcases List.mem_cons.1 hn with rfl | hn
    · exact Nat.le_trans (Nat.le_max_right start n) hstart
    · exact hns n hn

theorem freshName_toList (s : FileStore) :
    s.freshName.toList = '.' :: List.replicate (max 9 s.longestStaged) 't' := by
  simp [freshName]

theorem length_freshName (s : FileStore) :
    s.freshName.toList.length = max 9 s.longestStaged + 1 := by
  rw [freshName_toList, List.length_cons, List.length_replicate]

theorem freshName_isStaged (s : FileStore) : isStaged s.freshName = true := by
  simp [isStaged, freshName_toList]

theorem isName_freshName (s : FileStore) : isName (some s.freshName.toList) = true := by
  have hlength := s.length_freshName
  simp only [isName, Bool.and_eq_true, decide_eq_true_eq]
  constructor
  · intro h
    have : s.freshName.toList.length = 1 := by rw [h]; rfl
    omega
  · intro h
    have : s.freshName.toList.length = 2 := by rw [h]; rfl
    omega

/-- No entry has the fresh name on the way to it. -/
theorem freshName_not_mem {e : Location × Entry} (he : e ∈ s.entries) : s.freshName ∉ e.1 := by
  intro hmem
  have hle : s.freshName.length ≤ s.longestStaged := by
    refine (le_foldl_max _ 0).2 _ (List.mem_flatMap.2 ⟨e, he, ?_⟩)
    exact List.mem_map_of_mem (List.mem_filter.2 ⟨hmem, s.freshName_isStaged⟩)
  have hlength : s.freshName.length = max 9 s.longestStaged + 1 := by
    rw [← String.length_toList, s.length_freshName]
  omega

theorem child_eq_ok {dir : Location} {name : List Char} (h : child dir name = .ok l) :
    l = dir ++ [String.ofList name] := by
  simp only [child] at h
  split at h
  · cases h
  · exact (Except.ok.inj h).symm

theorem freshName_ne_nil (s : FileStore) : s.freshName.toList ≠ [] := by
  simp [freshName_toList]

theorem pieces_fresh (s : FileStore) (dir : String) :
    Text.pieces '/' (dir ++ "/" ++ s.freshName).toList
      = Text.pieces '/' dir.toList ++ [s.freshName.toList] := by
  have hslash : '/' ∉ s.freshName.toList := by simp [freshName_toList]
  rw [← Text.pieces_of_not_mem hslash, ← Text.pieces_append_mark]
  simp

/-- A fresh name leads to where nothing stands. -/
theorem entryAt_of_fresh {dir : String} (h : s.locate (dir ++ "/" ++ s.freshName) = .ok l) :
    s.entry? l = none := by
  obtain ⟨parent, -, hchild⟩ :=
    (locate_ok_iff (s.pieces_fresh dir) s.freshName_ne_nil s.isName_freshName).1 h
  obtain rfl := child_eq_ok hchild
  unfold entry?
  rw [if_neg (by simp), Keyed.get?_eq_none_iff]
  intro hmem
  obtain ⟨e, he, hl⟩ := List.mem_map.1 hmem
  exact freshName_not_mem he (by rw [hl]; simp)

/-! ## What is known of a store -/

/-- Where paths lead in a store, and what stands there. -/
def filing (s : FileStore) : Machine.Filing Location where
  place? path := (s.locate path).toOption
  stands? := s.entry?
  Changeable l := s.mayChange l.dropLast = .ok ()

theorem place?_eq_some_iff {path : String} :
    s.filing.place? path = some l ↔ s.locate path = .ok l := by
  simp only [filing]
  cases s.locate path <;> simp [Except.toOption]

/-- With the same directories, paths lead to the same locations. -/
theorem filing_eq (h : s.Keeps s') (h' : s'.Keeps s) :
    s'.filing = { s.filing with stands? := s'.entry? } := by
  have hplace : s'.filing.place? = s.filing.place? := by
    funext path
    refine Option.ext fun l => ?_
    rw [place?_eq_some_iff, place?_eq_some_iff]
    exact ⟨h'.locate, h.locate⟩
  have hchangeable : s'.filing.Changeable = s.filing.Changeable := by
    funext l
    exact propext ⟨h'.mayChange, h.mayChange⟩
  simp only [filing] at hplace hchangeable ⊢
  rw [hplace, hchangeable]

/-- No directory stands at a location. -/
def FreeOfDirectory (s : FileStore) (l : Location) : Prop :=
  ∀ m, s.entry? l ≠ some (.directory m)

/-- A location where no directory comes or goes is all that changes. -/
theorem filing_eq_put {e : Option Entry} (hcwd : s'.cwd = s.cwd)
    (hentry : s'.entry? = Function.update s.entry? l e) (hold : s.FreeOfDirectory l)
    (hnew : s'.FreeOfDirectory l) : s'.filing = s.filing.put l e := by
  have hothers (k : Location) (hk : k ≠ l) : s'.entry? k = s.entry? k := by
    rw [hentry, Function.update_of_ne hk]
  have hkeeps : s.Keeps s' := ⟨hcwd, fun k m hk => by
    rw [hothers k (by rintro rfl; exact hold m hk), hk]⟩
  have hkeeps' : s'.Keeps s := ⟨hcwd.symm, fun k m hk => by
    rw [← hothers k (by rintro rfl; exact hnew m hk), hk]⟩
  rw [filing_eq hkeeps hkeeps', hentry]
  rfl

theorem FreeOfDirectory.ne_nil (h : s.FreeOfDirectory l) : l ≠ [] := by
  rintro rfl
  exact h 0o555 rfl

theorem freeOfDirectory_of_none (h : s.entry? l = none) : s.FreeOfDirectory l := by
  intro m hm
  rw [h] at hm
  cases hm

theorem freeOfDirectory_of_file {content : List UInt8} {mode : Nat}
    (h : s.entry? l = some (.file content mode)) : s.FreeOfDirectory l := by
  intro m hm
  rw [h] at hm
  cases hm

theorem entryAt_put (hl : l ≠ []) (e : Entry) :
    entry? (s.put l e) = Function.update s.entry? l (some e) := by
  funext k
  unfold entry?
  by_cases hk : k = []
  · subst hk
    simp [Ne.symm hl]
  · simp [hk, put, Keyed.get?_set, Function.update_apply, eq_comm]

theorem entryAt_drop (hl : l ≠ []) : entry? (s.drop l) = Function.update s.entry? l none := by
  funext k
  have hget := Keyed.get?_filter (fun k => decide (k ≠ l)) k s.entries
  unfold entry?
  by_cases hk : k = []
  · subst hk
    simp [Ne.symm hl]
  · simp only [if_neg hk, drop, hget, Function.update_apply]
    by_cases hkl : k = l <;> simp [hkl]

theorem filing_put (h : s.FreeOfDirectory l) (content : List UInt8) (mode : Nat) :
    (s.put l (.file content mode)).filing = s.filing.put l (some (.file content mode)) := by
  have hentry := entryAt_put (s := s) h.ne_nil (.file content mode)
  have hnew : entry? (s.put l (.file content mode)) l = some (.file content mode) := by
    rw [hentry, Function.update_self]
  exact filing_eq_put rfl hentry h (freeOfDirectory_of_file hnew)

theorem filing_drop (h : s.FreeOfDirectory l) : (s.drop l).filing = s.filing.put l none := by
  have hentry := entryAt_drop (s := s) h.ne_nil
  have hnew : entry? (s.drop l) l = none := by
    rw [hentry, Function.update_self]
  exact filing_eq_put rfl hentry h (freeOfDirectory_of_none hnew)

/-! ## Changing a file -/

theorem createIn_eq_ok {dir path : String} (h : s.createIn dir = .ok (s', path)) :
    ∃ l, s.locate path = .ok l ∧ s.entry? l = none ∧ s.mayChange l.dropLast = .ok () ∧
      s' = s.put l (.file [] 0o600) := by
  obtain ⟨l, hl, h⟩ := bind_eq_ok.1 h
  obtain ⟨u, hchange, h⟩ := bind_eq_ok.1 h
  injection h with h
  injection h with hs hpath
  subst hs hpath
  exact ⟨l, hl, entryAt_of_fresh hl, hchange, rfl⟩

section
variable {path : String} {content : List UInt8} {mode : Nat}

theorem lookup_eq {e : Entry} (hl : s.locate path = .ok l) (he : s.entry? l = some e) :
    s.lookup path = .ok (l, e) := by
  simp only [lookup, hl, bind, Except.bind, he]

variable (hl : s.locate path = .ok l) (he : s.entry? l = some (.file content mode))
include hl he

theorem append_file (bytes : List UInt8) :
    s.append path bytes = .ok (s.put l (.file (content ++ bytes) mode)) := by
  simp only [append, lookup_eq hl he, bind, Except.bind]

theorem setMode_file (mode' : Nat) :
    s.setMode path mode' = .ok (s.put l (.file content (mode' % 0o10000))) := by
  simp only [setMode, lookup_eq hl he, bind, Except.bind]

theorem remove_file (hchange : s.mayChange l.dropLast = .ok ()) : s.remove path = s.drop l := by
  simp only [remove, unlink, lookup_eq hl he, bind, Except.bind, hchange]
  rfl

/-- A path that leads to a file ends in its name. -/
theorem pieces_of_file : ∃ ps p, Text.pieces '/' path.toList = ps ++ [p] ∧ p ≠ [] := by
  have hps := List.dropLast_concat_getLast (Text.pieces_ne_nil '/' path.toList)
  refine ⟨_, _, hps.symm, fun hnil => ?_⟩
  obtain ⟨⟨start, ps⟩, hbegun, hfollow⟩ := bind_eq_ok.1 hl
  obtain ⟨rfl, -⟩ := pieces_of_begin? hbegun
  rw [hnil] at hps
  dsimp only at hfollow
  rw [← hps, follow_append_ok_iff] at hfollow
  obtain ⟨b, -, hb⟩ := hfollow
  obtain ⟨⟨m, hm⟩, hb⟩ := (follow_empty_ok_iff ..).1 hb
  obtain rfl : b = l := Except.ok.inj hb
  exact freeOfDirectory_of_file he m hm

end

theorem lookup_eq_ok {path : String} {e : Entry} (h : s.lookup path = .ok (l, e)) :
    s.locate path = .ok l ∧ s.entry? l = some e := by
  obtain ⟨k, hk, h⟩ := bind_eq_ok.1 h
  cases he : s.entry? k with
  | none =>
    rw [he] at h
    cases h
  | some e' =>
    rw [he] at h
    obtain ⟨rfl, rfl⟩ := Prod.mk.inj (Except.ok.inj h)
    exact ⟨hk, he⟩

theorem readText_eq_ok {path text : String} (h : s.readText path = .ok text) :
    s.filing.Holds path text := by
  obtain ⟨⟨bytes, mode⟩, hread, h⟩ := bind_eq_ok.1 h
  obtain ⟨l, mode', hlookup⟩ : ∃ l mode', s.lookup path = .ok (l, .file bytes mode') := by
    unfold read at hread
    split at hread
    · next l content mode' hlookup =>
      split at hread
      · obtain ⟨rfl, rfl⟩ := Prod.mk.inj (Except.ok.inj hread)
        exact ⟨l, _, hlookup⟩
      · cases hread
    · cases hread
    · cases hread
  obtain ⟨hl, he⟩ := lookup_eq_ok hlookup
  refine ⟨l, bytes, mode', place?_eq_some_iff.2 hl, he, ?_⟩
  cases hdecode : Text.decode? bytes with
  | none =>
    simp only [hdecode] at h
    cases h
  | some text' =>
    simp only [hdecode] at h
    exact congrArg some (Except.ok.inj h)

theorem remove_missing {path : String} (hl : s.locate path = .ok l) (he : s.entry? l = none) :
    s.remove path = s := by
  simp only [remove, unlink, lookup, hl, bind, Except.bind, he]

/-! ## Taking the place of another file -/

/-- What is renamed stands where the one path leads, and its place is where the other one does. -/
theorem rename_eq_ok {source destination : String} (h : s.rename source destination = .ok s') :
    ∃ sourceDir p targetDir q l e target, s.holder source = .ok (sourceDir, some p) ∧
      isName (some p) = true ∧ child sourceDir p = .ok l ∧ s.entry? l = some e ∧
      s.holder destination = .ok (targetDir, some q) ∧ isName (some q) = true ∧
      child targetDir q = .ok target ∧ (e.isDirectory = false → endsInSlash destination = false) ∧
      s.replace l e target = .ok s' := by
  obtain ⟨⟨sourceDir, sourceName⟩, hsource, h⟩ := bind_eq_ok.1 h
  obtain ⟨⟨targetDir, targetName⟩, htarget, h⟩ := bind_eq_ok.1 h
  dsimp only at h
  split at h
  · cases h
  next hnames =>
  simp only [Bool.or_eq_true, Bool.not_eq_true', not_or, Bool.not_eq_false] at hnames
  obtain ⟨p, rfl⟩ : ∃ p, sourceName = some p :=
    Option.ne_none_iff_exists'.1 (by rintro rfl; cases hnames.1)
  obtain ⟨q, rfl⟩ : ∃ q, targetName = some q :=
    Option.ne_none_iff_exists'.1 (by rintro rfl; cases hnames.2)
  obtain ⟨l, hl, h⟩ := bind_eq_ok.1 h
  split at h
  · cases h
  next e he =>
  obtain ⟨target, hplace, h⟩ := bind_eq_ok.1 h
  split at h
  · cases h
  next hslash =>
  split at h
  · cases h
  split at h
  · cases h
  refine ⟨sourceDir, p, targetDir, q, l, e, target, hsource, hnames.1, hl, he, htarget, hnames.2,
    hplace, fun hfile => ?_, h⟩
  simp only [hfile, Bool.not_false, Bool.true_and, Bool.or_eq_true, not_or] at hslash
  exact Bool.not_eq_true _ ▸ hslash.2

/-- A file takes the place of a file or of nothing. -/
theorem replace_file_eq_ok {content : List UInt8} {mode : Nat} {target : Location}
    (hne : l ≠ target) (h : s.replace l (.file content mode) target = .ok s') :
    s.FreeOfDirectory target ∧ s' = (s.drop l).put target (.file content mode) := by
  unfold replace at h
  rw [if_neg hne] at h
  obtain ⟨-, -, h⟩ := bind_eq_ok.1 h
  obtain ⟨-, -, h⟩ := bind_eq_ok.1 h
  obtain ⟨u, hreplaces, h⟩ := bind_eq_ok.1 h
  refine ⟨fun m hm => ?_, (Except.ok.inj h).symm⟩
  rw [hm] at hreplaces
  cases hreplaces

theorem replace_file_filing {content : List UInt8} {mode : Nat} {target : Location}
    (he : s.entry? l = some (.file content mode))
    (h : s.replace l (.file content mode) target = .ok s') :
    s'.filing = (s.filing.put l none).put target (some (.file content mode)) := by
  by_cases hne : l = target
  · subst hne
    have hs : s' = s := by
      rw [replace, if_pos rfl] at h
      exact (Except.ok.inj h).symm
    have hentry : s.filing.stands? l = some (.file content mode) := he
    rw [hs, Machine.Filing.put_put, ← hentry, Machine.Filing.put_stands?]
  · obtain ⟨hfree, rfl⟩ := replace_file_eq_ok hne h
    have hl := freeOfDirectory_of_file he
    have htarget : (s.drop l).FreeOfDirectory target := by
      intro m
      rw [entryAt_drop hl.ne_nil, Function.update_of_ne (Ne.symm hne)]
      exact hfree m
    rw [filing_put htarget, filing_drop hl]

/-- A renamed file is where the other path leads, and nowhere else. -/
theorem rename_file {source destination : String} {content : List UInt8} {mode : Nat}
    (hl : s.locate source = .ok l) (he : s.entry? l = some (.file content mode))
    (h : s.rename source destination = .ok s') : ∃ target, s.locate destination = .ok target ∧
      s'.filing = (s.filing.put l none).put target (some (.file content mode)) := by
  obtain ⟨sourceDir, p, targetDir, q, l', e, target, hsource, hp, hl', he', hdest, hq, htarget,
    hfile, hreplace⟩ := rename_eq_ok h
  obtain ⟨ps, p', hpieces, hp'⟩ := pieces_of_file hl he
  obtain ⟨hpp, -⟩ := (holder_ok_iff hpieces hp').1 hsource
  obtain rfl := Option.some.inj hpp
  have hlocate := (locate_ok_iff hpieces hp' hp).2 ⟨_, hsource, hl'⟩
  obtain rfl : l' = l := Except.ok.inj (hlocate.symm.trans hl)
  obtain rfl : e = .file content mode := Option.some.inj (he'.symm.trans he)
  refine ⟨target, ?_, replace_file_filing he hreplace⟩
  obtain ⟨begun, hbegun, -⟩ := bind_eq_ok.1 hdest
  obtain ⟨qs, q', hpieces', hq'⟩ :=
    pieces_of_not_endsInSlash (pieces_of_begin? hbegun).2 (hfile rfl)
  obtain ⟨hqq, -⟩ := (holder_ok_iff hpieces' hq').1 hdest
  obtain rfl := Option.some.inj hqq
  exact (locate_ok_iff hpieces' hq' hq).2 ⟨_, hdest, htarget⟩

end FileStore

/-! ## The machine -/

/-- What is known of the files of a machine in memory. -/
def filing (h : Host) : Machine.Filing Location :=
  h.files.filing

open FileStore Handler

/-- A change of the files is seen in what is known of them. -/
theorem change_cases (f : FileStore → Except Fault FileStore) (h : Host) :
    (∃ fault, answer.change f h = (.error fault, h)) ∨
    ∃ files, f h.files = .ok files ∧ answer.change f h = (.ok (), { h with files }) := by
  rw [change_eq]
  cases hf : f h.files with
  | error fault => exact .inl ⟨fault, rfl⟩
  | ok files => exact .inr ⟨files, rfl, rfl⟩

theorem lawful : Machine.Lawful answer filing := by
  intro h q
  have hrefused {q : Machine.Request} (fault : Fault) {r : Machine.Reply q}
      (hr : Machine.refusal? q fault = some r) : (filing h).Answers q r (filing h) :=
    Machine.Filing.answers_of_refusal? _ hr
  cases q with
  | create dir =>
    refine Machine.answers_of_run filing (answer_create dir h) ?_
    cases hcreate : h.files.createIn dir with
    | error fault => exact hrefused fault rfl
    | ok created =>
      obtain ⟨files, path⟩ := created
      obtain ⟨l, hl, he, hchange, rfl⟩ := createIn_eq_ok hcreate
      exact ⟨l, place?_eq_some_iff.2 hl, he, hchange,
        filing_put (freeOfDirectory_of_none he) [] 0o600⟩
  | append path content =>
    rcases change_cases (fun files => files.append path (Text.encode content)) h with
      ⟨fault, hrun⟩ | ⟨files, hfiles, hrun⟩
    · exact Machine.answers_of_run filing hrun (hrefused fault rfl)
    · refine Machine.answers_of_run filing hrun fun l bytes mode hl he => ?_
      obtain rfl := Except.ok.inj
        (hfiles.symm.trans (append_file (place?_eq_some_iff.1 hl) he (Text.encode content)))
      exact filing_put (freeOfDirectory_of_file he) ..
  | flush path =>
    refine Machine.answers_of_run filing rfl fun l bytes mode _ he => ?_
    rw [← he, Machine.Filing.put_stands?]
  | setMode path bits =>
    rcases change_cases (fun files => files.setMode path bits) h with
      ⟨fault, hrun⟩ | ⟨files, hfiles, hrun⟩
    · exact Machine.answers_of_run filing hrun (hrefused fault rfl)
    · refine Machine.answers_of_run filing hrun fun l bytes mode hl he => ?_
      obtain rfl := Except.ok.inj
        (hfiles.symm.trans (setMode_file (place?_eq_some_iff.1 hl) he bits))
      exact filing_put (freeOfDirectory_of_file he) ..
  | rename source destination =>
    rcases change_cases (fun files => files.rename source destination) h with
      ⟨fault, hrun⟩ | ⟨files, hfiles, hrun⟩
    · exact Machine.answers_of_run filing hrun (hrefused fault rfl)
    · refine Machine.answers_of_run filing hrun fun l bytes mode hl he => ?_
      obtain ⟨target, htarget, hfiling⟩ := rename_file (place?_eq_some_iff.1 hl) he hfiles
      exact ⟨target, place?_eq_some_iff.2 htarget, hfiling⟩
  | remove path =>
    have hrun : (answer (.remove path)).run h = ((), { h with files := h.files.remove path }) := rfl
    refine Machine.answers_of_run filing hrun fun l hl => ⟨fun he => ?_, ?_⟩
    · simp only [filing, remove_missing (place?_eq_some_iff.1 hl) he]
    · intro bytes mode he hchange
      simp only [filing, remove_file (place?_eq_some_iff.1 hl) he hchange]
      exact filing_drop (freeOfDirectory_of_file he)
  | readText path =>
    have hrun : (answer (.readText path)).run h = (h.files.readText path, h) := rfl
    refine Machine.answers_of_run filing hrun ?_
    cases hread : h.files.readText path with
    | error fault => exact hrefused fault rfl
    | ok text => exact ⟨readText_eq_ok hread, rfl⟩
  | note n => rfl
  | _ => trivial

end Egress.Host
