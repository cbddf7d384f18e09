/-
  GuestPorts/Proofs/Disk/Paths.lean
  =================================
  **Where the paths beside a path lead**: that of its lock, and that of its directory.

  All three begin with the same names (`Path.exists_front_name`), so where one of them leads
  to says where the others do.  The lock is never what the path itself leads to
  (`Disk.exists_locate_of_lock`), and the directory of a path that leads to a file is there
  (`Disk.hasDirectory_of_find`).  Neither is plain for paths that end in a slash or in a dot.
-/
import GuestPorts.Proofs.Disk.Files
import Mathlib.Data.List.Induction

namespace GuestPorts

/-! ### Paths as texts -/

namespace Path

def piecesOf (cs : List Char) : List String :=
  ((Text.splitAt '/' cs).filter (· ≠ [])).map String.ofList

theorem piecesOf_append_slash (front rest : List Char) :
    piecesOf (front ++ '/' :: rest) = piecesOf front ++ piecesOf rest := by
  simp [piecesOf, Text.splitAt_append]

theorem piecesOf_of_notMem {name : List Char} (h : '/' ∉ name) (hne : name ≠ []) :
    piecesOf name = [String.ofList name] := by
  simp [piecesOf, Text.splitAt_of_notMem h, hne]

/-- A front of a path is nothing, or ends with a slash. -/
def IsFront (front : List Char) : Prop := front = [] ∨ ∃ before, front = before ++ ['/']

theorem piecesOf_concat_slash (cs : List Char) : piecesOf (cs ++ ['/']) = piecesOf cs :=
  (piecesOf_append_slash cs []).trans (List.append_nil _)

theorem piecesOf_front_append {front : List Char} (h : IsFront front) (name : List Char) :
    piecesOf (front ++ name) = piecesOf front ++ piecesOf name := by
  rcases h with rfl | ⟨before, rfl⟩
  · rfl
  · rw [List.append_assoc, List.singleton_append, piecesOf_append_slash, piecesOf_concat_slash]

/-- What stands behind the last slash of a path, and what stands in front of it. -/
theorem exists_front_name (cs : List Char) :
    ∃ front name, cs = front ++ name ∧ IsFront front ∧ '/' ∉ name := by
  induction cs using List.reverseRecOn with
  | nil => exact ⟨[], [], rfl, .inl rfl, nofun⟩
  | append_singleton cs c ih =>
    by_cases hc : c = '/'
    · exact ⟨cs ++ [c], [], (List.append_nil _).symm, .inr ⟨cs, by rw [hc]⟩, nofun⟩
    · obtain ⟨front, name, rfl, hfront, hname⟩ := ih
      refine ⟨front, name ++ [c], List.append_assoc _ _ _, hfront, ?_⟩
      simp [hname, Ne.symm hc]

theorem pieces_eq {path : String} {front name : List Char} (hpath : path.toList = front ++ name)
    (hfront : IsFront front) : pieces path = piecesOf front ++ piecesOf name := by
  rw [← piecesOf_front_append hfront, ← hpath]
  rfl

/-- The lock's name is the path's with an ending. -/
theorem pieces_lockBeside {path : String} {front name : List Char}
    (hpath : path.toList = front ++ name) (hfront : IsFront front) (hname : '/' ∉ name) :
    pieces (lockBeside path) = piecesOf front ++ [String.ofList (name ++ ".lock".toList)] := by
  have hlock : (lockBeside path).toList = front ++ (name ++ ".lock".toList) := by
    rw [lockBeside, String.toList_append, hpath, List.append_assoc]
  have hnotMem : '/' ∉ name ++ ".lock".toList := by
    rw [List.mem_append, not_or]
    exact ⟨hname, by decide⟩
  rw [pieces_eq hlock hfront, piecesOf_of_notMem hnotMem (by simp)]

theorem isAbsolute_of_pieces_eq_nil {path : String} (hne : path.toList ≠ [])
    (h : pieces path = []) : isAbsolute path = true := by
  unfold isAbsolute
  unfold pieces at h
  cases hpath : path.toList with
  | nil => exact absurd hpath hne
  | cons c r =>
    by_cases hc : c = '/'
    · simp [hc]
    · rw [hpath, Text.splitAt, if_neg hc] at h
      cases hr : Text.splitAt '/' r with
      | nil => exact absurd hr (Text.splitAt_ne_nil '/' r)
      | cons piece rest => simp [hr] at h

theorem isAbsolute_of_begins {path path' : String} (hne : path.toList ≠ [])
    (h : path.toList <+: path'.toList) : isAbsolute path' = isAbsolute path := by
  obtain ⟨back, hback⟩ := h
  unfold isAbsolute
  rw [← hback]
  cases hpath : path.toList with
  | nil => exact absurd hpath hne
  | cons c r => rfl

/-- A part of the path stays, from its beginning on. -/
theorem dropTrailing_suffix {cs : List Char} (hne : cs ≠ []) :
    dropTrailing cs ≠ [] ∧ dropTrailing cs <:+ cs := by
  fun_induction dropTrailing cs with
  | case1 => exact ⟨hne, List.suffix_refl _⟩
  | case2 => exact ⟨nofun, ['.'], rfl⟩
  | case3 r hr ih => exact (ih hr).imp_right fun h => h.trans (List.suffix_cons _ _)
  | case4 r hr ih => exact (ih nofun).imp_right fun h => h.trans (List.suffix_cons _ _)
  | case5 cs => exact ⟨hne, List.suffix_refl _⟩

theorem dropTrailing_eq_self {cs : List Char} (hslash : cs.head? ≠ some '/')
    (hdot : ∀ r, cs ≠ '.' :: '/' :: r) : dropTrailing cs = cs := by
  unfold dropTrailing
  split
  · rfl
  · exact absurd rfl (hdot [])
  · exact absurd rfl hslash
  · next r _ => exact absurd rfl (hdot r)
  · rfl

/-- Nothing is dropped behind a name. -/
theorem dropTrailing_of_name (front : List Char) {name : List Char} (hname : '/' ∉ name)
    (hne : name ≠ []) (hdot : name ≠ ['.']) :
    dropTrailing (name.reverse ++ front) = name.reverse ++ front ∧
      (name.reverse ++ front).head? ≠ some '/' := by
  have hmem : ∀ c, c ∈ name.reverse → c ≠ '/' := by
    rintro c hc rfl
    exact hname (List.mem_reverse.1 hc)
  have hdot' : name.reverse ≠ ['.'] := fun h => hdot (List.reverse_eq_iff.1 h)
  have hne' : name.reverse ≠ [] := mt List.reverse_eq_nil_iff.1 hne
  generalize name.reverse = last at hmem hdot' hne'
  cases last with
  | nil => exact absurd rfl hne'
  | cons c r =>
    have hslash : (c :: r ++ front).head? ≠ some '/' := by
      simpa using hmem c List.mem_cons_self
    refine ⟨dropTrailing_eq_self hslash ?_, hslash⟩
    intro rest heq
    obtain ⟨rfl, hrest⟩ := List.cons.inj heq
    cases r with
    | nil => exact hdot' rfl
    | cons x r =>
      obtain ⟨rfl, -⟩ := List.cons.inj hrest
      exact hmem '/' (List.mem_cons_of_mem _ List.mem_cons_self) rfl

/-- The directory of a path is what stands in front of its name. -/
theorem directory_eq {path : String} {front name : List Char} (hpath : path.toList = front ++ name)
    (hfront : IsFront front) (hname : '/' ∉ name) (hne : name ≠ []) (hdot : name ≠ ['.']) :
    directory path
      = if front = [] then "." else String.ofList (dropTrailing front.reverse).reverse := by
  have hdrop : (name.reverse ++ front.reverse).dropWhile (· ≠ '/') = front.reverse := by
    have hall : ∀ c ∈ name.reverse, decide (c ≠ '/') = true := by
      intro c hc
      rw [decide_eq_true_eq]
      rintro rfl
      exact hname (List.mem_reverse.1 hc)
    rw [List.dropWhile_append_of_pos hall]
    rcases hfront with rfl | ⟨before, rfl⟩
    · rfl
    · simp
  obtain ⟨htrailing, hslash⟩ := dropTrailing_of_name front.reverse hname hne hdot
  have hparent : parent? path
      = some (if front = [] then "" else String.ofList (dropTrailing front.reverse).reverse) := by
    unfold parent?
    rw [hpath, List.reverse_append, htrailing]
    split
    · next h => exact absurd (List.append_eq_nil_iff.1 h).1 (mt List.reverse_eq_nil_iff.1 hne)
    · next h => exact absurd (congrArg List.head? h) hslash
    · rw [hdrop]
      split
      · next h => rw [if_pos (List.reverse_eq_nil_iff.1 h)]
      · next h => rw [if_neg (mt List.reverse_eq_nil_iff.2 h)]
  unfold directory
  rw [hparent]
  simp only
  by_cases hempty : front = []
  · rw [if_pos hempty, if_pos hempty]
    rfl
  · have hkept := (dropTrailing_suffix (mt List.reverse_eq_nil_iff.1 hempty)).1
    rw [if_neg hempty, if_neg hempty, if_neg (by simpa using hkept)]

end Path

namespace Disk

variable {d : Disk} {path : String}

/-! ### Walking and locating -/

theorem walk_append (d : Disk) (place : Place) (front rest : List String) :
    d.walk place (front ++ rest) = (d.walk place front >>= fun q => d.walk q rest) := by
  induction front generalizing place with
  | nil => rfl
  | cons name names ih =>
    simp only [List.cons_append, walk]
    cases d.step place name with
    | error e => rfl
    | ok next =>
      simp only [Except.ok_bind]
      cases d.at? next with
      | none => rfl
      | some node => exact ih next

theorem directory_of_step {place next : Place} {name : String} (h : d.step place name = .ok next) :
    d.at? place = some .directory := by
  unfold step at h
  split_ifs at h with hdir <;> simpa using hdir

theorem step_dot {place : Place} (h : d.at? place = some .directory) :
    d.step place "." = .ok place := by
  unfold step
  rw [if_neg (by simp [h]), if_pos rfl]

theorem step_eq_ok_iff {place next : Place} {name : String} (hdot : name ≠ ".")
    (hdots : name ≠ "..") : d.step place name = .ok next ↔
      d.at? place = some .directory ∧ name.utf8ByteSize ≤ maxName ∧ next = place ++ [name] := by
  unfold step
  split_ifs with hdir hlong
  · simp [hdir]
  · simp [Nat.not_le.2 hlong]
  · simp only [ne_eq, not_not] at hdir
    simp [hdir, Nat.not_lt.1 hlong, eq_comm]

theorem step_of_walk_concat {place r : Place} {front : List String} {name : String}
    (h : d.walk place (front ++ [name]) = .ok r) :
    ∃ q, d.walk place front = .ok q ∧ d.step q name = .ok r := by
  rw [walk_append] at h
  obtain ⟨q, hfront, h⟩ := Except.bind_eq_ok.1 h
  obtain ⟨next, hstep, h⟩ := Except.bind_eq_ok.1 h
  refine ⟨q, hfront, ?_⟩
  cases hat : d.at? next with
  | none =>
    rw [hat] at h
    cases h
  | some node =>
    rw [hat] at h
    cases h
    exact hstep

theorem ne_nil_of_checkPath (h : checkPath path = .ok ()) : path.toList ≠ [] := by
  intro hnil
  unfold checkPath at h
  rw [if_pos hnil] at h
  cases h

theorem checkPath_of_begins {path' : String} (h : path.toList <+: path'.toList)
    (hne : path.toList ≠ []) (hcheck : checkPath path' = .ok ()) : checkPath path = .ok () := by
  obtain ⟨back, hback⟩ := h
  have hpath' : path' = path ++ String.ofList back := by
    rw [← String.toList_inj, String.toList_append, String.toList_ofList, hback]
  unfold checkPath at hcheck ⊢
  rw [hpath'] at hcheck
  split_ifs at hcheck with hnil hnul hlong
  have hzero : '\x00' ∉ path.toList := by
    intro hmem
    apply hnul
    rw [String.toList_append, List.contains_iff_mem]
    exact List.mem_append_left _ hmem
  have hsize : ¬maxPath < path.utf8ByteSize := by
    rw [String.utf8ByteSize_append] at hlong
    omega
  simp [hne, hzero, hsize]

theorem start_of_begins {path' : String} (hne : path.toList ≠ [])
    (h : path.toList <+: path'.toList) : d.start path' = d.start path := by
  unfold start
  rw [Path.isAbsolute_of_begins hne h]

theorem exists_locate_of_step (hcheck : checkPath path = .ok ()) {front : List String}
    {last : String} (hpieces : Path.pieces path = front ++ [last]) {q place : Place}
    (hfront : d.walk (d.start path) front = .ok q) (hstep : d.step q last = .ok place) :
    ∃ spot, d.locate path = .ok spot ∧ spot.place = place := by
  unfold locate
  rw [hcheck, hpieces, List.getLast?_concat, List.dropLast_concat, Except.ok_bind, hfront]
  simp only [Except.ok_bind, hstep]
  exact ⟨_, rfl, rfl⟩

/-- Where the names of a path lead, if there is something. -/
theorem exists_locate_of_walk (hcheck : checkPath path = .ok ()) {place : Place}
    (h : d.walk (d.start path) (Path.pieces path) = .ok place) :
    ∃ spot, d.locate path = .ok spot ∧ spot.place = place := by
  cases hlast : (Path.pieces path).getLast? with
  | none =>
    have hnil : Path.pieces path = [] := List.getLast?_eq_none_iff.1 hlast
    have hroot := Path.isAbsolute_of_pieces_eq_nil (ne_nil_of_checkPath hcheck) hnil
    rw [hnil, start, if_pos hroot] at h
    cases h
    unfold locate
    rw [hcheck, hlast]
    exact ⟨_, rfl, rfl⟩
  | some last =>
    obtain ⟨front, hpieces⟩ := List.getLast?_eq_some_iff.1 hlast
    rw [hpieces] at h
    obtain ⟨q, hfront, hstep⟩ := step_of_walk_concat h
    exact exists_locate_of_step hcheck hpieces hfront hstep

/-- What a path leads to comes by its last name from a directory. -/
theorem exists_step_of_locate {spot : Spot} (h : d.locate path = .ok spot) {front : List String}
    {last : String} (hpieces : Path.pieces path = front ++ [last]) :
    ∃ q, d.walk (d.start path) front = .ok q ∧ d.step q last = .ok spot.place ∧
      spot.hasSlash = decide (path.toList.getLast? = some '/') := by
  unfold locate at h
  obtain ⟨_, -, h⟩ := Except.bind_eq_ok.1 h
  rw [hpieces, List.getLast?_concat, List.dropLast_concat] at h
  obtain ⟨q, hfront, h⟩ := Except.bind_eq_ok.1 h
  obtain ⟨place, hstep, h⟩ := Except.bind_eq_ok.1 h
  cases h
  exact ⟨q, hfront, hstep, rfl⟩

/-! ### The lock of a path -/

/-- A longer name leads somewhere else. -/
theorem exists_step_ne {q : Place} {name longer : String} (hdir : d.at? q = some .directory)
    (hsize : name.utf8ByteSize ≤ maxName) (hne : name ≠ longer) :
    ∃ place, d.step q name = .ok place ∧ place ≠ q ++ [longer] := by
  unfold step
  rw [if_neg (by simp [hdir])]
  split_ifs with hdot hdots hlong
  · exact ⟨_, rfl, by simp⟩
  · refine ⟨_, rfl, ?_⟩
    intro h
    have hlength := congrArg List.length h
    simp at hlength
  · omega
  · exact ⟨_, rfl, by simpa using hne⟩

/-- **A path that has a place for its lock leads somewhere else itself.** -/
theorem exists_locate_of_lock (hne : path.toList ≠ []) {lock : Spot}
    (h : d.locate (Path.lockBeside path) = .ok lock) :
    ∃ spot, d.locate path = .ok spot ∧ spot.place ≠ lock.place := by
  have hbegins : path.toList <+: (Path.lockBeside path).toList := by
    unfold Path.lockBeside
    rw [String.toList_append]
    exact List.prefix_append _ _
  have hcheck : checkPath path = .ok () := by
    obtain ⟨_, hlock, -⟩ := Except.bind_eq_ok.1 h
    exact checkPath_of_begins hbegins hne hlock
  obtain ⟨front, name, hpath, hfront, hname⟩ := Path.exists_front_name path.toList
  have hpieces := Path.pieces_eq hpath hfront
  obtain ⟨q, hwalk, hstep, -⟩ :=
    exists_step_of_locate h (Path.pieces_lockBeside hpath hfront hname)
  rw [start_of_begins hne hbegins] at hwalk
  have hlong : ∀ short : String, short.toList.length ≤ 2 →
      String.ofList (name ++ ".lock".toList) ≠ short := by
    intro short hshort heq
    rw [← heq] at hshort
    simp at hshort
  obtain ⟨hdir, hsize, hlock⟩ :=
    (step_eq_ok_iff (hlong "." (by decide)) (hlong ".." (by decide))).1 hstep
  rw [hlock]
  by_cases hempty : name = []
  · have hall : Path.pieces path = Path.piecesOf front := by
      rw [hpieces, hempty]
      exact List.append_nil _
    obtain ⟨spot, hspot, hplace⟩ := exists_locate_of_walk hcheck (hall ▸ hwalk)
    exact ⟨spot, hspot, by simp [hplace]⟩
  · rw [Path.piecesOf_of_notMem hname hempty] at hpieces
    rw [String.ofList_append, String.utf8ByteSize_append] at hsize
    have hshort : (String.ofList name).utf8ByteSize ≤ maxName := by omega
    have hlonger : String.ofList name ≠ String.ofList (name ++ ".lock".toList) := by
      intro heq
      have hlength := congrArg List.length (String.ofList_inj.1 heq)
      simp at hlength
    obtain ⟨place, hstep', hne'⟩ := exists_step_ne hdir hshort hlonger
    obtain ⟨spot, hspot, hplace⟩ := exists_locate_of_step hcheck hpieces hwalk hstep'
    exact ⟨spot, hspot, by rwa [hplace]⟩

/-! ### The directory of a path -/

theorem walk_of_walk_dot {place r : Place} {front : List String}
    (h : d.walk place (front ++ ["."]) = .ok r) : d.walk place front = .ok r := by
  obtain ⟨q, hfront, hstep⟩ := step_of_walk_concat h
  rw [step_dot (directory_of_step hstep)] at hstep
  rw [hfront, hstep]

/-- What is dropped at the end of a path, slashes and dots, leads nowhere. -/
theorem walk_dropTrailing {place r : Place} {cs : List Char}
    (h : d.walk place (Path.piecesOf cs.reverse) = .ok r) :
    d.walk place (Path.piecesOf (Path.dropTrailing cs).reverse) = .ok r := by
  fun_induction Path.dropTrailing cs with
  | case1 => exact h
  | case2 => exact walk_of_walk_dot h
  | case3 cs hcs ih =>
    rw [List.reverse_cons, Path.piecesOf_concat_slash] at h
    exact ih h
  | case4 cs hcs ih =>
    have hreverse : ('.' :: '/' :: cs).reverse = ('/' :: cs).reverse ++ ['.'] := List.reverse_cons
    have hfront : Path.IsFront ('/' :: cs).reverse := .inr ⟨cs.reverse, List.reverse_cons⟩
    rw [hreverse, Path.piecesOf_front_append hfront] at h
    exact ih (walk_of_walk_dot h)
  | case5 cs => exact h

theorem hasDirectory_dot (h : d.at? d.workingDirectory = some .directory) :
    d.hasDirectory "." = true := by
  have hcheck : checkPath "." = .ok () := by decide +kernel
  have hpieces : Path.pieces "." = [] ++ ["."] := by decide +kernel
  have hstart : d.start "." = d.workingDirectory := if_neg (by decide +kernel)
  have hstep : d.step (d.start ".") "." = .ok d.workingDirectory := by
    rw [hstart]
    exact step_dot h
  obtain ⟨spot, hspot, hplace⟩ := exists_locate_of_step hcheck hpieces rfl hstep
  exact hasDirectory_iff.2 ⟨spot, hspot, by rw [hplace, h]⟩

theorem exists_locate_of_find {place : Place} {node : Node} (h : d.find path = .ok (place, node)) :
    ∃ spot, d.locate path = .ok spot ∧ spot.place = place ∧ d.at? place = some node ∧
      (spot.hasSlash = true → node = .directory) := by
  obtain ⟨spot, hspot, h⟩ := Except.bind_eq_ok.1 h
  refine ⟨spot, hspot, ?_⟩
  have hat := node_eq_of_locate hspot
  cases hnode : spot.node with
  | none =>
    rw [hnode] at h
    cases h
  | some node' =>
    rw [hnode] at h
    simp only at h
    split_ifs at h with hslash
    · cases h
    · obtain ⟨rfl, rfl⟩ := Prod.mk.inj (Except.ok.inj h)
      refine ⟨rfl, by rw [← hat, hnode], ?_⟩
      intro hs
      simpa [hs] using hslash

theorem hasSlash_of_locate {spot : Spot} (h : d.locate path = .ok spot)
    (hlast : path.toList.getLast? = some '/') : spot.hasSlash = true := by
  unfold locate at h
  obtain ⟨_, -, h⟩ := Except.bind_eq_ok.1 h
  split at h
  · cases h
    rfl
  · obtain ⟨q, -, h⟩ := Except.bind_eq_ok.1 h
    obtain ⟨r, -, h⟩ := Except.bind_eq_ok.1 h
    cases h
    simp [hlast]

/-- The front of a path, without what is dropped at its end, leads where its names lead. -/
theorem hasDirectory_front (hcheck : checkPath path = .ok ()) {front name : List Char}
    (hpath : path.toList = front ++ name) (hne : front ≠ []) {q : Place}
    (hwalk : d.walk (d.start path) (Path.piecesOf front) = .ok q)
    (hdir : d.at? q = some .directory) :
    d.hasDirectory (String.ofList (Path.dropTrailing front.reverse).reverse) = true := by
  obtain ⟨hkept, hsuffix⟩ := Path.dropTrailing_suffix (mt List.reverse_eq_nil_iff.1 hne)
  generalize hdirectory : String.ofList (Path.dropTrailing front.reverse).reverse = directory
  have htext : directory.toList = (Path.dropTrailing front.reverse).reverse := by
    rw [← hdirectory, String.toList_ofList]
  have hkept' : directory.toList ≠ [] := by
    rw [htext]
    exact mt List.reverse_eq_nil_iff.1 hkept
  have hbegins : directory.toList <+: path.toList := by
    have hfront := List.reverse_prefix.2 hsuffix
    rw [List.reverse_reverse] at hfront
    rw [htext, hpath]
    exact hfront.trans (List.prefix_append _ _)
  have hwalk' : d.walk (d.start directory) (Path.pieces directory) = .ok q := by
    change d.walk (d.start directory) (Path.piecesOf directory.toList) = .ok q
    rw [← start_of_begins hkept' hbegins, htext]
    apply walk_dropTrailing
    rwa [List.reverse_reverse]
  obtain ⟨spot, hspot, hplace⟩ :=
    exists_locate_of_walk (checkPath_of_begins hbegins hkept' hcheck) hwalk'
  exact hasDirectory_iff.2 ⟨spot, hspot, by rw [hplace, hdir]⟩

/-- **What is no directory itself lies in one**, and the directory of its path leads there. -/
theorem hasDirectory_of_find {place : Place} {node : Node} (h : d.find path = .ok (place, node))
    (hnode : node ≠ .directory) : d.hasDirectory (Path.directory path) = true := by
  obtain ⟨spot, hspot, hplace, hat, hslash⟩ := exists_locate_of_find h
  obtain ⟨_, hcheck, -⟩ := Except.bind_eq_ok.1 hspot
  obtain ⟨front, name, hpath, hfront, hname⟩ := Path.exists_front_name path.toList
  have hpieces := Path.pieces_eq hpath hfront
  have hne : name ≠ [] := by
    rintro rfl
    rw [List.append_nil] at hpath
    rcases hfront with rfl | ⟨before, rfl⟩
    · exact ne_nil_of_checkPath hcheck hpath
    · exact hnode (hslash (hasSlash_of_locate hspot (by rw [hpath, List.getLast?_concat])))
  rw [Path.piecesOf_of_notMem hname hne] at hpieces
  obtain ⟨q, hwalk, hstep, -⟩ := exists_step_of_locate hspot hpieces
  have hdir := directory_of_step hstep
  have hdot : name ≠ ['.'] := by
    rintro rfl
    have hq : q = spot.place := Except.ok.inj ((step_dot hdir).symm.trans hstep)
    rw [hq, hplace, hat] at hdir
    exact hnode (Option.some.inj hdir)
  rw [Path.directory_eq hpath hfront hname hne hdot]
  split_ifs with hempty
  · have hrelative : Path.isAbsolute path = false := by
      unfold Path.isAbsolute
      rw [hpath, hempty, List.nil_append, decide_eq_false_iff_not]
      exact fun hhead => hname (List.mem_of_mem_head? hhead)
    rw [hempty, start, if_neg (by simp [hrelative])] at hwalk
    cases hwalk
    exact hasDirectory_dot hdir
  · exact hasDirectory_front hcheck hpath hempty hwalk hdir

theorem hasDirectory_of_bytesAt {content : List UInt8} (h : d.bytesAt path = .ok content) :
    d.hasDirectory (Path.directory path) = true := by
  obtain ⟨⟨place, node⟩, hfind, hbytes⟩ := Except.bind_eq_ok.1 h
  refine hasDirectory_of_find hfind ?_
  rintro rfl
  cases hbytes

end Disk

end GuestPorts
