/-
  GuestPorts/Proofs/Chain/Length.lean
  ===================================
  **Every chain name is one that the packet filter takes** (`chain_names_acceptable`).

  A name that is too long keeps the longest front of the guest's name that its budget has room
  for.  The next character would not have fitted, and a character has at most four bytes, so the
  cut leaves at most three bytes unused, and none if the budget ends between two characters
  (`Role.lt_byteLength_frontWithin_add_four`, `Role.byteLength_frontWithin_eq_iff`).
-/
import GuestPorts.Proofs.Chain.Usable

namespace GuestPorts

/-! ### Bytes of a text -/

namespace Text

theorem byteLength_append (xs ys : List Char) :
    byteLength (xs ++ ys) = byteLength xs + byteLength ys := by
  induction xs with
  | nil => simp [byteLength]
  | cons c rest ih => simpa [byteLength, Nat.add_assoc] using ih

theorem byteLength_cons (c : Char) (cs : List Char) :
    byteLength (c :: cs) = c.utf8Size + byteLength cs := rfl

theorem byteLength_le_of_prefix {xs ys : List Char} (h : xs <+: ys) :
    byteLength xs ≤ byteLength ys := by
  obtain ⟨rest, rfl⟩ := h
  rw [byteLength_append]
  exact Nat.le_add_right _ _

theorem utf8ByteSize_ofList (cs : List Char) :
    (String.ofList cs).utf8ByteSize = byteLength cs := by
  induction cs with
  | nil => rfl
  | cons c rest ih => simp [String.ofList_cons, byteLength_cons, ih]

theorem byteLength_toList (s : String) : byteLength s.toList = s.utf8ByteSize := by
  rw [← utf8ByteSize_ofList, String.ofList_toList]

theorem byteLength_of_ascii {cs : List Char} (h : ∀ c ∈ cs, c.utf8Size = 1) :
    byteLength cs = cs.length := by
  induction cs with
  | nil => rfl
  | cons c rest ih =>
    rw [List.forall_mem_cons] at h
    rw [byteLength_cons, h.1, ih h.2, List.length_cons, Nat.add_comm]

theorem prefix_toList_iff {s t : String} : s.toList <+: t.toList ↔ ∃ rest, t = s ++ rest := by
  constructor
  · rintro ⟨cs, hcs⟩
    exact ⟨String.ofList cs, String.toList_inj.1 (by simpa using hcs.symm)⟩
  · rintro ⟨rest, rfl⟩
    rw [String.toList_append]
    exact List.prefix_append _ _

end Text

/-! ### The digits behind a cut name -/

namespace Digest

/-- Eight hexadecimal digits. -/
def IsShort (cs : List Char) : Prop :=
  cs.length = 8 ∧ ∀ c ∈ cs, c ∈ "0123456789abcdef".toList

theorem isShort_shortDigest (cs : List Char) : IsShort (shortDigest cs) := by
  refine ⟨length_shortDigest cs, fun c hc => ?_⟩
  obtain ⟨shift, -, rfl⟩ := List.mem_map.1 hc
  have hall : ∀ n < 16, Nat.digitChar n ∈ "0123456789abcdef".toList := by decide
  exact hall _ (Nat.mod_lt _ (by decide))

theorem IsShort.byteLength_eq {cs : List Char} (h : IsShort cs) : Text.byteLength cs = 8 := by
  have hascii : "0123456789abcdef".toList.all (fun c => c.utf8Size = 1) = true := by decide
  rw [List.all_eq_true] at hascii
  rw [Text.byteLength_of_ascii fun c hc => of_decide_eq_true (hascii c (h.2 c hc)), h.1]

theorem IsShort.allowed {cs : List Char} (h : IsShort cs) {c : Char} (hc : c ∈ cs) :
    Role.Allowed c :=
  Role.allowed_of_mem (by decide) (h.2 c hc)

end Digest

/-! ### The front within a budget -/

namespace Role

open Text (byteLength)

theorem frontWithin_prefix (n : Nat) (cs : List Char) : frontWithin n cs <+: cs := by
  fun_induction frontWithin n cs with
  | case1 => exact List.prefix_rfl
  | case2 n c rest hfits ih => exact (List.prefix_cons_inj c).2 ih
  | case3 n c rest hfull => exact List.nil_prefix

theorem byteLength_frontWithin_le (n : Nat) (cs : List Char) :
    byteLength (frontWithin n cs) ≤ n := by
  fun_induction frontWithin n cs with
  | case1 => exact Nat.zero_le _
  | case2 n c rest hfits ih =>
    rw [Text.byteLength_cons]
    omega
  | case3 => exact Nat.zero_le _

theorem prefix_frontWithin {n : Nat} {cs xs : List Char} (h : xs <+: cs)
    (hfits : byteLength xs ≤ n) : xs <+: frontWithin n cs := by
  induction cs generalizing n xs with
  | nil => exact h
  | cons c rest ih =>
    rcases List.prefix_cons_iff.1 h with rfl | ⟨ys, rfl, hys⟩
    · exact List.nil_prefix
    · rw [Text.byteLength_cons] at hfits
      rw [frontWithin, if_pos (by omega)]
      exact (List.prefix_cons_inj c).2 (ih hys (by omega))

/-- A cut loses less than one character of the budget. -/
theorem lt_byteLength_frontWithin_add_four {n : Nat} {cs : List Char} (h : n < byteLength cs) :
    n < byteLength (frontWithin n cs) + 4 := by
  fun_induction frontWithin n cs with
  | case1 => cases h
  | case2 n c rest hfits ih =>
    rw [Text.byteLength_cons] at h ⊢
    have := ih (by omega)
    omega
  | case3 n c rest hfull =>
    -- this character is the first that is lost
    have := c.utf8Size_le_four
    omega

theorem byteLength_frontWithin_eq_iff {n : Nat} {cs : List Char} :
    byteLength (frontWithin n cs) = n ↔ ∃ xs, xs <+: cs ∧ byteLength xs = n := by
  constructor
  · intro h
    exact ⟨_, frontWithin_prefix n cs, h⟩
  · rintro ⟨xs, hxs, rfl⟩
    exact Nat.le_antisymm (byteLength_frontWithin_le _ _)
      (Text.byteLength_le_of_prefix (prefix_frontWithin hxs le_rfl))

/-! ### The parts of a name -/

/-- A guest name that has no room behind the tag. -/
def TooLong (role : Role) (vmName : String) : Prop :=
  28 < (role.tag ++ "-" ++ vmName).utf8ByteSize

instance (role : Role) (vmName : String) : Decidable (role.TooLong vmName) :=
  inferInstanceAs (Decidable (_ < _))

/-- What is kept of a guest name that is too long. -/
def front (role : Role) (vmName : String) : String :=
  String.ofList (frontWithin role.budget vmName.toList)

def digits (vmName : String) : String := String.ofList (Digest.shortDigest vmName.toList)

/-- The budget is what a tag, two hyphens and a digest leave of the limit. -/
theorem utf8ByteSize_tag_add_budget (role : Role) :
    role.tag.utf8ByteSize + role.budget + 10 = 28 := by
  cases role <;> rfl

theorem byteLength_whole (role : Role) (vmName : String) :
    byteLength (role.tag.toList ++ '-' :: vmName.toList)
      = (role.tag ++ "-" ++ vmName).utf8ByteSize := by
  rw [← Text.byteLength_toList]
  simp

theorem nameWith_of_not_tooLong {role : Role} {vmName : String} (h : ¬role.TooLong vmName)
    (digest : List Char → List Char) :
    role.nameWith digest vmName.toList = role.tag.toList ++ '-' :: vmName.toList := by
  have hfits : byteLength (role.tag.toList ++ '-' :: vmName.toList) ≤ maxBytes := by
    rw [byteLength_whole]
    exact Nat.le_of_not_lt h
  simp only [nameWith, if_pos hfits]

theorem nameWith_of_tooLong {role : Role} {vmName : String} (h : role.TooLong vmName)
    (digest : List Char → List Char) :
    role.nameWith digest vmName.toList
      = role.tag.toList ++ '-' :: ((role.front vmName).toList ++ '-' :: digest vmName.toList) := by
  have hlong : ¬byteLength (role.tag.toList ++ '-' :: vmName.toList) ≤ maxBytes := by
    rw [byteLength_whole]
    exact Nat.not_le_of_lt h
  simp only [nameWith, if_neg hlong, front, String.toList_ofList]

theorem text_of_not_tooLong {role : Role} {vmName : String} (h : ¬role.TooLong vmName) :
    role.text vmName = role.tag ++ "-" ++ vmName := by
  apply String.toList_inj.1
  simp [text, nameWith_of_not_tooLong h]

theorem text_of_tooLong {role : Role} {vmName : String} (h : role.TooLong vmName) :
    role.text vmName = role.tag ++ "-" ++ role.front vmName ++ "-" ++ digits vmName := by
  apply String.toList_inj.1
  simp [text, nameWith_of_tooLong h, digits]

theorem utf8ByteSize_front (role : Role) (vmName : String) :
    (role.front vmName).utf8ByteSize = byteLength (frontWithin role.budget vmName.toList) :=
  Text.utf8ByteSize_ofList _

theorem utf8ByteSize_text_of_tooLong {role : Role} {vmName : String} (h : role.TooLong vmName) :
    (role.text vmName).utf8ByteSize + role.budget = (role.front vmName).utf8ByteSize + 28 := by
  have hdigits : (digits vmName).utf8ByteSize = 8 := by
    rw [digits, Text.utf8ByteSize_ofList, (Digest.isShort_shortDigest _).byteLength_eq]
  have hhyphen : "-".utf8ByteSize = 1 := rfl
  have hbudget := role.utf8ByteSize_tag_add_budget
  simp only [text_of_tooLong h, String.utf8ByteSize_append, hdigits, hhyphen]
  omega

theorem TooLong.budget_lt {role : Role} {vmName : String} (h : role.TooLong vmName) :
    role.budget < byteLength vmName.toList := by
  have hhyphen : "-".utf8ByteSize = 1 := rfl
  have hbudget := role.utf8ByteSize_tag_add_budget
  unfold TooLong at h
  rw [Text.byteLength_toList]
  simp only [String.utf8ByteSize_append, hhyphen] at h
  omega

/-- A name that was cut. -/
structure Cut (role : Role) (vmName name front digits : String) : Prop where
  parts : name = role.tag ++ "-" ++ front ++ "-" ++ digits
  beginning : ∃ rest, vmName = front ++ rest
  fits : front.utf8ByteSize ≤ role.budget
  /-- Any other beginning of the guest's name that fits is a beginning of the one that is kept. -/
  longest : ∀ other rest, vmName = other ++ rest → other.utf8ByteSize ≤ role.budget →
    ∃ more, front = other ++ more
  front_ne : front ≠ ""
  hexadecimal : Digest.IsShort digits.toList
  long : 25 ≤ name.utf8ByteSize
  /-- The whole limit is used if a character ends where the budget does. -/
  full_iff : name.utf8ByteSize = 28 ↔ String.Pos.Raw.IsValid vmName ⟨role.budget⟩

/-- A name that the packet filter takes for a chain of this role. -/
structure Acceptable (role : Role) (vmName name : String) : Prop where
  short : name.utf8ByteSize ≤ 28
  tagged : ∃ rest, name = role.tag ++ "-" ++ rest
  allowed : ∀ c ∈ name.toList, Allowed c
  whole : (role.tag ++ "-" ++ vmName).utf8ByteSize ≤ 28 → name = role.tag ++ "-" ++ vmName
  cut : 28 < (role.tag ++ "-" ++ vmName).utf8ByteSize →
    ∃ front digits, Cut role vmName name front digits

theorem isValid_budget_iff {role : Role} {vmName : String} :
    String.Pos.Raw.IsValid vmName ⟨role.budget⟩ ↔
      (role.front vmName).utf8ByteSize = role.budget := by
  rw [utf8ByteSize_front, byteLength_frontWithin_eq_iff, String.Pos.Raw.isValid_iff_exists_append]
  constructor
  · rintro ⟨s, rest, rfl, hbytes⟩
    refine ⟨s.toList, Text.prefix_toList_iff.2 ⟨rest, rfl⟩, ?_⟩
    rw [Text.byteLength_toList]
    exact (congrArg String.Pos.Raw.byteIdx hbytes).symm
  · rintro ⟨xs, hxs, hbytes⟩
    rw [← String.toList_ofList (l := xs)] at hxs
    obtain ⟨rest, hrest⟩ := Text.prefix_toList_iff.1 hxs
    refine ⟨_, rest, hrest, ?_⟩
    rw [String.rawEndPos, Text.utf8ByteSize_ofList, hbytes]

theorem exists_eq_front_append (role : Role) (vmName : String) :
    ∃ rest, vmName = role.front vmName ++ rest := by
  refine Text.prefix_toList_iff.1 ?_
  rw [front, String.toList_ofList]
  exact frontWithin_prefix _ _

theorem cut_of_tooLong {role : Role} {vmName : String} (h : role.TooLong vmName) :
    role.Cut vmName (role.text vmName) (role.front vmName) (digits vmName) := by
  have hbytes := utf8ByteSize_text_of_tooLong h
  have hunused : role.budget < (role.front vmName).utf8ByteSize + 4 := by
    rw [utf8ByteSize_front]
    exact lt_byteLength_frontWithin_add_four h.budget_lt
  have hbudget : 4 ≤ role.budget := by cases role <;> decide
  constructor
  case parts => exact text_of_tooLong h
  case beginning => exact role.exists_eq_front_append vmName
  case fits =>
    rw [utf8ByteSize_front]
    exact byteLength_frontWithin_le _ _
  case longest =>
    intro other rest hother hfits
    refine Text.prefix_toList_iff.1 ?_
    rw [front, String.toList_ofList]
    refine prefix_frontWithin (Text.prefix_toList_iff.2 ⟨rest, hother⟩) ?_
    rwa [Text.byteLength_toList]
  case front_ne =>
    intro hempty
    rw [hempty, String.utf8ByteSize_empty] at hunused
    omega
  case hexadecimal =>
    rw [digits, String.toList_ofList]
    exact Digest.isShort_shortDigest _
  case long => omega
  case full_iff =>
    rw [isValid_budget_iff]
    omega

theorem allowed_of_mem_tag {role : Role} {c : Char} (h : c ∈ role.tag.toList) : Allowed c := by
  refine allowed_of_mem ?_ h
  cases role <;> decide

theorem allowed_of_mem_hyphen {c : Char} (h : c ∈ "-".toList) : Allowed c :=
  allowed_of_mem (by decide) h

theorem allowed_of_mem_text {role : Role} {vmName : String} (h : Usable vmName) {c : Char}
    (hc : c ∈ (role.text vmName).toList) : Allowed c := by
  by_cases hlong : role.TooLong vmName
  · obtain ⟨rest, hrest⟩ := role.exists_eq_front_append vmName
    rw [text_of_tooLong hlong] at hc
    simp only [String.toList_append, List.mem_append] at hc
    rcases hc with (((hc | hc) | hc) | hc) | hc
    · exact allowed_of_mem_tag hc
    · exact allowed_of_mem_hyphen hc
    · refine h.2 c ?_
      rw [hrest, String.toList_append]
      exact List.mem_append_left _ hc
    · exact allowed_of_mem_hyphen hc
    · rw [digits, String.toList_ofList] at hc
      exact (Digest.isShort_shortDigest _).allowed hc
  · rw [text_of_not_tooLong hlong] at hc
    simp only [String.toList_append, List.mem_append] at hc
    rcases hc with (hc | hc) | hc
    · exact allowed_of_mem_tag hc
    · exact allowed_of_mem_hyphen hc
    · exact h.2 c hc

theorem acceptable_text {vmName : String} (h : Usable vmName) (role : Role) :
    role.Acceptable vmName (role.text vmName) := by
  have hcut := fun hlong : role.TooLong vmName => cut_of_tooLong hlong
  have hwhole := fun hfits : ¬role.TooLong vmName => text_of_not_tooLong hfits
  constructor
  case short =>
    by_cases hlong : role.TooLong vmName
    · have hbytes := utf8ByteSize_text_of_tooLong hlong
      have hfits := (hcut hlong).fits
      omega
    · rw [hwhole hlong]
      exact Nat.le_of_not_lt hlong
  case tagged =>
    by_cases hlong : role.TooLong vmName
    · refine ⟨role.front vmName ++ "-" ++ digits vmName, ?_⟩
      simp only [(hcut hlong).parts, String.append_assoc]
    · exact ⟨vmName, hwhole hlong⟩
  case allowed => exact fun c hc => allowed_of_mem_text h hc
  case whole => exact fun hfits => hwhole (Nat.not_lt_of_le hfits)
  case cut => exact fun hlong => ⟨_, _, hcut hlong⟩

/-- **Chain names are acceptable**: a usable guest name has one in every role that the packet
    filter takes, and with any other name every role fails alike, for the first thing that is
    wrong with it. -/
theorem chain_names_acceptable (vmName : String) :
    (Usable vmName → ∀ role : Role, ∃ name,
      role.name vmName = .ok name ∧ role.Acceptable vmName name) ∧
    (¬Usable vmName → ∃ e, Faulty vmName e ∧ ∀ role : Role, role.name vmName = .error e) := by
  constructor
  · intro h role
    exact ⟨role.text vmName, name_of_usable h role, acceptable_text h role⟩
  · intro h
    obtain ⟨e, he⟩ := (usable_or_faulty vmName).resolve_left h
    exact ⟨e, he, name_of_faulty he⟩

/-- A name in which the budget of the forward chain ends inside a character, and one with a
    blank. -/
theorem chain_names_acceptable_split :
    Usable "datenbank-nur-über-nacht-sichern" ∧
    Role.forward.Acceptable "datenbank-nur-über-nacht-sichern" "FWD-datenbank-nur--813816a5" ∧
    ¬Usable "nur nacht" ∧
    ∃ e, Faulty "nur nacht" e ∧ ∀ role : Role, role.name "nur nacht" = .error e := by
  have husable : Usable "datenbank-nur-über-nacht-sichern" :=
    checkName_eq_ok_iff.1 (by decide +kernel)
  have hfaulty : ¬Usable "nur nacht" := mt checkName_eq_ok_iff.2 (by decide +kernel)
  obtain ⟨name, hname, haccept⟩ :=
    (chain_names_acceptable "datenbank-nur-über-nacht-sichern").1 husable .forward
  have hforward : Role.forward.name "datenbank-nur-über-nacht-sichern"
      = .ok "FWD-datenbank-nur--813816a5" := by decide +kernel
  rw [hforward] at hname
  cases hname
  exact ⟨husable, haccept, hfaulty, (chain_names_acceptable "nur nacht").2 hfaulty⟩

end Role

end GuestPorts
