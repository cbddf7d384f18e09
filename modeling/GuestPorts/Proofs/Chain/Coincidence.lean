/-
  GuestPorts/Proofs/Chain/Coincidence.lean
  ========================================
  **When two guests would share a chain** (`aliases_characterised`).

  A name that fits is told apart from every other that fits.  So two chain names coincide only
  when a cut is involved: both names are cut and agree in what is kept and in the digest, or one
  of them is, letter by letter, what the other one is cut to.  A digest has a fixed number of
  digits and ends the name, hence the two parts can be read off; nothing else is asked of it.

  A chain name tells its role, so names are shared role by role, and it does not matter which
  of the two guests is asked (`Chains.sharedName_named_comm`) or comes first
  (`Registry.takesIn_iff`).
-/
import GuestPorts.Proofs.Chain.Length
import GuestPorts.Proofs.Registry.Replacement

namespace GuestPorts

/-! ### Names that coincide -/

namespace Role

/-- How the names of two guests come to be the same in a role. -/
inductive Coincide (digest : List Char → List Char) (role : Role) (a b : String) : Prop
  | bothCut (ha : role.TooLong a) (hb : role.TooLong b) (hfront : role.front a = role.front b)
    (hdigest : digest a.toList = digest b.toList)
  | firstCut (ha : role.TooLong a) (hb : ¬role.TooLong b)
    (h : b.toList = (role.front a).toList ++ '-' :: digest a.toList)
  | secondCut (ha : ¬role.TooLong a) (hb : role.TooLong b)
    (h : a.toList = (role.front b).toList ++ '-' :: digest b.toList)

variable {digest : List Char → List Char} {a b : String}

/-- The parts of a cut name can be read off, because all digests are of one length. -/
theorem cut_inj (hdigest : ∀ cs, Digest.IsShort (digest cs)) {front front' : String}
    {vm vm' : List Char} :
    front.toList ++ '-' :: digest vm = front'.toList ++ '-' :: digest vm' ↔
      front = front' ∧ digest vm = digest vm' := by
  constructor
  · intro h
    -- the front may hold hyphens and digits itself, so the cut is found from the end
    have hlength : ('-' :: digest vm).length = ('-' :: digest vm').length := by
      rw [List.length_cons, List.length_cons, (hdigest vm).1, (hdigest vm').1]
    obtain ⟨hfront, hrest⟩ := List.append_inj' h hlength
    exact ⟨String.toList_inj.1 hfront, (List.cons_inj_right '-').1 hrest⟩
  · rintro ⟨rfl, h⟩
    rw [h]

/-- **Two different guests have one name in a role exactly if theirs coincide.** -/
theorem nameWith_eq_iff (hdigest : ∀ cs, Digest.IsShort (digest cs)) (hne : a ≠ b) (role : Role) :
    role.nameWith digest a.toList = role.nameWith digest b.toList ↔ role.Coincide digest a b := by
  have htoList : a.toList ≠ b.toList := fun h => hne (String.toList_inj.1 h)
  by_cases ha : role.TooLong a
  · by_cases hb : role.TooLong b
    · rw [nameWith_of_tooLong ha, nameWith_of_tooLong hb, List.append_cancel_left_eq,
        List.cons_inj_right, cut_inj hdigest]
      constructor
      · rintro ⟨hfront, hsame⟩
        exact .bothCut ha hb hfront hsame
      · rintro (⟨-, -, hfront, hsame⟩ | ⟨-, hb'⟩ | ⟨ha'⟩)
        · exact ⟨hfront, hsame⟩
        · exact absurd hb hb'
        · exact absurd ha ha'
    · rw [nameWith_of_tooLong ha, nameWith_of_not_tooLong hb, List.append_cancel_left_eq,
        List.cons_inj_right]
      constructor
      · exact fun h => .firstCut ha hb h.symm
      · rintro (⟨-, hb'⟩ | ⟨-, -, h⟩ | ⟨ha'⟩)
        · exact absurd hb' hb
        · exact h.symm
        · exact absurd ha ha'
  · by_cases hb : role.TooLong b
    · rw [nameWith_of_not_tooLong ha, nameWith_of_tooLong hb, List.append_cancel_left_eq,
        List.cons_inj_right]
      constructor
      · exact fun h => .secondCut ha hb h
      · rintro (⟨ha'⟩ | ⟨ha'⟩ | ⟨-, -, h⟩)
        · exact absurd ha' ha
        · exact absurd ha' ha
        · exact h
    · rw [nameWith_of_not_tooLong ha, nameWith_of_not_tooLong hb, List.append_cancel_left_eq,
        List.cons_inj_right]
      constructor
      · exact fun h => absurd h htoList
      · rintro (⟨ha'⟩ | ⟨ha'⟩ | ⟨-, hb'⟩)
        · exact absurd ha' ha
        · exact absurd ha' ha
        · exact absurd hb' hb

theorem nameWith_eq_nameWith_iff (hdigest : ∀ cs, Digest.IsShort (digest cs)) (hne : a ≠ b)
    {r r' : Role} :
    r.nameWith digest a.toList = r'.nameWith digest b.toList ↔ r = r' ∧ r.Coincide digest a b := by
  constructor
  · intro h
    obtain rfl := eq_of_nameWith_eq h
    exact ⟨rfl, (nameWith_eq_iff hdigest hne r).1 h⟩
  · rintro ⟨rfl, h⟩
    exact (nameWith_eq_iff hdigest hne r).2 h

theorem text_eq_text_iff (hne : a ≠ b) {r r' : Role} :
    r.text a = r'.text b ↔ r = r' ∧ r.Coincide Digest.shortDigest a b := by
  rw [← nameWith_eq_nameWith_iff Digest.isShort_shortDigest hne, text, text, String.ofList_inj]

end Role

/-! ### Shared names -/

namespace Chains

/-- The name that is shared is that of the first role in which both guests have one name. -/
theorem sharedName_named (a b : String) :
    (named a).sharedName (named b)
      = (Role.all.find? fun r => r.text a = r.text b).map fun r => r.text a := by
  have hnames : (named a).names = Role.all.map fun r => r.text a := rfl
  have hsame : (fun x => (named b).names.contains x) ∘ (fun r : Role => r.text a)
      = fun r => decide (r.text a = r.text b) := by
    funext r
    rw [Function.comp_apply, Bool.eq_iff_iff, List.contains_iff_mem, decide_eq_true_iff, mem_names]
    constructor
    · rintro ⟨r', hr'⟩
      rw [name_get_named] at hr'
      obtain rfl := Role.text_inj hr'
      exact hr'.symm
    · intro h
      exact ⟨r, by rw [name_get_named, h]⟩
  unfold sharedName
  rw [hnames, List.find?_map, hsame]

theorem sharedName_named_comm (a b : String) :
    (named a).sharedName (named b) = (named b).sharedName (named a) := by
  have hsame : ∀ r : Role, decide (r.text b = r.text a) = decide (r.text a = r.text b) :=
    fun r => decide_eq_decide.2 eq_comm
  simp only [sharedName_named, hsame]
  cases hfind : Role.all.find? fun r => r.text a = r.text b with
  | none => rfl
  | some r =>
    have hr : r.text a = r.text b := by simpa using List.find?_some hfind
    simp only [Option.map_some, hr]

theorem sharedName_named_eq_none {a b : String} (hne : a ≠ b) :
    (named a).sharedName (named b) = none ↔ ∀ r : Role, ¬r.Coincide Digest.shortDigest a b := by
  simp only [sharedName_eq_none, name_get_named, ne_eq, Role.text_eq_text_iff hne, not_and]
  constructor
  · exact fun h r => h r r rfl
  · rintro h r r' -
    exact h r

end Chains

/-! ### Which guest comes first -/

namespace Registry

/-- Among guests with usable names, one is accepted that shares no name with any other. -/
theorem checkUnaliased_eq_ok_iff {r : Registry} {n : String} (hn : Role.Usable n)
    (hnames : ∀ m ∈ r.names, Role.Usable m) :
    r.checkUnaliased n = .ok () ↔
      ∀ m ∈ r.names, m ≠ n → (Chains.named n).sharedName (Chains.named m) = none := by
  have hentry : ∀ entry ∈ r.entries, aliasWith (Chains.named n) entry
      = (Chains.named n).sharedName (Chains.named entry.vmName) := by
    intro entry hmem
    unfold aliasWith
    rw [Chains.ofGuest_of_usable (hnames _ (List.mem_map_of_mem hmem))]
  have hcheck : r.checkUnaliased n = .ok () ↔
      firstAlias n (Chains.named n) r.entries = none := by
    unfold checkUnaliased
    rw [Chains.ofGuest_of_usable hn]
    cases hfirst : firstAlias n (Chains.named n) r.entries with
    | none => simp [hfirst]
    | some found => simp [hfirst]
  rw [hcheck, firstAlias_eq_none, names, List.forall_mem_map]
  exact forall₂_congr fun entry hmem => by rw [hentry entry hmem]

/-- Both declarations are taken in, one after the other. -/
def TakesIn (r : Registry) (first second : Declaration) (now later : Moment) : Prop :=
  ∃ r₁ r₂, r.upsert first now = .ok r₁ ∧ r₁.upsert second later = .ok r₂

/-- **Two guests are both taken in, whichever comes first, exactly if they share no name.** -/
theorem takesIn_iff {r : Registry} {first second : Declaration} (hfirst : Role.Usable first.vmName)
    (hsecond : Role.Usable second.vmName) (hne : first.vmName ≠ second.vmName)
    (hnames : ∀ m ∈ r.names, m = first.vmName ∨ m = second.vmName) (now later : Moment) :
    r.TakesIn first second now later ↔
      (Chains.named first.vmName).sharedName (Chains.named second.vmName) = none := by
  have hpair : ∀ m, m = first.vmName ∨ m = second.vmName → Role.Usable m := by
    rintro m (rfl | rfl)
    · exact hfirst
    · exact hsecond
  -- behind the first one there still is no third guest
  have hnames₁ : ∀ m ∈ (r.put { first with lastUpdated := some now } now).names,
      m = first.vmName ∨ m = second.vmName := by
    intro m hm
    rcases mem_names_put.1 hm with hold | hnew
    · exact hnames m hold
    · exact .inl hnew
  constructor
  · rintro ⟨r₁, r₂, h₁, h₂⟩
    obtain ⟨-, rfl⟩ := upsert_eq_ok_iff.1 h₁
    have hcheck := (upsert_eq_ok_iff.1 h₂).1
    rw [checkUnaliased_eq_ok_iff hsecond fun m hm => hpair m (hnames₁ m hm)] at hcheck
    rw [Chains.sharedName_named_comm]
    exact hcheck first.vmName (mem_names_put.2 (.inr rfl)) hne
  · intro h
    have hcheck : r.checkUnaliased first.vmName = .ok () := by
      rw [checkUnaliased_eq_ok_iff hfirst fun m hm => hpair m (hnames m hm)]
      intro m hm hother
      obtain rfl := (hnames m hm).resolve_left hother
      exact h
    refine ⟨_, _, upsert_eq_ok_iff.2 ⟨hcheck, rfl⟩, upsert_eq_ok_iff.2 ⟨?_, rfl⟩⟩
    rw [checkUnaliased_eq_ok_iff hsecond fun m hm => hpair m (hnames₁ m hm)]
    intro m hm hother
    obtain rfl := (hnames₁ m hm).resolve_right hother
    rw [Chains.sharedName_named_comm]
    exact h

end Registry

/-- **When two guests share a chain**: for any digest their names in two roles are the same
    exactly if the roles are and the guests coincide there.  So it does not matter which of them
    is asked for a shared name; and where there is no third guest, both are taken in exactly if
    there is none, whichever comes first. -/
theorem aliases_characterised {a b : String} (ha : Role.Usable a) (hb : Role.Usable b)
    (hne : a ≠ b) :
    (∀ digest : List Char → List Char, (∀ cs, Digest.IsShort (digest cs)) → ∀ r r' : Role,
      r.nameWith digest a.toList = r'.nameWith digest b.toList ↔
        r = r' ∧ r.Coincide digest a b) ∧
    (∀ r r' : Role, ∃ x y, r.name a = .ok x ∧ r'.name b = .ok y ∧
      (x = y ↔ r = r' ∧ r.Coincide Digest.shortDigest a b)) ∧
    ∃ cs cs', Chains.ofGuest a = .ok cs ∧ Chains.ofGuest b = .ok cs' ∧
      cs.sharedName cs' = cs'.sharedName cs ∧
      (cs.sharedName cs' = none ↔ ∀ r : Role, ¬r.Coincide Digest.shortDigest a b) ∧
      ∀ (registry : Registry) (d d' : Declaration), d.vmName = a → d'.vmName = b →
        (∀ entry ∈ registry.entries, entry.vmName = a ∨ entry.vmName = b) →
        ∀ now later now' later',
          (registry.TakesIn d d' now later ↔ registry.TakesIn d' d now' later') ∧
          (registry.TakesIn d d' now later ↔ cs.sharedName cs' = none) := by
  refine ⟨fun digest hdigest r r' => Role.nameWith_eq_nameWith_iff hdigest hne, ?_,
    Chains.named a, Chains.named b, Chains.ofGuest_of_usable ha, Chains.ofGuest_of_usable hb,
    Chains.sharedName_named_comm a b, Chains.sharedName_named_eq_none hne, ?_⟩
  · intro r r'
    exact ⟨_, _, Role.name_of_usable ha r, Role.name_of_usable hb r', Role.text_eq_text_iff hne⟩
  · rintro registry d d' rfl rfl hentries now later now' later'
    have hnames : ∀ m ∈ registry.names, m = d.vmName ∨ m = d'.vmName := by
      rw [Registry.names, List.forall_mem_map]
      exact hentries
    have horder := Registry.takesIn_iff ha hb hne hnames now later
    have hother := Registry.takesIn_iff hb ha hne.symm (fun m hm => (hnames m hm).symm) now' later'
    rw [Chains.sharedName_named_comm] at hother
    exact ⟨horder.trans hother.symm, horder⟩

/-- A long name, and the short one that is just what the long one is cut to: they share a chain,
    and a registry that has one of them takes the other one in neither before nor after it. -/
theorem aliases_characterised_literal :
    let long := "kafka-broker-production-eu-west-1"
    let short := "kafka-broker-p-e701b4bf"
    let registry : Registry := { entries := [{ vmName := short }] }
    Role.Usable long ∧ Role.Usable short ∧ long ≠ short ∧
      (∀ entry ∈ registry.entries, entry.vmName = long ∨ entry.vmName = short) ∧
      Role.ingress.Coincide Digest.shortDigest long short ∧
      (∃ x, Role.ingress.name long = .ok x ∧ Role.ingress.name short = .ok x) ∧
      ¬registry.TakesIn { vmName := long } { vmName := short } default default ∧
      ¬registry.TakesIn { vmName := short } { vmName := long } default default := by
  intro long short registry
  have hlong : Role.Usable long := Role.checkName_eq_ok_iff.1 (by decide +kernel)
  have hshort : Role.Usable short := Role.checkName_eq_ok_iff.1 (by decide +kernel)
  have hne : long ≠ short := by decide
  have hentries : ∀ entry ∈ registry.entries, entry.vmName = long ∨ entry.vmName = short :=
    List.forall_mem_singleton.2 (.inr rfl)
  have hcoincide : Role.ingress.Coincide Digest.shortDigest long short :=
    .firstCut (by decide +kernel) (by decide +kernel) (by decide +kernel)
  obtain ⟨-, hnames, cs, cs', -, -, -, hnone, hregistry⟩ :=
    aliases_characterised hlong hshort hne
  obtain ⟨x, y, hx, hy, hsame⟩ := hnames .ingress .ingress
  obtain rfl := hsame.2 ⟨rfl, hcoincide⟩
  obtain ⟨horder, hshared⟩ := hregistry registry { vmName := long } { vmName := short } rfl rfl
    hentries default default default default
  have hrefused : ¬registry.TakesIn { vmName := long } { vmName := short } default default := by
    rw [hshared, hnone]
    exact fun hapart => hapart .ingress hcoincide
  exact ⟨hlong, hshort, hne, hentries, hcoincide, ⟨x, hx, hy⟩, hrefused, mt horder.2 hrefused⟩

end GuestPorts
