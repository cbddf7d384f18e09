/-
  GuestPorts/Proofs/Chain/Names.lean
  ==================================
  **The names of a guest's chains** keep apart from each other and from every other word
  of the packet filter.

  All names of one guest come from one text, so what tells them apart is the role's tag in
  front (`tag_append_inj`), and what tells them from built-in chains and from targets that
  are no chains is the hyphen behind it.  Proofs about kernels need just that and take it
  from `Chains.Proper`.
-/
import GuestPorts.Chain
import GuestPorts.Proofs.Filter.Kernel

namespace GuestPorts

/-! ### Deriving the three chains -/

theorem Role.mem_all (r : Role) : r ∈ Role.all := by cases r <;> decide

def Role.text (role : Role) (vmName : String) : String :=
  String.ofList (role.nameWith Digest.shortDigest vmName.toList)

def Chains.named (vmName : String) : Chains where
  ingress := ⟨.ingress, Role.ingress.text vmName⟩
  egress := ⟨.egress, Role.egress.text vmName⟩
  forward := ⟨.forward, Role.forward.text vmName⟩

def Chains.get (cs : Chains) : Role → Chain
  | .ingress => cs.ingress
  | .egress => cs.egress
  | .forward => cs.forward

/-- The check of the name is all that can fail. -/
theorem Chains.ofGuest_eq_map (vmName : String) :
    Chains.ofGuest vmName = (Role.checkName vmName).map fun _ => Chains.named vmName := by
  unfold Chains.ofGuest Role.name
  cases h : Role.checkName vmName with
  | error e => rfl
  | ok u => rfl

theorem Chains.eq_named_of_ofGuest {vmName : String} {cs : Chains}
    (h : Chains.ofGuest vmName = .ok cs) : cs = Chains.named vmName := by
  rw [Chains.ofGuest_eq_map] at h
  cases hc : Role.checkName vmName with
  | error e => rw [hc] at h; cases h
  | ok u =>
    rw [hc] at h
    cases h
    rfl

theorem Chains.checkName_of_ofGuest {vmName : String} {cs : Chains}
    (h : Chains.ofGuest vmName = .ok cs) : Role.checkName vmName = .ok () := by
  rw [Chains.ofGuest_eq_map] at h
  cases hc : Role.checkName vmName with
  | error e => rw [hc] at h; cases h
  | ok u => rfl

/-! ### What the names keep apart from -/

/-- A chain name begins with its tag and a hyphen. -/
theorem Role.exists_nameWith_eq (role : Role) (digest : List Char → List Char) (vm : List Char) :
    ∃ rest, role.nameWith digest vm = role.tag.toList ++ '-' :: rest := by
  unfold Role.nameWith
  simp only
  split
  · exact ⟨_, rfl⟩
  · exact ⟨_, rfl⟩

/-- Different roles have different tags, whatever follows them. -/
theorem Role.tag_append_inj {r r' : Role} {xs ys : List Char}
    (h : r.tag.toList ++ '-' :: xs = r'.tag.toList ++ '-' :: ys) : r = r' := by
  cases r <;> cases r' <;> first | rfl | simp [Role.tag] at h

theorem Role.eq_of_nameWith_eq {r r' : Role} {digest : List Char → List Char} {vm vm' : List Char}
    (h : r.nameWith digest vm = r'.nameWith digest vm') : r = r' := by
  obtain ⟨rest, hrest⟩ := r.exists_nameWith_eq digest vm
  obtain ⟨rest', hrest'⟩ := r'.exists_nameWith_eq digest vm'
  rw [hrest, hrest'] at h
  exact Role.tag_append_inj h

theorem Role.text_inj {r r' : Role} {vmName vmName' : String}
    (h : r.text vmName = r'.text vmName') : r = r' :=
  Role.eq_of_nameWith_eq (String.ofList_inj.1 h)

theorem Role.hyphen_mem_text (role : Role) (vmName : String) :
    '-' ∈ (role.text vmName).toList := by
  obtain ⟨rest, h⟩ := role.exists_nameWith_eq Digest.shortDigest vmName.toList
  rw [Role.text, String.toList_ofList, h]
  exact List.mem_append_right _ List.mem_cons_self

/-- The words of the packet filter have no hyphen, so no chain name is one of them. -/
theorem Role.text_notMem_of_forall {words : List String} (role : Role) (vmName : String)
    (h : ∀ w ∈ words, '-' ∉ w.toList) : role.text vmName ∉ words :=
  fun hmem => h _ hmem (role.hyphen_mem_text vmName)

/-- Three chains in their places, told apart by their names from each other and from
    everything that is no chain of a guest. -/
structure Chains.Proper (cs : Chains) : Prop where
  role_get : ∀ r, (cs.get r).role = r
  name_inj : ∀ {r r'}, (cs.get r).name = (cs.get r').name → r = r'
  notMem_builtins : ∀ r t, (cs.get r).name ∉ Table.builtins t
  notMem_extensions : ∀ r, (cs.get r).name ∉ Rule.extensions

theorem Chains.name_get_named (vmName : String) (r : Role) :
    ((Chains.named vmName).get r).name = r.text vmName := by
  cases r <;> rfl

theorem Chains.proper_named (vmName : String) : (Chains.named vmName).Proper where
  role_get := fun r => by cases r <;> rfl
  name_inj := fun {r r'} h => by
    rw [name_get_named, name_get_named] at h
    exact Role.text_inj h
  notMem_builtins := fun r t => by
    rw [name_get_named]
    refine r.text_notMem_of_forall vmName ?_
    cases t <;> decide
  notMem_extensions := fun r => by
    rw [name_get_named]
    exact r.text_notMem_of_forall vmName (by decide)

theorem Chains.proper_of_ofGuest {vmName : String} {cs : Chains}
    (h : Chains.ofGuest vmName = .ok cs) : cs.Proper := by
  rw [Chains.eq_named_of_ofGuest h]
  exact Chains.proper_named vmName

namespace Chains.Proper

variable {cs : Chains}

theorem table_get (h : cs.Proper) (r : Role) : (cs.get r).table = r.table := by
  unfold Chain.table
  rw [h.role_get r]

theorem table_ingress (h : cs.Proper) : cs.ingress.table = Role.ingress.table :=
  h.table_get .ingress

theorem table_egress (h : cs.Proper) : cs.egress.table = Role.egress.table :=
  h.table_get .egress

theorem table_forward (h : cs.Proper) : cs.forward.table = Role.forward.table :=
  h.table_get .forward

end Chains.Proper

end GuestPorts
