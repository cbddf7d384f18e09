/-
  GuestPorts/Proofs/Registry/Spellings.lean
  =========================================
  **The documents that stand for a registry**, and that each of them is read to it
  (`Registry.ofDoc_of_written`).

  Each record has a list of how its fields may be written (`fields`) and one of how they are read
  (`slots`).  There are four kinds of fields, and for each kind one lemma says that what is
  written suits the slot that reads it; the order of the members is no matter of the records
  (`Reads.exists_foldMembers`).
-/
import GuestPorts.Proofs.Registry.Decode
import GuestPorts.Proofs.Registry.Members

namespace GuestPorts

open GuestPorts.Json

/-! ### The ways to write a registry -/

/-- The documents that stand for a text that may be unset. -/
inductive SpellsText : Option String → Doc → Prop
  | null : SpellsText none .null
  | blank {s : String} (h : Text.isBlankText s.toList = true) : SpellsText none (.ofString s)
  | padded {s front back : String} (hfront : Text.isBlankText front.toList = true)
    (hback : Text.isBlankText back.toList = true) :
    SpellsText (some s) (.ofString (front ++ s ++ back))

/-- The documents that stand for a list. -/
inductive SpellsList {α : Type} (spells : α → Doc → Prop) : List α → Doc → Prop
  | null : SpellsList spells [] .null
  | elements {xs : List α} {docs : List Doc} (h : List.Forall₂ spells xs docs) :
    SpellsList spells xs (listDoc docs)

namespace Field

/-- A field that is there and whose value is written in one way. -/
def fixed (names : List String) (d : Doc) : Field := ⟨names, False, (· = d)⟩

/-- A bound of a range, which may be left out when it is zero. -/
def bound (name : String) (p : Port) : Field := ⟨[name], p = 0, (· = portDoc p)⟩

def text (name : String) (value : Option String) : Field := ⟨[name], value = none, SpellsText value⟩

def list {α : Type} (name : String) (spells : α → Doc → Prop) (xs : List α) : Field :=
  ⟨[name], xs = [], SpellsList spells xs⟩

end Field

def Mapping.fields (m : Mapping) : List Field :=
  [.fixed ["host_port"] (portDoc m.hostPort), .fixed ["vm_port"] (portDoc m.vmPort),
    .fixed ["protocol"] (.ofString m.protocol.word)]

def PortRange.fields (r : PortRange) : List Field :=
  [.bound "vm_start_port" r.vmStart, .bound "vm_end_port" r.vmEnd,
    .bound "host_start_port" r.hostStart, .bound "host_end_port" r.hostEnd,
    .fixed ["protocol"] (.ofString r.protocol.word)]

def Declaration.fields (d : Declaration) : List Field :=
  [.fixed ["vm_name", "domain"] (.ofString d.vmName),
    .list "port_map" (fun m => Written m.fields) d.portMap,
    .list "port_range" (fun r => Written r.fields) d.portRanges,
    .text "host_ip" (d.hostIp.map Address.text),
    .text "private_ip" (d.privateIp.map Address.text),
    .text "external_ip" (d.externalIp.map Address.text),
    .text "interface" d.interface,
    .text "last_updated" (d.lastUpdated.map Moment.text)]

def Registry.fields (r : Registry) : List Field :=
  [.list "configs" (fun d => Written d.fields) r.entries,
    .text "last_updated" (r.lastUpdated.map Moment.text)]

/-! ### What they are read to -/

/-- Blanks around a text are trimmed away. -/
theorem unsetOr_of_spells {α : Type} {parse : List Char → Except String α} {text : α → String}
    {field : Option α} {d : Doc} (h : SpellsText (field.map text) d)
    (hparse : ∀ a ∈ field, Text.trim (text a).toList ≠ [] ∧
      parse (Text.trim (text a).toList) = .ok a) :
    unsetOr parse d = .ok field := by
  generalize htext : field.map text = written at h
  cases h with
  | null =>
    rw [Option.map_eq_none_iff.1 htext]
    rfl
  | @blank s hblank =>
    rw [Option.map_eq_none_iff.1 htext, unsetOr_ofString,
      Text.trim_eq_nil_iff.2 (List.all_eq_true.1 hblank)]
  | @padded s front back hfront hback =>
    obtain ⟨a, rfl, rfl⟩ := Option.map_eq_some_iff.1 htext
    obtain ⟨hne, hread⟩ := hparse a rfl
    have htrim : Text.trim (front ++ text a ++ back).toList = Text.trim (text a).toList := by
      rw [String.toList_append, String.toList_append]
      exact Text.trim_append_of_blank hfront hback _
    rw [unsetOr_ofString, htrim]
    obtain ⟨c, r, hcons⟩ := List.exists_cons_of_ne_nil hne
    rw [hcons] at hread ⊢
    simp only [hread]

theorem elementsOf_of_forall₂ {α : Type} {decode : Doc → Decoded α} {spells : α → Doc → Prop}
    {xs : List α} {docs : List Doc} (h : List.Forall₂ spells xs docs)
    (hdecode : ∀ x ∈ xs, ∀ d, spells x d → decode d = .ok x) :
    elementsOf decode (.ofList docs) = .ok xs := by
  induction h with
  | nil => rfl
  | @cons x d xs docs hx _ ih =>
    obtain ⟨hhead, hrest⟩ := List.forall_mem_cons.1 hdecode
    simp only [Items.ofList, elementsOf, hhead d hx, ih hrest, Except.ok_bind]
    rfl

theorem listOrNull_of_spells {α : Type} {decode : Doc → Decoded α} {spells : α → Doc → Prop}
    {xs : List α} {d : Doc} (h : SpellsList spells xs d)
    (hdecode : ∀ x ∈ xs, ∀ d, spells x d → decode d = .ok x) : listOrNull decode d = .ok xs := by
  cases h with
  | null => rfl
  | elements hall =>
    simp only [listOrNull, optionOf, listDoc, listOf, elementsOf_of_forall₂ hall hdecode,
      Except.ok_bind]
    rfl

theorem addressField_of_spells {ip : Option Address} {d : Doc}
    (h : SpellsText (ip.map Address.text) d) : addressField d = .ok ip := by
  apply unsetOr_of_spells h
  intro a _
  rw [trim_text_address, a.ofChars?_toChars]
  exact ⟨a.toChars_ne_nil, rfl⟩

theorem momentField_of_spells {moment : Option Moment} {d : Doc}
    (h : SpellsText (moment.map Moment.text) d) (hvalid : ∀ t ∈ moment, t.Valid) :
    momentField d = .ok moment := by
  apply unsetOr_of_spells h
  intro t ht
  rw [trim_text_moment, Moment.ofChars_toChars (hvalid t ht)]
  exact ⟨by simp [Moment.toChars], rfl⟩

theorem textField_of_spells {text : Option String} {d : Doc} (h : SpellsText text d)
    (htidy : text.bind tidy = text) : textField d = .ok text := by
  have h' : SpellsText (text.map id) d := by rwa [Option.map_id]
  apply unsetOr_of_spells h'
  rintro s rfl
  have hs : tidy s = some s := htidy
  unfold tidy at hs
  split at hs
  · cases hs
  · next hne =>
    refine ⟨hne, ?_⟩
    exact congrArg Except.ok (Option.some.inj hs)

/-! ### Slots of single fields -/

namespace Slot

variable {σ α : Type} {get : σ → Option α} {set : σ → Option α → σ} {decode : Doc → Decoded α}

theorem suits_fixed {names : List String} {d : Doc} {a : α} (h : decode d = .ok a) :
    Suits ⟨names, α, get, set, decode, (· = some a)⟩ (.fixed names d) where
  names := rfl
  missing := nofun
  decode := by
    rintro _ rfl
    exact ⟨a, h, rfl⟩

theorem suits_bound {get : σ → Option Port} {set : σ → Option Port → σ} (name : String)
    (p : Port) :
    Suits ⟨[name], Port, get, set, wordOf, (·.getD 0 = p)⟩ (.bound name p) where
  names := rfl
  missing := Eq.symm
  decode := by
    rintro _ rfl
    exact ⟨p, wordOf_portDoc p, rfl⟩

theorem suits_list {get : σ → Option (List α)} {set : σ → Option (List α) → σ} (name : String)
    {spells : α → Doc → Prop} {xs : List α}
    (h : ∀ x ∈ xs, ∀ d, spells x d → decode d = .ok x) :
    Suits ⟨[name], List α, get, set, listOrNull decode, (·.getD [] = xs)⟩
      (.list name spells xs) where
  names := rfl
  missing := Eq.symm
  decode := fun _ hd => ⟨xs, listOrNull_of_spells hd h, rfl⟩

theorem suits_text {get : σ → Option (Option α)} {set : σ → Option (Option α) → σ}
    {decode : Doc → Decoded (Option α)} (name : String) {field : Option α} {value : Option String}
    (hvalue : value = none → field = none)
    (h : ∀ d, SpellsText value d → decode d = .ok field) :
    Suits ⟨[name], Option α, get, set, decode, (·.join = field)⟩ (.text name value) where
  names := rfl
  missing := fun hnone => (hvalue hnone).symm
  decode := fun d hd => ⟨field, h d hd, rfl⟩

end Slot

/-! ### Mappings and ranges -/

namespace Mapping

def slots (m : Mapping) : List (Slot MappingSlots) :=
  [⟨["host_port"], Port, (·.hostPort), fun s v => { s with hostPort := v }, wordOf,
      (· = some m.hostPort)⟩,
    ⟨["vm_port"], Port, (·.vmPort), fun s v => { s with vmPort := v }, wordOf,
      (· = some m.vmPort)⟩,
    ⟨["protocol"], Protocol, (·.protocol), fun s v => { s with protocol := v }, protocolOf,
      (· = some m.protocol)⟩]

theorem reads (m : Mapping) : Reads MappingSlots.accept m.slots where
  known := by
    simp only [slots, List.forall_mem_cons]
    exact ⟨⟨fun _ => rfl, nofun⟩, ⟨fun _ => rfl, nofun⟩, ⟨fun _ => rfl, nofun⟩, nofun⟩
  unknown := by
    intro n hn s
    simp only [slots, List.forall_mem_cons] at hn
    unfold MappingSlots.accept
    split <;> simp_all
  get_set := by simp [slots]
  apart := by simp [slots, Slot.apart_iff]

theorem suits (m : Mapping) : List.Forall₂ Slot.Suits m.slots m.fields :=
  .cons (Slot.suits_fixed (wordOf_portDoc m.hostPort)) <|
  .cons (Slot.suits_fixed (wordOf_portDoc m.vmPort)) <|
  .cons (Slot.suits_fixed (protocolOf_word m.protocol)) .nil

theorem ofDoc_of_written {m : Mapping} {doc : Doc} (h : Written m.fields doc) :
    Mapping.ofDoc doc = .ok m := by
  obtain ⟨members, rfl, hin, hprintable⟩ := h
  obtain ⟨s, hfold, hgood⟩ := m.reads.exists_foldMembers m.suits (s := {})
    (by simp [slots]) hin hprintable
  simp only [slots, List.forall_mem_cons] at hgood
  obtain ⟨hhost, hvm, hprotocol, -⟩ := hgood
  refine Except.bind_eq_ok.2 ⟨s, hfold, ?_⟩
  unfold MappingSlots.finish
  rw [hhost, hvm, hprotocol]
  rfl

end Mapping

namespace PortRange

def slots (r : PortRange) : List (Slot RangeSlots) :=
  [⟨["vm_start_port"], Port, (·.vmStart), fun s v => { s with vmStart := v }, wordOf,
      (·.getD 0 = r.vmStart)⟩,
    ⟨["vm_end_port"], Port, (·.vmEnd), fun s v => { s with vmEnd := v }, wordOf,
      (·.getD 0 = r.vmEnd)⟩,
    ⟨["host_start_port"], Port, (·.hostStart), fun s v => { s with hostStart := v }, wordOf,
      (·.getD 0 = r.hostStart)⟩,
    ⟨["host_end_port"], Port, (·.hostEnd), fun s v => { s with hostEnd := v }, wordOf,
      (·.getD 0 = r.hostEnd)⟩,
    ⟨["protocol"], Protocol, (·.protocol), fun s v => { s with protocol := v }, protocolOf,
      (· = some r.protocol)⟩]

theorem reads (r : PortRange) : Reads RangeSlots.accept r.slots where
  known := by
    simp only [slots, List.forall_mem_cons]
    exact ⟨⟨fun _ => rfl, nofun⟩, ⟨fun _ => rfl, nofun⟩, ⟨fun _ => rfl, nofun⟩,
      ⟨fun _ => rfl, nofun⟩, ⟨fun _ => rfl, nofun⟩, nofun⟩
  unknown := by
    intro n hn s
    simp only [slots, List.forall_mem_cons] at hn
    unfold RangeSlots.accept
    split <;> simp_all
  get_set := by simp [slots]
  apart := by simp [slots, Slot.apart_iff]

theorem suits (r : PortRange) : List.Forall₂ Slot.Suits r.slots r.fields :=
  .cons (Slot.suits_bound "vm_start_port" r.vmStart) <|
  .cons (Slot.suits_bound "vm_end_port" r.vmEnd) <|
  .cons (Slot.suits_bound "host_start_port" r.hostStart) <|
  .cons (Slot.suits_bound "host_end_port" r.hostEnd) <|
  .cons (Slot.suits_fixed (protocolOf_word r.protocol)) .nil

theorem ofDoc_of_written {r : PortRange} {doc : Doc} (h : Written r.fields doc) :
    PortRange.ofDoc doc = .ok r := by
  obtain ⟨members, rfl, hin, hprintable⟩ := h
  obtain ⟨s, hfold, hgood⟩ := r.reads.exists_foldMembers r.suits (s := {})
    (by simp [slots]) hin hprintable
  simp only [slots, List.forall_mem_cons] at hgood
  obtain ⟨hvmStart, hvmEnd, hhostStart, hhostEnd, hprotocol, -⟩ := hgood
  refine Except.bind_eq_ok.2 ⟨s, hfold, ?_⟩
  unfold RangeSlots.finish
  rw [hvmStart, hvmEnd, hhostStart, hhostEnd, hprotocol]
  rfl

end PortRange

/-! ### Declarations and registries -/

namespace Declaration

def slots (d : Declaration) : List (Slot DeclarationSlots) :=
  [⟨["vm_name", "domain"], String, (·.vmName), fun s v => { s with vmName := v }, nameOf,
      (· = some d.vmName)⟩,
    ⟨["port_map"], List Mapping, (·.portMap), fun s v => { s with portMap := v }, mappingsOf,
      (·.getD [] = d.portMap)⟩,
    ⟨["port_range"], List PortRange, (·.portRanges), fun s v => { s with portRanges := v },
      rangesOf, (·.getD [] = d.portRanges)⟩,
    ⟨["host_ip"], Option Address, (·.hostIp), fun s v => { s with hostIp := v }, addressField,
      (·.join = d.hostIp)⟩,
    ⟨["private_ip"], Option Address, (·.privateIp), fun s v => { s with privateIp := v },
      addressField, (·.join = d.privateIp)⟩,
    ⟨["external_ip"], Option Address, (·.externalIp), fun s v => { s with externalIp := v },
      addressField, (·.join = d.externalIp)⟩,
    ⟨["interface"], Option String, (·.interface), fun s v => { s with interface := v }, textField,
      (·.join = d.interface)⟩,
    ⟨["last_updated"], Option Moment, (·.lastUpdated), fun s v => { s with lastUpdated := v },
      momentField, (·.join = d.lastUpdated)⟩]

theorem reads (d : Declaration) : Reads DeclarationSlots.accept d.slots where
  known := by
    simp only [slots, List.forall_mem_cons]
    exact ⟨⟨fun _ => rfl, fun _ => rfl, nofun⟩, ⟨fun _ => rfl, nofun⟩, ⟨fun _ => rfl, nofun⟩,
      ⟨fun _ => rfl, nofun⟩, ⟨fun _ => rfl, nofun⟩, ⟨fun _ => rfl, nofun⟩,
      ⟨fun _ => rfl, nofun⟩, ⟨fun _ => rfl, nofun⟩, nofun⟩
  unknown := by
    intro n hn s
    simp only [slots, List.forall_mem_cons] at hn
    unfold DeclarationSlots.accept
    split <;> simp_all
  get_set := by simp [slots]
  apart := by simp [slots, Slot.apart_iff]

theorem suits {d : Declaration} (hnormal : d.normalized = d) (hdated : d.Dated) :
    List.Forall₂ Slot.Suits d.slots d.fields :=
  .cons (Slot.suits_fixed (nameOf_ofString d.vmName)) <|
  .cons (Slot.suits_list "port_map" fun _ _ _ => Mapping.ofDoc_of_written) <|
  .cons (Slot.suits_list "port_range" fun _ _ _ => PortRange.ofDoc_of_written) <|
  .cons (Slot.suits_text "host_ip" Option.map_eq_none_iff.1 fun _ => addressField_of_spells) <|
  .cons (Slot.suits_text "private_ip" Option.map_eq_none_iff.1 fun _ => addressField_of_spells) <|
  .cons (Slot.suits_text "external_ip" Option.map_eq_none_iff.1 fun _ => addressField_of_spells) <|
  .cons (Slot.suits_text "interface" id fun _ hd =>
    textField_of_spells hd (congrArg interface hnormal)) <|
  .cons (Slot.suits_text "last_updated" Option.map_eq_none_iff.1 fun _ hd =>
    momentField_of_spells hd hdated) .nil

theorem ofDoc_of_written {d : Declaration} (hnormal : d.normalized = d) (hdated : d.Dated)
    {doc : Doc} (h : Written d.fields doc) : Declaration.ofDoc doc = .ok d := by
  obtain ⟨members, rfl, hin, hprintable⟩ := h
  obtain ⟨s, hfold, hgood⟩ := d.reads.exists_foldMembers (suits hnormal hdated) (s := {})
    (by simp [slots]) hin hprintable
  simp only [slots, List.forall_mem_cons] at hgood
  obtain ⟨hname, hmap, hranges, hhost, hguest, hexternal, hinterface, hupdated, -⟩ := hgood
  refine Except.bind_eq_ok.2 ⟨s, hfold, ?_⟩
  unfold DeclarationSlots.finish
  rw [hname, hmap, hranges, hhost, hguest, hexternal, hinterface, hupdated]
  rfl

end Declaration

namespace Registry

def slots (r : Registry) : List (Slot RegistrySlots) :=
  [⟨["configs"], List Declaration, (·.entries), fun s v => { s with entries := v }, entriesOf,
      (·.getD [] = r.entries)⟩,
    ⟨["last_updated"], Option Moment, (·.lastUpdated), fun s v => { s with lastUpdated := v },
      momentField, (·.join = r.lastUpdated)⟩]

theorem reads (r : Registry) : Reads RegistrySlots.accept r.slots where
  known := by
    simp only [slots, List.forall_mem_cons]
    exact ⟨⟨fun _ => rfl, nofun⟩, ⟨fun _ => rfl, nofun⟩, nofun⟩
  unknown := by
    intro n hn s
    simp only [slots, List.forall_mem_cons] at hn
    unfold RegistrySlots.accept
    split <;> simp_all
  get_set := by simp [slots]
  apart := by simp [slots, Slot.apart_iff]

theorem suits {r : Registry} (hnormal : r.normalized = r) (hdated : r.Dated) :
    List.Forall₂ Slot.Suits r.slots r.fields := by
  have hentries : ∀ d ∈ r.entries, d.normalized = d :=
    List.map_inj_left.1 ((congrArg entries hnormal).trans (List.map_id r.entries).symm)
  exact .cons (Slot.suits_list "configs" fun d hd _ =>
      Declaration.ofDoc_of_written (hentries d hd) (hdated.1 d hd)) <|
    .cons (Slot.suits_text "last_updated" Option.map_eq_none_iff.1 fun _ h =>
      momentField_of_spells h hdated.2) .nil

/-- **Every document that stands for a registry is read to it.** -/
theorem ofDoc_of_written {r : Registry} (hnormal : r.normalized = r) (hdated : r.Dated)
    {doc : Doc} (h : Written r.fields doc) : Registry.ofDoc doc = .ok r := by
  obtain ⟨members, rfl, hin, hprintable⟩ := h
  obtain ⟨s, hfold, hgood⟩ := r.reads.exists_foldMembers (suits hnormal hdated) (s := {})
    (by simp [slots]) hin hprintable
  simp only [slots, List.forall_mem_cons] at hgood
  obtain ⟨hentries, hupdated, -⟩ := hgood
  refine Except.bind_eq_ok.2 ⟨s, hfold, ?_⟩
  unfold RegistrySlots.finish
  rw [hentries, hupdated]
  rfl

end Registry

end GuestPorts
