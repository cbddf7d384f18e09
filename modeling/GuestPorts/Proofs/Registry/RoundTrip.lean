/-
  GuestPorts/Proofs/Registry/RoundTrip.lean
  =========================================
  **Nothing of a registry is lost in its document** but the blanks around interfaces
  (`text_round_trip`).

  The reader takes many texts that the writer never makes: fields in other orders, under an
  older name, as lists, with blanks around them.  What it makes of any of them is in normal
  form (`Registry.canonical_of_parse`), so from the first reading on a registry stays what it
  is, however often it is written and read.
-/
import GuestPorts.Proofs.Registry.Document
import GuestPorts.Registry.File

namespace GuestPorts

open GuestPorts.Json

/-- A declaration that comes back from its document as it is. -/
structure Declaration.Canonical (d : Declaration) : Prop where
  normalized_eq : d.normalized = d
  dated : d.Dated

/-- A registry that comes back from its document as it is. -/
structure Registry.Canonical (r : Registry) : Prop where
  entries : ∀ d ∈ r.entries, d.Canonical
  lastUpdated : ∀ t ∈ r.lastUpdated, t.Valid

theorem Registry.Canonical.dated {r : Registry} (h : r.Canonical) : r.Dated :=
  ⟨fun d hd => (h.entries d hd).dated, h.lastUpdated⟩

theorem Registry.Canonical.normalized_eq {r : Registry} (h : r.Canonical) : r.normalized = r := by
  have hentries : r.entries.map Declaration.normalized = r.entries :=
    (List.map_congr_left fun d hd => (h.entries d hd).normalized_eq).trans (List.map_id _)
  unfold Registry.normalized
  rw [hentries]

theorem Store.parse_document {r : Registry} (h : r.Dated) :
    Registry.parse (Store.document r) = .ok r.normalized :=
  Registry.parse_text_append h rfl

/-! ### What the fields hold that were read -/

theorem wrongType_ne_ok {α : Type} (expected : String) (d : Doc) {a : α} :
    (wrongType expected d : Decoded α) ≠ .ok a := by
  unfold wrongType
  split
  case h_3 n =>
    unfold wrongNumber
    split <;> exact nofun
  all_goals exact nofun

theorem exists_parse_of_unsetOr {α : Type} {parse : List Char → Except String α} {d : Doc} {a : α}
    (h : unsetOr parse d = .ok (some a)) :
    ∃ cs, Text.trim cs ≠ [] ∧ parse (Text.trim cs) = .ok a := by
  unfold unsetOr at h
  obtain ⟨o, -, h⟩ := Except.bind_eq_ok.1 h
  cases o with
  | none => cases h
  | some cs =>
    simp only at h
    refine ⟨cs, ?_⟩
    cases htrim : Text.trim cs with
    | nil =>
      rw [htrim] at h
      cases h
    | cons c r =>
      rw [htrim] at h
      simp only at h
      cases hparse : parse (c :: r) with
      | error reason =>
        rw [hparse] at h
        cases h
      | ok b =>
        rw [hparse] at h
        cases h
        exact ⟨List.cons_ne_nil _ _, rfl⟩

theorem tidy_of_textField {d : Doc} {i : String} (h : textField d = .ok (some i)) :
    tidy i = some i := by
  obtain ⟨cs, hne, hparse⟩ := exists_parse_of_unsetOr h
  cases hparse
  have htidy : tidy (String.ofList cs) = some (String.ofList (Text.trim cs)) := by
    unfold tidy Text.trimmed
    rw [String.toList_ofList, if_neg hne]
  exact tidy_of_tidy_eq_some htidy

theorem valid_of_momentField {d : Doc} {t : Moment} (h : momentField d = .ok (some t)) :
    t.Valid := by
  obtain ⟨cs, -, hparse⟩ := exists_parse_of_unsetOr h
  cases hread : Moment.ofChars (Text.trim cs) with
  | error e =>
    rw [hread] at hparse
    cases hparse
  | ok u =>
    rw [hread] at hparse
    cases hparse
    exact Moment.valid_of_ofChars hread

theorem exists_decode_of_fill {α : Type} {slot : Option α} {name : String} {decode : Doc → Decoded α}
    {d : Doc} {a : α} (h : fill slot name decode d = .ok (some a)) : decode d = .ok a := by
  unfold fill at h
  split at h
  · cases h
  · obtain ⟨b, hdecode, h⟩ := Except.bind_eq_ok.1 h
    cases h
    exact hdecode

theorem exists_decode_of_nextItem {α : Type} {decode : Doc → Decoded α} {items rest : Items} {a : α}
    (h : nextItem decode items = .ok (some a, rest)) : ∃ d, decode d = .ok a := by
  unfold nextItem at h
  split at h
  · cases h
  · cases h
  · next head tail =>
    obtain ⟨b, hdecode, h⟩ := Except.bind_eq_ok.1 h
    cases h
    exact ⟨head, hdecode⟩

theorem forall_of_elementsOf {α : Type} {decode : Doc → Decoded α} {P : α → Prop}
    (hdecode : ∀ d a, decode d = .ok a → P a) :
    ∀ (items : Items) {as : List α}, elementsOf decode items = .ok as → ∀ a ∈ as, P a
  | .closed, as, h => by
    cases h
    exact nofun
  | .cut, as, h => nomatch h
  | .cons head tail, as, h => by
    unfold elementsOf at h
    obtain ⟨a, ha, h⟩ := Except.bind_eq_ok.1 h
    obtain ⟨bs, hbs, h⟩ := Except.bind_eq_ok.1 h
    cases h
    exact List.forall_mem_cons.2 ⟨hdecode head a ha, forall_of_elementsOf hdecode tail hbs⟩

theorem forall_of_listOrNull {α : Type} {decode : Doc → Decoded α} {P : α → Prop}
    (hdecode : ∀ d a, decode d = .ok a → P a) {d : Doc} {as : List α}
    (h : listOrNull decode d = .ok as) : ∀ a ∈ as, P a := by
  unfold listOrNull at h
  obtain ⟨o, ho, h⟩ := Except.bind_eq_ok.1 h
  cases h
  cases o with
  | none => exact nofun
  | some as =>
    unfold optionOf at ho
    split at ho
    · cases ho
    · obtain ⟨bs, hlist, ho⟩ := Except.bind_eq_ok.1 ho
      cases ho
      unfold listOf at hlist
      split at hlist
      · exact forall_of_elementsOf hdecode _ hlist
      · exact absurd hlist (wrongType_ne_ok _ _)

/-- What every accepted member keeps holds of what an object is read to. -/
theorem foldMembers_keeps {σ : Type} {accept : σ → String → Option (Doc → Decoded σ)}
    {P : σ → Prop}
    (hstep : ∀ s name take d s', accept s name = some take → take d = .ok s' → P s → P s') :
    ∀ (members : Members) {s s' : σ}, P s → foldMembers accept s members = .ok s' → P s'
  | .closed, s, s', hs, h => by
    cases h
    exact hs
  | .cut, s, s', hs, h => nomatch h
  | .nameless value, s, s', hs, h => nomatch h
  | .cons name value tail, s, s', hs, h => by
    unfold foldMembers at h
    split at h
    · next take haccept =>
      obtain ⟨between, htake, h⟩ := Except.bind_eq_ok.1 h
      exact foldMembers_keeps hstep tail (hstep _ _ _ _ _ haccept htake hs) h
    · split at h
      · exact foldMembers_keeps hstep tail hs h
      · cases h

/-! ### Declarations and registries that were read -/

/-- The slots hold what stays as it is when it is written and read. -/
structure DeclarationSlots.Canonical (s : DeclarationSlots) : Prop where
  interface : ∀ i, s.interface = some (some i) → tidy i = some i
  lastUpdated : ∀ t, s.lastUpdated = some (some t) → t.Valid

theorem DeclarationSlots.Canonical.accept {s s' : DeclarationSlots} {name : String}
    {take : Doc → Decoded DeclarationSlots} {d : Doc} (haccept : s.accept name = some take)
    (htake : take d = .ok s') (h : s.Canonical) : s'.Canonical := by
  unfold DeclarationSlots.accept at haccept
  split at haccept <;> cases haccept <;>
    obtain ⟨filled, hfill, htake⟩ := Except.bind_eq_ok.1 htake <;> cases htake
  case h_8.refl.refl =>
    refine ⟨fun i hi => ?_, h.lastUpdated⟩
    cases (hi : filled = _)
    exact tidy_of_textField (exists_decode_of_fill hfill)
  case h_9.refl.refl =>
    refine ⟨h.interface, fun t ht => ?_⟩
    cases (ht : filled = _)
    exact valid_of_momentField (exists_decode_of_fill hfill)
  all_goals exact ⟨h.interface, h.lastUpdated⟩

theorem DeclarationSlots.Canonical.finish {s : DeclarationSlots} {d : Declaration}
    (hfinish : s.finish = .ok d) (h : s.Canonical) : d.Canonical := by
  unfold DeclarationSlots.finish at hfinish
  obtain ⟨name, -, hfinish⟩ := Except.bind_eq_ok.1 hfinish
  cases hfinish
  constructor
  · unfold Declaration.normalized
    cases hi : s.interface.join with
    | none => rfl
    | some i =>
      rw [Option.bind_some, h.interface i (Option.join_eq_some_iff.1 hi)]
  · intro t ht
    exact h.lastUpdated t (Option.join_eq_some_iff.1 ht)

theorem Declaration.canonical_of_ofItems {items : Items} {d : Declaration}
    (h : Declaration.ofItems items = .ok d) : d.Canonical := by
  unfold Declaration.ofItems at h
  obtain ⟨⟨vmName, _⟩, -, h⟩ := Except.bind_eq_ok.1 h
  obtain ⟨⟨portMap, _⟩, -, h⟩ := Except.bind_eq_ok.1 h
  obtain ⟨⟨portRanges, _⟩, -, h⟩ := Except.bind_eq_ok.1 h
  obtain ⟨⟨hostIp, _⟩, -, h⟩ := Except.bind_eq_ok.1 h
  obtain ⟨⟨privateIp, _⟩, -, h⟩ := Except.bind_eq_ok.1 h
  obtain ⟨⟨externalIp, _⟩, -, h⟩ := Except.bind_eq_ok.1 h
  obtain ⟨⟨interface, _⟩, hinterface, h⟩ := Except.bind_eq_ok.1 h
  obtain ⟨⟨lastUpdated, _⟩, hlast, h⟩ := Except.bind_eq_ok.1 h
  obtain ⟨_, -, h⟩ := Except.bind_eq_ok.1 h
  refine DeclarationSlots.Canonical.finish h ⟨fun i hi => ?_, fun t ht => ?_⟩
  · cases (hi : interface = _)
    obtain ⟨doc, hdoc⟩ := exists_decode_of_nextItem hinterface
    exact tidy_of_textField hdoc
  · cases (ht : lastUpdated = _)
    obtain ⟨doc, hdoc⟩ := exists_decode_of_nextItem hlast
    exact valid_of_momentField hdoc

theorem Declaration.canonical_of_ofDoc {doc : Doc} {d : Declaration}
    (h : Declaration.ofDoc doc = .ok d) : d.Canonical := by
  unfold Declaration.ofDoc at h
  split at h
  · next members =>
    obtain ⟨s, hfold, h⟩ := Except.bind_eq_ok.1 h
    have hslots := foldMembers_keeps (P := DeclarationSlots.Canonical)
      (fun _ _ _ _ _ haccept htake hs => hs.accept haccept htake) members
      ⟨by simp, by simp⟩ hfold
    exact hslots.finish h
  · exact Declaration.canonical_of_ofItems h
  · exact absurd h (wrongType_ne_ok _ _)

/-- The slots of a registry hold what stays as it is when it is written and read. -/
structure RegistrySlots.Canonical (s : RegistrySlots) : Prop where
  entries : ∀ es, s.entries = some es → ∀ d ∈ es, d.Canonical
  lastUpdated : ∀ t, s.lastUpdated = some (some t) → t.Valid

theorem RegistrySlots.Canonical.accept {s s' : RegistrySlots} {name : String}
    {take : Doc → Decoded RegistrySlots} {d : Doc} (haccept : s.accept name = some take)
    (htake : take d = .ok s') (h : s.Canonical) : s'.Canonical := by
  unfold RegistrySlots.accept at haccept
  split at haccept <;> cases haccept <;>
    obtain ⟨filled, hfill, htake⟩ := Except.bind_eq_ok.1 htake <;> cases htake
  · refine ⟨fun es hes => ?_, h.lastUpdated⟩
    cases (hes : filled = _)
    exact forall_of_listOrNull (fun _ _ => Declaration.canonical_of_ofDoc)
      (exists_decode_of_fill hfill)
  · refine ⟨h.entries, fun t ht => ?_⟩
    cases (ht : filled = _)
    exact valid_of_momentField (exists_decode_of_fill hfill)

theorem RegistrySlots.Canonical.finish {s : RegistrySlots} (h : s.Canonical) :
    s.finish.Canonical := by
  constructor
  · cases hes : s.entries with
    | none =>
      unfold RegistrySlots.finish
      rw [hes]
      exact nofun
    | some es =>
      unfold RegistrySlots.finish
      rw [hes]
      exact h.entries es hes
  · intro t ht
    exact h.lastUpdated t (Option.join_eq_some_iff.1 ht)

theorem Registry.canonical_of_ofDoc {doc : Doc} {r : Registry} (h : Registry.ofDoc doc = .ok r) :
    r.Canonical := by
  unfold Registry.ofDoc at h
  split at h
  · next members =>
    obtain ⟨s, hfold, h⟩ := Except.bind_eq_ok.1 h
    cases h
    have hslots := foldMembers_keeps (P := RegistrySlots.Canonical)
      (fun _ _ _ _ _ haccept htake hs => hs.accept haccept htake) members
      ⟨by simp, by simp⟩ hfold
    exact hslots.finish
  · next items =>
    unfold Registry.ofItems at h
    obtain ⟨⟨entries, _⟩, hentries, h⟩ := Except.bind_eq_ok.1 h
    obtain ⟨⟨lastUpdated, _⟩, hlast, h⟩ := Except.bind_eq_ok.1 h
    obtain ⟨_, -, h⟩ := Except.bind_eq_ok.1 h
    cases h
    refine RegistrySlots.Canonical.finish ⟨fun es hes => ?_, fun t ht => ?_⟩
    · cases (hes : entries = _)
      obtain ⟨doc, hdoc⟩ := exists_decode_of_nextItem hentries
      exact forall_of_listOrNull (fun _ _ => Declaration.canonical_of_ofDoc) hdoc
    · cases (ht : lastUpdated = _)
      obtain ⟨doc, hdoc⟩ := exists_decode_of_nextItem hlast
      exact valid_of_momentField hdoc
  · exact absurd h (wrongType_ne_ok _ _)

/-- **What is read from any text is in normal form.** -/
theorem Registry.canonical_of_parse {s : String} {r : Registry} (h : Registry.parse s = .ok r) :
    r.Canonical := by
  unfold Registry.parse decodeText at h
  generalize read s.toList = x at h
  obtain ⟨a, hdecode, h⟩ := Except.bind_eq_ok.1 h
  split at h
  · cases h
    exact Registry.canonical_of_ofDoc hdecode
  · cases h

/-! ### Writing and reading -/

/-- **The document of a registry reads back to the registry**, its interfaces without the
    blanks around them; and what was read from any text is read back as it is. -/
theorem text_round_trip :
    (∀ r : Registry, r.Dated → Registry.parse r.text = .ok r.normalized ∧
      Registry.parse (Store.document r) = .ok r.normalized) ∧
    ∀ (s : String) (r : Registry), Registry.parse s = .ok r →
      Registry.parse r.text = .ok r ∧ Registry.parse (Store.document r) = .ok r := by
  have htext : ∀ r : Registry, r.Dated → Registry.parse r.text = .ok r.normalized := by
    intro r h
    have hread : Registry.parse (r.text ++ "") = .ok r.normalized :=
      Registry.parse_text_append h rfl
    rwa [String.append_empty] at hread
  refine ⟨fun r h => ⟨htext r h, Store.parse_document h⟩, fun s r h => ?_⟩
  have hcanonical := Registry.canonical_of_parse h
  have hparse := htext r hcanonical.dated
  have hparse' := Store.parse_document hcanonical.dated
  rw [hcanonical.normalized_eq] at hparse hparse'
  exact ⟨hparse, hparse'⟩

/-- A guest's name that has to be escaped, interfaces with blanks, a leap second and years on
    either side of those with four digits. -/
def Registry.sample : Registry where
  entries :=
    [{ vmName := "a\"b\n", portMap := [⟨80, 8080, .tcp⟩], interface := some " br0 "
       lastUpdated := some ⟨⟨12024, 2, 29⟩, 23, 59, 60, 250000000⟩ },
     { vmName := "", interface := some "\t" }]
  lastUpdated := some ⟨⟨-1, 12, 31⟩, 0, 0, 0, 1⟩

theorem text_round_trip_sample :
    Registry.parse (Store.document Registry.sample) = .ok Registry.sample.normalized ∧
      Registry.sample.normalized.entries.map Declaration.interface = [some "br0", none] ∧
      ∀ r, Registry.parse "[[[\"vm\", null, null, null, null, null, \" br0 \"]]]" = .ok r →
        r.entries.map Declaration.interface = [some "br0"] ∧
          Registry.parse (Store.document r) = .ok r := by
  have hdated : Registry.sample.Dated := by
    refine ⟨fun d hd t ht => ?_, fun t ht => ?_⟩
    · rcases List.mem_pair.1 hd with rfl | rfl <;> cases ht
      decide
    · cases ht
      decide
  refine ⟨(text_round_trip.1 _ hdated).2, by decide +kernel, fun r h => ?_⟩
  have hread : Registry.parse "[[[\"vm\", null, null, null, null, null, \" br0 \"]]]"
      = .ok { entries := [{ vmName := "vm", interface := some "br0" }] } := by decide +kernel
  refine ⟨?_, (text_round_trip.2 _ r h).2⟩
  rw [hread] at h
  cases h
  rfl

end GuestPorts
