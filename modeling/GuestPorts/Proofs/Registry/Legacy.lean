/-
  GuestPorts/Proofs/Registry/Legacy.lean
  ======================================
  **Old and new documents of a registry are read alike** (`spellings_decode_alike`).

  Stores that older programs wrote have their members in other orders and some that are unknown
  here, an older name for the guest's, empty texts and `null` for what is unset, no bound where
  it is zero, and line breaks of their own.  All of these at once, in any combination, are what
  stands for a registry (`Written`, `Registry.fields`); the text is any in which the tokens of
  such a document stand (`Json.Spaced`).
-/
import GuestPorts.Proofs.Registry.Refinement

namespace GuestPorts

open GuestPorts.Json

/-- **However a registry is written, it is read back as it is**: its own document is one of
    those that stand for it, and from every text of any of these the same registry is read. -/
theorem spellings_decode_alike {r : Registry} (htrimmed : ∀ d ∈ r.entries, d.Trimmed)
    (hdated : r.Dated) :
    Written r.fields r.toDoc ∧
      ∀ doc, Written r.fields doc → ∀ text behind, Spaced doc.tokens text →
        (∀ c ∈ behind, isSpace c = true) →
        Registry.parse (String.ofList (text ++ behind)) = .ok r := by
  have hnormal : r.normalized = r := by
    have hentries : r.entries.map Declaration.normalized = r.entries :=
      (List.map_congr_left fun d hd => (htrimmed d hd).normalized_eq).trans (List.map_id _)
    unfold Registry.normalized
    rw [hentries]
  constructor
  · have hwritten := r.written_toDoc
    rwa [hnormal] at hwritten
  · intro doc hdoc text behind htext hbehind
    apply Registry.parse_of_read _ (Registry.ofDoc_of_written hnormal hdated hdoc)
    rw [String.toList_ofList]
    exact read_spaced hdoc.printable htext (List.dropWhile_eq_nil_iff.2 hbehind)

/-- A range without most of its bounds, in the order of an older program. -/
def Json.Doc.legacyRange : Doc :=
  objectDoc [("protocol", .ofString "udp"), ("vm_start_port", portDoc 8888)]

def Json.Doc.legacyDeclaration : Doc :=
  objectDoc
    [("interface", .ofString "\tbr0 "), ("external_ip", .null), ("domain", .ofString "hadoop"),
      ("port_range", listDoc [legacyRange]), ("configs", objectDoc [("vm_name", .bool true)]),
      ("private_ip", .ofString " 192.168.122.109"), ("port_map", .null)]

def Json.Doc.legacy : Doc :=
  objectDoc [("last_updated", .ofString " "), ("version", listDoc [portDoc 2, .null]),
    ("configs", listDoc [legacyDeclaration])]

/-- What the older program had in its registry. -/
def Declaration.hadoop : Declaration where
  vmName := "hadoop"
  portRanges := [⟨8888, 0, 0, 0, .udp⟩]
  privateIp := some ⟨192, 168, 122, 109⟩
  interface := some "br0"

theorem PortRange.written_legacy : Written (PortRange.fields ⟨8888, 0, 0, 0, .udp⟩)
    Doc.legacyRange := by
  refine ⟨_, rfl, ?_, ?_⟩
  · simp only [PortRange.fields, List.forall_mem_cons]
    exact ⟨.inr ⟨_, rfl, rfl⟩, .inl ⟨rfl, rfl⟩, .inl ⟨rfl, rfl⟩, .inl ⟨rfl, rfl⟩,
      .inr ⟨_, rfl, rfl⟩, List.forall_mem_nil _⟩
  · simp only [List.forall_mem_cons]
    exact ⟨trivial, printable_portDoc 8888, List.forall_mem_nil _⟩

theorem Declaration.written_legacy : Written Declaration.hadoop.fields Doc.legacyDeclaration := by
  have hinterface : SpellsText (some "br0") (.ofString "\tbr0 ") :=
    @SpellsText.padded "br0" "\t" " " rfl rfl
  have haddress : SpellsText (some (Address.text ⟨192, 168, 122, 109⟩))
      (.ofString " 192.168.122.109") := by
    have htext : Address.text ⟨192, 168, 122, 109⟩ = "192.168.122.109" := by decide +kernel
    rw [htext]
    exact @SpellsText.padded "192.168.122.109" " " "" rfl rfl
  refine ⟨_, rfl, ?_, ?_⟩
  · simp only [Declaration.fields, List.forall_mem_cons]
    exact ⟨.inr ⟨_, rfl, rfl⟩, .inr ⟨_, rfl, .null⟩,
      .inr ⟨_, rfl, .elements (.cons PortRange.written_legacy .nil)⟩, .inl ⟨rfl, rfl⟩,
      .inr ⟨_, rfl, haddress⟩, .inr ⟨_, rfl, .null⟩, .inr ⟨_, rfl, hinterface⟩, .inl ⟨rfl, rfl⟩,
      List.forall_mem_nil _⟩
  · simp only [List.forall_mem_cons]
    exact ⟨trivial, trivial, trivial, ⟨PortRange.written_legacy.printable, trivial⟩,
      ⟨trivial, trivial⟩, trivial, trivial, List.forall_mem_nil _⟩

theorem Registry.written_legacy : Written (Registry.fields { entries := [.hadoop] })
    Doc.legacy := by
  refine ⟨_, rfl, ?_, ?_⟩
  · simp only [Registry.fields, List.forall_mem_cons]
    exact ⟨.inr ⟨_, rfl, .elements (.cons Declaration.written_legacy .nil)⟩,
      .inr ⟨_, rfl, .blank rfl⟩, List.forall_mem_nil _⟩
  · simp only [List.forall_mem_cons]
    exact ⟨trivial, ⟨printable_portDoc 2, trivial, trivial⟩,
      ⟨Declaration.written_legacy.printable, trivial⟩, List.forall_mem_nil _⟩

theorem spellings_decode_alike_legacy :
    ((∀ d ∈ [Declaration.hadoop], d.Trimmed) ∧ Registry.Dated { entries := [.hadoop] }) ∧
      Registry.parse (String.ofList
        (Doc.legacy.tokens.flatMap ("\n\t".toList ++ ·) ++ ['\n']))
          = .ok { entries := [.hadoop] } := by
  have htrimmed : ∀ d ∈ [Declaration.hadoop], d.Trimmed := by
    rw [List.forall_mem_singleton]
    intro i hi
    cases hi
    decide +kernel
  have hdated : Registry.Dated { entries := [.hadoop] } := by
    simp [Registry.Dated, Declaration.Dated, Declaration.hadoop]
  have hgap : ∀ c ∈ "\n\t".toList, isSpace c = true := by simp [isSpace]
  have htext := Spaced.flatMap hgap Doc.legacy.tokens
  have hend : ∀ c ∈ ['\n'], isSpace c = true := by simp [isSpace]
  exact ⟨⟨htrimmed, hdated⟩, (spellings_decode_alike htrimmed hdated).2 Doc.legacy
    Registry.written_legacy _ ['\n'] htext hend⟩

end GuestPorts
