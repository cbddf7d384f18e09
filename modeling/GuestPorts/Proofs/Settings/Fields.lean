/-
  GuestPorts/Proofs/Settings/Fields.lean
  ======================================
  **The fields of settings** (`ofNode_rootFields`).

  Settings are a mapping with a mapping inside it, and in that a list.  No two fields of a
  mapping have one name, so each of them is found by its name (`field_named`), whatever the
  default is.
-/
import GuestPorts.Effect
import GuestPorts.Proofs.Yaml.Tree
import GuestPorts.Proofs.Yaml.Value
import GuestPorts.Settings.Yaml

namespace GuestPorts.Settings

open GuestPorts.Yaml

/-! ### Fields -/

def textField (name value : String) : Yaml.Field where
  name := name
  read := [.scalar (styleFor value.toList) value.toList]
  value := .scalar none (styleFor value.toList) value.toList

def wordField (name word : String) : Yaml.Field where
  name := name
  read := [.scalar .plain word.toList]
  value := .scalar none .plain word.toList

def listField (name : String) (items : List String) : Yaml.Field where
  name := name
  read :=
    if items.isEmpty then [.flowSequence, .flowSequenceEnd]
    else entryTokens (items.map fun item => (styleFor item.toList, item.toList))
  value := .sequence none (items.map fun item => .scalar none (styleFor item.toList) item.toList)

/-- The section of the rule file. -/
def sectionFields (p : PerimeterSettings) : List Yaml.Field :=
  [textField "rules_file" p.rulesFile, textField "start_marker" p.block.startMarker,
    textField "end_marker" p.block.endMarker, textField "comment_marker" p.block.commentMarker,
    listField "reload_command" p.reloadCommand]

def sectionField (p : PerimeterSettings) : Yaml.Field where
  name := "perimeter"
  read := mappingTokens (sectionFields p)
  value := .mapping none ((sectionFields p).map Field.pair)

def rootFields (s : Settings) : List Yaml.Field :=
  [textField "store_path" s.storePath, textField "log_dir" s.logDir,
    textField "iptables_path" s.filterProgram,
    wordField "use_sudo" (if s.useSudo then "true" else "false"), wordField "mode" s.mode.word,
    sectionField s.perimeter]

theorem means_textField (name value : String) :
    Means (textField name value).read (textField name value).value := means_scalar _ _

theorem means_listField (name : String) (items : List String) :
    Means (listField name items).read (listField name items).value := by
  cases items with
  | nil => exact means_brackets
  | cons item items =>
    have hne : ((item :: items).map fun item => (styleFor item.toList, item.toList)) ≠ [] := by simp
    have hmeans : Means (listField name (item :: items)).read (.sequence none
        (((item :: items).map fun item => (styleFor item.toList, item.toList)).map
          fun item => .scalar none item.1 item.2)) := means_entries hne
    have hvalue : (listField name (item :: items)).value = .sequence none
        (((item :: items).map fun item => (styleFor item.toList, item.toList)).map
          fun item => .scalar none item.1 item.2) := by
      simp [listField]
    rw [hvalue]
    exact hmeans

theorem means_sectionFields (p : PerimeterSettings) :
    ∀ f ∈ sectionFields p, Means f.read f.value := by
  intro f hf
  simp only [sectionFields, List.mem_cons, List.not_mem_nil, or_false] at hf
  rcases hf with rfl | rfl | rfl | rfl | rfl
  · exact means_textField _ _
  · exact means_textField _ _
  · exact means_textField _ _
  · exact means_textField _ _
  · exact means_listField _ _

theorem means_rootFields (s : Settings) : ∀ f ∈ rootFields s, Means f.read f.value := by
  intro f hf
  simp only [rootFields, List.mem_cons, List.not_mem_nil, or_false] at hf
  rcases hf with rfl | rfl | rfl | rfl | rfl | rfl
  · exact means_textField _ _
  · exact means_textField _ _
  · exact means_textField _ _
  · exact means_scalar _ _
  · exact means_scalar _ _
  · exact means_fields (means_sectionFields s.perimeter)

/-! ### From fields to settings -/

/-- The fields of a mapping by name. -/
def named (fields : List Yaml.Field) : List (String × Yaml.Node) :=
  fields.map fun f => (f.name, f.value)

theorem pairsOf_fields (fields : List Yaml.Field) :
    pairsOf (.mapping none (fields.map Field.pair)) = some (named fields) := by
  rw [pairsOf]
  apply mapM_map_eq_some
  intro f _
  have hname : textOf f.pair.1 = some f.name := by simp [textOf, Field.pair]
  rw [hname]
  rfl

theorem textOf_textField (name value : String) : textOf (textField name value).value = some value := by
  simp [textOf, textField]

theorem strictTextOf_textField (name value : String) :
    strictTextOf (textField name value).value = some value := by
  rcases styleFor_cases value.toList with ⟨hstyle, -, -, htext⟩ | ⟨hstyle, -⟩ | hstyle | ⟨hstyle, -⟩
  · simp [strictTextOf, textField, hstyle, htext]
  · simp [strictTextOf, textField, hstyle]
  · simp [strictTextOf, textField, hstyle]
  · simp [strictTextOf, textField, hstyle]

theorem textsOf_listField (name : String) (items : List String) :
    textsOf (listField name items).value = some items := by
  have hall : (listField name items).value
      = .sequence none (items.map fun item => .scalar none (styleFor item.toList) item.toList) := rfl
  rw [hall, textsOf]
  refine (mapM_map_eq_some (g := id) ?_).trans (congrArg some (List.map_id items))
  intro item _
  simp [textOf]

section Lookup

variable {α : Type} {fields : List Yaml.Field} {f : Yaml.Field} {name : String}

/-- The names of fields, of which no two may be the same. -/
def names (fields : List Yaml.Field) : List String := fields.map fun f => f.name

theorem filter_named_of_not_mem (h : name ∉ names fields) :
    (named fields).filter (fun p => p.1 == name) = [] := by
  rw [List.filter_eq_nil_iff]
  rintro p hp heq
  obtain ⟨f, hf, rfl⟩ := List.mem_map.1 hp
  apply h
  rw [← eq_of_beq heq]
  exact List.mem_map.2 ⟨f, hf, rfl⟩

theorem filter_named (hnodup : (names fields).Nodup) (hf : f ∈ fields)
    (hname : f.name = name) :
    (named fields).filter (fun p => p.1 == name) = [(name, f.value)] := by
  induction fields with
  | nil => cases hf
  | cons g fields ih =>
    obtain ⟨hfresh, hnodup⟩ := List.nodup_cons.1 hnodup
    have hcons : named (g :: fields) = (g.name, g.value) :: named fields := rfl
    rw [hcons]
    rcases List.mem_cons.1 hf with rfl | hf
    · have hrest : name ∉ names fields := hname ▸ hfresh
      rw [List.filter_cons_of_pos (by simpa using hname), filter_named_of_not_mem hrest, hname]
    · have hother : g.name ≠ name := by
        rintro rfl
        apply hfresh
        exact List.mem_map.2 ⟨f, hf, hname⟩
      rw [List.filter_cons_of_neg (by simpa using hother), ih hnodup hf]

/-- A field is found by its name. -/
theorem field_named (hnodup : (names fields).Nodup) (hf : f ∈ fields)
    (hname : f.name = name) (read : Yaml.Node → Option α) (fallback : α) :
    field name read fallback (named fields) = read f.value := by
  rw [field, filter_named hnodup hf hname]

theorem field_textField {value : String} (hnodup : (names fields).Nodup)
    (hf : textField name value ∈ fields) (fallback : String) :
    field name textOf fallback (named fields) = some value :=
  (field_named hnodup hf rfl textOf fallback).trans (textOf_textField name value)

theorem field_strictTextField {value : String} (hnodup : (names fields).Nodup)
    (hf : textField name value ∈ fields) (fallback : String) :
    field name strictTextOf fallback (named fields) = some value :=
  (field_named hnodup hf rfl strictTextOf fallback).trans (strictTextOf_textField name value)

end Lookup

theorem names_sectionFields (p : PerimeterSettings) : names (sectionFields p) = perimeterFields := rfl

theorem nodup_sectionFields (p : PerimeterSettings) : (names (sectionFields p)).Nodup := by
  rw [names_sectionFields]
  decide

/-- No field of the section is one that is passed over. -/
theorem filter_others_sectionFields (p : PerimeterSettings) :
    (named (sectionFields p)).filter (fun q => !perimeterFields.contains q.1) = [] := by
  rw [List.filter_eq_nil_iff]
  intro q hq
  obtain ⟨f, hf, rfl⟩ := List.mem_map.1 hq
  have hmem : f.name ∈ perimeterFields := by
    rw [← names_sectionFields p]
    exact List.mem_map.2 ⟨f, hf, rfl⟩
  simp [hmem]

theorem blockOf_sectionFields (p : PerimeterSettings) :
    blockOf (named (sectionFields p)) = some p.block := by
  have hnodup := nodup_sectionFields p
  have hstart : textField "start_marker" p.block.startMarker ∈ sectionFields p := by
    simp [sectionFields]
  have hend : textField "end_marker" p.block.endMarker ∈ sectionFields p := by
    simp [sectionFields]
  have hcomment : textField "comment_marker" p.block.commentMarker ∈ sectionFields p := by
    simp [sectionFields]
  simp only [blockOf, field_strictTextField hnodup hstart, field_strictTextField hnodup hend,
    field_strictTextField hnodup hcomment, Option.bind_eq_bind, Option.bind_some]
  rfl

theorem perimeterOf_sectionField (p : PerimeterSettings) :
    perimeterOf (sectionField p).value = some p := by
  have hnodup := nodup_sectionFields p
  have hrules : textField "rules_file" p.rulesFile ∈ sectionFields p := by simp [sectionFields]
  have hlist : listField "reload_command" p.reloadCommand ∈ sectionFields p := by
    simp [sectionFields]
  have hreload : ∀ fallback, field "reload_command" textsOf fallback (named (sectionFields p))
      = some p.reloadCommand := fun fallback =>
    (field_named hnodup hlist rfl textsOf fallback).trans (textsOf_listField _ _)
  have hvalue : (sectionField p).value = .mapping none ((sectionFields p).map Field.pair) := rfl
  simp only [hvalue, perimeterOf, pairsOf_fields, Option.bind_eq_bind, Option.bind_some,
    filter_others_sectionFields, List.all_nil, Bool.not_true, Bool.false_eq_true, if_false,
    field_textField hnodup hrules, hreload, blockOf_sectionFields]
  rfl

theorem boolOf_word (b : Bool) :
    boolOf (wordField "use_sudo" (if b then "true" else "false")).value = some b := by
  cases b <;> simp [boolOf, wordField, Yaml.boolOf]

theorem modeOf_word (m : Mode) : modeOf (wordField "mode" m.word).value = some m := by
  have hword : modeOf (wordField "mode" m.word).value = Mode.ofWord? m.word := by
    simp [modeOf, wordField]
  have hread : Mode.ofWord? m.word = some m := by
    cases m <;> simp [Mode.ofWord?, Mode.word]
  exact hword.trans hread

theorem nodup_rootFields (s : Settings) : (names (rootFields s)).Nodup := by
  have hnames : names (rootFields s)
      = ["store_path", "log_dir", "iptables_path", "use_sudo", "mode", "perimeter"] := rfl
  rw [hnames]
  simp

/-- **The fields of the settings are the settings.** -/
theorem ofNode_rootFields (s : Settings) :
    ofNode (.mapping none ((rootFields s).map Field.pair)) = some s := by
  have hnodup := nodup_rootFields s
  have hstore : textField "store_path" s.storePath ∈ rootFields s := by simp [rootFields]
  have hlog : textField "log_dir" s.logDir ∈ rootFields s := by simp [rootFields]
  have hprogram : textField "iptables_path" s.filterProgram ∈ rootFields s := by
    simp [rootFields]
  have hword : wordField "use_sudo" (if s.useSudo then "true" else "false") ∈ rootFields s := by
    simp [rootFields]
  have hmodeWord : wordField "mode" s.mode.word ∈ rootFields s := by simp [rootFields]
  have hsection : sectionField s.perimeter ∈ rootFields s := by simp [rootFields]
  have hsudo : ∀ fallback, field "use_sudo" boolOf fallback (named (rootFields s)) = some s.useSudo :=
    fun fallback => (field_named hnodup hword rfl boolOf fallback).trans (boolOf_word s.useSudo)
  have hmode : ∀ fallback, field "mode" modeOf fallback (named (rootFields s)) = some s.mode :=
    fun fallback => (field_named hnodup hmodeWord rfl modeOf fallback).trans (modeOf_word s.mode)
  have hperimeter : ∀ fallback,
      field "perimeter" perimeterOf fallback (named (rootFields s)) = some s.perimeter :=
    fun fallback => (field_named hnodup hsection rfl perimeterOf fallback).trans
      (perimeterOf_sectionField s.perimeter)
  simp only [ofNode, pairsOf_fields, Option.bind_eq_bind, Option.bind_some,
    field_textField hnodup hstore, field_textField hnodup hlog, field_textField hnodup hprogram,
    hsudo, hmode, hperimeter]
  rfl

end GuestPorts.Settings
