/-
  GuestPorts/Proofs/Settings/RoundTrip.lean
  =========================================
  **Settings survive their own file** (`settings_round_trip`).

  The scan goes through the file line by line and comes to the tokens of the fields
  (`tokens_toYaml`).  Each field is then the text it was written from, whether or not it is
  the default.
-/
import GuestPorts.Proofs.Settings.Fields
import GuestPorts.Proofs.Yaml.Line

namespace GuestPorts.Settings

open GuestPorts.Yaml GuestPorts.Yaml.Scan

/-! ### Lines -/

theorem isName_field : ∀ name ∈ ["store_path", "log_dir", "iptables_path", "use_sudo", "mode",
    "perimeter", "rules_file", "start_marker", "end_marker", "comment_marker", "reload_command"],
    IsName name.toList := by
  intro name hname
  simp only [List.mem_cons, List.not_mem_nil, or_false] at hname
  rcases hname with rfl | rfl | rfl | rfl | rfl | rfl | rfl | rfl | rfl | rfl | rfl <;>
    exact isName_of_all (by decide) (by decide) (by decide)

theorem isName_word : ∀ word ∈ ["true", "false", "apply", "record"], IsName word.toList := by
  intro word hword
  simp only [List.mem_cons, List.not_mem_nil, or_false] at hword
  rcases hword with rfl | rfl | rfl | rfl <;> exact isName_of_all (by decide) (by decide) (by decide)

def textLine (o : Nat) (name value : String) : List Char × List Token :=
  (name.toList ++ ':' :: ' ' :: writeScalar (o + 2) value.toList, (textField name value).tokens)

theorem readsLine_text {name : String} (hname : IsName name.toList) (o : Nat) (columns : List Nat)
    (value : String) :
    ReadsLine o (o :: columns) (o :: columns) (textLine o name value).1 (textLine o name value).2 :=
  readsLine_field hname (.same columns) (reads_writeScalar o value.toList)

/-- The line of the first field of a mapping. -/
theorem readsLine_first {name : String} (hname : IsName name.toList) {o : Nat} {columns : List Nat}
    (ho : ∀ c ∈ columns.head?, c < o) (value : String) :
    ReadsLine o columns (o :: columns) (textLine o name value).1
      (.blockMapping :: (textLine o name value).2) :=
  readsLine_field hname (.deeper ho) (reads_writeScalar o value.toList)

theorem readsLine_word {name word : String} (hname : IsName name.toList) (hword : IsName word.toList)
    (o : Nat) (columns : List Nat) :
    ReadsLine o (o :: columns) (o :: columns) (wordLine name word) (wordField name word).tokens :=
  readsLine_field hname (.same columns) (reads_word hword o)

/-- The lines of the root between the first one and the section of the rule file. -/
def rootLines (s : Settings) : List (List Char × List Token) :=
  let word := if s.useSudo then "true" else "false"
  [textLine 0 "log_dir" s.logDir, textLine 0 "iptables_path" s.filterProgram,
    (wordLine "use_sudo" word, (wordField "use_sudo" word).tokens),
    (wordLine "mode" s.mode.word, (wordField "mode" s.mode.word).tokens)]

/-- The lines of the section between the first one and the list. -/
def sectionLines (p : PerimeterSettings) : List (List Char × List Token) :=
  [textLine 2 "start_marker" p.block.startMarker, textLine 2 "end_marker" p.block.endMarker,
    textLine 2 "comment_marker" p.block.commentMarker]

theorem readsLine_rootLines (s : Settings) :
    ∀ line ∈ rootLines s, ReadsLine 0 [0] [0] line.1 line.2 := by
  intro line hline
  simp only [rootLines, List.mem_cons, List.not_mem_nil, or_false] at hline
  rcases hline with rfl | rfl | rfl | rfl
  · exact readsLine_text (isName_field _ (by simp)) 0 [] _
  · exact readsLine_text (isName_field _ (by simp)) 0 [] _
  · have hword : IsName (if s.useSudo then "true" else "false").toList := by
      cases s.useSudo <;> exact isName_word _ (by simp)
    exact readsLine_word (isName_field _ (by simp)) hword 0 []
  · have hword : IsName s.mode.word.toList := by
      cases s.mode <;> exact isName_word _ (by simp [Mode.word])
    exact readsLine_word (isName_field _ (by simp)) hword 0 []

theorem readsLine_sectionLines (p : PerimeterSettings) :
    ∀ line ∈ sectionLines p, ReadsLine 2 [2, 0] [2, 0] line.1 line.2 := by
  intro line hline
  simp only [sectionLines, List.mem_cons, List.not_mem_nil, or_false] at hline
  rcases hline with rfl | rfl | rfl <;> exact readsLine_text (isName_field _ (by simp)) 2 [0] _

/-! ### The list -/

def entryLine (item : String) : List Char × List Token :=
  ('-' :: ' ' :: writeScalar 4 item.toList, [.blockEntry, .scalar (styleFor item.toList) item.toList])

theorem readsLine_entryLine (item : String) :
    ReadsLine 2 [2, 0] [2, 0] (entryLine item).1 (entryLine item).2 :=
  readsLine_entry (reads_writeScalar 2 item.toList)

theorem readsLine_entryLines (items : List String) :
    ∀ line ∈ items.map entryLine, ReadsLine 2 [2, 0] [2, 0] line.1 line.2 := by
  intro line hline
  obtain ⟨item, -, rfl⟩ := List.mem_map.1 hline
  exact readsLine_entryLine item

theorem closing_cases (items : List String) : closing items = [] ∨ closing items = "...\n".toList := by
  unfold closing
  split
  · split
    · exact .inr rfl
    · exact .inl rfl
  · exact .inl rfl

theorem begins_closing (items : List String) : Begins (closing items) := by
  rcases closing_cases items with h | h
  · rw [h]
    exact begins_nil
  · rw [h]
    exact begins_cons (by decide) (by decide) (by decide) _

/-- The list behind its indentation, to the end of the file. -/
def listText (name : String) (items : List String) : List Char :=
  name.toList ++ ':' ::
    ((if items.isEmpty then " []\n".toList else '\n' :: under 2 (items.map entryLine))
      ++ closing items)

theorem exists_reaches_list {name : String} (hname : IsName name.toList) (items : List String)
    {x : Cursor} (hcolumn : x.column = 2) (hx : x.rest = listText name items)
    (tokens : List Token) :
    ∃ y : Cursor, y.rest = closing items ∧ y.column = 0 ∧
      Reaches (block x tokens [2, 0] true)
        (block y (tokens ++ (listField name items).tokens) [2, 0] true) := by
  cases items with
  | nil =>
    have hline := readsLine_field hname (.same [0]) (reads_brackets 2)
    have hsplit : listText name []
        = name.toList ++ ':' :: ' ' :: "[]\n".toList ++ (List.replicate 0 ' ' ++ []) := by
      simp [listText, closing]
    rw [hsplit] at hx
    exact hline.reaches (Nat.zero_le 2) begins_nil hcolumn hx tokens
  | cons item items =>
    have hsplit : listText name (item :: items) = name.toList ++ ':' :: '\n' ::
        (List.replicate 2 ' ' ++ ((entryLine item).1 ++ (under 2 (items.map entryLine)
          ++ (List.replicate 0 ' ' ++ closing (item :: items))))) := by
      simp [listText, under]
    rw [hsplit] at hx
    have hopens : Opens x.column [2, 0] [] [2, 0] := hcolumn ▸ .same [0]
    obtain ⟨y, hy, hcolumn', hkey⟩ := exists_reaches_key_lines hname hopens
      ((readsLine_entryLine item).begins _) hx tokens
    obtain ⟨z, hz, hend, hlines⟩ := exists_reaches_lines (readsLine_entryLine item)
      (readsLine_entryLines items) (Nat.zero_le 2) (begins_closing (item :: items)) hcolumn' hy
      (tokens ++ [.key, .scalar .plain name.toList, .value])
    refine ⟨z, hz, hend, hkey.trans ?_⟩
    have htokens : (listField name (item :: items)).tokens
        = [.key, .scalar .plain name.toList, .value]
          ++ (entryLine item :: items.map entryLine).flatMap Prod.snd := by
      simp [Field.tokens, listField, entryTokens, entryLine, List.flatMap_map]
    rw [List.append_assoc] at hlines
    rw [htokens]
    exact hlines

/-! ### The file -/

/-- The section of the rule file behind the indentation of its first line. -/
def sectionText (p : PerimeterSettings) : List Char :=
  (textLine 2 "rules_file" p.rulesFile).1
    ++ (under 2 (sectionLines p) ++ (List.replicate 2 ' ' ++ listText "reload_command" p.reloadCommand))

theorem toList_toYaml (s : Settings) :
    s.toYaml.toList = (textLine 0 "store_path" s.storePath).1 ++ (under 0 (rootLines s)
      ++ (List.replicate 0 ' ' ++ ("perimeter".toList ++ ':' :: '\n' ::
        (List.replicate 2 ' ' ++ sectionText s.perimeter)))) := by
  have hsection : "perimeter:\n".toList = "perimeter".toList ++ [':', '\n'] := rfl
  have hlist : listLines 2 "reload_command" s.perimeter.reloadCommand
        ++ closing s.perimeter.reloadCommand
      = List.replicate 2 ' ' ++ listText "reload_command" s.perimeter.reloadCommand := by
    simp only [listLines, listText, under, List.flatMap_map, entryLine, List.append_assoc,
      List.cons_append]
  simp only [toYaml, String.toList_ofList, hsection, List.append_assoc, hlist, sectionText, textLine,
    under, rootLines, sectionLines, List.flatMap_cons, List.flatMap_nil, fieldLine, List.cons_append,
    List.replicate_zero, List.nil_append]

/-- At the end of the file two mappings are open. -/
theorem exists_reaches_end {items : List String} {x : Cursor} (hcolumn : x.column = 0)
    (hx : x.rest = closing items) (tokens : List Token) :
    ∃ t rest, Reaches (block x tokens [2, 0] true) t ∧ t.cursor.rest = [] ∧
      t.finish = some (tokens ++ [.blockEnd, .blockEnd] ++ rest) ∧
      Yaml.Node.isFinished rest = true := by
  rcases closing_cases items with h | h
  · exact ⟨_, [.streamEnd], Relation.ReflTransGen.refl, hx.trans h, finish_block, rfl⟩
  · obtain ⟨y, hy, hmove⟩ := exists_moves_documentEnd hcolumn (hx.trans h)
    refine ⟨_, [.documentEnd, .streamEnd], hmove.reaches, hy, ?_, rfl⟩
    rw [finish_block]
    simp

theorem begins_name {name : String} (hname : IsName name.toList) (t : List Char) :
    Begins (name.toList ++ t) := by
  obtain ⟨d, r, h⟩ := List.exists_cons_of_ne_nil hname.ne_nil
  rw [h]
  exact begins_of_isNameChar (hname.chars d (h ▸ List.mem_cons_self)) _

/-- The lines of a mapping whose first line opens it. -/
theorem exists_reaches_mapping {name : String} (hname : IsName name.toList) (value : String)
    {o m : Nat} {columns : List Nat} (ho : ∀ c ∈ columns.head?, c < o)
    {lines : List (List Char × List Token)}
    (hlines : ∀ line ∈ lines, ReadsLine o (o :: columns) (o :: columns) line.1 line.2)
    {k : List Char} (hm : m ≤ o) (hk : Begins k) {x : Cursor} (hcolumn : x.column = o)
    (hx : x.rest = (textLine o name value).1 ++ (under o lines ++ (List.replicate m ' ' ++ k)))
    (tokens : List Token) :
    ∃ y : Cursor, y.rest = k ∧ y.column = m ∧
      Reaches (block x tokens columns true)
        (block y (tokens ++ .blockMapping :: ((textField name value).tokens ++ lines.flatMap Prod.snd))
          (o :: columns) true) := by
  let first := ((textLine o name value).1, Token.blockMapping :: (textLine o name value).2)
  have hfirst : ReadsLine o columns (o :: columns) first.1 first.2 := readsLine_first hname ho value
  exact exists_reaches_lines hfirst hlines hm hk hcolumn hx tokens

/-- The section of the rule file, to the end of the file. -/
theorem exists_reaches_section (p : PerimeterSettings) {x : Cursor} (hcolumn : x.column = 2)
    (hx : x.rest = sectionText p) (tokens : List Token) :
    ∃ y : Cursor, y.rest = closing p.reloadCommand ∧ y.column = 0 ∧
      Reaches (block x tokens [0] true)
        (block y (tokens ++ .blockMapping :: (sectionFields p).flatMap Field.tokens) [2, 0] true) := by
  have hrules : IsName "rules_file".toList := isName_field _ (by simp)
  have hreload : IsName "reload_command".toList := isName_field _ (by simp)
  have hdeeper : ∀ c ∈ [0].head?, c < 2 := by simp
  have hlist : Begins (listText "reload_command" p.reloadCommand) := begins_name hreload _
  obtain ⟨y, hy, hcolumn, hlines⟩ := exists_reaches_mapping hrules p.rulesFile hdeeper
    (readsLine_sectionLines p) (Nat.le_refl 2) hlist hcolumn hx tokens
  obtain ⟨z, hz, hend, hmore⟩ := exists_reaches_list hreload p.reloadCommand hcolumn hy
    (tokens ++ .blockMapping :: ((textField "rules_file" p.rulesFile).tokens
      ++ (sectionLines p).flatMap Prod.snd))
  refine ⟨z, hz, hend, hlines.trans ?_⟩
  have htokens : .blockMapping :: (sectionFields p).flatMap Field.tokens
      = .blockMapping :: ((textField "rules_file" p.rulesFile).tokens
          ++ (sectionLines p).flatMap Prod.snd)
        ++ (listField "reload_command" p.reloadCommand).tokens := by
    simp only [sectionFields, sectionLines, textLine, List.flatMap_cons, List.flatMap_nil,
      List.append_nil, List.append_assoc, List.cons_append]
  rw [htokens, ← List.append_assoc]
  exact hmore

/-- **The scan of the file** comes to the tokens of the fields. -/
theorem exists_reaches_toYaml (s : Settings) {x : Cursor} (hcolumn : x.column = 0)
    (hx : x.rest = s.toYaml.toList) :
    ∃ t rest, Reaches (block x [] [] true) t ∧ t.cursor.rest = [] ∧
      t.finish = some (mappingTokens (rootFields s) ++ rest) ∧ Yaml.Node.isFinished rest = true := by
  have hperimeter : IsName "perimeter".toList := isName_field _ (by simp)
  have hstore : IsName "store_path".toList := isName_field _ (by simp)
  have hrules : IsName "rules_file".toList := isName_field _ (by simp)
  have hempty : ∀ c ∈ ([] : List Nat).head?, c < 0 := nofun
  have hdeeper : ∀ c ∈ [0].head?, c < 2 := by simp
  rw [toList_toYaml] at hx
  obtain ⟨y, hy, hcolumn, hroot⟩ := exists_reaches_mapping hstore s.storePath
    hempty (readsLine_rootLines s) (Nat.zero_le 0) (begins_name hperimeter _) hcolumn hx []
  have hsection : Begins (sectionText s.perimeter) :=
    (readsLine_first hrules hdeeper s.perimeter.rulesFile).begins _
  have hopens : Opens y.column [0] [] [0] := hcolumn ▸ .same []
  obtain ⟨z, hz, hcolumn, hkey⟩ := exists_reaches_key_lines hperimeter hopens hsection hy
    ([] ++ .blockMapping :: ((textField "store_path" s.storePath).tokens
      ++ (rootLines s).flatMap Prod.snd))
  obtain ⟨e, he, hcolumn, hmore⟩ := exists_reaches_section s.perimeter hcolumn hz _
  obtain ⟨t, rest, hlast, hend, hfinish, hrest⟩ := exists_reaches_end hcolumn he _
  refine ⟨t, rest, ((hroot.trans hkey).trans hmore).trans hlast, hend, hfinish.trans ?_, hrest⟩
  congr 1
  simp only [mappingTokens, rootFields, rootLines, sectionField, textLine, Field.tokens,
    List.flatMap_cons, List.flatMap_nil, List.append_nil, List.append_assoc, List.cons_append,
    List.nil_append]

theorem printable_closing (items : List String) : Printable (closing items) := by
  rcases closing_cases items with h | h
  · rw [h]
    exact printable_nil
  · rw [h]
    exact printable_of_all (by decide)

theorem printable_listText {name : String} (hname : IsName name.toList) (items : List String) :
    Printable (listText name items) := by
  have hlines := printable_under (readsLine_entryLines items)
  cases items with
  | nil =>
    have hvalue : Printable " []\n".toList := printable_of_all (by decide)
    exact hname.printable.append ((hvalue.append (printable_closing [])).cons (by decide))
  | cons item items =>
    have hvalue := (hlines.cons (by decide : isTextChar '\n' = true)).append
      (printable_closing (item :: items))
    exact hname.printable.append (hvalue.cons (by decide))

theorem printable_toYaml (s : Settings) : Printable s.toYaml.toList := by
  have hname := isName_field
  have hsection : Printable (sectionText s.perimeter) :=
    (readsLine_text (hname "rules_file" (by simp)) 2 [0] s.perimeter.rulesFile).printable.append
      ((printable_under (readsLine_sectionLines s.perimeter)).append
        ((printable_spaces 2).append
          (printable_listText (hname "reload_command" (by simp)) s.perimeter.reloadCommand)))
  have hperimeter := (hname "perimeter" (by simp)).printable.append
    ((((printable_spaces 2).append hsection).cons (by decide : isTextChar '\n' = true)).cons
      (by decide : isTextChar ':' = true))
  rw [toList_toYaml]
  exact (readsLine_text (hname "store_path" (by simp)) 0 [] s.storePath).printable.append
    ((printable_under (readsLine_rootLines s)).append ((printable_spaces 0).append hperimeter))

/-- **The tokens of the file** are those of the fields. -/
theorem tokens_toYaml (s : Settings) :
    ∃ rest, Yaml.tokens s.toYaml.toList = some (mappingTokens (rootFields s) ++ rest) ∧
      Yaml.Node.isFinished rest = true := by
  have hbegins : Begins s.toYaml.toList := by
    rw [toList_toYaml]
    have hstore : IsName "store_path".toList := isName_field _ (by simp)
    have hempty : ∀ c ∈ ([] : List Nat).head?, c < 0 := nofun
    exact (readsLine_first hstore hempty s.storePath).begins _
  have hprintable := printable_toYaml s
  obtain ⟨text, htext⟩ : ∃ text, text = s.toYaml.toList := ⟨_, rfl⟩
  obtain ⟨t, rest, hreaches, hend, hfinish, hrest⟩ :=
    exists_reaches_toYaml s (x := { rest := text }) rfl htext
  rw [← htext] at hbegins hprintable ⊢
  exact ⟨rest, tokens_of_reaches hbegins hprintable hreaches hend hfinish, hrest⟩

/-- **Settings are read back from their own file.** -/
theorem settings_round_trip (s : Settings) : ofYaml? s.toYaml = some s := by
  obtain ⟨rest, htokens, hrest⟩ := tokens_toYaml s
  have hnode := ofTokens?_fields (means_rootFields s) hrest
  simp only [ofYaml?, Yaml.Node.ofText?, htokens, Option.bind_some, hnode]
  exact ofNode_rootFields s

end GuestPorts.Settings
