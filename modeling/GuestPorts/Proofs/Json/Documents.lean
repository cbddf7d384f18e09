/-
  GuestPorts/Proofs/Json/Documents.lean
  =====================================
  **Documents are read back from their text** (`read_pretty`): every document that can be
  written at all, at any depth, whatever blanks stand behind it.

  What the writer makes are the tokens of the document, with line breaks and blanks in front of
  some of them (`spaced_pretty`), and blanks in front of tokens do not matter to the reader.
-/
import GuestPorts.Proofs.Json.Spacing

namespace GuestPorts.Json

theorem isSpace_of_mem_newLine {depth : Nat} {c : Char} (h : c ∈ newLine depth) :
    isSpace c = true := by
  rcases List.mem_cons.1 h with rfl | hmem
  · rfl
  · rw [(List.mem_replicate.1 hmem).2]
    rfl

/-- A token with nothing in front of it. -/
theorem Spaced.cons_nil (token : List Char) {tokens : List (List Char)} {text : List Char}
    (h : Spaced tokens text) : Spaced (token :: tokens) (token ++ text) :=
  @Spaced.cons token [] text tokens nofun h

theorem Spaced.of_token (token : List Char) : Spaced [token] token := by
  have h := Spaced.cons_nil token .nil
  rwa [List.append_nil] at h

/-- A token on a new line. -/
theorem Spaced.cons_newLine (depth : Nat) (token : List Char) {tokens : List (List Char)}
    {text : List Char} (h : Spaced tokens text) :
    Spaced (token :: tokens) (newLine depth ++ (token ++ text)) :=
  .cons (fun _ => isSpace_of_mem_newLine) h

/-- A line break in front of a text is one in front of its first token. -/
theorem Spaced.newLine {text : List Char} {tokens : List (List Char)} (h : Spaced tokens text)
    (hne : tokens ≠ []) (depth : Nat) : Spaced tokens (Json.newLine depth ++ text) := by
  cases h with
  | nil => exact absurd rfl hne
  | @cons token gap rest tokens hgap h =>
    rw [← List.append_assoc]
    refine .cons ?_ h
    intro c hc
    rcases List.mem_append.1 hc with hmem | hmem
    · exact isSpace_of_mem_newLine hmem
    · exact hgap c hmem

theorem Doc.Printable.tokens_ne_nil {d : Doc} (h : d.Printable) : d.tokens ≠ [] := by
  obtain ⟨c, r, more, htokens, -⟩ := h.exists_tokens
  rw [htokens]
  exact List.cons_ne_nil _ _

/-- The value of a member stands behind its name. -/
theorem Spaced.member (name : List Char) (depth : Nat) {text : List Char}
    {tokens : List (List Char)} (h : Spaced tokens text) (hne : tokens ≠ []) :
    Spaced (quote name :: [':'] :: tokens)
      (Json.newLine depth ++ (quote name ++ ':' :: ' ' :: text)) := by
  cases h with
  | nil => exact absurd rfl hne
  | @cons token gap rest tokens hgap h =>
    have hvalue : Spaced (token :: tokens) (' ' :: gap ++ (token ++ rest)) := by
      refine .cons ?_ h
      intro c hc
      rcases List.mem_cons.1 hc with rfl | hmem
      · rfl
      · exact hgap c hmem
    exact .cons_newLine depth _ (.cons_nil [':'] hvalue)

mutual
/-- **A document is written as its tokens.** -/
theorem Doc.spaced_pretty : ∀ (d : Doc) (depth : Nat), d.Printable →
    Spaced d.tokens (d.pretty depth)
  | .null, _, _ => .of_token _
  | .bool true, _, _ => .of_token _
  | .bool false, _, _ => .of_token _
  | .number _, _, _ => .of_token _
  | .string _, _, _ => .of_token _
  | .array .closed, _, _ => .cons_nil ['['] (.of_token [']'])
  | .array (.cons head tail), depth, h => by
    have hinside := (Items.cons head tail).spaced_pretty (depth + 1) h
    have htext := Spaced.cons_nil ['['] (hinside.append (.cons_newLine depth [']'] .nil))
    simpa [Doc.tokens, Doc.pretty] using htext
  | .object .closed, _, _ => .cons_nil ['\x7b'] (.of_token ['\x7d'])
  | .object (.cons name v tail), depth, h => by
    have hinside := (Members.cons name v tail).spaced_pretty (depth + 1) h
    have htext := Spaced.cons_nil ['\x7b'] (hinside.append (.cons_newLine depth ['\x7d'] .nil))
    simpa [Doc.tokens, Doc.pretty] using htext

theorem Items.spaced_pretty : ∀ (is : Items) (depth : Nat), is.Printable →
    Spaced is.tokens (is.pretty depth)
  | .closed, _, _ => .nil
  | .cons head .closed, depth, h =>
    (head.spaced_pretty depth h.1).newLine h.1.tokens_ne_nil depth
  | .cons head (.cons next tail), depth, h => by
    have hhead := (head.spaced_pretty depth h.1).newLine h.1.tokens_ne_nil depth
    have htail := (Items.cons next tail).spaced_pretty depth h.2
    exact hhead.append (.cons_nil [','] htail)

theorem Members.spaced_pretty : ∀ (ms : Members) (depth : Nat), ms.Printable →
    Spaced ms.tokens (ms.pretty depth)
  | .closed, _, _ => .nil
  | .cons name v .closed, depth, h => by
    have hmember := Spaced.member name depth (v.spaced_pretty depth h.1)
      h.1.tokens_ne_nil
    simpa [Members.tokens, Members.pretty] using hmember
  | .cons name v (.cons name' v' tail), depth, h => by
    have htail := (Members.cons name' v' tail).spaced_pretty depth h.2
    have hmember := Spaced.member name depth
      ((v.spaced_pretty depth h.1).append (.cons_nil [','] htail)) (by simp)
    simpa [Members.tokens, Members.pretty] using hmember
end

/-- **A document is read back from its text**, blanks behind it allowed. -/
theorem read_pretty {d : Doc} (h : d.Printable) {behind : List Char}
    (hblank : skipSpace behind = []) : read (d.pretty 0 ++ behind) = (d, true) :=
  read_spaced h (d.spaced_pretty 0 h) hblank

end GuestPorts.Json
