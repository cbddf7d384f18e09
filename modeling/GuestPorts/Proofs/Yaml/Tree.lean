/-
  GuestPorts/Proofs/Yaml/Tree.lean
  ================================
  **Tokens of a mapping are read as its fields** (`node_fields`).

  A field is a name and the tokens of its value.  A value says which node it is in front of
  what may follow it in its mapping (`Means`), and so does a mapping of such fields; the
  number of its tokens is fuel enough.
-/
import GuestPorts.Yaml.Node

namespace GuestPorts.Yaml

open GuestPorts.Yaml.Node

/-- A name with the tokens of its value and the node that they are. -/
structure Field where
  name : String
  read : List Token
  value : Node

namespace Field

def tokens (f : Field) : List Token := [.key, .scalar .plain f.name.toList, .value] ++ f.read

def pair (f : Field) : Node × Node := (.scalar none .plain f.name.toList, f.value)

end Field

/-- What may follow a value in its mapping. -/
def Follows (rest : List Token) : Prop := nextIsOneOf [.key, .blockEnd] rest = true

theorem Follows.cases {rest : List Token} (h : Follows rest) :
    (∃ r, rest = .key :: r) ∨ ∃ r, rest = .blockEnd :: r := by
  cases rest with
  | nil => cases h
  | cons t r =>
    have ht : t = .key ∨ t = .blockEnd := by simpa [Follows, nextIsOneOf] using h
    rcases ht with rfl | rfl
    · exact .inl ⟨r, rfl⟩
    · exact .inr ⟨r, rfl⟩

/-- Tokens that are a node behind the name of a field. -/
def Means (read : List Token) (n : Node) : Prop :=
  ∀ (fuel : Nat) (rest : List Token) (ctx : Node.Context), read.length + 4 ≤ fuel → Follows rest →
    orMissing .blockEntryAllowed [.key, .value, .blockEnd] fuel (read ++ rest) ctx
      = some (n, rest, ctx)

section Reading

variable {rest : List Token} {fuel : Nat}

theorem node_scalar (place : Node.Place) (fuel : Nat) (style : Style) (cs : List Char)
    (rest : List Token) (ctx : Node.Context) :
    node place (fuel + 1) (.scalar style cs :: rest) ctx = some (.scalar none style cs, rest, ctx) := by
  simp [node, readProperties, Context.bindAnchor]

theorem orMissing_scalar (place : Node.Place) {enders : List Token} {style : Style} {cs : List Char}
    (hends : Token.scalar style cs ∉ enders) (fuel : Nat) (rest : List Token) (ctx : Node.Context) :
    orMissing place enders (fuel + 2) (.scalar style cs :: rest) ctx
      = some (.scalar none style cs, rest, ctx) := by
  simp [orMissing, nextIsOneOf, hends, node_scalar]

theorem means_scalar (style : Style) (cs : List Char) :
    Means [.scalar style cs] (.scalar none style cs) := by
  intro fuel rest ctx hfuel hrest
  obtain ⟨fuel, rfl⟩ : ∃ n, fuel = n + 2 := ⟨fuel - 2, by omega⟩
  exact orMissing_scalar _ (by simp) fuel rest ctx

theorem means_brackets : Means [.flowSequence, .flowSequenceEnd] (.sequence none []) := by
  intro fuel rest ctx hfuel hrest
  obtain ⟨fuel, rfl⟩ : ∃ n, fuel = n + 3 := ⟨fuel - 3, by omega⟩
  simp [orMissing, nextIsOneOf, node, readProperties, flowItems, sequenceOf, Context.bindAnchor]

/-- The tokens of a sequence in the column of its mapping. -/
def entryTokens (items : List (Style × List Char)) : List Token :=
  items.flatMap fun item => [.blockEntry, .scalar item.1 item.2]

theorem length_entryTokens (items : List (Style × List Char)) :
    (entryTokens items).length = 2 * items.length := by
  induction items with
  | nil => rfl
  | cons item items ih =>
    have hstep : (entryTokens (item :: items)).length = (entryTokens items).length + 2 := rfl
    rw [hstep, ih, List.length_cons]
    omega

theorem entries_scalars (items : List (Style × List Char)) (hrest : Follows rest)
    (hfuel : items.length + 2 < fuel) (ctx : Node.Context) :
    entries fuel (entryTokens items ++ rest) ctx
      = some (items.map fun item => .scalar none item.1 item.2, rest, ctx) := by
  induction items generalizing fuel with
  | nil =>
    obtain ⟨fuel, rfl⟩ : ∃ n, fuel = n + 1 := ⟨fuel - 1, by omega⟩
    rcases hrest.cases with ⟨r, rfl⟩ | ⟨r, rfl⟩ <;> rfl
  | cons item items ih =>
    obtain ⟨fuel, rfl⟩ : ∃ n, fuel = n + 3 := ⟨fuel - 3, by omega⟩
    rw [List.length_cons] at hfuel
    have hless : items.length + 2 < fuel + 2 := by omega
    have hsplit : entryTokens (item :: items) ++ rest
        = .blockEntry :: .scalar item.1 item.2 :: (entryTokens items ++ rest) := rfl
    rw [hsplit, entries, orMissing_scalar .block (by simp) fuel (entryTokens items ++ rest) ctx]
    simp only [ih hless, consTo, List.map_cons]

/-- A sequence that has elements, in the column of its mapping. -/
theorem means_entries {items : List (Style × List Char)} (hne : items ≠ []) :
    Means (entryTokens items) (.sequence none (items.map fun item => .scalar none item.1 item.2)) := by
  intro fuel rest ctx hfuel hrest
  obtain ⟨item, items, rfl⟩ := List.exists_cons_of_ne_nil hne
  rw [length_entryTokens, List.length_cons] at hfuel
  obtain ⟨fuel, rfl⟩ : ∃ n, fuel = n + 2 := ⟨fuel - 2, by omega⟩
  have hless : (item :: items).length + 2 < fuel := by
    rw [List.length_cons]
    omega
  have hentries := entries_scalars (item :: items) hrest hless ctx
  have hsplit : entryTokens (item :: items) ++ rest
      = .blockEntry :: (.scalar item.1 item.2 :: (entryTokens items ++ rest)) := rfl
  rw [hsplit] at hentries ⊢
  simp [orMissing, nextIsOneOf, node, readProperties, Context.bindAnchor, hentries, sequenceOf]

/-- The tokens of a mapping, from its mark to its end. -/
def mappingTokens (fields : List Field) : List Token :=
  .blockMapping :: (fields.flatMap Field.tokens ++ [.blockEnd])

theorem blockPairs_fields {fields : List Field} (h : ∀ f ∈ fields, Means f.read f.value)
    (rest : List Token) (hfuel : (fields.flatMap Field.tokens).length + 4 ≤ fuel) (ctx : Node.Context) :
    blockPairs fuel (fields.flatMap Field.tokens ++ .blockEnd :: rest) ctx
      = some (fields.map Field.pair, rest, ctx) := by
  induction fields generalizing fuel with
  | nil =>
    obtain ⟨fuel, rfl⟩ : ∃ n, fuel = n + 1 := ⟨fuel - 1, by omega⟩
    rfl
  | cons f fields ih =>
    obtain ⟨hf, hfields⟩ := List.forall_mem_cons.1 h
    have hlength : f.tokens.length = f.read.length + 3 := by
      simp [Field.tokens]
    rw [List.flatMap_cons, List.length_append, hlength] at hfuel
    obtain ⟨fuel, rfl⟩ : ∃ n, fuel = n + 3 := ⟨fuel - 3, by omega⟩
    have hfollows : Follows (fields.flatMap Field.tokens ++ .blockEnd :: rest) := by
      cases fields <;> rfl
    have hsplit : (f :: fields).flatMap Field.tokens ++ .blockEnd :: rest
        = .key :: .scalar .plain f.name.toList :: .value
          :: (f.read ++ (fields.flatMap Field.tokens ++ .blockEnd :: rest)) := by
      simp [Field.tokens]
    have hread : f.read.length + 4 ≤ fuel + 2 := by omega
    have hless : (fields.flatMap Field.tokens).length + 4 ≤ fuel + 2 := by omega
    rw [hsplit, blockPairs, orMissing_scalar .blockEntryAllowed (by simp) fuel
      (.value :: (f.read ++ (fields.flatMap Field.tokens ++ .blockEnd :: rest))) ctx]
    simp only [hf _ _ ctx hread hfollows, ih hfields hless, consTo, List.map_cons, Field.pair]

/-- **A mapping is read as its fields.** -/
theorem node_fields {place : Node.Place} (hplace : place ≠ .flow) {fields : List Field}
    (h : ∀ f ∈ fields, Means f.read f.value) (rest : List Token)
    (hfuel : (mappingTokens fields).length + 3 ≤ fuel) (ctx : Node.Context) :
    node place fuel (mappingTokens fields ++ rest) ctx
      = some (.mapping none (fields.map Field.pair), rest, ctx) := by
  obtain ⟨fuel, rfl⟩ : ∃ n, fuel = n + 1 := ⟨fuel - 1, by omega⟩
  have hsplit : mappingTokens fields ++ rest
      = .blockMapping :: (fields.flatMap Field.tokens ++ .blockEnd :: rest) := by
    simp [mappingTokens]
  have hlength : (fields.flatMap Field.tokens).length + 4 ≤ fuel := by
    simp only [mappingTokens, List.length_cons, List.length_append] at hfuel
    omega
  have hpairs := blockPairs_fields h rest hlength ctx
  simp [hsplit, node, readProperties, Context.bindAnchor, hplace, hpairs, mappingOf]

theorem means_fields {fields : List Field} (h : ∀ f ∈ fields, Means f.read f.value) :
    Means (mappingTokens fields) (.mapping none (fields.map Field.pair)) := by
  intro fuel rest ctx hfuel hrest
  obtain ⟨fuel, rfl⟩ : ∃ n, fuel = n + 1 := ⟨fuel - 1, by omega⟩
  have hplace : Node.Place.blockEntryAllowed ≠ .flow := by decide
  have hnode := node_fields hplace h rest (Nat.le_of_succ_le_succ hfuel) ctx
  have hnext : nextIsOneOf [.key, .value, .blockEnd] (mappingTokens fields ++ rest) = false := rfl
  rw [orMissing, hnext, if_neg Bool.false_ne_true]
  exact hnode

/-- **A document that is a mapping** is the node of its fields. -/
theorem ofTokens?_fields {fields : List Field} (h : ∀ f ∈ fields, Means f.read f.value)
    {rest : List Token} (hrest : isFinished rest = true) :
    ofTokens? (mappingTokens fields ++ rest)
      = some (some (.mapping none (fields.map Field.pair))) := by
  have hfuel : (mappingTokens fields).length + 3 ≤ 4 * (mappingTokens fields ++ rest).length + 4 := by
    rw [List.length_append]
    omega
  have hplace : Node.Place.block ≠ .flow := by decide
  have hnode := node_fields hplace h rest hfuel
  have hother : mappingTokens fields ++ rest ≠ [.streamEnd] := by simp [mappingTokens]
  have hdirectives : readDirectives 0 [] (mappingTokens fields ++ rest)
      = some ([], false, mappingTokens fields ++ rest) := rfl
  have hstart : mappingTokens fields ++ rest
      = .blockMapping :: (fields.flatMap Field.tokens ++ [.blockEnd] ++ rest) := rfl
  simp only [ofTokens?, if_neg hother, hdirectives]
  rw [hstart] at hnode ⊢
  simp only [hnode, hrest, Bool.false_eq_true, if_false, if_true]

end Reading

end GuestPorts.Yaml
