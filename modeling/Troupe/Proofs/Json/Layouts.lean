import Troupe.Proofs.Json.Grammar

/-!
# Both layouts are texts

The compact layout leaves no blank anywhere; the pretty one breaks the line and
indents before every entry and before every closing bracket, and puts a space
after each colon.
-/

namespace Troupe
namespace Json

open Number Text

mutual

/-- Numbers are proper and no object repeats a key. -/
def Valid : Json -> Prop
  | number n => Proper n
  | array xs => ValidItems xs
  | object ms => Entries.Unique ms ∧ ValidMembers ms
  | _ => True

def ValidItems : List Json -> Prop
  | [] => True
  | v :: rest => Valid v ∧ ValidItems rest

def ValidMembers : List (String × Json) -> Prop
  | [] => True
  | (_, v) :: rest => Valid v ∧ ValidMembers rest

end

theorem spells_number {n : JsonNumber} (hn : Proper n) : Spells (number n) (bytesOf n.write) := by
  rcases exists_literal hn with ⟨negative, l, hbytes, hvalid, hnumber⟩
  have hproper : Proper (l.number negative) := by rwa [hnumber]
  have hspells := Spells.number hvalid hproper
  rwa [hnumber, ← hbytes] at hspells

/-!
## Compact layout
-/

mutual

theorem spells_writeCompact :
    forall {v : Json}, Valid v -> Spells v (bytesOf (writeCompact v))
  | null, _ => Spells.null
  | bool true, _ => Spells.yes
  | bool false, _ => Spells.no
  | number _, hproper => spells_number hproper
  | string s, _ => Spells.string s
  | array xs, hitems => by
      have hbytes : bytesOf (writeCompact (array xs)) =
          0x5b :: (bytesOf (writeItems xs) ++ [0x5d]) := by
        rw [writeCompact, bytesOf_cons, bytesOf_append]
        rfl
      rw [hbytes]
      exact Spells.array (spellsItems_writeItems hitems)
  | object ms, ⟨hkeys, hmembers⟩ => by
      have hbytes : bytesOf (writeCompact (object ms)) =
          0x7b :: (bytesOf (writeMembers ms) ++ [0x7d]) := by
        rw [writeCompact, bytesOf_cons, bytesOf_append]
        rfl
      rw [hbytes]
      exact Spells.object hkeys (spellsMembers_writeMembers hmembers)

theorem spellsItems_writeItems :
    forall {xs : List Json}, ValidItems xs ->
      SpellsItems true xs (bytesOf (writeItems xs) ++ [0x5d])
  | [], _ => SpellsItems.nil blanks_nil
  | v :: rest, ⟨hvalue, hrest⟩ => by
      have hbytes : bytesOf (writeItems (v :: rest)) ++ [0x5d] =
          lead true [] ++
            (bytesOf (writeCompact v) ++ (bytesOf (writeMoreItems rest) ++ [0x5d])) := by
        rw [writeItems, bytesOf_append, List.append_assoc]
        rfl
      rw [hbytes]
      exact SpellsItems.cons blanks_nil (spells_writeCompact hvalue)
        (spellsItems_writeMoreItems hrest)

theorem spellsItems_writeMoreItems :
    forall {xs : List Json}, ValidItems xs ->
      SpellsItems false xs (bytesOf (writeMoreItems xs) ++ [0x5d])
  | [], _ => SpellsItems.nil blanks_nil
  | v :: rest, ⟨hvalue, hrest⟩ => by
      have hbytes : bytesOf (writeMoreItems (v :: rest)) ++ [0x5d] =
          lead false [] ++
            (bytesOf (writeCompact v) ++ (bytesOf (writeMoreItems rest) ++ [0x5d])) := by
        rw [writeMoreItems, bytesOf_cons, bytesOf_append, List.append_assoc, List.append_assoc]
        rfl
      rw [hbytes]
      exact SpellsItems.cons blanks_nil (spells_writeCompact hvalue)
        (spellsItems_writeMoreItems hrest)

theorem spellsMembers_writeMembers :
    forall {ms : List (String × Json)}, ValidMembers ms ->
      SpellsMembers true ms (bytesOf (writeMembers ms) ++ [0x7d])
  | [], _ => SpellsMembers.nil blanks_nil
  | (k, v) :: rest, ⟨hvalue, hrest⟩ => by
      have hbytes : bytesOf (writeMembers ((k, v) :: rest)) ++ [0x7d] =
          lead true [] ++ (quoted k ++ 0x3a ::
            ([] ++ (bytesOf (writeCompact v) ++ (bytesOf (writeMoreMembers rest) ++ [0x7d])))) := by
        rw [writeMembers, bytesOf_append, bytesOf_cons, bytesOf_append, List.append_assoc,
          List.append_assoc, List.append_assoc]
        rfl
      rw [hbytes]
      exact SpellsMembers.cons blanks_nil blanks_nil (spells_writeCompact hvalue)
        (spellsMembers_writeMoreMembers hrest)

theorem spellsMembers_writeMoreMembers :
    forall {ms : List (String × Json)}, ValidMembers ms ->
      SpellsMembers false ms (bytesOf (writeMoreMembers ms) ++ [0x7d])
  | [], _ => SpellsMembers.nil blanks_nil
  | (k, v) :: rest, ⟨hvalue, hrest⟩ => by
      have hbytes : bytesOf (writeMoreMembers ((k, v) :: rest)) ++ [0x7d] =
          lead false [] ++ (quoted k ++ 0x3a ::
            ([] ++ (bytesOf (writeCompact v) ++ (bytesOf (writeMoreMembers rest) ++ [0x7d])))) := by
        rw [writeMoreMembers, bytesOf_cons, bytesOf_append, bytesOf_cons, bytesOf_append,
          List.append_assoc, List.append_assoc, List.append_assoc, List.append_assoc]
        rfl
      rw [hbytes]
      exact SpellsMembers.cons blanks_nil blanks_nil (spells_writeCompact hvalue)
        (spellsMembers_writeMoreMembers hrest)

end

/-!
## Pretty layout

What follows the entries of a container is indented for the enclosing line, so
the statements about entries leave open which blanks these are.
-/

theorem blanks_newLine (level : Nat) : Blanks (bytesOf (newLine level)) := by
  have hchars : forall c : Char, c ∈ newLine level -> c = '\n' ∨ c = ' ' := by
    intro c hmem
    rcases List.mem_cons.mp hmem with hbreak | hspace
    · exact Or.inl hbreak
    · exact Or.inr (List.eq_of_mem_replicate hspace)
  have hascii : forall c : Char, c ∈ newLine level -> c.toNat < 128 := by
    intro c hmem
    rcases hchars c hmem with rfl | rfl
    · decide
    · decide
  intro b hmem
  rw [bytesOf_ascii hascii] at hmem
  rcases List.mem_map.mp hmem with ⟨c, hc, rfl⟩
  rcases hchars c hc with rfl | rfl
  · decide
  · decide

theorem blanks_space : Blanks [0x20] := by
  intro b hmem
  rw [List.mem_singleton.mp hmem]
  decide

mutual

theorem spells_writePretty :
    forall {v : Json} (level : Nat), Valid v -> Spells v (bytesOf (writePretty level v))
  | null, _, _ => Spells.null
  | bool true, _, _ => Spells.yes
  | bool false, _, _ => Spells.no
  | number _, _, hproper => spells_number hproper
  | string s, _, _ => Spells.string s
  | array [], _, _ => Spells.array (SpellsItems.nil blanks_nil)
  | array (v :: rest), level, ⟨hvalue, hrest⟩ => by
      have hbytes : bytesOf (writePretty level (array (v :: rest))) =
          0x5b :: (lead true (bytesOf (newLine (level + 1))) ++
            (bytesOf (writePretty (level + 1) v) ++
              (bytesOf (prettyMoreItems (level + 1) rest) ++
                (bytesOf (newLine level) ++ [0x5d])))) := by
        simp only [writePretty, bytesOf_cons, bytesOf_append, List.append_assoc]
        rfl
      rw [hbytes]
      exact Spells.array (SpellsItems.cons (blanks_newLine _) (spells_writePretty _ hvalue)
        (spellsItems_prettyMoreItems _ (blanks_newLine level) hrest))
  | object [], _, _ => Spells.object Entries.unique_nil (SpellsMembers.nil blanks_nil)
  | object ((k, v) :: rest), level, ⟨hkeys, hvalue, hrest⟩ => by
      have hbytes : bytesOf (writePretty level (object ((k, v) :: rest))) =
          0x7b :: (lead true (bytesOf (newLine (level + 1))) ++ (quoted k ++ 0x3a ::
            ([0x20] ++ (bytesOf (writePretty (level + 1) v) ++
              (bytesOf (prettyMoreMembers (level + 1) rest) ++
                (bytesOf (newLine level) ++ [0x7d])))))) := by
        simp only [writePretty, bytesOf_cons, bytesOf_append, List.append_assoc]
        rfl
      rw [hbytes]
      exact Spells.object hkeys (SpellsMembers.cons (blanks_newLine _) blanks_space
        (spells_writePretty _ hvalue)
        (spellsMembers_prettyMoreMembers _ (blanks_newLine level) hrest))

theorem spellsItems_prettyMoreItems :
    forall {xs : List Json} {gap : List UInt8} (level : Nat), Blanks gap -> ValidItems xs ->
      SpellsItems false xs (bytesOf (prettyMoreItems level xs) ++ (gap ++ [0x5d]))
  | [], _, _, hgap, _ => SpellsItems.nil hgap
  | v :: rest, gap, level, hgap, ⟨hvalue, hrest⟩ => by
      have hbytes : bytesOf (prettyMoreItems level (v :: rest)) ++ (gap ++ [0x5d]) =
          lead false (bytesOf (newLine level)) ++ (bytesOf (writePretty level v) ++
            (bytesOf (prettyMoreItems level rest) ++ (gap ++ [0x5d]))) := by
        simp only [prettyMoreItems, bytesOf_cons, bytesOf_append, List.append_assoc]
        rfl
      rw [hbytes]
      exact SpellsItems.cons (blanks_newLine level) (spells_writePretty level hvalue)
        (spellsItems_prettyMoreItems level hgap hrest)

theorem spellsMembers_prettyMoreMembers :
    forall {ms : List (String × Json)} {gap : List UInt8} (level : Nat), Blanks gap ->
      ValidMembers ms ->
        SpellsMembers false ms (bytesOf (prettyMoreMembers level ms) ++ (gap ++ [0x7d]))
  | [], _, _, hgap, _ => SpellsMembers.nil hgap
  | (k, v) :: rest, gap, level, hgap, ⟨hvalue, hrest⟩ => by
      have hbytes : bytesOf (prettyMoreMembers level ((k, v) :: rest)) ++ (gap ++ [0x7d]) =
          lead false (bytesOf (newLine level)) ++ (quoted k ++ 0x3a ::
            ([0x20] ++ (bytesOf (writePretty level v) ++
              (bytesOf (prettyMoreMembers level rest) ++ (gap ++ [0x7d]))))) := by
        simp only [prettyMoreMembers, bytesOf_cons, bytesOf_append, List.append_assoc]
        rfl
      rw [hbytes]
      exact SpellsMembers.cons (blanks_newLine level) blanks_space
        (spells_writePretty level hvalue) (spellsMembers_prettyMoreMembers level hgap hrest)

end

end Json
end Troupe
