import Mathlib.Data.List.Forall2
import Troupe.Proofs.Topic.Patterns

/-!
# What patterns there are and what they describe

A text is a pattern when each of its segments is a wildcard or has no star in it.  What a
pattern describes can be told from its text alone: the segments of a topic are cut into
blocks, one for each segment of the text in order, such that every block is one that the
segment stands for.
-/

namespace Troupe
namespace TopicSegment

variable {part : List Char} {parts : List (List Char)} {segment : TopicSegment}
variable {segments more : List TopicSegment}

/-- What may stand between slashes in a pattern. -/
structure WellFormed (part : List Char) : Prop where
  nonempty : part ≠ []
  stars : part = ['*'] ∨ part = ['*', '*'] ∨ '*' ∉ part

inductive StandsFor : List Char -> List (List Char) -> Prop where
  | literal {part : List Char} : '*' ∉ part -> StandsFor part [part]
  | one {part : List Char} : part ≠ [] -> StandsFor ['*'] [part]
  | rest (block : List (List Char)) : StandsFor ['*', '*'] block

/-!
## Single segments
-/

theorem exists_parse_iff :
    (exists segment : TopicSegment, parse part = .ok segment) <-> WellFormed part := by
  constructor
  · intro h
    rcases h with ⟨segment, hparse⟩
    unfold parse at hparse
    split at hparse
    · cases hparse
    · exact ⟨List.cons_ne_nil _ _, Or.inl rfl⟩
    · exact ⟨List.cons_ne_nil _ _, Or.inr (Or.inl rfl)⟩
    · next hnonempty _ _ =>
        split at hparse
        · cases hparse
        · next hstar =>
            exact ⟨hnonempty, Or.inr (Or.inr (by simpa using hstar))⟩
  · intro h
    rcases h.stars with hone | hrest | hliteral
    · exact ⟨one, by rw [hone]; rfl⟩
    · exact ⟨rest, by rw [hrest]; rfl⟩
    · exact ⟨literal part, parse_literal h.nonempty hliteral⟩

theorem takes_iff_standsFor (h : parse part = .ok segment) {block : List (List Char)} :
    segment.Takes block <-> StandsFor part block := by
  have hwell := exists_parse_iff.mp ⟨segment, h⟩
  rcases hwell.stars with hone | hrest | hliteral
  · subst hone
    cases h
    constructor
    · intro htakes
      rcases htakes with ⟨first, hnonempty, hblock⟩
      rw [hblock]
      exact StandsFor.one hnonempty
    · intro hstands
      cases hstands with
      | literal hstar => exact absurd List.mem_cons_self hstar
      | one hnonempty => exact ⟨_, hnonempty, rfl⟩
  · subst hrest
    cases h
    constructor
    · intro _
      exact StandsFor.rest block
    · intro _
      exact trivial
  · rw [parse_literal hwell.nonempty hliteral] at h
    cases h
    constructor
    · intro hblock
      have hblock : block = [part] := hblock
      rw [hblock]
      exact StandsFor.literal hliteral
    · intro hstands
      cases hstands with
      | literal _ => exact rfl
      | one _ => exact absurd List.mem_cons_self hliteral
      | rest _ => exact absurd List.mem_cons_self hliteral

/-!
## Segments in a row
-/

theorem exists_parseAll_iff :
    (exists segments : List TopicSegment, parseAll parts = .ok segments) <->
      forall part : List Char, part ∈ parts -> WellFormed part := by
  induction parts with
  | nil =>
      constructor
      · intro _ part hpart
        cases hpart
      · intro _
        exact ⟨[], rfl⟩
  | cons part parts ih =>
      rw [List.forall_mem_cons, <- ih, <- exists_parse_iff]
      constructor
      · intro h
        rcases h with ⟨segments, hparse⟩
        rcases parseAll_cons.mp hparse with ⟨segment, later, -, hsegment, hlater⟩
        exact ⟨⟨segment, hsegment⟩, ⟨later, hlater⟩⟩
      · intro h
        rcases h with ⟨⟨segment, hsegment⟩, ⟨later, hlater⟩⟩
        exact ⟨segment :: later, parseAll_cons.mpr ⟨segment, later, rfl, hsegment, hlater⟩⟩

/-- A topic is cut into the blocks that the segments take. -/
theorem matchAll_iff_blocks :
    matchAll segments parts = true <->
      exists blocks : List (List (List Char)),
        blocks.flatten = parts ∧ List.Forall₂ Takes segments blocks := by
  induction segments generalizing parts with
  | nil =>
      rw [matchAll_nil]
      constructor
      · intro h
        exact ⟨[], h.symm, List.Forall₂.nil⟩
      · intro h
        rcases h with ⟨blocks, hflatten, hblocks⟩
        cases hblocks
        exact hflatten.symm
  | cons segment segments ih =>
      rw [matchAll_cons]
      constructor
      · intro h
        rcases h with ⟨block, back, hparts, htakes, hback⟩
        rcases ih.mp hback with ⟨blocks, hflatten, hblocks⟩
        refine ⟨block :: blocks, ?_, List.Forall₂.cons htakes hblocks⟩
        rw [List.flatten_cons, hflatten, hparts]
      · intro h
        rcases h with ⟨blocks, hflatten, hblocks⟩
        cases hblocks with
        | cons htakes hrest =>
            rw [List.flatten_cons] at hflatten
            exact ⟨_, _, hflatten.symm, htakes, ih.mpr ⟨_, rfl, hrest⟩⟩

theorem blocks_of_parseAll (h : parseAll parts = .ok segments)
    {blocks : List (List (List Char))} :
    List.Forall₂ Takes segments blocks <-> List.Forall₂ StandsFor parts blocks := by
  induction parts generalizing segments blocks with
  | nil =>
      cases h
      rw [List.forall₂_nil_left_iff, List.forall₂_nil_left_iff]
  | cons part parts ih =>
      rcases parseAll_cons.mp h with ⟨segment, later, hsegments, hsegment, hlater⟩
      rw [hsegments, List.forall₂_cons_left_iff, List.forall₂_cons_left_iff]
      simp only [takes_iff_standsFor hsegment, ih hlater]

theorem matchAll_rests (count : Nat) :
    matchAll (List.replicate (count + 1) rest ++ more) parts = true <->
      exists block back : List (List Char),
        parts = block ++ back ∧ matchAll more back = true := by
  induction count generalizing parts with
  | zero =>
      rw [List.replicate_one, List.singleton_append, matchAll_cons]
      simp only [Takes, true_and]
  | succ count ih =>
      rw [List.replicate_succ, List.cons_append, matchAll_cons]
      simp only [Takes, true_and]
      constructor
      · intro h
        rcases h with ⟨block, tail, hparts, htail⟩
        rcases ih.mp htail with ⟨block', back, htail', hback⟩
        refine ⟨block ++ block', back, ?_, hback⟩
        rw [hparts, htail', List.append_assoc]
      · intro h
        rcases h with ⟨block, back, hparts, hback⟩
        exact ⟨block, back, hparts, ih.mpr ⟨[], back, rfl, hback⟩⟩

theorem parseAll_rests (count : Nat) :
    parseAll (List.replicate count ['*', '*']) = .ok (List.replicate count rest) := by
  induction count with
  | zero => rfl
  | succ count ih =>
      exact parseAll_cons.mpr ⟨rest, List.replicate count rest, rfl, rfl, ih⟩

end TopicSegment

namespace TopicPattern

open TopicSegment

variable {text text' : String} {pattern pattern' : TopicPattern}

/-!
## Patterns
-/

def parts (text : String) : List (List Char) :=
  text.toList.splitOn '/'

theorem parts_inj (h : parts text = parts text') : text = text' := by
  apply String.toList_inj.mp
  calc
    text.toList = ['/'].intercalate (parts text) := (List.intercalate_splitOn '/').symm
    _ = ['/'].intercalate (parts text') := by rw [h]
    _ = text'.toList := List.intercalate_splitOn '/'

theorem parse_eq_ok_iff :
    parse text = .ok pattern <->
      pattern.text = text ∧ text ≠ "" ∧ parseAll (parts text) = .ok pattern.segments := by
  unfold parse parts
  split
  · next hempty =>
      constructor
      · intro h
        cases h
      · intro h
        exact absurd (String.isEmpty_iff.mp hempty) h.right.left
  · next hnonempty =>
      have hnonempty : text ≠ "" := fun h => hnonempty (String.isEmpty_iff.mpr h)
      split
      · next hfault =>
          rw [hfault]
          constructor
          · intro h
            cases h
          · intro h
            cases h.right.right
      · next segments hsegments =>
          rw [hsegments]
          constructor
          · intro h
            cases h
            exact ⟨rfl, hnonempty, rfl⟩
          · intro h
            rcases h with ⟨htext, -, hsame⟩
            cases hsame
            rw [<- htext]

theorem exists_parse_iff :
    (exists pattern : TopicPattern, parse text = .ok pattern) <->
      text ≠ "" ∧ forall part : List Char, part ∈ parts text -> WellFormed part := by
  rw [<- exists_parseAll_iff]
  constructor
  · intro h
    rcases h with ⟨pattern, hparse⟩
    rcases parse_eq_ok_iff.mp hparse with ⟨-, hnonempty, hsegments⟩
    exact ⟨hnonempty, pattern.segments, hsegments⟩
  · intro h
    rcases h with ⟨hnonempty, segments, hsegments⟩
    exact ⟨⟨text, segments⟩, parse_eq_ok_iff.mpr ⟨rfl, hnonempty, hsegments⟩⟩

theorem covers_iff_blocks (h : parse text = .ok pattern) (topic : String) :
    pattern.covers topic = true <->
      exists blocks : List (List (List Char)),
        blocks.flatten = parts topic ∧ List.Forall₂ StandsFor (parts text) blocks := by
  unfold covers
  rw [matchAll_iff_blocks]
  simp only [blocks_of_parseAll (parse_eq_ok_iff.mp h).right.right]
  rfl

theorem mem_intercalate {c : Char} {part : List Char} {all : List (List Char)} (hc : c ∈ part)
    (hpart : part ∈ all) : c ∈ ['/'].intercalate all := by
  induction all with
  | nil => cases hpart
  | cons first rest ih =>
      cases rest with
      | nil =>
          rw [List.intercalate_singleton, <- List.mem_singleton.mp hpart]
          exact hc
      | cons second rest =>
          rw [List.intercalate_cons_cons]
          rcases List.mem_cons.mp hpart with hfirst | hrest
          · rw [<- hfirst]
            exact List.mem_append_left _ (List.mem_append_left _ hc)
          · exact List.mem_append_right _ (ih hrest)

theorem covers_iff_of_plain (h : parse text = .ok pattern) (hstar : '*' ∉ text.toList)
    (topic : String) : pattern.covers topic = true <-> topic = text := by
  have hplain : forall part : List Char, part ∈ parts text -> part ≠ [] ∧ '*' ∉ part := by
    intro part hpart
    have hwell := (exists_parse_iff.mp ⟨pattern, h⟩).right part hpart
    have hwhole : ['/'].intercalate (parts text) = text.toList := List.intercalate_splitOn '/'
    refine ⟨hwell.nonempty, fun hmem => hstar ?_⟩
    rw [<- hwhole]
    exact mem_intercalate hmem hpart
  have hsegments := (parse_eq_ok_iff.mp h).right.right
  rw [parseAll_literals hplain, Except.ok.injEq] at hsegments
  rw [covers, <- hsegments, matchAll_literals]
  constructor
  · intro hsame
    exact parts_inj hsame
  · intro hsame
    rw [hsame]
    rfl

/-!
## Repeated wildcards
-/

variable {front back : List (List Char)}

theorem segments_of_rests {count : Nat} (h : parse text = .ok pattern)
    (hparts : parts text = front ++ (List.replicate (count + 1) ['*', '*'] ++ back)) :
    exists first last : List TopicSegment,
      parseAll front = .ok first ∧ parseAll back = .ok last ∧
        pattern.segments = first ++ (List.replicate (count + 1) rest ++ last) := by
  have hsegments := (parse_eq_ok_iff.mp h).right.right
  rw [hparts, parseAll_append] at hsegments
  rcases hsegments with ⟨first, others, hall, hfirst, hothers⟩
  rcases parseAll_append.mp hothers with ⟨rests, last, hrests, hsame, hlast⟩
  rw [parseAll_rests, Except.ok.injEq] at hsame
  refine ⟨first, last, hfirst, hlast, ?_⟩
  rw [hall, hrests, hsame]

theorem exists_parse_of_rests {count count' : Nat} (h : parse text = .ok pattern)
    (hparts : parts text = front ++ (List.replicate (count + 1) ['*', '*'] ++ back))
    (hparts' : parts text' = front ++ (List.replicate (count' + 1) ['*', '*'] ++ back)) :
    exists pattern' : TopicPattern, parse text' = .ok pattern' := by
  have hwell := (exists_parse_iff.mp ⟨pattern, h⟩).right
  rw [hparts] at hwell
  refine exists_parse_iff.mpr ⟨?_, ?_⟩
  · intro hempty
    have hlength := congrArg List.flatten hparts'
    rw [hempty, parts, String.toList_empty, List.splitOn_nil] at hlength
    simp [List.replicate_succ] at hlength
  · intro part hpart
    apply hwell part
    rw [hparts'] at hpart
    simp only [List.mem_append, List.mem_replicate] at hpart ⊢
    rcases hpart with hfront | ⟨-, hrest⟩ | hback
    · exact Or.inl hfront
    · exact Or.inr (Or.inl ⟨Nat.succ_ne_zero count, hrest⟩)
    · exact Or.inr (Or.inr hback)

theorem covers_of_rests {count count' : Nat} (h : parse text = .ok pattern)
    (hparts : parts text = front ++ (List.replicate (count + 1) ['*', '*'] ++ back))
    (hparts' : parts text' = front ++ (List.replicate (count' + 1) ['*', '*'] ++ back)) :
    exists pattern' : TopicPattern, parse text' = .ok pattern' ∧
      forall topic : String, pattern'.covers topic = pattern.covers topic := by
  rcases exists_parse_of_rests h hparts hparts' with ⟨pattern', h'⟩
  rcases segments_of_rests h hparts with ⟨first, last, hfirst, hlast, hsegments⟩
  rcases segments_of_rests h' hparts' with ⟨first', last', hfirst', hlast', hsegments'⟩
  rw [hfirst, Except.ok.injEq] at hfirst'
  rw [hlast, Except.ok.injEq] at hlast'
  refine ⟨pattern', h', fun topic => ?_⟩
  rw [covers, covers, hsegments, hsegments', <- hfirst', <- hlast', Bool.eq_iff_iff,
    matchAll_append, matchAll_append]
  simp only [matchAll_rests]

/-- What the topics are that the pattern of a text describes. -/
structure Describes (text : String) (pattern : TopicPattern) : Prop where
  blocks :
    forall topic : String, pattern.covers topic = true <->
      exists blocks : List (List (List Char)),
        blocks.flatten = parts topic ∧ List.Forall₂ StandsFor (parts text) blocks
  plain :
    '*' ∉ text.toList -> forall topic : String, pattern.covers topic = true <-> topic = text
  /-- It does not matter how often `**` is repeated in one place. -/
  repeated :
    forall (front back : List (List Char)) (count count' : Nat) (text' : String),
      parts text = front ++ (List.replicate (count + 1) ['*', '*'] ++ back) ->
        parts text' = front ++ (List.replicate (count' + 1) ['*', '*'] ++ back) ->
          exists pattern' : TopicPattern, parse text' = .ok pattern' ∧
            forall topic : String, pattern'.covers topic = pattern.covers topic

/-- The texts that are patterns are told by their segments, and so are the topics that a
pattern describes. -/
theorem patterns_read (text : String) :
    ((exists pattern : TopicPattern, parse text = .ok pattern) <->
        text ≠ "" ∧ forall part : List Char, part ∈ parts text -> WellFormed part) ∧
      forall pattern : TopicPattern, parse text = .ok pattern -> Describes text pattern := by
  refine ⟨exists_parse_iff, fun pattern h => ?_⟩
  constructor
  case blocks => exact fun topic => covers_iff_blocks h topic
  case plain => exact fun hstar topic => covers_iff_of_plain h hstar topic
  case repeated =>
    intro front back count count' text' hparts hparts'
    exact covers_of_rests h hparts hparts'

/-- Two wildcards in a row take nothing here; with one of them the pattern is the same. -/
theorem patterns_read_repeated_rest :
    exists pattern pattern' : TopicPattern,
      parse "node/**/**/props" = .ok pattern ∧ parse "node/**/props" = .ok pattern' ∧
        (forall topic : String, pattern'.covers topic = pattern.covers topic) ∧
          pattern.covers "node/props" = true := by
  have hparse : parse "node/**/**/props" = .ok _ := rfl
  have hdescribes := (patterns_read "node/**/**/props").right _ hparse
  have hparts : parts "node/**/**/props" =
      ["node".toList] ++ (List.replicate (1 + 1) ['*', '*'] ++ ["props".toList]) := by decide
  have hparts' : parts "node/**/props" =
      ["node".toList] ++ (List.replicate (0 + 1) ['*', '*'] ++ ["props".toList]) := by decide
  rcases hdescribes.repeated _ _ _ _ _ hparts hparts' with ⟨pattern', hparse', hsame⟩
  refine ⟨_, pattern', hparse, hparse', hsame, (hdescribes.blocks "node/props").mpr ?_⟩
  refine ⟨[["node".toList], [], [], ["props".toList]], by decide, ?_⟩
  rw [hparts]
  refine List.Forall₂.cons (StandsFor.literal (by decide)) ?_
  refine List.Forall₂.cons (StandsFor.rest []) (List.Forall₂.cons (StandsFor.rest []) ?_)
  exact List.Forall₂.cons (StandsFor.literal (by decide)) List.Forall₂.nil

end TopicPattern
end Troupe
