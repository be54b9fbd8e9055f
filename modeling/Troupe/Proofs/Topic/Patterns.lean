import Troupe.Topic

/-!
# Patterns laid over topics

A pattern is laid over a topic block by block: each of its segments takes the next few
segments of the topic.  Laying a pattern that goes on after a while is laying its two
parts one after the other, so what the end of a pattern takes is at the end of the topic.

A text that is a pattern describes itself as a topic.
-/

namespace Troupe
namespace TopicSegment

variable {segments more : List TopicSegment} {parts others : List (List Char)}

/-- The blocks of a topic that one segment of a pattern stands for. -/
def Takes : TopicSegment -> List (List Char) -> Prop
  | literal text, block => block = [text]
  | one, block => exists part : List Char, part ≠ [] ∧ block = [part]
  | rest, _ => True

theorem anyTail_eq_true_iff {α : Type} {p : List α -> Bool} {xs : List α} :
    anyTail p xs = true <-> exists front back : List α, xs = front ++ back ∧ p back = true := by
  induction xs with
  | nil =>
      constructor
      · intro h
        exact ⟨[], [], rfl, h⟩
      · rintro ⟨front, back, happend, h⟩
        rw [(List.append_eq_nil_iff.mp happend.symm).right] at h
        exact h
  | cons x xs ih =>
      rw [anyTail, Bool.or_eq_true, ih]
      constructor
      · rintro (h | ⟨front, back, rfl, h⟩)
        · exact ⟨[], x :: xs, rfl, h⟩
        · exact ⟨x :: front, back, rfl, h⟩
      · rintro ⟨front, back, happend, h⟩
        cases front with
        | nil =>
            rw [List.nil_append] at happend
            rw [happend]
            exact Or.inl h
        | cons y front =>
            rcases List.cons.inj happend with ⟨-, hrest⟩
            exact Or.inr ⟨front, back, hrest, h⟩

theorem fits_iff {segment : TopicSegment} {part : List Char} (h : segment ≠ rest) :
    segment.fits part = true <-> segment.Takes [part] := by
  cases segment with
  | literal text =>
      rw [fits, beq_iff_eq, Takes, List.singleton_inj]
      exact eq_comm
  | one => simp [fits, Takes]
  | rest => exact absurd rfl h

theorem Takes.exists_singleton {segment : TopicSegment} (h : segment ≠ rest)
    {block : List (List Char)} (htakes : segment.Takes block) :
    exists part : List Char, block = [part] := by
  cases segment with
  | literal text => exact ⟨text, htakes⟩
  | one =>
      rcases htakes with ⟨part, -, hblock⟩
      exact ⟨part, hblock⟩
  | rest => exact absurd rfl h

theorem matchAll_nil : matchAll [] parts = true <-> parts = [] := by
  rw [matchAll, List.isEmpty_iff]

theorem matchAll_cons {segment : TopicSegment} :
    matchAll (segment :: segments) parts = true <->
      exists block back : List (List Char),
        parts = block ++ back ∧ segment.Takes block ∧ matchAll segments back = true := by
  by_cases hrest : segment = rest
  · subst hrest
    rw [matchAll, anyTail_eq_true_iff]
    constructor
    · rintro ⟨block, back, hparts, hback⟩
      exact ⟨block, back, hparts, trivial, hback⟩
    · rintro ⟨block, back, hparts, -, hback⟩
      exact ⟨block, back, hparts, hback⟩
  · cases parts with
    | nil =>
        rw [matchAll]
        constructor
        · intro h
          cases h
        · rintro ⟨block, back, hparts, htakes, -⟩
          rcases htakes.exists_singleton hrest with ⟨part, rfl⟩
          cases hparts
        · exact hrest
    | cons part parts =>
        rw [matchAll, Bool.and_eq_true, fits_iff hrest]
        constructor
        · rintro ⟨htakes, hback⟩
          exact ⟨[part], parts, rfl, htakes, hback⟩
        · rintro ⟨block, back, hparts, htakes, hback⟩
          rcases htakes.exists_singleton hrest with ⟨first, rfl⟩
          rcases List.cons.inj hparts with ⟨rfl, rfl⟩
          exact ⟨htakes, hback⟩
        · exact hrest

theorem matchAll_append :
    matchAll (segments ++ more) parts = true <->
      exists front back : List (List Char),
        parts = front ++ back ∧ matchAll segments front = true ∧
          matchAll more back = true := by
  induction segments generalizing parts with
  | nil =>
      rw [List.nil_append]
      constructor
      · intro h
        exact ⟨[], parts, rfl, rfl, h⟩
      · rintro ⟨front, back, rfl, hfront, hback⟩
        rw [matchAll_nil.mp hfront]
        exact hback
  | cons segment segments ih =>
      rw [List.cons_append, matchAll_cons]
      constructor
      · rintro ⟨block, tail, rfl, htakes, htail⟩
        rcases ih.mp htail with ⟨front, back, rfl, hfront, hback⟩
        refine ⟨block ++ front, back, (List.append_assoc ..).symm, ?_, hback⟩
        exact matchAll_cons.mpr ⟨block, front, rfl, htakes, hfront⟩
      · rintro ⟨front, back, rfl, hfront, hback⟩
        rcases matchAll_cons.mp hfront with ⟨block, tail, rfl, htakes, htail⟩
        refine ⟨block, tail ++ back, List.append_assoc .., htakes, ?_⟩
        exact ih.mpr ⟨tail, back, rfl, htail, hback⟩

theorem matchAll_literals {texts : List (List Char)} :
    matchAll (texts.map literal) parts = true <-> parts = texts := by
  induction texts generalizing parts with
  | nil => exact matchAll_nil
  | cons text texts ih =>
      rw [List.map_cons, matchAll_cons]
      constructor
      · rintro ⟨block, back, rfl, hblock, hback⟩
        have hblock : block = [text] := hblock
        rw [hblock, ih.mp hback, List.singleton_append]
      · rintro rfl
        exact ⟨[text], texts, rfl, rfl, ih.mpr rfl⟩

theorem ends_of_matchAll {texts : List (List Char)}
    (h : matchAll (segments ++ texts.map literal) parts = true) :
    exists front : List (List Char), parts = front ++ texts := by
  rcases matchAll_append.mp h with ⟨front, back, rfl, -, hback⟩
  exact ⟨front, by rw [matchAll_literals.mp hback]⟩

/-!
## Reading patterns
-/

theorem parse_literal {text : List Char} (hnonempty : text ≠ []) (hstar : '*' ∉ text) :
    parse text = .ok (literal text) := by
  unfold parse
  split
  · exact absurd rfl hnonempty
  · exact absurd List.mem_cons_self hstar
  · exact absurd List.mem_cons_self hstar
  · rw [if_neg (by simpa using hstar)]

theorem takes_of_parse {text : List Char} {segment : TopicSegment}
    (h : parse text = .ok segment) : segment.Takes [text] := by
  unfold parse at h
  split at h
  · cases h
  · cases h
    exact ⟨['*'], by simp, rfl⟩
  · cases h
    exact trivial
  · split at h
    · cases h
    · cases h
      exact rfl

theorem parseAll_cons {text : List Char} {texts : List (List Char)} :
    parseAll (text :: texts) = .ok segments <->
      exists (segment : TopicSegment) (later : List TopicSegment),
        segments = segment :: later ∧ parse text = .ok segment ∧ parseAll texts = .ok later := by
  rw [parseAll]
  cases parse text with
  | error fault => simp
  | ok segment =>
      cases parseAll texts with
      | error fault => simp
      | ok later => simp [eq_comm]

theorem parseAll_append :
    parseAll (parts ++ others) = .ok segments <->
      exists first second : List TopicSegment,
        segments = first ++ second ∧ parseAll parts = .ok first ∧
          parseAll others = .ok second := by
  induction parts generalizing segments with
  | nil =>
      constructor
      · intro h
        exact ⟨[], segments, rfl, rfl, h⟩
      · rintro ⟨first, second, rfl, hfirst, hsecond⟩
        cases hfirst
        exact hsecond
  | cons part parts ih =>
      rw [List.cons_append, parseAll_cons]
      constructor
      · rintro ⟨segment, later, rfl, hsegment, hlater⟩
        rcases ih.mp hlater with ⟨first, second, rfl, hfirst, hsecond⟩
        refine ⟨segment :: first, second, rfl, ?_, hsecond⟩
        exact parseAll_cons.mpr ⟨segment, first, rfl, hsegment, hfirst⟩
      · rintro ⟨first, second, rfl, hfirst, hsecond⟩
        rcases parseAll_cons.mp hfirst with ⟨segment, later, rfl, hsegment, hlater⟩
        exact ⟨segment, later ++ second, rfl, hsegment,
          ih.mpr ⟨later, second, rfl, hlater, hsecond⟩⟩

theorem parseAll_literals {texts : List (List Char)}
    (h : forall text : List Char, text ∈ texts -> text ≠ [] ∧ '*' ∉ text) :
    parseAll texts = .ok (texts.map literal) := by
  induction texts with
  | nil => rfl
  | cons text texts ih =>
      rw [List.forall_mem_cons] at h
      exact parseAll_cons.mpr
        ⟨literal text, texts.map literal, rfl, parse_literal h.left.left h.left.right, ih h.right⟩

theorem matchAll_of_parseAll (h : parseAll parts = .ok segments) :
    matchAll segments parts = true := by
  induction parts generalizing segments with
  | nil =>
      cases h
      rfl
  | cons part parts ih =>
      rcases parseAll_cons.mp h with ⟨segment, later, rfl, hsegment, hlater⟩
      exact matchAll_cons.mpr ⟨[part], parts, rfl, takes_of_parse hsegment, ih hlater⟩

end TopicSegment

namespace TopicPattern

open TopicSegment

theorem parseAll_of_parse {text : String} {pattern : TopicPattern}
    (h : parse text = .ok pattern) :
    parseAll (text.toList.splitOn '/') = .ok pattern.segments := by
  unfold parse at h
  split at h
  · cases h
  · split at h
    · cases h
    · next hsegments =>
        cases h
        exact hsegments

/-- Wildcards describe themselves too, so a pattern describes its own text. -/
theorem covers_of_parse {text : String} {pattern : TopicPattern}
    (h : parse text = .ok pattern) : pattern.covers text = true :=
  matchAll_of_parseAll (parseAll_of_parse h)

end TopicPattern
end Troupe
