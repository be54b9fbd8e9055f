import Troupe.Path
import Troupe.Proofs.Number.Digits

/-!
# Which texts are paths

A text is read as a path in two steps: it is cut at its slashes, and the pieces that are
left are held to the grammar of segments.  Both steps have a description of their own here.
`Cut` says how a text is put together from pieces and slashes, `Segment` which pieces are
segments, and `Offends` what is wrong with the others.

The classes of identifier characters stay arbitrary, so nothing below relies on what is in
them: a slash or a digit might start an identifier.
-/

namespace Troupe

open Number (DigitChars)

namespace Path

/-!
## Pieces
-/

/-- How a text is cut.  Pieces are not empty and have no slash in them; between two of them
stands at least one slash, and before the first and after the last one any number. -/
inductive Cut : List Char -> List (List Char) -> Prop where
  | nothing : Cut [] []
  | slash {text : List Char} {cut : List (List Char)} : Cut text cut -> Cut ('/' :: text) cut
  | last {piece : List Char} : piece ≠ [] -> '/' ∉ piece -> Cut piece [piece]
  | piece {piece text : List Char} {cut : List (List Char)} :
      piece ≠ [] -> '/' ∉ piece -> Cut text cut -> Cut (piece ++ '/' :: text) (piece :: cut)

def split (text : List Char) : List (List Char) :=
  (text.splitOn '/').filter fun piece => !piece.isEmpty

section Splitting

variable {front text : List Char}

theorem split_of_not_mem (h : '/' ∉ text) (hnonempty : text ≠ []) : split text = [text] := by
  rw [split, List.splitOn_eq_singleton h, List.filter_cons_of_pos]
  · rfl
  · simp [hnonempty]

theorem split_slash (text : List Char) : split ('/' :: text) = split text := by
  have hsplit : ('/' :: text).splitOn '/' = [] :: text.splitOn '/' :=
    List.splitOn_append_cons_self_of_not_mem List.not_mem_nil text
  rw [split, hsplit]
  rfl

theorem split_append (h : '/' ∉ front) (hnonempty : front ≠ []) (text : List Char) :
    split (front ++ '/' :: text) = front :: split text := by
  rw [split, List.splitOn_append_cons_self_of_not_mem h, List.filter_cons_of_pos]
  · rfl
  · simp [hnonempty]

end Splitting

theorem Cut.eq_split {text : List Char} {cut : List (List Char)} (h : Cut text cut) :
    cut = split text := by
  induction h with
  | nothing => rfl
  | slash _ ih => rw [split_slash, ih]
  | last hnonempty hslash => rw [split_of_not_mem hslash hnonempty]
  | piece hnonempty hslash _ ih => rw [split_append hslash hnonempty, ih]

theorem cut_split (text : List Char) : Cut text (split text) := by
  induction hlength : text.length using Nat.strongRecOn generalizing text with
  | ind n ih =>
      by_cases hslash : '/' ∈ text
      · rcases List.eq_append_cons_of_mem hslash with ⟨front, back, happend, hfront⟩
        have hback : Cut back (split back) := by
          apply ih back.length _ back rfl
          rw [← hlength, happend, List.length_append, List.length_cons]
          omega
        rw [happend]
        cases front with
        | nil =>
            rw [List.nil_append, split_slash]
            exact Cut.slash hback
        | cons c front =>
            rw [split_append hfront (List.cons_ne_nil c front)]
            exact Cut.piece (List.cons_ne_nil c front) hfront hback
      · by_cases hempty : text = []
        · rw [hempty]
          exact Cut.nothing
        · rw [split_of_not_mem hslash hempty]
          exact Cut.last hempty hslash

theorem cut_iff {text : List Char} {cut : List (List Char)} :
    Cut text cut <-> cut = split text := by
  constructor
  · intro h
    exact h.eq_split
  · intro h
    rw [h]
    exact cut_split text

end Path

/-!
## Segments
-/

namespace IdentifierClasses

variable {classes : IdentifierClasses} {piece : List Char} {fault : SegmentFault}

inductive Segment (classes : IdentifierClasses) : List Char -> Prop where
  | digits {piece : List Char} : DigitChars piece -> Segment classes piece
  | letter {first : Char} {rest : List Char} :
      classes.starts first = true ->
        (forall c : Char, c ∈ rest -> classes.continues c = true) ->
          Segment classes (first :: rest)
  | underscore {second : Char} {rest : List Char} :
      classes.continues second = true ->
        (forall c : Char, c ∈ rest -> classes.continues c = true) ->
          Segment classes ('_' :: second :: rest)

inductive Begins (classes : IdentifierClasses) : List Char -> Prop where
  | letter {first : Char} (rest : List Char) :
      classes.starts first = true -> Begins classes (first :: rest)
  | underscore {second : Char} (rest : List Char) :
      classes.continues second = true -> Begins classes ('_' :: second :: rest)

/-- What is said to be wrong with a piece that is no segment: the first character that may
not stand where it does, if the piece at least begins like an identifier. -/
inductive Offends (classes : IdentifierClasses) : List Char -> SegmentFault -> Prop where
  | badStart {piece : List Char} :
      ¬ classes.Segment piece -> ¬ classes.Begins piece ->
        Offends classes piece SegmentFault.badStart
  | badCharacter {first c : Char} {front back : List Char} :
      ¬ classes.Segment (first :: (front ++ c :: back)) ->
        classes.Begins (first :: (front ++ c :: back)) ->
          (forall d : Char, d ∈ front -> classes.continues d = true) ->
            classes.continues c = false ->
              Offends classes (first :: (front ++ c :: back)) (SegmentFault.badCharacter c)

theorem startsWell_iff : classes.startsWell piece = true <-> classes.Begins piece := by
  constructor
  · intro h
    cases piece with
    | nil => cases h
    | cons first rest =>
        rw [startsWell, Bool.or_eq_true] at h
        rcases h with hstarts | hunderscore
        · exact Begins.letter rest hstarts
        · cases rest with
          | nil => simp at hunderscore
          | cons second rest =>
              rw [List.head?_cons, Option.any_some, Bool.and_eq_true, beq_iff_eq] at hunderscore
              rw [hunderscore.left]
              exact Begins.underscore rest hunderscore.right
  · intro h
    cases h with
    | letter rest hstarts => rw [startsWell, hstarts, Bool.true_or]
    | underscore rest hcontinues =>
        rw [startsWell, List.head?_cons, Option.any_some, hcontinues, beq_self_eq_true,
          Bool.and_true, Bool.or_true]

theorem all_isDigit_iff : piece.all Char.isDigit = true <-> DigitChars piece :=
  List.all_eq_true

theorem segment_iff :
    classes.Segment piece <->
      DigitChars piece ∨
        classes.Begins piece ∧ forall c : Char, c ∈ piece.tail -> classes.continues c = true := by
  constructor
  · intro h
    cases h with
    | digits hdigits => exact Or.inl hdigits
    | letter hstarts hrest => exact Or.inr ⟨Begins.letter _ hstarts, hrest⟩
    | underscore hcontinues hrest =>
        refine Or.inr ⟨Begins.underscore _ hcontinues, ?_⟩
        exact List.forall_mem_cons.mpr ⟨hcontinues, hrest⟩
  · intro h
    rcases h with hdigits | ⟨hbegins, htail⟩
    · exact Segment.digits hdigits
    · cases hbegins with
      | letter rest hstarts => exact Segment.letter hstarts htail
      | underscore rest hcontinues =>
          exact Segment.underscore hcontinues (List.forall_mem_cons.mp htail).right

theorem fault?_of_begins (hdigits : ¬ DigitChars piece) (hbegins : classes.Begins piece) :
    classes.fault? piece =
      (piece.tail.find? fun c => !classes.continues c).map SegmentFault.badCharacter := by
  rw [fault?, if_neg (fun hall => hdigits (all_isDigit_iff.mp hall)),
    startsWell_iff.mpr hbegins, Bool.not_true, if_neg Bool.false_ne_true]

theorem fault?_of_not_begins (hdigits : ¬ DigitChars piece) (hbegins : ¬ classes.Begins piece) :
    classes.fault? piece = some SegmentFault.badStart := by
  have hwell : classes.startsWell piece = false :=
    Bool.eq_false_iff.mpr (fun hwell => hbegins (startsWell_iff.mp hwell))
  rw [fault?, if_neg (fun hall => hdigits (all_isDigit_iff.mp hall)), hwell, Bool.not_false,
    if_pos rfl]

theorem fault?_eq_none_iff : classes.fault? piece = none <-> classes.Segment piece := by
  rw [segment_iff]
  by_cases hdigits : DigitChars piece
  · rw [fault?, if_pos (all_isDigit_iff.mpr hdigits)]
    exact iff_of_true rfl (Or.inl hdigits)
  · rw [or_iff_right hdigits]
    by_cases hbegins : classes.Begins piece
    · rw [fault?_of_begins hdigits hbegins, Option.map_eq_none_iff, List.find?_eq_none,
        and_iff_right hbegins]
      simp
    · rw [fault?_of_not_begins hdigits hbegins]
      apply iff_of_false
      · intro h
        cases h
      · intro h
        exact hbegins h.left

theorem Offends.not_segment (h : classes.Offends piece fault) : ¬ classes.Segment piece := by
  cases h with
  | badStart hsegment _ => exact hsegment
  | badCharacter hsegment _ _ _ => exact hsegment

theorem offends_of_fault? (h : classes.fault? piece = some fault) :
    classes.Offends piece fault := by
  have hsegment : ¬ classes.Segment piece := by
    intro hsegment
    rw [fault?_eq_none_iff.mpr hsegment] at h
    cases h
  have hdigits : ¬ DigitChars piece := fun hdigits => hsegment (Segment.digits hdigits)
  by_cases hbegins : classes.Begins piece
  · rw [fault?_of_begins hdigits hbegins, Option.map_eq_some_iff] at h
    rcases h with ⟨c, hfind, hfault⟩
    rcases List.find?_eq_some_iff_append.mp hfind with ⟨hc, front, back, htail, hfront⟩
    rw [← hfault]
    cases piece with
    | nil => cases hbegins
    | cons first rest =>
        rw [List.tail_cons] at htail
        rw [htail] at hsegment hbegins ⊢
        exact Offends.badCharacter hsegment hbegins (by simpa using hfront) (by simpa using hc)
  · rw [fault?_of_not_begins hdigits hbegins, Option.some.injEq] at h
    rw [← h]
    exact Offends.badStart hsegment hbegins

theorem Offends.fault? (h : classes.Offends piece fault) : classes.fault? piece = some fault := by
  have hdigits : ¬ DigitChars piece := fun hdigits => h.not_segment (Segment.digits hdigits)
  cases h with
  | badStart _ hbegins => exact fault?_of_not_begins hdigits hbegins
  | badCharacter _ hbegins hfront hc =>
      rw [fault?_of_begins hdigits hbegins, Option.map_eq_some_iff]
      refine ⟨_, List.find?_eq_some_iff_append.mpr ⟨?_, _, _, rfl, ?_⟩, rfl⟩
      · rw [hc, Bool.not_false]
      · simpa using hfront

theorem fault?_eq_some_iff : classes.fault? piece = some fault <-> classes.Offends piece fault :=
  ⟨offends_of_fault?, Offends.fault?⟩

end IdentifierClasses

namespace Path

open IdentifierClasses

variable {classes : IdentifierClasses} {cut : List (List Char)}
variable {s : String} {path : Path} {error : PathError}

/-!
## Reading
-/

/-- What is said of pieces that do not all make segments: the first one that makes none, how
many stand before it, and what is wrong with it. -/
inductive Refuses (classes : IdentifierClasses) : List (List Char) -> PathError -> Prop where
  | first {front back : List (List Char)} {piece : List Char} {fault : SegmentFault} :
      (forall earlier : List Char, earlier ∈ front -> classes.Segment earlier) ->
        classes.Offends piece fault ->
          Refuses classes (front ++ piece :: back)
            (PathError.invalidSegment (String.ofList piece) front.length fault)

theorem firstFault?_eq_none_iff (position : Nat) :
    firstFault? classes position cut = none <->
      forall piece : List Char, piece ∈ cut -> classes.Segment piece := by
  induction cut generalizing position with
  | nil => simp [firstFault?]
  | cons piece rest ih =>
      rw [List.forall_mem_cons, ← fault?_eq_none_iff, ← ih (position + 1), firstFault?]
      cases classes.fault? piece <;> simp

theorem firstFault?_append {front : List (List Char)}
    (hfront : forall earlier : List Char, earlier ∈ front -> classes.Segment earlier)
    (back : List (List Char)) (position : Nat) :
    firstFault? classes position (front ++ back) =
      firstFault? classes (position + front.length) back := by
  induction front generalizing position with
  | nil => rfl
  | cons piece front ih =>
      rcases List.forall_mem_cons.mp hfront with ⟨hsegment, hlater⟩
      rw [List.cons_append, firstFault?, fault?_eq_none_iff.mpr hsegment]
      dsimp only
      rw [ih hlater, List.length_cons, Nat.add_assoc, Nat.add_comm 1]

theorem exists_first_offence
    (h : ¬ forall piece : List Char, piece ∈ cut -> classes.Segment piece) :
    exists (front back : List (List Char)) (piece : List Char),
      cut = front ++ piece :: back ∧
        (forall earlier : List Char, earlier ∈ front -> classes.Segment earlier) ∧
          ¬ classes.Segment piece := by
  induction cut with
  | nil => exact absurd (List.forall_mem_nil _) h
  | cons piece rest ih =>
      by_cases hsegment : classes.Segment piece
      · have hrest : ¬ forall piece : List Char, piece ∈ rest -> classes.Segment piece :=
          fun hall => h (List.forall_mem_cons.mpr ⟨hsegment, hall⟩)
        rcases ih hrest with ⟨front, back, bad, happend, hfront, hbad⟩
        refine ⟨piece :: front, back, bad, ?_, ?_, hbad⟩
        · rw [happend, List.cons_append]
        · exact List.forall_mem_cons.mpr ⟨hsegment, hfront⟩
      · exact ⟨[], rest, piece, rfl, List.forall_mem_nil _, hsegment⟩

theorem Refuses.firstFault? (h : Refuses classes cut error) :
    firstFault? classes 0 cut = some error := by
  cases h with
  | first hfront hoffends =>
      rw [firstFault?_append hfront, Path.firstFault?, fault?_eq_some_iff.mpr hoffends,
        Nat.zero_add]

/-- Pieces are refused exactly when they are not all segments, and for one reason. -/
theorem firstFault?_eq_some_iff :
    firstFault? classes 0 cut = some error <-> Refuses classes cut error := by
  constructor
  · intro h
    have hbad : ¬ forall piece : List Char, piece ∈ cut -> classes.Segment piece := by
      intro hall
      rw [(firstFault?_eq_none_iff 0).mpr hall] at h
      cases h
    rcases exists_first_offence hbad with ⟨front, back, piece, happend, hfront, hpiece⟩
    cases hfault : classes.fault? piece with
    | none => exact absurd (fault?_eq_none_iff.mp hfault) hpiece
    | some fault =>
        have hrefuses : Refuses classes cut
            (PathError.invalidSegment (String.ofList piece) front.length fault) := by
          rw [happend]
          exact Refuses.first hfront (fault?_eq_some_iff.mp hfault)
        have hsame := hrefuses.firstFault?
        rw [h, Option.some.injEq] at hsame
        rw [hsame]
        exact hrefuses
  · intro h
    exact h.firstFault?

theorem parseWith_eq_ok_iff :
    parseWith classes s = .ok path <->
      (forall piece : List Char, piece ∈ pieces s -> classes.Segment piece) ∧
        path.segments = (pieces s).map String.ofList := by
  rw [parseWith, ← firstFault?_eq_none_iff 0]
  cases hfault : firstFault? classes 0 (pieces s) with
  | none =>
      dsimp only
      rw [Except.ok.injEq]
      constructor
      · intro h
        rw [← h]
        exact ⟨rfl, rfl⟩
      · intro h
        rw [← h.right]
  | some error => simp

theorem parseWith_eq_error_iff :
    parseWith classes s = .error error <-> Refuses classes (pieces s) error := by
  rw [← firstFault?_eq_some_iff, parseWith]
  cases firstFault? classes 0 (pieces s) with
  | none => simp
  | some found => simp

/-- A text is cut in one way, whatever it is.  It is a path exactly when all its pieces are
segments, which are then the path's in the same order; otherwise the first piece that is no
segment is named, together with its position among the pieces. -/
theorem paths_recognised (classes : IdentifierClasses) (s : String) :
    exists cut : List (List Char),
      (forall other : List (List Char), Cut s.toList other <-> other = cut) ∧
        (forall path : Path, parseWith classes s = .ok path <->
          (forall piece : List Char, piece ∈ cut -> classes.Segment piece) ∧
            path.segments = cut.map String.ofList) ∧
          forall error : PathError, parseWith classes s = .error error <->
            Refuses classes cut error := by
  refine ⟨pieces s, fun other => ?_, fun path => ?_, fun error => ?_⟩
  · exact cut_iff
  · exact parseWith_eq_ok_iff
  · exact parseWith_eq_error_iff

/-- Slashes too many, and then one hyphen too many in the second of three pieces. -/
theorem paths_recognised_hyphen :
    parse "/wifi//peers/007/" = .ok { segments := ["wifi", "peers", "007"] } ∧
      parse "wifi//bad-name/_" =
        .error (PathError.invalidSegment "bad-name" 1 (SegmentFault.badCharacter '-')) := by
  constructor
  · rcases paths_recognised IdentifierClasses.unicode "/wifi//peers/007/" with
      ⟨cut, hcut, hok, -⟩
    have htext : "/wifi//peers/007/".toList =
        '/' :: ("wifi".toList ++ '/' :: ('/' :: ("peers".toList ++ '/' :: ("007".toList ++
          '/' :: [])))) := by decide
    have hpieces : ["wifi".toList, "peers".toList, "007".toList] = cut := by
      apply (hcut _).mp
      rw [htext]
      refine Cut.slash (Cut.piece (by decide) (by decide) (Cut.slash ?_))
      exact Cut.piece (by decide) (by decide) (Cut.piece (by decide) (by decide) Cut.nothing)
    have hwifi : IdentifierClasses.unicode.Segment "wifi".toList :=
      fault?_eq_none_iff.mp (by decide)
    have hpeers : IdentifierClasses.unicode.Segment "peers".toList :=
      fault?_eq_none_iff.mp (by decide)
    have hdigits : IdentifierClasses.unicode.Segment "007".toList :=
      Segment.digits (all_isDigit_iff.mp rfl)
    apply (hok _).mpr
    rw [← hpieces]
    refine ⟨?_, by decide⟩
    simp only [List.forall_mem_cons]
    exact ⟨hwifi, hpeers, hdigits, List.forall_mem_nil _⟩
  · rcases paths_recognised IdentifierClasses.unicode "wifi//bad-name/_" with
      ⟨cut, hcut, -, herror⟩
    have htext : "wifi//bad-name/_".toList =
        "wifi".toList ++ '/' :: ('/' :: ("bad-name".toList ++ '/' :: "_".toList)) := by decide
    have hpieces : ["wifi".toList] ++ "bad-name".toList :: ["_".toList] = cut := by
      apply (hcut _).mp
      rw [htext]
      refine Cut.piece (by decide) (by decide) (Cut.slash ?_)
      exact Cut.piece (by decide) (by decide) (Cut.last (by decide) (by decide))
    have hoffends : IdentifierClasses.unicode.Offends "bad-name".toList
        (SegmentFault.badCharacter '-') := fault?_eq_some_iff.mp (by decide +kernel)
    apply (herror _).mpr
    rw [← hpieces]
    apply Refuses.first _ hoffends
    intro earlier hearlier
    rw [List.mem_singleton.mp hearlier]
    exact fault?_eq_none_iff.mp (by decide)

end Path
end Troupe
