import Troupe.Proofs.Path.Segments
import Troupe.Tree.Basic

/-!
# Paths as texts, segments and keys

A path has three forms: the text that it is read from, its segments, and the keys that the
segments stand for.  Nothing is lost on the way from one form to the next but slashes that
have no piece on one of their sides.

Keys lose nothing because a segment is an index only if it is the decimal text of its
position.  Digits with a zero in front and digits of a number that is too large stay names,
and a plus sign, which would be skipped in front of digits, begins no segment.
-/

namespace Troupe

open Number

namespace Path

/-!
## Keys of segments
-/

section Keys

variable {segment name : String} {position : Nat}

theorem withoutPlus_eq {cs : List Char} (hplus : cs.head? ≠ some '+') : withoutPlus cs = cs := by
  unfold withoutPlus
  split
  · next rest => exact absurd rfl hplus
  · rfl

theorem position?_eq_some_iff (hplus : segment.toList.head? ≠ some '+') :
    position? segment = some position <->
      segment.toList ≠ [] ∧ DigitChars segment.toList ∧
        decimalValue segment.toList = position ∧ position < 2 ^ 64 := by
  have htest : (!segment.toList.isEmpty && segment.toList.all Char.isDigit) = true <->
      segment.toList ≠ [] ∧ DigitChars segment.toList := by
    rw [Bool.and_eq_true, Bool.not_eq_true', List.isEmpty_eq_false_iff,
      IdentifierClasses.all_isDigit_iff]
  rw [position?, withoutPlus_eq hplus, Option.ite_none_right_eq_some, htest]
  dsimp only
  rw [Option.ite_none_right_eq_some, Option.some.injEq]
  constructor
  · intro h
    rcases h with ⟨⟨hnonempty, hdigits⟩, hlt, hvalue⟩
    rw [hvalue] at hlt
    exact ⟨hnonempty, hdigits, hvalue, hlt⟩
  · intro h
    rcases h with ⟨hnonempty, hdigits, hvalue, hlt⟩
    rw [← hvalue] at hlt
    exact ⟨⟨hnonempty, hdigits⟩, hlt, hvalue⟩

theorem keyOfSegment_eq_index_iff_position? :
    keyOfSegment segment = Key.index position <->
      position? segment = some position ∧
        (segment = "0" ∨ segment.toList.head? ≠ some '0') := by
  rw [keyOfSegment]
  cases position? segment with
  | none => simp
  | some found =>
      dsimp only
      split
      · next hcanonical => simpa using fun _ => hcanonical
      · next hcanonical => simpa using fun _ => hcanonical

theorem eq_of_keyOfSegment (h : keyOfSegment segment = Key.field name) : name = segment := by
  rw [keyOfSegment] at h
  split at h
  · split at h
    · cases h
    · cases h
      rfl
  · cases h
    rfl

theorem toList_toString (position : Nat) :
    (toString position).toList = Nat.toDigits 10 position := by
  rw [Nat.toString_eq_ofList_toDigits, String.toList_ofList]

theorem keyOfSegment_eq_index_iff (hplus : segment.toList.head? ≠ some '+') :
    keyOfSegment segment = Key.index position <->
      segment = toString position ∧ position < 2 ^ 64 := by
  rw [keyOfSegment_eq_index_iff_position?, position?_eq_some_iff hplus]
  constructor
  · intro h
    rcases h with ⟨⟨hnonempty, hdigits, hvalue, hlt⟩, hcanonical⟩
    refine ⟨?_, hlt⟩
    rcases hcanonical with hzero | hhead
    · rw [hzero] at hvalue
      rw [hzero, ← hvalue]
      rfl
    · have hleads : Leads segment.toList := by
        cases hcs : segment.toList with
        | nil => exact absurd hcs hnonempty
        | cons c rest =>
            rw [hcs, List.head?_cons] at hhead
            exact ⟨c, rest, rfl, fun hc => hhead (congrArg some hc)⟩
      rw [← String.toList_inj, toList_toString, ← hvalue, toDigits_decimalValue hdigits hleads]
  · intro h
    rcases h with ⟨hsegment, hlt⟩
    have hcs : segment.toList = Nat.toDigits 10 position := by
      rw [hsegment, toList_toString]
    rw [hcs]
    refine ⟨⟨Nat.toDigits_ne_nil, digitChars_toDigits position, ?_, hlt⟩, ?_⟩
    · exact decimalValue_toDigits position
    · rcases Nat.eq_zero_or_pos position with hzero | hpos
      · left
        rw [hsegment, hzero]
        rfl
      · right
        rcases leads_toDigits hpos with ⟨c, rest, hcons, hc⟩
        rw [hcons, List.head?_cons]
        intro hsame
        exact hc (Option.some.inj hsame)

example : keys { segments := ["0", "007", "10", "18446744073709551616"] } =
    [Key.index 0, Key.field "007", Key.index 10, Key.field "18446744073709551616"] := by
  decide

theorem fieldName_keyOfSegment (hplus : segment.toList.head? ≠ some '+') :
    (keyOfSegment segment).fieldName = segment := by
  cases hkey : keyOfSegment segment with
  | field name => exact eq_of_keyOfSegment hkey
  | index position => exact ((keyOfSegment_eq_index_iff hplus).mp hkey).left.symm

end Keys

/-!
## Texts of paths
-/

section Texts

variable {classes : IdentifierClasses} {text text' : List Char} {cut cut' : List (List Char)}
variable {s t segment : String} {path other : Path}

theorem Cut.of_mem {piece : List Char} (h : Cut text cut) (hmem : piece ∈ cut) :
    piece ≠ [] ∧ '/' ∉ piece := by
  induction h with
  | nothing => cases hmem
  | slash _ ih => exact ih hmem
  | last hnonempty hslash =>
      rw [List.mem_singleton.mp hmem]
      exact ⟨hnonempty, hslash⟩
  | piece hnonempty hslash _ ih =>
      rcases List.mem_cons.mp hmem with hfirst | hrest
      · rw [hfirst]
        exact ⟨hnonempty, hslash⟩
      · exact ih hrest

theorem Cut.append (h : Cut text cut) (h' : Cut text' cut') :
    Cut (text ++ '/' :: text') (cut ++ cut') := by
  induction h with
  | nothing => exact Cut.slash h'
  | slash _ ih => exact Cut.slash ih
  | last hnonempty hslash => exact Cut.piece hnonempty hslash h'
  | piece hnonempty hslash _ ih =>
      rw [List.append_assoc, List.cons_append]
      exact Cut.piece hnonempty hslash ih

theorem cut_pieces (s : String) : Cut s.toList (pieces s) :=
  cut_split s.toList

theorem pieces_of_cut (h : Cut s.toList cut) : pieces s = cut :=
  h.eq_split.symm

theorem pieces_append (s t : String) : pieces (s ++ "/" ++ t) = pieces s ++ pieces t := by
  apply pieces_of_cut
  have htext : (s ++ "/" ++ t).toList = s.toList ++ '/' :: t.toList := by
    simp [String.toList_append]
  rw [htext]
  exact (cut_pieces s).append (cut_pieces t)

/-- The paths that can be read.  That segments are not empty and have no slash in them does
not follow from their grammar, which is open to any classes of characters. -/
def Readable (classes : IdentifierClasses) (path : Path) : Prop :=
  forall segment : String, segment ∈ path.segments ->
    (segment.toList ≠ [] ∧ '/' ∉ segment.toList) ∧ classes.Segment segment.toList

theorem readable_of_parseWith (h : parseWith classes s = .ok path) : Readable classes path := by
  rcases parseWith_eq_ok_iff.mp h with ⟨hall, hsegments⟩
  intro segment hmem
  rw [hsegments] at hmem
  rcases List.mem_map.mp hmem with ⟨piece, hpiece, hsegment⟩
  rw [← hsegment, String.toList_ofList]
  exact ⟨(cut_pieces s).of_mem hpiece, hall piece hpiece⟩

theorem cut_intercalate {segments : List (List Char)}
    (h : forall piece : List Char, piece ∈ segments -> piece ≠ [] ∧ '/' ∉ piece) :
    Cut (['/'].intercalate segments) segments := by
  induction segments with
  | nil => exact Cut.nothing
  | cons first rest ih =>
      rcases List.forall_mem_cons.mp h with ⟨⟨hnonempty, hslash⟩, hrest⟩
      cases rest with
      | nil =>
          rw [List.intercalate_singleton]
          exact Cut.last hnonempty hslash
      | cons second rest =>
          rw [List.intercalate_cons_cons, List.append_assoc, List.singleton_append]
          exact Cut.piece hnonempty hslash (ih hrest)

/-- A path that can be read is read from its own text. -/
theorem Readable.parseWith_text (h : Readable classes path) :
    parseWith classes path.text = .ok path := by
  have hpieces : pieces path.text = path.segments.map String.toList := by
    apply pieces_of_cut
    rw [text, String.toList_intercalate]
    apply cut_intercalate
    intro piece hmem
    rcases List.mem_map.mp hmem with ⟨segment, hsegment, hpiece⟩
    rw [← hpiece]
    exact (h segment hsegment).left
  rw [parseWith_eq_ok_iff, hpieces, List.map_map]
  constructor
  · intro piece hmem
    rcases List.mem_map.mp hmem with ⟨segment, hsegment, hpiece⟩
    rw [← hpiece]
    exact (h segment hsegment).right
  · have hsame : String.ofList ∘ String.toList = id := funext fun _ => String.ofList_toList
    rw [hsame, List.map_id]

theorem parseWith_append (hs : parseWith classes s = .ok path)
    (ht : parseWith classes t = .ok other) :
    parseWith classes (s ++ "/" ++ t) = .ok (path.join other) := by
  rcases parseWith_eq_ok_iff.mp hs with ⟨hall, hsegments⟩
  rcases parseWith_eq_ok_iff.mp ht with ⟨hall', hsegments'⟩
  rw [parseWith_eq_ok_iff, pieces_append]
  constructor
  · intro piece hmem
    rcases List.mem_append.mp hmem with hfront | hback
    · exact hall piece hfront
    · exact hall' piece hback
  · rw [join, hsegments, hsegments', List.map_append]

/-- Paths are the same exactly when they are read from the same pieces. -/
theorem eq_iff_pieces_eq (hs : parseWith classes s = .ok path)
    (ht : parseWith classes t = .ok other) : path = other <-> pieces s = pieces t := by
  have hsegments := (parseWith_eq_ok_iff.mp hs).right
  have hsegments' := (parseWith_eq_ok_iff.mp ht).right
  constructor
  · intro hsame
    rw [hsame, hsegments'] at hsegments
    exact (List.map_inj_right fun _ _ => String.ofList_injective).mp hsegments.symm
  · intro hsame
    cases path
    cases other
    rw [Path.mk.injEq]
    rw [hsame, ← hsegments'] at hsegments
    exact hsegments

theorem Readable.parseWith_segment (h : Readable classes path) (hmem : segment ∈ path.segments) :
    parseWith classes segment = .ok { segments := [segment] } := by
  have hsingle : Readable classes { segments := [segment] } := by
    intro other hother
    rw [List.mem_singleton.mp hother]
    exact h segment hmem
  have hread := hsingle.parseWith_text
  rwa [text, String.intercalate_singleton] at hread

theorem Readable.no_plus (h : Readable classes path) (hplus : classes.starts '+' = false)
    (hmem : segment ∈ path.segments) : segment.toList.head? ≠ some '+' := by
  have hsegment := (h segment hmem).right
  generalize segment.toList = cs at hsegment
  cases hsegment with
  | digits hdigits =>
      intro hhead
      have hdigit := hdigits '+' (List.mem_of_mem_head? hhead)
      cases hdigit
  | letter hstarts _ =>
      intro hhead
      rw [List.head?_cons, Option.some.injEq] at hhead
      rw [hhead, hplus] at hstarts
      cases hstarts
  | underscore _ _ =>
      intro hhead
      cases hhead

end Texts

/-!
## From one form to the other
-/

section Forms

variable {s t : String} {path other : Path}

theorem not_starts_plus : IdentifierClasses.unicode.starts '+' = false := by
  decide +kernel

/-- What holds of two paths and the texts that they are read from. -/
structure Lossless (s t : String) (path other : Path) : Prop where
  text : parse path.text = .ok path
  join : parse (s ++ "/" ++ t) = .ok (path.join other)
  equal : path = other <-> exists cut : List (List Char), Cut s.toList cut ∧ Cut t.toList cut
  names : path.keys.map Key.fieldName = path.segments
  /-- Only the decimal text of a position below `2 ^ 64` is an index. -/
  index : forall segment : String, segment ∈ path.segments ->
    forall position : Nat, keyOfSegment segment = Key.index position <->
      segment = toString position ∧ position < 2 ^ 64
  /-- In a map it makes no difference whether a key or its segment is looked up. -/
  entries : forall entries : Entries Tree,
    path.keys.map (Tree.map entries).get? = path.segments.map (Entries.get? entries)
  last : path.isEmpty = false ->
    exists (parent last : Path) (key : Key), path.splitLast? = some (parent, key) ∧
      parse key.fieldName = .ok last ∧ parent.join last = path

theorem splitLast?_of_parse (h : parse s = .ok path) (hnonempty : path.isEmpty = false) :
    exists (parent last : Path) (key : Key), path.splitLast? = some (parent, key) ∧
      parse key.fieldName = .ok last ∧ parent.join last = path := by
  have hreadable := readable_of_parseWith h
  have hsegments : path.segments ≠ [] := List.isEmpty_eq_false_iff.mp hnonempty
  have hmem := List.getLast_mem hsegments
  have hfield := fieldName_keyOfSegment (hreadable.no_plus not_starts_plus hmem)
  refine ⟨{ segments := path.segments.dropLast },
    { segments := [path.segments.getLast hsegments] },
    keyOfSegment (path.segments.getLast hsegments), ?_, ?_, ?_⟩
  · rw [splitLast?, List.getLast?_eq_some_getLast hsegments, Option.map_some]
  · rw [hfield]
    exact hreadable.parseWith_segment hmem
  · rw [Path.join, List.dropLast_append_getLast hsegments]

/-- Reading loses nothing of a text but needless slashes, and the keys of a path lose nothing
of its segments. -/
theorem paths_lossless (hs : parse s = .ok path) (ht : parse t = .ok other) :
    Lossless s t path other := by
  have hreadable := readable_of_parseWith hs
  have hplus : forall segment : String, segment ∈ path.segments ->
      segment.toList.head? ≠ some '+' :=
    fun segment hmem => hreadable.no_plus not_starts_plus hmem
  have hfields : forall segment : String, segment ∈ path.segments ->
      (keyOfSegment segment).fieldName = segment :=
    fun segment hmem => fieldName_keyOfSegment (hplus segment hmem)
  constructor
  case text => exact hreadable.parseWith_text
  case join => exact parseWith_append hs ht
  case equal =>
    rw [eq_iff_pieces_eq hs ht]
    constructor
    · intro hsame
      refine ⟨pieces s, cut_pieces s, ?_⟩
      rw [hsame]
      exact cut_pieces t
    · intro h
      rcases h with ⟨cut, hcut, hcut'⟩
      rw [pieces_of_cut hcut, pieces_of_cut hcut']
  case names =>
    rw [keys, List.map_map]
    calc path.segments.map (Key.fieldName ∘ keyOfSegment)
        = path.segments.map id := List.map_congr_left hfields
      _ = path.segments := List.map_id _
  case index =>
    intro segment hmem position
    exact keyOfSegment_eq_index_iff (hplus segment hmem)
  case entries =>
    intro entries
    rw [keys, List.map_map]
    apply List.map_congr_left
    intro segment hmem
    rw [Function.comp_apply, Tree.get?, hfields segment hmem]
  case last =>
    intro hnonempty
    exact splitLast?_of_parse hs hnonempty

/-- A zero in front, the first number that is too large, and slashes all around. -/
theorem paths_lossless_digits :
    parse "//cfg/007/18446744073709551616/" =
        .ok { segments := ["cfg", "007", "18446744073709551616"] } ∧
      parse "0/_b" = .ok { segments := ["0", "_b"] } ∧
        Lossless "//cfg/007/18446744073709551616/" "0/_b"
          { segments := ["cfg", "007", "18446744073709551616"] } { segments := ["0", "_b"] } := by
  have hs : parse "//cfg/007/18446744073709551616/" =
      .ok { segments := ["cfg", "007", "18446744073709551616"] } := by decide +kernel
  have ht : parse "0/_b" = .ok { segments := ["0", "_b"] } := by decide +kernel
  exact ⟨hs, ht, paths_lossless hs ht⟩

end Forms

end Path
end Troupe
