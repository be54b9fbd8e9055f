import Troupe.Proofs.Cbor.RoundTrip
import Troupe.Proofs.Store.Copies

/-!
# The canonical spelling

The spellings of a tree differ in their pieces only: in the heads, each of which may be
longer than its number needs, and in the floats, each of which may take two, four, or
eight bytes.  What the writer writes is the spelling whose heads are all shortest and
whose floats all take eight bytes.

Items end where their own bytes say.  So the pieces of one item can be told from those of
the next, which carries the statement about pieces through arrays and maps, and no
spelling of a tree is the beginning of a spelling of another one.
-/

namespace Troupe
namespace Cbor

open Number

/-!
## Pieces
-/

/-- What could be spelled otherwise: a head with its number, or a float, by how many bytes
come after its first one. -/
inductive Piece where
  | head (major : Major) (n : Nat) (bytes : List UInt8)
  | float (width : Nat)

namespace Piece

def Wide : Piece -> Prop
  | head _ _ _ => True
  | float width => width = 8

/-- No other head for the number is shorter, and floats take eight bytes. -/
def Canonical : Piece -> Prop
  | head major n bytes =>
      forall other : List UInt8, Head major n other -> bytes.length ≤ other.length
  | float width => width = 8

end Piece

mutual

/-- The grammar once more, with the pieces of the item in their order. -/
inductive Spelled : Tree -> List UInt8 -> List Piece -> Prop where
  | null : Spelled Tree.null [0xf6] []
  | no : Spelled (Tree.bool false) [0xf4] []
  | yes : Spelled (Tree.bool true) [0xf5] []
  | unsigned {i : Int64} {n : Nat} {head : List UInt8} :
      Head Major.unsigned n head -> i.toInt = n ->
        Spelled (Tree.integer i) head [Piece.head Major.unsigned n head]
  | negative {i : Int64} {n : Nat} {head : List UInt8} :
      Head Major.negative n head -> i.toInt = -1 - n ->
        Spelled (Tree.integer i) head [Piece.head Major.negative n head]
  | half (bits : UInt16) :
      Spelled (Tree.float (Binary64.widen BinaryFormat.binary16 bits.toNat))
        (0xf9 :: bigEndian 2 bits.toNat) [Piece.float 2]
  | single (bits : UInt32) :
      Spelled (Tree.float (Binary64.widen BinaryFormat.binary32 bits.toNat))
        (0xfa :: bigEndian 4 bits.toNat) [Piece.float 4]
  | double (x : Binary64) :
      Spelled (Tree.float x) (0xfb :: bigEndian 8 x.bits.toNat) [Piece.float 8]
  | string {s : String} {head : List UInt8} :
      Head Major.text (Text.utf8Bytes s).length head ->
        Spelled (Tree.string s) (head ++ Text.utf8Bytes s)
          [Piece.head Major.text (Text.utf8Bytes s).length head]
  | bytes {b head : List UInt8} :
      Head Major.bytes b.length head ->
        Spelled (Tree.bytes b) (head ++ b) [Piece.head Major.bytes b.length head]
  | array {items : List Tree} {head body : List UInt8} {pieces : List Piece} :
      Head Major.array items.length head -> SpelledItems items body pieces ->
        Spelled (Tree.array items) (head ++ body)
          (Piece.head Major.array items.length head :: pieces)
  | map {entries : Entries Tree} {head body : List UInt8} {pieces : List Piece} :
      Entries.Unique entries -> Head Major.map entries.length head ->
        SpelledEntries entries body pieces ->
        Spelled (Tree.map entries) (head ++ body)
          (Piece.head Major.map entries.length head :: pieces)

inductive SpelledItems : List Tree -> List UInt8 -> List Piece -> Prop where
  | nil : SpelledItems [] [] []
  | cons {t : Tree} {rest : List Tree} {item body : List UInt8} {first more : List Piece} :
      Spelled t item first -> SpelledItems rest body more ->
        SpelledItems (t :: rest) (item ++ body) (first ++ more)

inductive SpelledEntries : Entries Tree -> List UInt8 -> List Piece -> Prop where
  | nil : SpelledEntries [] [] []
  | cons {k : String} {t : Tree} {rest : Entries Tree} {head item body : List UInt8}
      {first more : List Piece} :
      Head Major.text (Text.utf8Bytes k).length head -> Spelled t item first ->
        SpelledEntries rest body more ->
        SpelledEntries ((k, t) :: rest) (head ++ Text.utf8Bytes k ++ (item ++ body))
          (Piece.head Major.text (Text.utf8Bytes k).length head :: (first ++ more))

end

mutual

theorem Spelled.encodes : forall {t : Tree} {bytes : List UInt8} {pieces : List Piece},
    Spelled t bytes pieces -> Encodes t bytes
  | _, _, _, Spelled.null => Encodes.null
  | _, _, _, Spelled.no => Encodes.no
  | _, _, _, Spelled.yes => Encodes.yes
  | _, _, _, Spelled.unsigned hhead hvalue => Encodes.unsigned hhead hvalue
  | _, _, _, Spelled.negative hhead hvalue => Encodes.negative hhead hvalue
  | _, _, _, Spelled.half bits => Encodes.half bits
  | _, _, _, Spelled.single bits => Encodes.single bits
  | _, _, _, Spelled.double x => Encodes.double x
  | _, _, _, Spelled.string hhead => Encodes.string hhead
  | _, _, _, Spelled.bytes hhead => Encodes.bytes hhead
  | _, _, _, Spelled.array hhead hitems => Encodes.array hhead hitems.encodes
  | _, _, _, Spelled.map hkeys hhead hentries => Encodes.map hkeys hhead hentries.encodes

theorem SpelledItems.encodes :
    forall {items : List Tree} {body : List UInt8} {pieces : List Piece},
      SpelledItems items body pieces -> EncodesItems items body
  | _, _, _, SpelledItems.nil => EncodesItems.nil
  | _, _, _, SpelledItems.cons hitem hrest => EncodesItems.cons hitem.encodes hrest.encodes

theorem SpelledEntries.encodes :
    forall {entries : Entries Tree} {body : List UInt8} {pieces : List Piece},
      SpelledEntries entries body pieces -> EncodesEntries entries body
  | _, _, _, SpelledEntries.nil => EncodesEntries.nil
  | _, _, _, SpelledEntries.cons hkey hitem hrest =>
      EncodesEntries.cons hkey hitem.encodes hrest.encodes

end

mutual

theorem Encodes.spelled : forall {t : Tree} {bytes : List UInt8},
    Encodes t bytes -> exists pieces : List Piece, Spelled t bytes pieces
  | _, _, Encodes.null => ⟨_, Spelled.null⟩
  | _, _, Encodes.no => ⟨_, Spelled.no⟩
  | _, _, Encodes.yes => ⟨_, Spelled.yes⟩
  | _, _, Encodes.unsigned hhead hvalue => ⟨_, Spelled.unsigned hhead hvalue⟩
  | _, _, Encodes.negative hhead hvalue => ⟨_, Spelled.negative hhead hvalue⟩
  | _, _, Encodes.half bits => ⟨_, Spelled.half bits⟩
  | _, _, Encodes.single bits => ⟨_, Spelled.single bits⟩
  | _, _, Encodes.double x => ⟨_, Spelled.double x⟩
  | _, _, Encodes.string hhead => ⟨_, Spelled.string hhead⟩
  | _, _, Encodes.bytes hhead => ⟨_, Spelled.bytes hhead⟩
  | _, _, Encodes.array hhead hitems =>
      have ⟨_, hpieces⟩ := hitems.spelled
      ⟨_, Spelled.array hhead hpieces⟩
  | _, _, Encodes.map hkeys hhead hentries =>
      have ⟨_, hpieces⟩ := hentries.spelled
      ⟨_, Spelled.map hkeys hhead hpieces⟩

theorem EncodesItems.spelled : forall {items : List Tree} {body : List UInt8},
    EncodesItems items body -> exists pieces : List Piece, SpelledItems items body pieces
  | _, _, EncodesItems.nil => ⟨_, SpelledItems.nil⟩
  | _, _, EncodesItems.cons hitem hrest =>
      have ⟨_, hfirst⟩ := hitem.spelled
      have ⟨_, hmore⟩ := hrest.spelled
      ⟨_, SpelledItems.cons hfirst hmore⟩

theorem EncodesEntries.spelled : forall {entries : Entries Tree} {body : List UInt8},
    EncodesEntries entries body -> exists pieces : List Piece, SpelledEntries entries body pieces
  | _, _, EncodesEntries.nil => ⟨_, SpelledEntries.nil⟩
  | _, _, EncodesEntries.cons hkey hitem hrest =>
      have ⟨_, hfirst⟩ := hitem.spelled
      have ⟨_, hmore⟩ := hrest.spelled
      ⟨_, SpelledEntries.cons hkey hfirst hmore⟩

end

/-!
## The writer's heads
-/

theorem encodeInteger_of_unsigned {i : Int64} {n : Nat} (hvalue : i.toInt = n) :
    encodeInteger i = head Major.unsigned n := by
  have hsign : ¬ i.toInt < 0 := by omega
  rw [encodeInteger, if_neg hsign, hvalue, Int.toNat_natCast]

theorem encodeInteger_of_negative {i : Int64} {n : Nat} (hvalue : i.toInt = -1 - n) :
    encodeInteger i = head Major.negative n := by
  have hsign : i.toInt < 0 := by omega
  have hnumber : (-1 - i.toInt).toNat = n := by omega
  rw [encodeInteger, if_pos hsign, hnumber]

section Heads

variable {major : Major} {n : Nat} {bytes rest rest' : List UInt8}

theorem Head.eq_head_iff (h : Head major n bytes) :
    bytes = head major n <-> (Piece.head major n bytes).Canonical := by
  constructor
  · intro heq other hother
    rw [heq]
    exact hother.length_head_le
  · intro hshortest
    have hle := hshortest (head major n) (head_shortest major h.lt)
    rcases h.eq_head_or_longer with heq | hlonger
    · exact heq
    · exact absurd hle (Nat.not_le.mpr hlonger)

theorem Head.append_eq_iff (h : Head major n bytes) :
    bytes ++ rest = head major n ++ rest' <-> bytes = head major n ∧ rest = rest' := by
  constructor
  · exact h.append_inj (head_shortest major h.lt)
  · rintro ⟨heq, hrest⟩
    rw [heq, hrest]

end Heads

/-!
## The writer's items
-/

mutual

theorem Encodes.encode : forall {t : Tree} {bytes : List UInt8},
    Encodes t bytes -> Encodes t (Cbor.encode t)
  | _, _, Encodes.null => Encodes.null
  | _, _, Encodes.no => Encodes.no
  | _, _, Encodes.yes => Encodes.yes
  | _, _, Encodes.unsigned _ _ => encodes_encodeInteger _
  | _, _, Encodes.negative _ _ => encodes_encodeInteger _
  | _, _, Encodes.half _ => Encodes.double _
  | _, _, Encodes.single _ => Encodes.double _
  | _, _, Encodes.double x => Encodes.double x
  | _, _, Encodes.string hhead => Encodes.string (head_shortest _ hhead.lt)
  | _, _, Encodes.bytes hhead => Encodes.bytes (head_shortest _ hhead.lt)
  | _, _, Encodes.array hhead hitems => Encodes.array (head_shortest _ hhead.lt) hitems.encode
  | _, _, Encodes.map hkeys hhead hentries =>
      Encodes.map hkeys (head_shortest _ hhead.lt) hentries.encode

theorem EncodesItems.encode : forall {items : List Tree} {body : List UInt8},
    EncodesItems items body -> EncodesItems items (encodeItems items)
  | _, _, EncodesItems.nil => EncodesItems.nil
  | _, _, EncodesItems.cons hitem hrest => EncodesItems.cons hitem.encode hrest.encode

theorem EncodesEntries.encode : forall {entries : Entries Tree} {body : List UInt8},
    EncodesEntries entries body -> EncodesEntries entries (encodeEntries entries)
  | _, _, EncodesEntries.nil => EncodesEntries.nil
  | _, _, EncodesEntries.cons hkey hitem hrest => by
      rw [encodeEntries, encodeText]
      exact EncodesEntries.cons (head_shortest _ hkey.lt) hitem.encode hrest.encode

end

theorem Encodes.append_eq_iff {t : Tree} {bytes rest rest' : List UInt8} (h : Encodes t bytes) :
    bytes ++ rest = Cbor.encode t ++ rest' <-> bytes = Cbor.encode t ∧ rest = rest' := by
  constructor
  · intro heq
    exact (h.append_inj h.encode heq).right
  · rintro ⟨heq, hrest⟩
    rw [heq, hrest]

mutual

theorem Spelled.eq_encode_iff : forall {t : Tree} {bytes : List UInt8} {pieces : List Piece},
    Spelled t bytes pieces ->
      (bytes = Cbor.encode t <-> forall piece : Piece, piece ∈ pieces -> piece.Canonical)
  | _, _, _, Spelled.null => by simp [Cbor.encode]
  | _, _, _, Spelled.no => by simp [Cbor.encode]
  | _, _, _, Spelled.yes => by simp [Cbor.encode]
  | _, _, _, Spelled.unsigned hhead hvalue => by
      rw [Cbor.encode, encodeInteger_of_unsigned hvalue, hhead.eq_head_iff, List.forall_mem_singleton]
  | _, _, _, Spelled.negative hhead hvalue => by
      rw [Cbor.encode, encodeInteger_of_negative hvalue, hhead.eq_head_iff, List.forall_mem_singleton]
  | _, _, _, Spelled.half _ => by simp [Cbor.encode, Piece.Canonical]
  | _, _, _, Spelled.single _ => by simp [Cbor.encode, Piece.Canonical]
  | _, _, _, Spelled.double _ => by simp [Cbor.encode, Piece.Canonical]
  | _, _, _, Spelled.string hhead => by
      rw [Cbor.encode, encodeText, hhead.append_eq_iff, hhead.eq_head_iff, List.forall_mem_singleton,
        and_iff_left rfl]
  | _, _, _, Spelled.bytes hhead => by
      rw [Cbor.encode, hhead.append_eq_iff, hhead.eq_head_iff, List.forall_mem_singleton,
        and_iff_left rfl]
  | _, _, _, Spelled.array hhead hitems => by
      rw [Cbor.encode, hhead.append_eq_iff, hhead.eq_head_iff, hitems.eq_encode_iff,
        List.forall_mem_cons]
  | _, _, _, Spelled.map _ hhead hentries => by
      rw [Cbor.encode, hhead.append_eq_iff, hhead.eq_head_iff, hentries.eq_encode_iff,
        List.forall_mem_cons]

theorem SpelledItems.eq_encode_iff :
    forall {items : List Tree} {body : List UInt8} {pieces : List Piece},
      SpelledItems items body pieces ->
        (body = encodeItems items <-> forall piece : Piece, piece ∈ pieces -> piece.Canonical)
  | _, _, _, SpelledItems.nil => by simp [encodeItems]
  | _, _, _, SpelledItems.cons hitem hrest => by
      rw [encodeItems, hitem.encodes.append_eq_iff, hitem.eq_encode_iff, hrest.eq_encode_iff,
        List.forall_mem_append]

theorem SpelledEntries.eq_encode_iff :
    forall {entries : Entries Tree} {body : List UInt8} {pieces : List Piece},
      SpelledEntries entries body pieces ->
        (body = encodeEntries entries <-> forall piece : Piece, piece ∈ pieces -> piece.Canonical)
  | _, _, _, SpelledEntries.nil => by simp [encodeEntries]
  | _, _, _, SpelledEntries.cons hkey hitem hrest => by
      rw [encodeEntries, encodeText, List.append_assoc, List.append_assoc, hkey.append_eq_iff,
        hkey.eq_head_iff, List.append_cancel_left_eq, hitem.encodes.append_eq_iff,
        hitem.eq_encode_iff, hrest.eq_encode_iff, List.forall_mem_cons, List.forall_mem_append]

end

mutual

/-- Narrow floats are the only way to spell a tree in fewer bytes. -/
theorem Spelled.length_encode_le :
    forall {t : Tree} {bytes : List UInt8} {pieces : List Piece}, Spelled t bytes pieces ->
      (forall piece : Piece, piece ∈ pieces -> piece.Wide) ->
        (Cbor.encode t).length ≤ bytes.length
  | _, _, _, Spelled.null, _ => Nat.le_refl _
  | _, _, _, Spelled.no, _ => Nat.le_refl _
  | _, _, _, Spelled.yes, _ => Nat.le_refl _
  | _, _, _, Spelled.unsigned hhead hvalue, _ => by
      rw [Cbor.encode, encodeInteger_of_unsigned hvalue]
      exact hhead.length_head_le
  | _, _, _, Spelled.negative hhead hvalue, _ => by
      rw [Cbor.encode, encodeInteger_of_negative hvalue]
      exact hhead.length_head_le
  | _, _, _, Spelled.half _, hwide =>
      have hwidth : 2 = 8 := hwide _ List.mem_cons_self
      absurd hwidth (by decide)
  | _, _, _, Spelled.single _, hwide =>
      have hwidth : 4 = 8 := hwide _ List.mem_cons_self
      absurd hwidth (by decide)
  | _, _, _, Spelled.double _, _ => Nat.le_refl _
  | _, _, _, Spelled.string hhead, _ => by
      rw [Cbor.encode, encodeText, List.length_append, List.length_append]
      exact Nat.add_le_add_right hhead.length_head_le _
  | _, _, _, Spelled.bytes hhead, _ => by
      rw [Cbor.encode, List.length_append, List.length_append]
      exact Nat.add_le_add_right hhead.length_head_le _
  | _, _, _, Spelled.array hhead hitems, hwide => by
      rw [Cbor.encode, List.length_append, List.length_append]
      exact Nat.add_le_add hhead.length_head_le
        (hitems.length_encode_le (List.forall_mem_cons.mp hwide).right)
  | _, _, _, Spelled.map _ hhead hentries, hwide => by
      rw [Cbor.encode, List.length_append, List.length_append]
      exact Nat.add_le_add hhead.length_head_le
        (hentries.length_encode_le (List.forall_mem_cons.mp hwide).right)

theorem SpelledItems.length_encode_le :
    forall {items : List Tree} {body : List UInt8} {pieces : List Piece},
      SpelledItems items body pieces -> (forall piece : Piece, piece ∈ pieces -> piece.Wide) ->
        (encodeItems items).length ≤ body.length
  | _, _, _, SpelledItems.nil, _ => Nat.le_refl _
  | _, _, _, SpelledItems.cons hitem hrest, hwide => by
      rcases List.forall_mem_append.mp hwide with ⟨hfirst, hmore⟩
      rw [encodeItems, List.length_append, List.length_append]
      exact Nat.add_le_add (hitem.length_encode_le hfirst) (hrest.length_encode_le hmore)

theorem SpelledEntries.length_encode_le :
    forall {entries : Entries Tree} {body : List UInt8} {pieces : List Piece},
      SpelledEntries entries body pieces ->
        (forall piece : Piece, piece ∈ pieces -> piece.Wide) ->
          (encodeEntries entries).length ≤ body.length
  | _, _, _, SpelledEntries.nil, _ => Nat.le_refl _
  | _, _, _, SpelledEntries.cons hkey hitem hrest, hwide => by
      rcases List.forall_mem_append.mp (List.forall_mem_cons.mp hwide).right with ⟨hfirst, hmore⟩
      have hkeyLength := hkey.length_head_le
      have hitemLength := hitem.length_encode_le hfirst
      have hrestLength := hrest.length_encode_le hmore
      rw [encodeEntries, encodeText]
      simp only [List.length_append]
      omega

end

end Cbor

namespace Codec

/-- What has been read is written in the canonical spelling: it is read as the same tree and
written as the same bytes again, it is what was read exactly if that had canonical pieces
only, and nothing with floats of full width that is read as the tree is shorter. -/
theorem rewriting_canonical {payload : List UInt8} {t : Tree}
    (hread : decode Format.cbor payload cbor = .ok t) :
    exists written : List UInt8,
      encode Format.cbor t cbor = .ok written ∧ decode Format.cbor written cbor = .ok t ∧
        (forall t' : Tree, decode Format.cbor written cbor = .ok t' ->
          encode Format.cbor t' cbor = .ok written) ∧
          (exists pieces : List Cbor.Piece, Cbor.Spelled t payload pieces) ∧
            (forall pieces : List Cbor.Piece, Cbor.Spelled t payload pieces ->
              (written = payload <->
                forall piece : Cbor.Piece, piece ∈ pieces -> piece.Canonical)) ∧
              forall (other : List UInt8) (pieces : List Cbor.Piece),
                decode Format.cbor other cbor = .ok t -> Cbor.Spelled t other pieces ->
                  (forall piece : Cbor.Piece, piece ∈ pieces -> piece.Wide) ->
                    written.length ≤ other.length := by
  rcases Cbor.decode_eq_ok_iff.mp (decode_cbor_eq_ok_iff.mp hread) with ⟨hencodes, hdepth⟩
  have hagain : decode Format.cbor (Cbor.encode t) cbor = .ok t :=
    decode_cbor_eq_ok_iff.mpr (Cbor.decode_eq_ok_iff.mpr ⟨hencodes.encode, hdepth⟩)
  refine ⟨Cbor.encode t, encode_cbor t, hagain, ?_, hencodes.spelled, ?_, ?_⟩
  · intro t' ht'
    rw [hagain] at ht'
    cases ht'
    exact encode_cbor t
  · intro pieces hpieces
    rw [← hpieces.eq_encode_iff]
    exact eq_comm
  · intro other pieces _ hpieces hwide
    exact hpieces.length_encode_le hwide

/-- Neither a head of two bytes for one item nor a float of two bytes is written. -/
theorem rewriting_canonical_half_float :
    let payload : List UInt8 := [0x98, 0x01, 0xf9, 0x3c, 0x00]
    let t := Tree.array [Tree.float { bits := 0x3ff0000000000000 }]
    decode Format.cbor payload cbor = .ok t ∧
      exists written : List UInt8,
        encode Format.cbor t cbor = .ok written ∧ decode Format.cbor written cbor = .ok t ∧
          written ≠ payload := by
  intro payload t
  have hread : decode Format.cbor payload cbor = .ok t := by decide
  have hitems : Cbor.SpelledItems [Tree.float { bits := 0x3ff0000000000000 }] [0xf9, 0x3c, 0x00]
      [Cbor.Piece.float 2] :=
    Cbor.SpelledItems.cons (Cbor.Spelled.half 0x3c00) Cbor.SpelledItems.nil
  have hpieces : Cbor.Spelled t payload
      [Cbor.Piece.head Cbor.Major.array 1 [0x98, 0x01], Cbor.Piece.float 2] :=
    Cbor.Spelled.array (Cbor.Head.wide 0 (by decide) (by decide)) hitems
  rcases rewriting_canonical hread with ⟨written, hwritten, hagain, -, -, hcanonical, -⟩
  refine ⟨hread, written, hwritten, hagain, fun hsame => ?_⟩
  have hwidth : 2 = 8 :=
    (hcanonical _ hpieces).mp hsame (Cbor.Piece.float 2)
      (List.mem_cons_of_mem _ List.mem_cons_self)
  exact absurd hwidth (by decide)

/-- However deep they nest, different trees are written as different bytes, and neither as
the beginning of the other; a copy is written as its original is. -/
theorem encodings_apart {a b : Tree} (ha : a.UniqueKeys) (hb : b.UniqueKeys)
    (hmeasuredA : Cbor.Measured a) (hmeasuredB : Cbor.Measured b) :
    exists first second : List UInt8,
      encode Format.cbor a cbor = .ok first ∧ encode Format.cbor b cbor = .ok second ∧
        (first = second <-> a = b) ∧ (first <+: second -> first = second) ∧
          forall s : Store, s.Reachable ->
            encode Format.cbor ((s.thaw a).2.freeze (s.thaw a).1) cbor = .ok first := by
  have hfirst := Cbor.encodes_encode ha hmeasuredA
  have hsecond := Cbor.encodes_encode hb hmeasuredB
  refine ⟨Cbor.encode a, Cbor.encode b, encode_cbor a, encode_cbor b, ?_, ?_, ?_⟩
  · constructor
    · intro heq
      exact hfirst.unique (heq ▸ hsecond)
    · intro heq
      rw [heq]
  · rintro ⟨rest, hrest⟩
    rw [← List.append_nil (Cbor.encode b)] at hrest
    exact (hfirst.append_inj hsecond hrest).right.left
  · intro s hreachable
    rw [Store.freeze_thaw hreachable.sound ha]
    exact encode_cbor a

theorem encodings_apart_longer_array :
    exists first second : List UInt8,
      encode Format.cbor (Tree.array [Tree.null]) cbor = .ok first ∧
        encode Format.cbor (Tree.array [Tree.null, Tree.null]) cbor = .ok second ∧
          ¬ first <+: second := by
  have hshort : Tree.UniqueKeys (Tree.array [Tree.null]) := ⟨trivial, trivial⟩
  have hlong : Tree.UniqueKeys (Tree.array [Tree.null, Tree.null]) := ⟨trivial, trivial, trivial⟩
  have hmeasuredShort : Cbor.Measured (Tree.array [Tree.null]) := ⟨by decide, trivial, trivial⟩
  have hmeasuredLong : Cbor.Measured (Tree.array [Tree.null, Tree.null]) :=
    ⟨by decide, trivial, trivial, trivial⟩
  rcases encodings_apart hshort hlong hmeasuredShort hmeasuredLong with
    ⟨first, second, hfirst, hsecond, hsame, hbegins, -⟩
  refine ⟨first, second, hfirst, hsecond, fun hprefix => ?_⟩
  have htrees := hsame.mp (hbegins hprefix)
  exact absurd htrees (by decide)

end Codec
end Troupe
