import Troupe.Cursor

/-!
# Reading as consuming a prefix

A reader that goes from one cursor to another has consumed the bytes that stand
between them; what it says about its input is said about those bytes.
-/

namespace Troupe

theorem bind_eq_ok_iff {ε α β : Type} {first : Except ε α} {second : α -> Except ε β} {b : β} :
    first >>= second = .ok b <-> exists a : α, first = .ok a ∧ second a = .ok b := by
  cases first with
  | error error => simp [bind, Except.bind]
  | ok a => simp [bind, Except.bind]

namespace Cursor

/-- Reading the bytes leads from the one cursor to the other. -/
def Reads (c : Cursor) (bytes : List UInt8) (after : Cursor) : Prop :=
  c.rest = bytes ++ after.rest ∧ after.offset = c.offset + bytes.length

theorem Reads.refl (c : Cursor) : Reads c [] c :=
  ⟨rfl, rfl⟩

theorem reads_start (bytes rest : List UInt8) :
    Reads (start (bytes ++ rest)) bytes { rest := rest, offset := bytes.length } := by
  constructor
  · rfl
  · exact (Nat.zero_add bytes.length).symm

theorem Reads.eq_of_nil {c after : Cursor} (h : Reads c [] after) : after = c := by
  cases c
  cases after
  rcases h with ⟨hrest, hoffset⟩
  simp_all

theorem Reads.trans {c middle after : Cursor} {first second : List UInt8}
    (hfirst : Reads c first middle) (hsecond : Reads middle second after) :
    Reads c (first ++ second) after := by
  constructor
  · rw [hfirst.left, hsecond.left, List.append_assoc]
  · rw [hsecond.right, hfirst.right, List.length_append, Nat.add_assoc]

theorem Reads.split {c after : Cursor} {first second : List UInt8}
    (h : Reads c (first ++ second) after) :
    exists middle : Cursor, Reads c first middle ∧ Reads middle second after := by
  refine ⟨{ rest := second ++ after.rest, offset := c.offset + first.length }, ?_, rfl, ?_⟩
  · constructor
    · rw [h.left, List.append_assoc]
    · rfl
  · rw [h.right, List.length_append, Nat.add_assoc]

theorem Reads.rest_cons {c after : Cursor} {byte : UInt8} {bytes : List UInt8}
    (h : Reads c (byte :: bytes) after) : c.rest = byte :: (bytes ++ after.rest) :=
  h.left

theorem reads_cons_iff {c after : Cursor} {byte : UInt8} {bytes : List UInt8} :
    Reads c (byte :: bytes) after <-> c.rest.head? = some byte ∧ Reads c.next bytes after := by
  rcases c with ⟨rest, offset⟩
  cases rest with
  | nil => simp [Reads]
  | cons b rest =>
      simp only [Reads, next, List.cons_append, List.cons.injEq, List.head?_cons, Option.some.injEq,
        List.tail_cons, List.length_cons]
      constructor
      · intro h
        refine ⟨h.left.left, h.left.right, ?_⟩
        omega
      · intro h
        refine ⟨⟨h.left, h.right.left⟩, ?_⟩
        omega

theorem reads_advance {c : Cursor} {n : Nat} (h : n ≤ c.rest.length) :
    Reads c (c.rest.take n) (c.advance n) := by
  constructor
  · exact (List.take_append_drop n c.rest).symm
  · rw [List.length_take, Nat.min_eq_left h]
    rfl

theorem Reads.advance_eq {c after : Cursor} {bytes : List UInt8} (h : Reads c bytes after) :
    c.advance bytes.length = after := by
  rcases c with ⟨rest, offset⟩
  rcases after with ⟨rest', offset'⟩
  rcases h with ⟨hrest, hoffset⟩
  simp_all [advance]

theorem Reads.take_eq {c after : Cursor} {bytes : List UInt8} (h : Reads c bytes after) :
    c.rest.take bytes.length = bytes := by
  rw [h.left, List.take_left]

theorem Reads.takeWhile_eq {c after : Cursor} {bytes : List UInt8} {sort : UInt8 -> Bool}
    (h : Reads c bytes after) (hsort : forall b : UInt8, b ∈ bytes -> sort b = true)
    (hstop : forall b : UInt8, after.rest.head? = some b -> sort b = false) :
    c.rest.takeWhile sort = bytes := by
  rw [h.left, List.takeWhile_append_of_pos hsort]
  cases hrest : after.rest with
  | nil => rw [List.takeWhile_nil, List.append_nil]
  | cons b rest =>
      have hb : sort b = false := hstop b (by rw [hrest]; rfl)
      rw [List.takeWhile_cons, hb, if_neg Bool.false_ne_true, List.append_nil]

end Cursor
end Troupe
