import Mathlib.Algebra.Group.Int.Defs
import Mathlib.Algebra.Group.Nat.Defs
import Troupe.Json.Reader
import Troupe.Proofs.Cursor

/-!
# Number literals

A literal has a whole part, and it may have a fraction and an exponent.  The
reader takes in all of it, provided that what follows cannot be taken for more of
a number, and finds the coefficient and the scale that it writes.
-/

namespace Troupe
namespace Json

open Number Cursor

/-!
## Digits
-/

def Digits (ds : List UInt8) : Prop :=
  forall b : UInt8, b ∈ ds -> isDigit b = true

def Ends (after : Cursor) : Prop :=
  forall b : UInt8, after.rest.head? = some b ->
    isDigit b = false ∧ b ≠ 0x2e ∧ b ≠ 0x65 ∧ b ≠ 0x45

theorem readDigits_eq {c after : Cursor} {ds : List UInt8} (hds : Digits ds)
    (hreads : c.Reads ds after)
    (hstop : forall b : UInt8, after.rest.head? = some b -> isDigit b = false) :
    readDigits c = (ds, after) := by
  rw [readDigits, hreads.takeWhile_eq hds hstop, hreads.advance_eq]

theorem digitsValue_append (ds ds' : List UInt8) :
    digitsValue (ds ++ ds') =
      ds'.foldl (fun n b => n * 10 + (b.toNat - 0x30)) (digitsValue ds) :=
  List.foldl_append

theorem foldl_digits_mono (ds : List UInt8) (n : Nat) :
    n ≤ ds.foldl (fun n b => n * 10 + (b.toNat - 0x30)) n := by
  induction ds generalizing n with
  | nil => exact Nat.le_refl n
  | cons b rest ih =>
      have hstep : n ≤ n * 10 + (b.toNat - 0x30) := by omega
      exact Nat.le_trans hstep (ih _)

theorem digitsValue_take_le (ds : List UInt8) (n : Nat) :
    digitsValue (ds.take n) ≤ digitsValue ds := by
  calc digitsValue (ds.take n) ≤ digitsValue (ds.take n ++ ds.drop n) := by
        rw [digitsValue_append]
        exact foldl_digits_mono _ _
    _ = digitsValue ds := by rw [List.take_append_drop]

theorem exponentOverflow?_eq_none {ds : List UInt8} (h : digitsValue ds < 2 ^ 31) :
    exponentOverflow? ds = none := by
  unfold exponentOverflow?
  rw [List.find?_eq_none]
  intro n _
  have hle := digitsValue_take_le ds (n + 1)
  rw [decide_eq_true_eq]
  omega

/-!
## Literals
-/

/-- The parts of a number literal; an exponent comes with a sign, which is
negative when the flag is set. -/
structure Literal where
  whole : List UInt8
  fraction : Option (List UInt8)
  exponent : Option (Bool × List UInt8)

namespace Literal

def fractionBytes : Option (List UInt8) -> List UInt8
  | none => []
  | some ds => 0x2e :: ds

def exponentBytes : Option (Bool × List UInt8) -> List UInt8
  | none => []
  | some (negative, ds) => 0x65 :: (if negative then 0x2d else 0x2b) :: ds

def bytes (l : Literal) : List UInt8 :=
  l.whole ++ fractionBytes l.fraction ++ exponentBytes l.exponent

structure Valid (l : Literal) : Prop where
  whole : Digits l.whole
  start : l.whole = [0x30] ∨
    exists (b : UInt8) (ds : List UInt8), l.whole = b :: ds ∧ b ≠ 0x30
  fraction : forall ds : List UInt8, l.fraction = some ds -> ds ≠ [] ∧ Digits ds
  exponent : forall (negative : Bool) (ds : List UInt8), l.exponent = some (negative, ds) ->
    ds ≠ [] ∧ Digits ds ∧ digitsValue ds < 2 ^ 31

def coefficient (l : Literal) : Nat :=
  digitsValue (l.whole ++ l.fraction.getD [])

def writtenExponent : Option (Bool × List UInt8) -> Int
  | none => 0
  | some (negative, ds) => if negative then -(digitsValue ds : Int) else digitsValue ds

def scale (l : Literal) : Int :=
  writtenExponent l.exponent - (l.fraction.getD []).length

def number (negative : Bool) (l : Literal) : JsonNumber :=
  if l.fraction.isNone && l.exponent.isNone then integerNumber negative (digitsValue l.whole)
  else JsonNumber.real (nearestReal negative l.coefficient l.scale)

/-!
## Reading
-/

theorem readWhole_eq {c after : Cursor} {ds : List UInt8} (hds : Digits ds)
    (hstart : ds = [0x30] ∨ exists (b : UInt8) (rest : List UInt8), ds = b :: rest ∧ b ≠ 0x30)
    (hreads : c.Reads ds after)
    (hstop : forall b : UInt8, after.rest.head? = some b -> isDigit b = false) :
    readWhole c = .ok (ds, after) := by
  unfold readWhole
  rcases hstart with rfl | ⟨b, rest, rfl, hb⟩
  · have hnext : c.next = after := (reads_cons_iff.mp hreads).right.eq_of_nil.symm
    have hany : after.rest.head?.any isDigit = false := by
      cases hhead : after.rest.head? with
      | none => rfl
      | some b => exact hstop b hhead
    rw [hreads.rest_cons]
    dsimp only
    rw [if_pos (by decide), hnext, hany, if_neg Bool.false_ne_true]
  · have hdigit : isDigit b = true := hds b List.mem_cons_self
    rw [hreads.rest_cons]
    dsimp only
    rw [beq_eq_false_iff_ne.mpr hb, if_neg Bool.false_ne_true, hdigit, if_pos rfl,
      readDigits_eq hds hreads hstop]

theorem readFraction_eq {c after : Cursor} {fraction : Option (List UInt8)}
    (hvalid : forall ds : List UInt8, fraction = some ds -> ds ≠ [] ∧ Digits ds)
    (hreads : c.Reads (fractionBytes fraction) after)
    (hstop : forall b : UInt8, after.rest.head? = some b -> isDigit b = false ∧ b ≠ 0x2e) :
    readFraction c = .ok (fraction, after) := by
  unfold readFraction
  cases fraction with
  | none =>
      have hafter : after = c := hreads.eq_of_nil
      have hpoint : (c.rest.head? == some 0x2e) = false := by
        rw [beq_eq_false_iff_ne, ← hafter]
        intro hhead
        exact (hstop 0x2e hhead).right rfl
      rw [hpoint, if_neg Bool.false_ne_true, hafter]
  | some ds =>
      rcases hvalid ds rfl with ⟨hne, hds⟩
      rcases reads_cons_iff.mp hreads with ⟨hhead, hnext⟩
      have hdigits := readDigits_eq hds hnext (fun b hb => (hstop b hb).left)
      rw [hhead, if_pos (by decide), hdigits]
      dsimp only
      rw [List.isEmpty_eq_false_iff.mpr hne, if_neg Bool.false_ne_true]

def toWritten : Bool × List UInt8 -> WrittenExponent
  | (negative, ds) => { negative := negative, value := some (digitsValue ds) }

theorem readExponent_eq (zero : Bool) {c after : Cursor} {exponent : Option (Bool × List UInt8)}
    (hvalid : forall (negative : Bool) (ds : List UInt8), exponent = some (negative, ds) ->
      ds ≠ [] ∧ Digits ds ∧ digitsValue ds < 2 ^ 31)
    (hreads : c.Reads (exponentBytes exponent) after) (hends : Ends after) :
    readExponent zero c = .ok (exponent.map toWritten, after) := by
  unfold readExponent
  cases exponent with
  | none =>
      have hafter : after = c := hreads.eq_of_nil
      have hletter : (c.rest.head? == some 0x65 || c.rest.head? == some 0x45) = false := by
        rw [Bool.or_eq_false_iff, beq_eq_false_iff_ne, beq_eq_false_iff_ne, ← hafter]
        constructor
        · intro hhead
          exact (hends 0x65 hhead).right.right.left rfl
        · intro hhead
          exact (hends 0x45 hhead).right.right.right rfl
      rw [hletter, if_neg Bool.false_ne_true, hafter]
      rfl
  | some pair =>
      rcases pair with ⟨negative, ds⟩
      rcases hvalid negative ds rfl with ⟨hne, hds, hsmall⟩
      rcases reads_cons_iff.mp hreads with ⟨hhead, hnext⟩
      rcases reads_cons_iff.mp hnext with ⟨hsign, hnext'⟩
      have hdigits := readDigits_eq hds hnext' (fun b hb => (hends b hb).left)
      have hminus : (c.next.rest.head? == some 0x2d) = negative := by
        rw [hsign]
        cases negative <;> decide
      have hsigned :
          ((c.next.rest.head? == some 0x2d) || (c.next.rest.head? == some 0x2b)) = true := by
        rw [hsign]
        cases negative <;> decide
      rw [hhead, if_pos (by decide)]
      dsimp only
      rw [hsigned, if_pos rfl, hdigits, hminus]
      dsimp only
      rw [List.isEmpty_eq_false_iff.mpr hne, if_neg Bool.false_ne_true,
        exponentOverflow?_eq_none hsmall]
      rfl

theorem realNumber_eq (negative : Bool) (l : Literal) :
    realNumber negative l.whole (l.fraction.getD []) (l.exponent.map toWritten) =
      nearestReal negative l.coefficient l.scale := by
  unfold realNumber coefficient scale
  cases l.exponent with
  | none => simp [writtenExponent]
  | some pair =>
      rcases pair with ⟨below, ds⟩
      rfl

theorem stop_of_exponent {c after : Cursor} {exponent : Option (Bool × List UInt8)}
    (hreads : c.Reads (exponentBytes exponent) after) (hends : Ends after) :
    forall b : UInt8, c.rest.head? = some b -> isDigit b = false ∧ b ≠ 0x2e := by
  intro b hhead
  cases exponent with
  | none =>
      rw [← hreads.eq_of_nil] at hhead
      exact ⟨(hends b hhead).left, (hends b hhead).right.left⟩
  | some pair =>
      rw [(reads_cons_iff.mp hreads).left] at hhead
      cases hhead
      exact ⟨by decide, by decide⟩

theorem stop_of_fraction {c after : Cursor} {fraction : Option (List UInt8)}
    (hreads : c.Reads (fractionBytes fraction) after)
    (hstop : forall b : UInt8, after.rest.head? = some b -> isDigit b = false ∧ b ≠ 0x2e) :
    forall b : UInt8, c.rest.head? = some b -> isDigit b = false := by
  intro b hhead
  cases fraction with
  | none =>
      rw [← hreads.eq_of_nil] at hhead
      exact (hstop b hhead).left
  | some ds =>
      rw [(reads_cons_iff.mp hreads).left] at hhead
      cases hhead
      decide

theorem readNumber_eq {negative : Bool} {l : Literal} {c after : Cursor} (hvalid : l.Valid)
    (hreads : c.Reads l.bytes after) (hends : Ends after)
    (hfinite : forall x : Binary64, l.number negative = JsonNumber.real x -> x.isFinite = true) :
    readNumber negative c = .ok (Json.number (l.number negative), after) := by
  rcases hreads.split with ⟨c2, hfront, hexponentBytes⟩
  rcases hfront.split with ⟨c1, hwholeBytes, hfractionBytes⟩
  have hstop2 := stop_of_exponent hexponentBytes hends
  have hstop1 := stop_of_fraction hfractionBytes hstop2
  have hwhole := readWhole_eq hvalid.whole hvalid.start hwholeBytes hstop1
  have hfraction := readFraction_eq hvalid.fraction hfractionBytes hstop2
  have hnumber : l.number negative =
      if l.fraction.isNone && (l.exponent.map toWritten).isNone then
        integerNumber negative (digitsValue l.whole)
      else
        JsonNumber.real
          (realNumber negative l.whole (l.fraction.getD []) (l.exponent.map toWritten)) := by
    rw [realNumber_eq, Option.isNone_map]
    rfl
  unfold readNumber
  refine bind_eq_ok_iff.mpr ⟨_, hwhole, bind_eq_ok_iff.mpr ⟨_, hfraction, ?_⟩⟩
  refine bind_eq_ok_iff.mpr ⟨_, readExponent_eq _ hvalid.exponent hexponentBytes hends, ?_⟩
  dsimp only
  rw [← hnumber]
  cases hkind : l.number negative with
  | real x =>
      dsimp only
      rw [hfinite x hkind, if_pos rfl]
      rfl
  | _ => rfl

end Literal
end Json
end Troupe
