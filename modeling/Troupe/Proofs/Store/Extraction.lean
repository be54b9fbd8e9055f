import Troupe.Proofs.Number.Order
import Troupe.Store.Extract

/-!
# What typed readings yield

The converting reading of integers is described by the numbers that nodes stand for, floats
by their exact values: comparing with the bounds, cutting and checking the range come down
to the integer part of that value, and nothing is wrapped or cut to a bound on the way.

The exact reading takes the same numbers, but not those in the representation that the
type does not have.
-/

namespace Troupe

open Number

namespace IntType

variable {t : IntType} {i : Int}

def width : IntType -> Nat
  | i8 | u8 => 8
  | i16 | u16 => 16
  | i32 | u32 => 32
  | i64 | u64 | usize => 64

def signed : IntType -> Bool
  | i8 | i16 | i32 | i64 => true
  | u8 | u16 | u32 | u64 | usize => false

/-- The integers that the bits of a type write, in two's complement if there is a sign. -/
def Fits (t : IntType) (i : Int) : Prop :=
  if t.signed then -2 ^ (t.width - 1) ≤ i ∧ i < 2 ^ (t.width - 1)
  else 0 ≤ i ∧ i < 2 ^ t.width

theorem holds_iff : t.holds i = true <-> t.Fits i := by
  rw [holds, Bool.and_eq_true, decide_eq_true_eq, decide_eq_true_eq]
  cases t <;> simp [min, max, Fits, signed, width] <;> omega

end IntType

namespace Store

/-!
## Integers
-/

section Integers

variable {t : IntType} {n : Node} {i : Int} {x : Binary64} {error : ValueError}

/-- The integer that a node stands for: its own, or the integer part of a float within the
bounds of 64 bits. -/
inductive Whole : Node -> Int -> Prop where
  | integer (i : Int64) : Whole (Node.integer i) i.toInt
  | float {x : Binary64} :
      x.isFinite = true -> -2 ^ 63 ≤ x.value -> x.value < 2 ^ 63 ->
        Whole (Node.float x) (towardZero x.value)

inductive Mismatches (t : IntType) (n : Node) : ValueError -> Prop where
  | kind : (forall i : Int, ¬ Whole n i) ->
      Mismatches t n (ValueError.typeMismatch t.name (Found.kind n.kind))
  | outOfRange {i : Int} : Whole n i -> ¬ t.Fits i ->
      Mismatches t n (ValueError.typeMismatch t.name (Found.outOfRange i))

/-- Both bounds are compared with as floats.  The upper one is rounded up by one, so what is
below it still has an integer part within the bounds. -/
theorem withinBounds_iff :
    (x.isFinite && Binary64.atMost (Binary64.ofInt Int64.minValue.toInt) x &&
        Binary64.less x (Binary64.ofInt Int64.maxValue.toInt)) = true <->
      x.isFinite = true ∧ -2 ^ 63 ≤ x.value ∧ x.value < 2 ^ 63 := by
  rw [Bool.and_eq_true, Bool.and_eq_true, and_assoc]
  apply and_congr_right
  intro hfinite
  have hnan := Binary64.isNaN_of_isFinite hfinite
  rw [Binary64.atMost_iff (by decide) hnan, Binary64.less_iff hnan (by decide),
    Binary64.value_minValue, Binary64.value_maxValue]

theorem wholeNumber?_float (hfinite : x.isFinite = true) (hlow : -2 ^ 63 ≤ x.value)
    (hhigh : x.value < 2 ^ 63) : wholeNumber? (Node.float x) = some x.toInt64 := by
  rw [wholeNumber?, if_pos (withinBounds_iff.mpr ⟨hfinite, hlow, hhigh⟩)]

theorem Whole.wholeNumber? (h : Whole n i) :
    exists j : Int64, wholeNumber? n = some j ∧ j.toInt = i := by
  cases h with
  | integer j => exact ⟨j, rfl, rfl⟩
  | float hfinite hlow hhigh =>
      exact ⟨_, wholeNumber?_float hfinite hlow hhigh,
        Binary64.toInt_toInt64 hfinite hlow hhigh⟩

theorem whole_of_wholeNumber? {j : Int64} (h : wholeNumber? n = some j) : Whole n j.toInt := by
  cases n with
  | integer i =>
      cases h
      exact Whole.integer _
  | float x =>
      rw [Store.wholeNumber?, Option.ite_none_right_eq_some, withinBounds_iff] at h
      rcases h with ⟨⟨hfinite, hlow, hhigh⟩, hj⟩
      cases hj
      rw [Binary64.toInt_toInt64 hfinite hlow hhigh]
      exact Whole.float hfinite hlow hhigh
  | _ => cases h

theorem wholeNumber?_eq_none_iff : wholeNumber? n = none <-> forall i : Int, ¬ Whole n i := by
  constructor
  · intro h i hwhole
    rcases hwhole.wholeNumber? with ⟨j, hsome, -⟩
    rw [h] at hsome
    cases hsome
  · intro h
    cases hsome : Store.wholeNumber? n with
    | none => rfl
    | some j => exact absurd (whole_of_wholeNumber? hsome) (h j.toInt)

theorem toInt_of_whole (h : Whole n i) :
    toInt t n =
      if t.holds i then .ok i
      else .error (ValueError.typeMismatch t.name (Found.outOfRange i)) := by
  rcases h.wholeNumber? with ⟨j, hsome, hj⟩
  rw [toInt, hsome]
  dsimp only
  rw [hj]

theorem toInt_of_not_whole (h : forall i : Int, ¬ Whole n i) :
    toInt t n = .error (ValueError.typeMismatch t.name (Found.kind n.kind)) := by
  rw [toInt, wholeNumber?_eq_none_iff.mpr h]
  rfl

theorem toInt_eq_ok_iff : toInt t n = .ok i <-> Whole n i ∧ t.Fits i := by
  rw [← IntType.holds_iff]
  constructor
  · intro h
    by_cases hwhole : exists j : Int, Whole n j
    · rcases hwhole with ⟨j, hj⟩
      rw [toInt_of_whole hj] at h
      split at h
      · next hholds =>
          cases h
          exact ⟨hj, hholds⟩
      · cases h
    · rw [toInt_of_not_whole (not_exists.mp hwhole)] at h
      cases h
  · intro h
    rw [toInt_of_whole h.left, if_pos h.right]

theorem toInt_eq_error_iff : toInt t n = .error error <-> Mismatches t n error := by
  constructor
  · intro h
    by_cases hwhole : exists j : Int, Whole n j
    · rcases hwhole with ⟨j, hj⟩
      rw [toInt_of_whole hj] at h
      split at h
      · cases h
      · next hholds =>
          cases h
          exact Mismatches.outOfRange hj (fun hrange => hholds (IntType.holds_iff.mpr hrange))
    · rw [toInt_of_not_whole (not_exists.mp hwhole)] at h
      cases h
      exact Mismatches.kind (not_exists.mp hwhole)
  · intro h
    cases h with
    | kind hnone => exact toInt_of_not_whole hnone
    | outOfRange hwhole hrange =>
        rw [toInt_of_whole hwhole, if_neg (fun hholds => hrange (IntType.holds_iff.mp hholds))]

/-- A value is read as an integer type exactly when it stands for an integer in the range of
the type, and then as that integer.  All other values are mismatches. -/
theorem integers_read (s : Store) (h : Handle) (t : IntType) :
    (forall i : Int, s.read h (ReadType.int t) = .ok i <->
      Whole (s.node h) i ∧ t.Fits i) ∧
      forall error : ValueError, s.read h (ReadType.int t) = .error error <->
        Mismatches t (s.node h) error := by
  constructor
  · intro i
    exact toInt_eq_ok_iff
  · intro error
    exact toInt_eq_error_iff

-- minus nine tenths: cut first and checked afterwards, it is in the range of every type
example : toInt IntType.u8 (Node.float { bits := 0xbfeccccccccccccd }) = .ok 0 := by decide

end Integers

/-!
## Both readings
-/

section Readings

variable {s : Store} {h : Handle} {type : ReadType}

inductive Crossed : ReadType -> Node -> Prop where
  | float (t : IntType) (x : Binary64) : Crossed (ReadType.int t) (Node.float x)
  | double (i : Int64) : Crossed ReadType.double (Node.integer i)
  | single (i : Int64) : Crossed ReadType.single (Node.integer i)
  | option {type : ReadType} {n : Node} : Crossed type n -> Crossed (ReadType.option type) n

theorem not_crossed_null (type : ReadType) : ¬ Crossed type Node.null := by
  induction type with
  | option type ih =>
      intro hcrossed
      cases hcrossed with
      | option hbelow => exact ih hbelow
  | _ =>
      intro hcrossed
      cases hcrossed

theorem read_option_of_null (hnull : s.node h = Node.null) :
    s.read h (ReadType.option type) = .ok none := by
  rw [read, hnull]

theorem readExact?_option_of_null (hnull : s.node h = Node.null) :
    s.readExact? h (ReadType.option type) = some none := by
  rw [readExact?, hnull]
  rfl

theorem read_option (hsome : s.node h ≠ Node.null) :
    s.read h (ReadType.option type) = (s.read h type).map some := by
  rw [read]
  split
  · next hnull => exact absurd hnull hsome
  · rfl

theorem readExact?_option (hsome : s.node h ≠ Node.null) :
    s.readExact? h (ReadType.option type) = (s.readExact? h type).map some := by
  rw [readExact?]
  split
  · next hnull => exact absurd hnull hsome
  · rfl

theorem readExact?_of_crossed (hcrossed : Crossed type (s.node h)) :
    s.readExact? h type = none := by
  generalize hnode : s.node h = n at hcrossed
  induction hcrossed with
  | float t x => rw [readExact?, hnode]
  | double i => rw [readExact?, hnode]
  | single i => rw [readExact?, hnode]
  | option hbelow ih =>
      have hsome : s.node h ≠ Node.null := by
        intro hnull
        rw [← hnode, hnull] at hbelow
        exact not_crossed_null _ hbelow
      rw [readExact?_option hsome, ih hnode]
      rfl

/-- But for crossed numbers, the exact reading is the converting one without its errors. -/
theorem readExact?_of_not_crossed (hcrossed : ¬ Crossed type (s.node h)) :
    s.readExact? h type = (s.read h type).toOption := by
  induction type with
  | bool =>
      rw [readExact?, read]
      cases s.node h <;> rfl
  | int t =>
      rw [readExact?, read]
      cases hnode : s.node h with
      | integer i =>
          rw [toInt_of_whole (Whole.integer i)]
          dsimp only
          split <;> rfl
      | float x =>
          rw [hnode] at hcrossed
          exact absurd (Crossed.float t x) hcrossed
      | _ => rfl
  | double =>
      rw [readExact?, read]
      cases hnode : s.node h with
      | integer i =>
          rw [hnode] at hcrossed
          exact absurd (Crossed.double i) hcrossed
      | _ => rfl
  | single =>
      rw [readExact?, read]
      cases hnode : s.node h with
      | integer i =>
          rw [hnode] at hcrossed
          exact absurd (Crossed.single i) hcrossed
      | _ => rfl
  | string =>
      rw [readExact?, read]
      cases s.node h <;> rfl
  | bytes =>
      rw [readExact?, read]
      cases s.node h <;> rfl
  | tree =>
      rw [readExact?, read]
      rfl
  | option type ih =>
      by_cases hnull : s.node h = Node.null
      · rw [readExact?_option_of_null hnull, read_option_of_null hnull]
        rfl
      · rw [readExact?_option hnull, read_option hnull,
          ih (fun hbelow => hcrossed (Crossed.option hbelow))]
        cases s.read h type <;> rfl

theorem read_option_eq_none_iff :
    s.read h (ReadType.option type) = .ok none <-> s.node h = Node.null := by
  constructor
  · intro hread
    by_contra hsome
    rw [read_option hsome] at hread
    cases hbelow : s.read h type with
    | error error =>
        rw [hbelow] at hread
        cases hread
    | ok x =>
        rw [hbelow] at hread
        cases hread
  · intro hnull
    exact read_option_of_null hnull

theorem readExact?_option_eq_none_iff :
    s.readExact? h (ReadType.option type) = some none <-> s.node h = Node.null := by
  constructor
  · intro hread
    by_contra hsome
    rw [readExact?_option hsome] at hread
    cases hbelow : s.readExact? h type with
    | none =>
        rw [hbelow] at hread
        cases hread
    | some x =>
        rw [hbelow] at hread
        cases hread
  · intro hnull
    exact readExact?_option_of_null hnull

/-- What the exact reading yields, the converting one yields too.  Of what the converting
one yields, the exact one leaves out the numbers in the other representation and nothing
else.  Read as an option, a value is nothing exactly if it is the null. -/
theorem exact_reading_agrees (s : Store) (h : Handle) (type : ReadType) :
    (forall x : type.Carrier, s.readExact? h type = some x -> s.read h type = .ok x) ∧
      (forall x : type.Carrier, s.read h type = .ok x ->
        (s.readExact? h type = none <-> Crossed type (s.node h))) ∧
        (s.read h (ReadType.option type) = .ok none <-> s.node h = Node.null) ∧
          (s.readExact? h (ReadType.option type) = some none <-> s.node h = Node.null) := by
  refine ⟨?_, ?_, read_option_eq_none_iff, readExact?_option_eq_none_iff⟩
  · intro x hexact
    by_cases hcrossed : Crossed type (s.node h)
    · rw [readExact?_of_crossed hcrossed] at hexact
      cases hexact
    · rw [readExact?_of_not_crossed hcrossed] at hexact
      cases hread : s.read h type with
      | error error =>
          rw [hread] at hexact
          cases hexact
      | ok y =>
          rw [hread] at hexact
          cases hexact
          rfl
  · intro x hread
    constructor
    · intro hnone
      by_contra hcrossed
      rw [readExact?_of_not_crossed hcrossed, hread] at hnone
      cases hnone
    · intro hcrossed
      exact readExact?_of_crossed hcrossed

/-- A float behind an option, and an integer in range. -/
theorem exact_reading_agrees_float :
    let s := ((Store.empty.alloc (Node.float { bits := 0x4072c80000000000 })).2.alloc
      (Node.integer 7)).2
    s.read 0 (ReadType.option (ReadType.int IntType.i32)) = .ok (some (300 : Int)) ∧
      s.readExact? 0 (ReadType.option (ReadType.int IntType.i32)) = none ∧
        s.readExact? 1 (ReadType.int IntType.u8) = some (7 : Int) ∧
          s.read 1 (ReadType.int IntType.u8) = .ok (7 : Int) := by
  intro s
  have hread : s.read 0 (ReadType.option (ReadType.int IntType.i32)) = .ok (some (300 : Int)) :=
    rfl
  have hexact : s.readExact? 1 (ReadType.int IntType.u8) = some (7 : Int) := rfl
  rcases exact_reading_agrees s 0 (ReadType.option (ReadType.int IntType.i32)) with
    ⟨-, hcrossed, -⟩
  rcases exact_reading_agrees s 1 (ReadType.int IntType.u8) with ⟨hsame, -⟩
  refine ⟨hread, ?_, hexact, hsame _ hexact⟩
  exact (hcrossed _ hread).mpr (Crossed.option (Crossed.float _ _))

end Readings

end Store
end Troupe
