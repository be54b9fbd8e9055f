import Troupe.Proofs.Entries
import Troupe.Proofs.Json.Numbers
import Troupe.Proofs.Json.Strings

/-!
# The grammar of written JSON

`Spells v text` says that the bytes are a text of the document, with blanks laid
out in any way around brackets, separators, and values.  Both layouts of a
document are texts of it in this sense, so what holds of all its texts need not
be said of each layout.
-/

namespace Troupe
namespace Json

open Number Text

def Blanks (gap : List UInt8) : Prop :=
  forall b : UInt8, b ∈ gap -> isBlank b = true

theorem blanks_nil : Blanks [] := by
  intro b hmem
  cases hmem

/-- What stands before an entry: a comma unless it is the first, then blanks. -/
def lead (first : Bool) (gap : List UInt8) : List UInt8 :=
  if first then gap else 0x2c :: gap

mutual

inductive Spells : Json -> List UInt8 -> Prop where
  | null : Spells Json.null [0x6e, 0x75, 0x6c, 0x6c]
  | yes : Spells (Json.bool true) [0x74, 0x72, 0x75, 0x65]
  | no : Spells (Json.bool false) [0x66, 0x61, 0x6c, 0x73, 0x65]
  | number {negative : Bool} {l : Literal} :
      l.Valid -> Proper (l.number negative) ->
        Spells (Json.number (l.number negative)) (signBytes negative ++ l.bytes)
  | string (s : String) : Spells (Json.string s) (quoted s)
  | array {items : List Json} {body : List UInt8} :
      SpellsItems true items body -> Spells (Json.array items) (0x5b :: body)
  | object {members : Entries Json} {body : List UInt8} :
      Entries.Unique members -> SpellsMembers true members body ->
        Spells (Json.object members) (0x7b :: body)

/-- The items of an array and its closing bracket; the flag says whether an item
stands before them. -/
inductive SpellsItems : Bool -> List Json -> List UInt8 -> Prop where
  | nil {first : Bool} {gap : List UInt8} : Blanks gap -> SpellsItems first [] (gap ++ [0x5d])
  | cons {first : Bool} {v : Json} {rest : List Json} {gap text body : List UInt8} :
      Blanks gap -> Spells v text -> SpellsItems false rest body ->
        SpellsItems first (v :: rest) (lead first gap ++ (text ++ body))

inductive SpellsMembers : Bool -> Entries Json -> List UInt8 -> Prop where
  | nil {first : Bool} {gap : List UInt8} : Blanks gap -> SpellsMembers first [] (gap ++ [0x7d])
  | cons {first : Bool} {k : String} {v : Json} {rest : Entries Json}
      {gap space text body : List UInt8} :
      Blanks gap -> Blanks space -> Spells v text -> SpellsMembers false rest body ->
        SpellsMembers first ((k, v) :: rest)
          (lead first gap ++ (quoted k ++ 0x3a :: (space ++ (text ++ body))))

end

/-!
## First bytes

A value starts with a byte that is neither blank nor the end of an array, so a
reader in search of the next value stops there.
-/

theorem Literal.Valid.exists_digit {l : Literal} (h : l.Valid) :
    exists (b : UInt8) (more : List UInt8), l.bytes = b :: more ∧ isDigit b = true := by
  have hwhole : exists (b : UInt8) (ds : List UInt8), l.whole = b :: ds := by
    rcases h.start with hzero | ⟨b, ds, hds, _⟩
    · exact ⟨_, _, hzero⟩
    · exact ⟨b, ds, hds⟩
  rcases hwhole with ⟨b, ds, hds⟩
  have hdigit : isDigit b = true := by
    apply h.whole
    rw [hds]
    exact List.mem_cons_self
  refine ⟨b, ds ++ (Literal.fractionBytes l.fraction ++ Literal.exponentBytes l.exponent), ?_,
    hdigit⟩
  rw [Literal.bytes, hds, List.append_assoc]
  rfl

theorem beq_of_isDigit {b other : UInt8} (h : isDigit b = true)
    (hother : isDigit other = false) : (b == other) = false := by
  rw [beq_eq_false_iff_ne]
  rintro rfl
  rw [h] at hother
  cases hother

theorem isBlank_of_isDigit {b : UInt8} (h : isDigit b = true) : isBlank b = false := by
  unfold isBlank
  rw [beq_of_isDigit h (by decide), beq_of_isDigit h (by decide), beq_of_isDigit h (by decide),
    beq_of_isDigit h (by decide)]
  rfl

theorem Spells.exists_cons {v : Json} {text : List UInt8} (h : Spells v text) :
    exists (b : UInt8) (more : List UInt8),
      text = b :: more ∧ isBlank b = false ∧ b ≠ 0x5d := by
  cases h with
  | null => exact ⟨_, _, rfl, by decide, by decide⟩
  | yes => exact ⟨_, _, rfl, by decide, by decide⟩
  | no => exact ⟨_, _, rfl, by decide, by decide⟩
  | @number negative l hvalid _ =>
      cases negative with
      | true => exact ⟨0x2d, l.bytes, rfl, by decide, by decide⟩
      | false =>
          rcases hvalid.exists_digit with ⟨b, more, hbytes, hdigit⟩
          refine ⟨b, more, hbytes, isBlank_of_isDigit hdigit, ?_⟩
          exact beq_eq_false_iff_ne.mp (beq_of_isDigit hdigit (by decide))
  | string s => exact ⟨_, _, quoted_eq s, by decide, by decide⟩
  | array _ => exact ⟨_, _, rfl, by decide, by decide⟩
  | object _ _ => exact ⟨_, _, rfl, by decide, by decide⟩

/-- Bytes that can follow a value: none of them goes on with a number. -/
def Closes (b : UInt8) : Prop :=
  isBlank b = true ∨ b = 0x2c ∨ b = 0x5d ∨ b = 0x7d

theorem SpellsItems.exists_cons {items : List Json} {body : List UInt8}
    (h : SpellsItems false items body) :
    exists (b : UInt8) (more : List UInt8), body = b :: more ∧ Closes b := by
  cases h with
  | @nil _ gap hgap =>
      cases gap with
      | nil => exact ⟨0x5d, [], rfl, by right; right; left; rfl⟩
      | cons b more => exact ⟨b, more ++ [0x5d], rfl, Or.inl (hgap b List.mem_cons_self)⟩
  | cons _ _ _ => exact ⟨0x2c, _, rfl, by right; left; rfl⟩

theorem SpellsMembers.exists_cons {members : Entries Json} {body : List UInt8}
    (h : SpellsMembers false members body) :
    exists (b : UInt8) (more : List UInt8), body = b :: more ∧ Closes b := by
  cases h with
  | @nil _ gap hgap =>
      cases gap with
      | nil => exact ⟨0x7d, [], rfl, by right; right; right; rfl⟩
      | cons b more => exact ⟨b, more ++ [0x7d], rfl, Or.inl (hgap b List.mem_cons_self)⟩
  | cons _ _ _ _ => exact ⟨0x2c, _, rfl, by right; left; rfl⟩

/-!
## Sizes
-/

theorem SpellsItems.length_lt {first : Bool} {items : List Json} {body : List UInt8}
    (h : SpellsItems first items body) : items.length < body.length := by
  induction items generalizing first body with
  | nil =>
      cases h with
      | nil _ => simp
  | cons v rest ih =>
      cases h with
      | cons _ hvalue hrest =>
          have hlt := ih hrest
          rcases hvalue.exists_cons with ⟨b, more, rfl, _⟩
          simp only [List.length_cons, List.length_append]
          omega

theorem SpellsMembers.length_lt {first : Bool} {members : Entries Json} {body : List UInt8}
    (h : SpellsMembers first members body) : members.length < body.length := by
  induction members generalizing first body with
  | nil =>
      cases h with
      | nil _ => simp
  | cons member rest ih =>
      cases h with
      | cons _ _ hvalue hrest =>
          have hlt := ih hrest
          simp only [List.length_cons, List.length_append]
          omega

end Json
end Troupe
