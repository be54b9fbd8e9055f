import Troupe.Proofs.Json.Grammar

/-!
# The JSON reader reads what is written

On a text of a document, a reader that allows for `levels` levels either returns
the document, or it meets a container too many and says so; nothing else can go
wrong.  The induction is on the levels, as the reader's recursion is, and the
loops over items and members are run with what is known one level down.
-/

namespace Troupe
namespace Json

open Number Cursor

mutual

/-- How many containers enclose the innermost value, itself included. -/
def depth : Json -> Nat
  | array xs => depthItems xs + 1
  | object ms => depthMembers ms + 1
  | _ => 0

def depthItems : List Json -> Nat
  | [] => 0
  | v :: rest => max (depth v) (depthItems rest)

def depthMembers : List (String × Json) -> Nat
  | [] => 0
  | (_, v) :: rest => max (depth v) (depthMembers rest)

end

/-!
## Outcomes
-/

/-- With levels enough for the depth there is a result, and with fewer the fault
is that there are too few. -/
def Meets {α : Type} (depth levels : Nat) (outcome : Except Stop α) (a : α) : Prop :=
  (depth ≤ levels -> outcome = .ok a) ∧
    (levels < depth -> exists stop : Stop, outcome = .error stop ∧ stop.fault = JsonFault.tooDeep)

section Outcomes

variable {α β : Type} {depth depth' levels : Nat}

theorem Meets.of_eq {outcome : Except Stop α} {a : α} (h : outcome = .ok a) :
    Meets 0 levels outcome a := by
  constructor
  · intro _
    exact h
  · intro hlevels
    exact absurd hlevels (Nat.not_lt_zero levels)

theorem Meets.bind {first : Except Stop α} {second : α -> Except Stop β} {a : α} {b : β}
    (h : Meets depth levels first a) (h' : Meets depth' levels (second a) b) :
    Meets (max depth depth') levels (first >>= second) b := by
  constructor
  · intro hdepth
    rcases Nat.max_le.mp hdepth with ⟨hfirst, hsecond⟩
    exact bind_eq_ok_iff.mpr ⟨a, h.left hfirst, h'.left hsecond⟩
  · intro hlevels
    by_cases hfirst : depth ≤ levels
    · have hsecond : levels < depth' := by omega
      rw [h.left hfirst]
      exact h'.right hsecond
    · rcases h.right (Nat.lt_of_not_le hfirst) with ⟨stop, herror, hfault⟩
      rw [herror]
      exact ⟨stop, rfl, hfault⟩

theorem Meets.after {first : Except Stop α} {second : α -> Except Stop β} {a : α} {b : β}
    (h : first = .ok a) (h' : Meets depth levels (second a) b) :
    Meets depth levels (first >>= second) b := by
  rw [h]
  exact h'

theorem Meets.map {first : Except Stop α} {second : α -> Except Stop β} {a : α} {b : β}
    (h : Meets depth levels first a) (h' : second a = .ok b) :
    Meets depth levels (first >>= second) b := by
  have hbind := h.bind (Meets.of_eq h')
  rwa [Nat.max_zero] at hbind

theorem Meets.enter {outcome : Except Stop α} {a : α} (h : Meets depth levels outcome a) :
    Meets (depth + 1) (levels + 1) outcome a := by
  constructor
  · intro hdepth
    exact h.left (Nat.le_of_succ_le_succ hdepth)
  · intro hlevels
    exact h.right (Nat.lt_of_succ_lt_succ hlevels)

end Outcomes

/-!
## Between values
-/

theorem skipBlanks_eq {c after : Cursor} {gap : List UInt8} (hgap : Blanks gap)
    (hreads : c.Reads gap after)
    (hstop : forall b : UInt8, after.rest.head? = some b -> isBlank b = false) :
    skipBlanks c = after := by
  rw [skipBlanks, hreads.takeWhile_eq hgap hstop, hreads.advance_eq]

theorem skipBlanks_of_head {c after : Cursor} {gap : List UInt8} {b : UInt8}
    (hgap : Blanks gap) (hreads : c.Reads gap after) (hhead : after.rest.head? = some b)
    (hblank : isBlank b = false) : skipBlanks c = after := by
  apply skipBlanks_eq hgap hreads
  intro b' hhead'
  rw [hhead] at hhead'
  cases hhead'
  exact hblank

theorem skipBlanks_self {c : Cursor} {b : UInt8} (hhead : c.rest.head? = some b)
    (hblank : isBlank b = false) : skipBlanks c = c :=
  skipBlanks_of_head blanks_nil (Reads.refl c) hhead hblank

theorem ends_of_closes {c : Cursor} {b : UInt8} (hhead : c.rest.head? = some b)
    (hcloses : Closes b) : Ends c := by
  intro b' hhead'
  rw [hhead] at hhead'
  cases hhead'
  rcases hcloses with hblank | rfl | rfl | rfl
  · unfold isBlank at hblank
    simp only [Bool.or_eq_true, beq_iff_eq] at hblank
    rcases hblank with ((rfl | rfl) | rfl) | rfl <;> decide
  · decide
  · decide
  · decide

theorem readColon_eq {c after : Cursor} (hreads : c.Reads [0x3a] after) :
    readColon c = .ok after := by
  rcases reads_cons_iff.mp hreads with ⟨hhead, hnext⟩
  unfold readColon
  rw [skipBlanks_self hhead (by decide)]
  dsimp only
  rw [hreads.rest_cons]
  dsimp only
  rw [if_pos (by decide), hnext.eq_of_nil]

/-!
## Items
-/

section Items

variable {value : Cursor -> Except Stop (Json × Cursor)} {fuel : Nat} {first : Bool}

theorem readItems_nil {c after : Cursor} {gap : List UInt8} (hgap : Blanks gap)
    (hreads : c.Reads (gap ++ [0x5d]) after) :
    readItems value (fuel + 1) first c = .ok ([], after) := by
  rcases hreads.split with ⟨close, hreadsGap, hreadsClose⟩
  rcases reads_cons_iff.mp hreadsClose with ⟨hhead, hnext⟩
  rw [readItems, skipBlanks_of_head hgap hreadsGap hhead (by decide)]
  dsimp only
  rw [hreadsClose.rest_cons]
  dsimp only
  rw [if_pos (by decide), hnext.eq_of_nil]
  rfl

theorem readItems_cons {c start : Cursor} {gap more : List UInt8} {b : UInt8}
    (hgap : Blanks gap) (hlead : c.Reads (lead first gap) start) (hrest : start.rest = b :: more)
    (hblank : isBlank b = false) (hopen : b ≠ 0x5d) :
    readItems value (fuel + 1) first c = (do
      let (item, c) <- value start
      let (items, c) <- readItems value fuel false c
      return (item :: items, c)) := by
  have hhead : start.rest.head? = some b := by
    rw [hrest]
    rfl
  have hitem : ¬ (b == 0x5d) = true := by
    rw [beq_iff_eq]
    exact hopen
  rw [readItems]
  cases first with
  | true =>
      rw [skipBlanks_of_head hgap hlead hhead hblank]
      dsimp only
      rw [hrest]
      dsimp only
      rw [if_neg hitem, if_pos rfl]
      rfl
  | false =>
      rcases reads_cons_iff.mp hlead with ⟨hcomma, hnext⟩
      rw [skipBlanks_self hcomma (by decide)]
      dsimp only
      rw [hlead.rest_cons]
      dsimp only
      rw [if_neg (by decide), if_neg Bool.false_ne_true, if_pos (by decide),
        skipBlanks_of_head hgap hnext hhead hblank, hrest]
      dsimp only
      rw [if_neg hitem]
      rfl

end Items

def Reading (levels : Nat) : Prop :=
  forall {v : Json} {gap text : List UInt8} {c after : Cursor},
    Blanks gap -> Spells v text -> c.Reads (gap ++ text) after -> Ends after ->
      Meets v.depth levels (readValue levels c) (v, after)

theorem readItems_meets {levels fuel : Nat} {items : List Json} {first : Bool}
    {body : List UInt8} {c after : Cursor} (hreading : Reading levels)
    (hspells : SpellsItems first items body) (hreads : c.Reads body after)
    (hfuel : items.length < fuel) :
    Meets (depthItems items) levels (readItems (readValue levels) fuel first c)
      (items, after) := by
  induction items generalizing first body fuel c with
  | nil =>
      cases fuel with
      | zero => exact absurd hfuel (Nat.not_lt_zero _)
      | succ fuel =>
          cases hspells with
          | nil hgap => exact Meets.of_eq (readItems_nil hgap hreads)
  | cons v rest ih =>
      cases fuel with
      | zero => exact absurd hfuel (Nat.not_lt_zero _)
      | succ fuel =>
          cases hspells with
          | @cons _ _ _ gap text body hgap hvalue hrest =>
              rcases hreads.split with ⟨start, hreadsLead, hreadsMore⟩
              rcases hreadsMore.split with ⟨middle, hreadsValue, hreadsRest⟩
              rcases hvalue.exists_cons with ⟨b, more, rfl, hblank, hopen⟩
              rcases hrest.exists_cons with ⟨b', more', rfl, hcloses⟩
              rw [readItems_cons hgap hreadsLead hreadsValue.rest_cons hblank hopen]
              have hends := ends_of_closes (reads_cons_iff.mp hreadsRest).left hcloses
              have hitem := hreading blanks_nil hvalue hreadsValue hends
              have hitems := ih hrest hreadsRest (Nat.lt_of_succ_lt_succ hfuel)
              exact hitem.bind (hitems.map rfl)

/-!
## Members
-/

section Members

variable {value : Cursor -> Except Stop (Json × Cursor)} {fuel : Nat} {first : Bool}
  {known : Entries Json}

theorem readMembers_nil {c after : Cursor} {gap : List UInt8} (hgap : Blanks gap)
    (hreads : c.Reads (gap ++ [0x7d]) after) :
    readMembers value (fuel + 1) first known c = .ok (known, after) := by
  rcases hreads.split with ⟨close, hreadsGap, hreadsClose⟩
  rcases reads_cons_iff.mp hreadsClose with ⟨hhead, hnext⟩
  rw [readMembers, skipBlanks_of_head hgap hreadsGap hhead (by decide)]
  dsimp only
  rw [hreadsClose.rest_cons]
  dsimp only
  rw [if_pos (by decide), hnext.eq_of_nil]
  rfl

theorem readMembers_cons {c start : Cursor} {gap more : List UInt8} (hgap : Blanks gap)
    (hlead : c.Reads (lead first gap) start) (hrest : start.rest = 0x22 :: more) :
    readMembers value (fuel + 1) first known c = (do
      let (key, c) <- readString start.next
      let c <- readColon c
      let (member, c) <- value c
      readMembers value fuel false (Entries.insert known key member) c) := by
  have hhead : start.rest.head? = some 0x22 := by
    rw [hrest]
    rfl
  rw [readMembers]
  cases first with
  | true =>
      rw [skipBlanks_of_head hgap hlead hhead (by decide)]
      dsimp only
      rw [hrest]
      dsimp only
      rw [if_neg (by decide), readKeyStart, if_pos rfl, if_pos (by decide)]
      rfl
  | false =>
      rcases reads_cons_iff.mp hlead with ⟨hcomma, hnext⟩
      rw [skipBlanks_self hcomma (by decide)]
      dsimp only
      rw [hlead.rest_cons]
      dsimp only
      rw [if_neg (by decide), readKeyStart, if_neg Bool.false_ne_true, if_pos (by decide),
        skipBlanks_of_head hgap hnext hhead (by decide)]
      dsimp only
      rw [hrest]
      dsimp only
      rw [if_pos (by decide)]
      rfl

end Members

theorem readMembers_meets {levels fuel : Nat} {known added : Entries Json} {first : Bool}
    {body : List UInt8} {c after : Cursor} (hreading : Reading levels)
    (hunique : Entries.Unique (known ++ added)) (hspells : SpellsMembers first added body)
    (hreads : c.Reads body after) (hfuel : added.length < fuel) :
    Meets (depthMembers added) levels (readMembers (readValue levels) fuel first known c)
      (known ++ added, after) := by
  induction added generalizing first body fuel c known with
  | nil =>
      cases fuel with
      | zero => exact absurd hfuel (Nat.not_lt_zero _)
      | succ fuel =>
          cases hspells with
          | nil hgap =>
              rw [List.append_nil]
              exact Meets.of_eq (readMembers_nil hgap hreads)
  | cons member rest ih =>
      cases fuel with
      | zero => exact absurd hfuel (Nat.not_lt_zero _)
      | succ fuel =>
          cases hspells with
          | @cons _ key v _ gap space text body hgap hspace hvalue hrest =>
              rcases hreads.split with ⟨start, hreadsLead, hreadsMore⟩
              rcases hreadsMore.split with ⟨colon, hreadsKey, hreadsPair⟩
              rcases reads_cons_iff.mp hreadsPair with ⟨hcolon, hreadsPair'⟩
              rw [← List.append_assoc] at hreadsPair'
              rcases hreadsPair'.split with ⟨middle, hreadsValue, hreadsRest⟩
              rcases hrest.exists_cons with ⟨b, more, rfl, hcloses⟩
              have hfresh : key ∉ Entries.keys known :=
                Entries.not_mem_keys_of_unique_append hunique
              have hsplit : known ++ (key, v) :: rest = Entries.insert known key v ++ rest := by
                rw [Entries.insert_of_not_mem v hfresh, List.append_assoc]
                rfl
              rw [hsplit] at hunique
              have hquoted := hreadsKey
              rw [quoted_eq] at hquoted
              have hcolonReads : colon.Reads [0x3a] colon.next :=
                reads_cons_iff.mpr ⟨hcolon, Reads.refl _⟩
              have hends := ends_of_closes (reads_cons_iff.mp hreadsRest).left hcloses
              have hmember := hreading hspace hvalue hreadsValue hends
              have hmembers := ih hunique hrest hreadsRest (Nat.lt_of_succ_lt_succ hfuel)
              rw [readMembers_cons hgap hreadsLead hquoted.rest_cons, hsplit]
              exact Meets.after (readString_eq hreadsKey).right
                (Meets.after (readColon_eq hcolonReads) (hmember.bind hmembers))

/-!
## Values

The first byte decides what is read, so the proof goes by the kind of value.
-/

theorem readWord_eq (value : Json) {word : List UInt8} {c after : Cursor}
    (hreads : c.Reads word after) : readWord value word c = .ok (value, after) := by
  induction word generalizing c with
  | nil =>
      rw [hreads.eq_of_nil]
      rfl
  | cons b more ih =>
      rw [readWord, hreads.rest_cons]
      dsimp only
      rw [if_pos (beq_self_eq_true b)]
      exact ih (reads_cons_iff.mp hreads).right

theorem readValue_number {levels : Nat} {negative : Bool} {l : Literal} {c after : Cursor}
    (hvalid : l.Valid) (hproper : Proper (l.number negative)) {gap : List UInt8}
    (hgap : Blanks gap) (hreads : c.Reads (gap ++ (signBytes negative ++ l.bytes)) after)
    (hends : Ends after) :
    readValue levels c = .ok (number (l.number negative), after) := by
  have hfinite : forall x : Binary64, l.number negative = JsonNumber.real x ->
      x.isFinite = true := by
    intro x hx
    rw [hx] at hproper
    exact hproper
  rcases hreads.split with ⟨start, hreadsGap, hreadsNumber⟩
  unfold readValue
  cases negative with
  | true =>
      rcases reads_cons_iff.mp hreadsNumber with ⟨hsign, hreadsLiteral⟩
      rw [skipBlanks_of_head hgap hreadsGap hsign (by decide)]
      dsimp only
      rw [hreadsNumber.rest_cons]
      dsimp only
      rw [if_neg (by decide), if_neg (by decide), if_neg (by decide), if_pos (by decide)]
      exact Literal.readNumber_eq hvalid hreadsLiteral hends hfinite
  | false =>
      rcases hvalid.exists_digit with ⟨b, more, hbytes, hdigit⟩
      have hreadsLiteral : start.Reads l.bytes after := hreadsNumber
      have hrest := hreadsLiteral
      rw [hbytes] at hrest
      rw [skipBlanks_of_head hgap hreadsGap (reads_cons_iff.mp hrest).left
        (isBlank_of_isDigit hdigit)]
      dsimp only
      rw [hrest.rest_cons]
      dsimp only
      rw [beq_of_isDigit hdigit (by decide), beq_of_isDigit hdigit (by decide),
        beq_of_isDigit hdigit (by decide), beq_of_isDigit hdigit (by decide), hdigit]
      exact Literal.readNumber_eq hvalid hreadsLiteral hends hfinite

theorem readValue_array {levels : Nat} {items : List Json} {gap body : List UInt8}
    {c after : Cursor} (hinner : forall inner : Nat, levels = inner + 1 -> Reading inner)
    (hgap : Blanks gap) (hitems : SpellsItems true items body)
    (hreads : c.Reads (gap ++ 0x5b :: body) after) :
    Meets (depthItems items + 1) levels (readValue levels c) (array items, after) := by
  rcases hreads.split with ⟨start, hreadsGap, hreadsText⟩
  rcases reads_cons_iff.mp hreadsText with ⟨hhead, hreadsBody⟩
  unfold readValue
  rw [skipBlanks_of_head hgap hreadsGap hhead (by decide)]
  dsimp only
  rw [hreadsText.rest_cons]
  cases levels with
  | zero =>
      constructor
      · intro hdepth
        exact absurd hdepth (Nat.not_succ_le_zero _)
      · intro _
        exact ⟨_, rfl, rfl⟩
  | succ inner =>
      have hfuel : items.length < (0x5b :: (body ++ after.rest)).length + 1 := by
        have hlt := hitems.length_lt
        rw [List.length_cons, List.length_append]
        omega
      have hloop := readItems_meets (hinner inner rfl) hitems hreadsBody hfuel
      apply Meets.enter
      refine hloop.map ?_
      rfl

theorem readValue_object {levels : Nat} {members : Entries Json} {gap body : List UInt8}
    {c after : Cursor} (hinner : forall inner : Nat, levels = inner + 1 -> Reading inner)
    (hgap : Blanks gap) (hunique : Entries.Unique members)
    (hmembers : SpellsMembers true members body)
    (hreads : c.Reads (gap ++ 0x7b :: body) after) :
    Meets (depthMembers members + 1) levels (readValue levels c) (object members, after) := by
  rcases hreads.split with ⟨start, hreadsGap, hreadsText⟩
  rcases reads_cons_iff.mp hreadsText with ⟨hhead, hreadsBody⟩
  unfold readValue
  rw [skipBlanks_of_head hgap hreadsGap hhead (by decide)]
  dsimp only
  rw [hreadsText.rest_cons]
  cases levels with
  | zero =>
      constructor
      · intro hdepth
        exact absurd hdepth (Nat.not_succ_le_zero _)
      · intro _
        exact ⟨_, rfl, rfl⟩
  | succ inner =>
      have hfuel : members.length < (0x7b :: (body ++ after.rest)).length + 1 := by
        have hlt := hmembers.length_lt
        rw [List.length_cons, List.length_append]
        omega
      have hunique' : Entries.Unique ([] ++ members) := hunique
      have hloop := readMembers_meets (hinner inner rfl) hunique' hmembers hreadsBody hfuel
      apply Meets.enter
      refine hloop.map ?_
      rfl

theorem readValue_meets {levels : Nat} {v : Json} {gap text : List UInt8} {c after : Cursor}
    (hinner : forall inner : Nat, levels = inner + 1 -> Reading inner) (hgap : Blanks gap)
    (hspells : Spells v text) (hreads : c.Reads (gap ++ text) after) (hends : Ends after) :
    Meets v.depth levels (readValue levels c) (v, after) := by
  rcases hreads.split with ⟨start, hreadsGap, hreadsText⟩
  cases hspells with
  | null =>
      rcases reads_cons_iff.mp hreadsText with ⟨hhead, hreadsWord⟩
      apply Meets.of_eq
      unfold readValue
      rw [skipBlanks_of_head hgap hreadsGap hhead (by decide)]
      dsimp only
      rw [hreadsText.rest_cons]
      exact readWord_eq null hreadsWord
  | yes =>
      rcases reads_cons_iff.mp hreadsText with ⟨hhead, hreadsWord⟩
      apply Meets.of_eq
      unfold readValue
      rw [skipBlanks_of_head hgap hreadsGap hhead (by decide)]
      dsimp only
      rw [hreadsText.rest_cons]
      exact readWord_eq (bool true) hreadsWord
  | no =>
      rcases reads_cons_iff.mp hreadsText with ⟨hhead, hreadsWord⟩
      apply Meets.of_eq
      unfold readValue
      rw [skipBlanks_of_head hgap hreadsGap hhead (by decide)]
      dsimp only
      rw [hreadsText.rest_cons]
      exact readWord_eq (bool false) hreadsWord
  | number hvalid hproper =>
      exact Meets.of_eq (readValue_number hvalid hproper hgap hreads hends)
  | string s =>
      rcases readString_eq hreadsText with ⟨hhead, hstring⟩
      rw [quoted_eq] at hreadsText
      apply Meets.of_eq
      unfold readValue
      rw [skipBlanks_of_head hgap hreadsGap hhead (by decide)]
      dsimp only
      rw [hreadsText.rest_cons]
      exact bind_eq_ok_iff.mpr ⟨_, hstring, rfl⟩
  | array hitems => exact readValue_array hinner hgap hitems hreads
  | object hunique hmembers => exact readValue_object hinner hgap hunique hmembers hreads

theorem reading (levels : Nat) : Reading levels := by
  induction levels with
  | zero =>
      intro v gap text c after hgap hspells hreads hends
      exact readValue_meets (fun inner h => by cases h) hgap hspells hreads hends
  | succ levels ih =>
      intro v gap text c after hgap hspells hreads hends
      apply readValue_meets _ hgap hspells hreads hends
      intro inner h
      cases h
      exact ih

/-!
## Whole inputs
-/

/-- A text is parsed to its document, unless that nests too deep. -/
theorem parse_of_spells {v : Json} {text : List UInt8} (h : Spells v text) :
    (v.depth ≤ maxTextDepth -> parse text = .ok v) ∧
      (maxTextDepth < v.depth -> exists error : JsonTextError,
        parse text = .error error ∧ error.fault = JsonFault.tooDeep) := by
  have hreads : (start text).Reads ([] ++ text) { rest := [], offset := text.length } := by
    constructor <;> simp [start]
  have hends : Ends { rest := [], offset := text.length } := by
    intro b hhead
    cases hhead
  rcases reading maxTextDepth blanks_nil h hreads hends with ⟨hshallow, hdeep⟩
  constructor
  · intro hdepth
    rw [parse, readDocument, hshallow hdepth]
    rfl
  · intro hdepth
    rcases hdeep hdepth with ⟨stop, herror, hfault⟩
    refine ⟨stop.locate text, ?_, hfault⟩
    rw [parse, readDocument, herror]
    rfl

end Json
end Troupe
