import Mathlib.Data.List.Induction
import Mathlib.Data.List.Pairwise
import Mathlib.Logic.ExistsUnique
import Troupe.Proofs.Entries

/-!
# Histories

A history lists what has been done, the latest last, so what is said of histories is
followed as they grow at the end.

## Histories of entries

The entries that come of putting values under keys and of erasing keys are told by what
has been done: a key has the value that was put under it last, and the keys stand in the
order in which they entered.  A key enters when it is put while it is absent; putting it
again does not move it, and erasing it lets it enter anew.
-/

namespace Troupe

theorem split_snoc {α : Type} {history before after : List α} {last shown : α}
    (h : history ++ [last] = before ++ shown :: after) :
    (history = before ∧ last = shown ∧ after = []) ∨
      exists rest : List α, history = before ++ shown :: rest ∧ after = rest ++ [last] := by
  rcases List.eq_nil_or_concat after with rfl | ⟨rest, last', rfl⟩
  · rcases List.append_inj' h rfl with ⟨hbefore, hlast⟩
    exact Or.inl ⟨hbefore, List.singleton_inj.mp hlast, rfl⟩
  · rw [List.concat_eq_append] at h ⊢
    have hlonger : history ++ [last] = (before ++ shown :: rest) ++ [last'] := by
      rw [h, List.append_assoc, List.cons_append]
    rcases List.append_inj' hlonger rfl with ⟨hbefore, hlast⟩
    cases List.singleton_inj.mp hlast
    exact Or.inr ⟨rest, hbefore, rfl⟩

namespace Entries

variable {α : Type}

inductive Event (α : Type) where
  | put (key : String) (value : α)
  | erased (key : String)

def Event.key : Event α -> String
  | put key _ => key
  | erased key => key

/-- The last that was done with the key was to put the value under it. -/
def Stored (history : List (Event α)) (key : String) (value : α) : Prop :=
  exists before after : List (Event α),
    history = before ++ Event.put key value :: after ∧
      forall event : Event α, event ∈ after -> event.key ≠ key

def Present (history : List (Event α)) (key : String) : Prop :=
  exists value : α, Stored history key value

/-- At a moment at which it was absent, the key was put, and it has not been erased since. -/
def Entered (history : List (Event α)) (key : String) (moment : Nat) : Prop :=
  exists (before after : List (Event α)) (value : α),
    history = before ++ Event.put key value :: after ∧ before.length = moment ∧
      ¬ Present before key ∧ Event.erased key ∉ after

/-!
### Histories that grow
-/

section Growing

variable {history : List (Event α)} {event : Event α} {key k : String} {value v : α}
  {moment : Nat}

theorem stored_snoc :
    Stored (history ++ [event]) key value <->
      event = Event.put key value ∨ event.key ≠ key ∧ Stored history key value := by
  constructor
  · rintro ⟨before, after, hsplit, hlater⟩
    rcases split_snoc hsplit with ⟨-, hlast, -⟩ | ⟨rest, hrest, rfl⟩
    · exact Or.inl hlast
    · refine Or.inr ⟨hlater event (List.mem_append_right rest (List.mem_singleton.mpr rfl)),
        before, rest, hrest, fun e hmem => ?_⟩
      exact hlater e (List.mem_append_left [event] hmem)
  · rintro (rfl | ⟨hne, before, after, rfl, hlater⟩)
    · exact ⟨history, [], rfl, fun e hmem => by cases hmem⟩
    · refine ⟨before, after ++ [event], by rw [List.append_assoc, List.cons_append], ?_⟩
      intro e hmem
      rcases List.mem_append.mp hmem with hmem | hmem
      · exact hlater e hmem
      · rw [List.mem_singleton.mp hmem]
        exact hne

theorem present_snoc_put : Present (history ++ [Event.put key value]) k <->
    key = k ∨ Present history k := by
  constructor
  · rintro ⟨v, hstored⟩
    rcases stored_snoc.mp hstored with heq | ⟨-, hstored⟩
    · cases heq
      exact Or.inl rfl
    · exact Or.inr ⟨v, hstored⟩
  · intro h
    by_cases hkey : key = k
    · rw [hkey]
      exact ⟨value, stored_snoc.mpr (Or.inl rfl)⟩
    · rcases h.resolve_left hkey with ⟨v, hstored⟩
      exact ⟨v, stored_snoc.mpr (Or.inr ⟨hkey, hstored⟩)⟩

theorem entered_snoc :
    Entered (history ++ [event]) key moment <->
      (exists value : α, event = Event.put key value ∧ history.length = moment ∧
        ¬ Present history key) ∨
        event ≠ Event.erased key ∧ Entered history key moment := by
  constructor
  · rintro ⟨before, after, value, hsplit, hmoment, habsent, hkept⟩
    rcases split_snoc hsplit with ⟨rfl, hlast, -⟩ | ⟨rest, hrest, rfl⟩
    · exact Or.inl ⟨value, hlast, hmoment, habsent⟩
    · refine Or.inr ⟨?_, before, rest, value, hrest, hmoment, habsent, ?_⟩
      · rintro rfl
        exact hkept (List.mem_append_right rest (List.mem_singleton.mpr rfl))
      · intro hmem
        exact hkept (List.mem_append_left [event] hmem)
  · rintro (⟨value, rfl, hmoment, habsent⟩ |
      ⟨hne, before, after, value, rfl, hmoment, habsent, hkept⟩)
    · exact ⟨history, [], value, rfl, hmoment, habsent, List.not_mem_nil⟩
    · refine ⟨before, after ++ [event], value, by rw [List.append_assoc, List.cons_append],
        hmoment, habsent, ?_⟩
      intro hmem
      rcases List.mem_append.mp hmem with hmem | hmem
      · exact hkept hmem
      · exact hne (List.mem_singleton.mp hmem).symm

theorem Entered.lt_length (h : Entered history key moment) : moment < history.length := by
  rcases h with ⟨before, after, value, rfl, rfl, -, -⟩
  rw [List.length_append, List.length_cons]
  exact Nat.lt_add_of_pos_right (Nat.succ_pos after.length)

theorem Entered.present (h : Entered history key moment) : Present history key := by
  induction history using List.reverseRecOn with
  | nil =>
      have hpast := h.lt_length
      exact absurd hpast (Nat.not_lt_zero moment)
  | append_singleton history event ih =>
      rcases entered_snoc.mp h with ⟨value, rfl, -, -⟩ | ⟨hne, hentered⟩
      · exact ⟨value, stored_snoc.mpr (Or.inl rfl)⟩
      · rcases ih hentered with ⟨value, hstored⟩
        cases event with
        | put k v => exact present_snoc_put.mpr (Or.inr ⟨value, hstored⟩)
        | erased k =>
            have hkey : k ≠ key := fun heq => hne (congrArg Event.erased heq)
            exact ⟨value, stored_snoc.mpr (Or.inr ⟨hkey, hstored⟩)⟩

theorem entered_snoc_put_of_present (h : Present history k) :
    Entered (history ++ [Event.put key value]) k moment <-> Entered history k moment := by
  rw [entered_snoc]
  constructor
  · rintro (⟨v, -, -, habsent⟩ | ⟨-, hentered⟩)
    · exact absurd h habsent
    · exact hentered
  · intro hentered
    exact Or.inr ⟨nofun, hentered⟩

theorem entered_snoc_put_of_absent (h : ¬ Present history key) :
    Entered (history ++ [Event.put key value]) key moment <-> moment = history.length := by
  rw [entered_snoc]
  constructor
  · rintro (⟨v, -, hmoment, -⟩ | ⟨-, hentered⟩)
    · exact hmoment.symm
    · exact absurd hentered.present h
  · intro hmoment
    exact Or.inl ⟨value, rfl, hmoment.symm, h⟩

theorem entered_snoc_erased (hne : key ≠ k) :
    Entered (history ++ [Event.erased key]) k moment <-> Entered history k moment := by
  rw [entered_snoc]
  constructor
  · rintro (⟨v, heq, -, -⟩ | ⟨-, hentered⟩)
    · cases heq
    · exact hentered
  · intro hentered
    exact Or.inr ⟨fun heq => hne (Event.erased.inj heq), hentered⟩

end Growing

/-!
### Entries with a history
-/

structure Told (history : List (Event α)) (entries : Entries α) : Prop where
  unique : Unique entries
  stored : forall (key : String) (value : α),
    get? entries key = some value <-> Stored history key value
  entered : forall key : String, key ∈ keys entries ->
    ∃! moment : Nat, Entered history key moment
  order : (keys entries).Pairwise fun first second => forall moment moment' : Nat,
    Entered history first moment -> Entered history second moment' -> moment < moment'

section Telling

variable {history history' : List (Event α)} {entries entries' : Entries α} {key : String}

theorem Told.present_iff (h : Told history entries) :
    Present history key <-> key ∈ keys entries := by
  rw [← isSome_get?_iff, Option.isSome_iff_exists]
  exact exists_congr fun value => (h.stored key value).symm

theorem told_nil : Told ([] : List (Event α)) [] := by
  constructor
  · exact unique_nil
  · intro key value
    constructor
    · intro hget
      cases hget
    · rintro ⟨before, after, hsplit, -⟩
      exact absurd hsplit.symm (List.append_ne_nil_of_right_ne_nil before (List.cons_ne_nil _ _))
  · intro key hmem
    cases hmem
  · exact List.Pairwise.nil

theorem Told.order_kept (h : Told history entries)
    (hkept : forall (k : String) (moment : Nat), k ∈ keys entries' ->
      (Entered history' k moment <-> Entered history k moment))
    (hkeys : (keys entries').Sublist (keys entries)) :
    (keys entries').Pairwise fun first second => forall moment moment' : Nat,
      Entered history' first moment -> Entered history' second moment' -> moment < moment' := by
  apply (h.order.sublist hkeys).imp_of_mem
  intro first second hfirst hsecond hbefore moment moment' hmoment hmoment'
  exact hbefore moment moment' ((hkept first moment hfirst).mp hmoment)
    ((hkept second moment' hsecond).mp hmoment')

theorem stored_snoc_put (h : Told history entries) (value : α) (k : String) (v : α) :
    get? (insert entries key value) k = some v <->
      Stored (history ++ [Event.put key value]) k v := by
  rw [stored_snoc]
  by_cases hkey : key = k
  · rw [hkey, get?_insert_self]
    constructor
    · intro heq
      cases heq
      exact Or.inl rfl
    · rintro (heq | ⟨hne, -⟩)
      · cases heq
        rfl
      · exact absurd rfl hne
  · rw [get?_insert_of_ne value hkey, h.stored]
    constructor
    · intro hstored
      exact Or.inr ⟨hkey, hstored⟩
    · rintro (heq | ⟨-, hstored⟩)
      · cases heq
        exact absurd rfl hkey
      · exact hstored

theorem Told.put_present (h : Told history entries) (hmem : key ∈ keys entries) (value : α) :
    Told (history ++ [Event.put key value]) (insert entries key value) := by
  have hkeys : keys (insert entries key value) = keys entries := by
    rw [insert_of_mem value h.unique hmem, keys_map]
  have hkept : forall (k : String) (moment : Nat), k ∈ keys entries ->
      (Entered (history ++ [Event.put key value]) k moment <-> Entered history k moment) := by
    intro k moment hk
    exact entered_snoc_put_of_present (h.present_iff.mpr hk)
  constructor
  · exact h.unique.insert key value
  · exact stored_snoc_put h value
  · intro k hk
    rw [hkeys] at hk
    rw [existsUnique_congr fun moment => hkept k moment hk]
    exact h.entered k hk
  · have horder := h.order_kept hkept (List.Sublist.refl _)
    rwa [← hkeys] at horder

theorem Told.put_absent (h : Told history entries) (hnot : key ∉ keys entries) (value : α) :
    Told (history ++ [Event.put key value]) (insert entries key value) := by
  have hkeys : keys (insert entries key value) = keys entries ++ [key] := by
    rw [insert_of_not_mem value hnot, keys_append]
    rfl
  have habsent : ¬ Present history key := fun hpresent => hnot (h.present_iff.mp hpresent)
  have hkept : forall (k : String) (moment : Nat), k ∈ keys entries ->
      (Entered (history ++ [Event.put key value]) k moment <-> Entered history k moment) := by
    intro k moment hk
    exact entered_snoc_put_of_present (h.present_iff.mpr hk)
  constructor
  · exact h.unique.insert key value
  · exact stored_snoc_put h value
  · intro k hk
    rw [hkeys] at hk
    rcases List.mem_append.mp hk with hk | hk
    · rw [existsUnique_congr fun moment => hkept k moment hk]
      exact h.entered k hk
    · rw [List.mem_singleton.mp hk, existsUnique_congr fun _ => entered_snoc_put_of_absent habsent]
      exact existsUnique_eq
  · rw [hkeys, List.pairwise_append]
    refine ⟨h.order_kept hkept (List.Sublist.refl _), List.pairwise_singleton _ _, ?_⟩
    intro first hfirst second hsecond moment moment' hmoment hmoment'
    rw [List.mem_singleton.mp hsecond, entered_snoc_put_of_absent habsent] at hmoment'
    rw [hmoment']
    exact ((hkept first moment hfirst).mp hmoment).lt_length

theorem Told.put (h : Told history entries) (key : String) (value : α) :
    Told (history ++ [Event.put key value]) (insert entries key value) := by
  by_cases hmem : key ∈ keys entries
  · exact h.put_present hmem value
  · exact h.put_absent hmem value

theorem Told.erased (h : Told history entries) (key : String) :
    Told (history ++ [Event.erased key]) (erase entries key) := by
  have hkeys := keys_erase h.unique key
  have hmem : forall k : String, k ∈ keys (erase entries key) -> k ∈ keys entries ∧ k ≠ key := by
    intro k hk
    rw [hkeys, List.mem_filter, decide_eq_true_eq] at hk
    exact hk
  have hkept : forall (k : String) (moment : Nat), k ∈ keys (erase entries key) ->
      (Entered (history ++ [Event.erased key]) k moment <-> Entered history k moment) := by
    intro k moment hk
    exact entered_snoc_erased (hmem k hk).right.symm
  constructor
  · exact h.unique.erase key
  · intro k v
    rw [stored_snoc]
    by_cases hkey : key = k
    · rw [hkey, get?_erase_self h.unique]
      constructor
      · intro heq
        cases heq
      · rintro (heq | ⟨hne, -⟩)
        · cases heq
        · exact absurd rfl hne
    · rw [get?_erase_of_ne hkey, h.stored]
      constructor
      · intro hstored
        exact Or.inr ⟨hkey, hstored⟩
      · rintro (heq | ⟨-, hstored⟩)
        · cases heq
        · exact hstored
  · intro k hk
    rw [existsUnique_congr fun moment => hkept k moment hk]
    exact h.entered k (hmem k hk).left
  · apply h.order_kept hkept
    rw [hkeys]
    exact List.filter_sublist

theorem Told.putAll (h : Told history entries) (pairs : List (String × α)) :
    Told (history ++ pairs.map fun pair => Event.put pair.1 pair.2)
      (pairs.foldl (fun entries pair => insert entries pair.1 pair.2) entries) := by
  induction pairs generalizing history entries with
  | nil =>
      rw [List.map_nil, List.append_nil]
      exact h
  | cons pair rest ih =>
      have hrest := ih (h.put pair.1 pair.2)
      rw [List.append_assoc] at hrest
      exact hrest

theorem told_ofList (pairs : List (String × α)) :
    Told (pairs.map fun pair => Event.put pair.1 pair.2) (ofList pairs) :=
  told_nil.putAll pairs

end Telling

end Entries
end Troupe
