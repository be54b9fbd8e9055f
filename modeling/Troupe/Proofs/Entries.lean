import Troupe.Entries

/-!
# Looking up and inserting entries

What the operations do, said through the keys and the values that are present.
-/

namespace Troupe
namespace Entries

variable {α : Type}

theorem get?_eq_none_iff {entries : Entries α} {key : String} :
    get? entries key = none <-> key ∉ keys entries := by
  induction entries with
  | nil => simp [get?, keys]
  | cons entry rest ih =>
      rcases entry with ⟨k, v⟩
      by_cases hk : k = key
      · simp [get?, keys, hk]
      · have hk' : key ≠ k := fun h => hk h.symm
        simpa [get?, keys, hk, hk'] using ih

theorem isSome_get?_iff {entries : Entries α} {key : String} :
    (get? entries key).isSome = true <-> key ∈ keys entries := by
  rw [Option.isSome_iff_ne_none, ne_eq, get?_eq_none_iff, Decidable.not_not]

theorem insert_of_not_mem {entries : Entries α} {key : String} (value : α)
    (h : key ∉ keys entries) : insert entries key value = entries ++ [(key, value)] := by
  induction entries with
  | nil => rfl
  | cons entry rest ih =>
      rcases entry with ⟨k, v⟩
      have hk : k ≠ key := fun hk => h (by simp [keys, hk])
      have hrest : key ∉ keys rest := fun hmem => h (List.mem_cons_of_mem _ hmem)
      rw [insert, if_neg hk, ih hrest, List.cons_append]

theorem keys_append (first second : Entries α) :
    keys (first ++ second) = keys first ++ keys second :=
  List.map_append

theorem not_mem_keys_of_unique_append {entries rest : Entries α} {key : String} {value : α}
    (h : Unique (entries ++ (key, value) :: rest)) : key ∉ keys entries := by
  intro hmem
  rw [Unique, keys_append, List.nodup_append] at h
  exact h.right.right key hmem key (by simp [keys]) rfl

/-!
## Values
-/

def values (entries : Entries α) : List α :=
  entries.map Prod.snd

theorem mem_of_get? {entries : Entries α} {key : String} {value : α}
    (h : get? entries key = some value) : (key, value) ∈ entries := by
  induction entries with
  | nil => cases h
  | cons entry rest ih =>
      rcases entry with ⟨k, v⟩
      rw [get?] at h
      split at h
      · next hkey =>
          cases h
          rw [hkey]
          exact List.mem_cons_self
      · exact List.mem_cons_of_mem _ (ih h)

theorem mem_values_of_get? {entries : Entries α} {key : String} {value : α}
    (h : get? entries key = some value) : value ∈ values entries :=
  List.mem_map_of_mem (mem_of_get? h)

theorem mem_values_insert {entries : Entries α} {key : String} {value v : α}
    (h : v ∈ values (insert entries key value)) : v ∈ values entries ∨ v = value := by
  induction entries with
  | nil => exact Or.inr (List.mem_singleton.mp h)
  | cons entry rest ih =>
      rcases entry with ⟨k, v'⟩
      rw [insert] at h
      split at h
      · rcases List.mem_cons.mp h with heq | hmem
        · exact Or.inr heq
        · exact Or.inl (List.mem_cons_of_mem _ hmem)
      · rcases List.mem_cons.mp h with heq | hmem
        · exact Or.inl (List.mem_cons.mpr (Or.inl heq))
        · rcases ih hmem with hrest | hnew
          · exact Or.inl (List.mem_cons_of_mem _ hrest)
          · exact Or.inr hnew

theorem mem_values_erase {entries : Entries α} {key : String} {v : α}
    (h : v ∈ values (erase entries key)) : v ∈ values entries := by
  induction entries with
  | nil => exact h
  | cons entry rest ih =>
      rcases entry with ⟨k, v'⟩
      rw [erase] at h
      split at h
      · exact List.mem_cons_of_mem _ h
      · rcases List.mem_cons.mp h with heq | hmem
        · exact List.mem_cons.mpr (Or.inl heq)
        · exact List.mem_cons_of_mem _ (ih hmem)

theorem mem_values_ofList {pairs : List (String × α)} {v : α}
    (h : v ∈ values (ofList pairs)) : v ∈ pairs.map Prod.snd := by
  have hfold : forall {pairs : List (String × α)} {entries : Entries α},
      v ∈ values (pairs.foldl (fun entries pair => insert entries pair.1 pair.2) entries) ->
        v ∈ values entries ∨ v ∈ pairs.map Prod.snd := by
    intro pairs
    induction pairs with
    | nil =>
        intro entries hmem
        exact Or.inl hmem
    | cons pair rest ih =>
        intro entries hmem
        rcases ih hmem with hmem | hrest
        · rcases mem_values_insert hmem with hold | hnew
          · exact Or.inl hold
          · exact Or.inr (List.mem_cons.mpr (Or.inl hnew))
        · exact Or.inr (List.mem_cons_of_mem _ hrest)
  rcases hfold h with hmem | hmem
  · cases hmem
  · exact hmem

theorem keys_map {β : Type} (f : String × α -> β) (entries : Entries α) :
    keys (entries.map fun entry => (entry.1, f entry)) = keys entries := by
  unfold keys
  rw [List.map_map]
  rfl

/-!
## Updates in place
-/

/-- Gives the entries that an update names its values, each in its place. -/
def overlay (entries updates : Entries α) : Entries α :=
  entries.map fun entry => (entry.1, (get? updates entry.1).getD entry.2)

/-- The values that an update displaces, under its names and in its order. -/
def displaced (default : α) (entries updates : Entries α) : Entries α :=
  updates.map fun update => (update.1, (get? entries update.1).getD default)

theorem get?_insert_self (entries : Entries α) (key : String) (value : α) :
    get? (insert entries key value) key = some value := by
  induction entries with
  | nil => exact if_pos rfl
  | cons entry rest ih =>
      rcases entry with ⟨k, v⟩
      rw [insert]
      split
      · next hkey => rw [get?, if_pos hkey]
      · next hkey => rw [get?, if_neg hkey, ih]

theorem get?_insert_of_ne {entries : Entries α} {key k : String} (value : α) (hne : key ≠ k) :
    get? (insert entries key value) k = get? entries k := by
  induction entries with
  | nil => simp [insert, get?, hne]
  | cons entry rest ih =>
      rcases entry with ⟨k', v⟩
      rw [insert]
      split
      · next hkey =>
          subst hkey
          simp [get?, hne]
      · rw [get?, get?, ih]

theorem get?_map {β : Type} (f : α -> β) (entries : Entries α) (key : String) :
    get? (entries.map fun entry => (entry.1, f entry.2)) key = (get? entries key).map f := by
  induction entries with
  | nil => rfl
  | cons entry rest ih =>
      rcases entry with ⟨k, v⟩
      rw [List.map_cons, get?, get?, ih]
      split <;> rfl

theorem insert_map {β : Type} (f : α -> β) (entries : Entries α) (key : String) (value : α) :
    (insert entries key value).map (fun entry => (entry.1, f entry.2)) =
      insert (entries.map fun entry => (entry.1, f entry.2)) key (f value) := by
  induction entries with
  | nil => rfl
  | cons entry rest ih =>
      rcases entry with ⟨k, v⟩
      rw [List.map_cons, insert, insert]
      split
      · rfl
      · rw [List.map_cons, ih]

theorem get?_of_mem {entries : Entries α} {entry : String × α} (h : Unique entries)
    (hmem : entry ∈ entries) : get? entries entry.1 = some entry.2 := by
  induction entries with
  | nil => cases hmem
  | cons first rest ih =>
      rcases first with ⟨k, v⟩
      have hnot : k ∉ keys rest := (List.nodup_cons.mp h).left
      rcases List.mem_cons.mp hmem with rfl | hrest
      · simp [get?]
      · have hne : k ≠ entry.1 := by
          intro heq
          exact hnot (heq ▸ List.mem_map_of_mem hrest)
        rw [get?, if_neg hne]
        exact ih (List.nodup_cons.mp h).right hrest

theorem get?_eq_some_iff {entries : Entries α} (h : Unique entries) {key : String} {value : α} :
    get? entries key = some value <-> (key, value) ∈ entries :=
  ⟨mem_of_get?, get?_of_mem h⟩

theorem get?_perm {entries others : Entries α} (h : Unique entries) (hperm : entries.Perm others)
    (key : String) : get? others key = get? entries key := by
  have hothers : Unique others := (hperm.map Prod.fst).nodup h
  apply Option.ext
  intro value
  rw [get?_eq_some_iff hothers, get?_eq_some_iff h, hperm.mem_iff]

theorem keys_overlay (entries updates : Entries α) :
    keys (overlay entries updates) = keys entries :=
  keys_map _ entries

theorem present_insert {entries rest : Entries α} {entry : String × α} (value : α)
    (h : forall key : String, key ∈ keys (entry :: rest) -> key ∈ keys entries) :
    forall key : String, key ∈ keys rest -> key ∈ keys (insert entries entry.1 value) := by
  intro key hmem
  exact mem_keys_insert.mpr (Or.inl (h key (List.mem_cons_of_mem _ hmem)))

theorem overlay_nil (entries : Entries α) : overlay entries [] = entries := by
  simp [overlay, get?]

theorem get?_map_keys {β : Type} (f : String -> β) (entries : Entries α) (key : String) :
    get? (entries.map fun entry => (entry.1, f entry.1)) key =
      (get? entries key).map fun _ => f key := by
  induction entries with
  | nil => rfl
  | cons entry rest ih =>
      rcases entry with ⟨k, v⟩
      rw [List.map_cons, get?, get?, ih]
      split
      · next hkey => rw [hkey, Option.map_some]
      · rfl

theorem insert_of_mem {entries : Entries α} {key : String} (value : α) (h : Unique entries)
    (hmem : key ∈ keys entries) :
    insert entries key value =
      entries.map fun entry => (entry.1, if entry.1 = key then value else entry.2) := by
  induction entries with
  | nil => cases hmem
  | cons entry rest ih =>
      rcases entry with ⟨k, v⟩
      have hnot : k ∉ keys rest := (List.nodup_cons.mp h).left
      rw [insert, List.map_cons]
      split
      · next hkey =>
          have hrest : forall entry : String × α, entry ∈ rest ->
              (entry.1, if entry.1 = key then value else entry.2) = entry := by
            intro entry hentry
            have hne : entry.1 ≠ key := by
              intro heq
              exact hnot (hkey ▸ heq ▸ List.mem_map_of_mem hentry)
            rw [if_neg hne]
          rw [List.map_congr_left hrest, List.map_id']
      · next hkey =>
          have hlater : key ∈ keys rest := by
            rcases List.mem_cons.mp hmem with heq | hlater
            · exact absurd heq.symm hkey
            · exact hlater
          rw [ih (List.nodup_cons.mp h).right hlater]

theorem overlay_cons {entries rest : Entries α} {key : String} {value : α} (h : Unique entries)
    (hmem : key ∈ keys entries) (hnot : key ∉ keys rest) :
    overlay entries ((key, value) :: rest) = overlay (insert entries key value) rest := by
  rw [insert_of_mem value h hmem, overlay, overlay, List.map_map]
  apply List.map_congr_left
  intro entry _
  have hnone : get? rest key = none := get?_eq_none_iff.mpr hnot
  by_cases hkey : key = entry.1
  · subst hkey
    simp [get?, hnone]
  · have hkey' : entry.1 ≠ key := fun heq => hkey heq.symm
    simp [get?, hkey, hkey']

theorem keys_displaced (default : α) (entries updates : Entries α) :
    keys (displaced default entries updates) = keys updates :=
  keys_map _ updates

theorem displaced_insert {entries updates : Entries α} {key : String} (default value : α)
    (hnot : key ∉ keys updates) :
    displaced default (insert entries key value) updates = displaced default entries updates := by
  apply List.map_congr_left
  intro update hmem
  have hne : key ≠ update.1 := by
    rintro rfl
    exact hnot (List.mem_map_of_mem hmem)
  rw [get?_insert_of_ne value hne]

/-- Putting the displaced values back undoes an update. -/
theorem overlay_displaced {entries updates : Entries α} (default : α) (h : Unique entries) :
    overlay (overlay entries updates) (displaced default entries updates) = entries := by
  have hback : forall entry : String × α, entry ∈ entries ->
      (entry.1, (get? (displaced default entries updates) entry.1).getD
        ((get? updates entry.1).getD entry.2)) = entry := by
    intro entry hmem
    rw [displaced, get?_map_keys fun key => (get? entries key).getD default, get?_of_mem h hmem]
    cases get? updates entry.1 <;> rfl
  rw [overlay, overlay, List.map_map]
  exact (List.map_congr_left hback).trans (List.map_id' entries)

/-!
## Erasing
-/

theorem keys_filter (p : String -> Bool) (entries : Entries α) :
    keys (entries.filter fun entry => p entry.1) = (keys entries).filter p := by
  rw [keys, keys, List.filter_map]
  rfl

theorem erase_of_not_mem {entries : Entries α} {key : String} (h : key ∉ keys entries) :
    erase entries key = entries := by
  induction entries with
  | nil => rfl
  | cons entry rest ih =>
      rcases entry with ⟨k, v⟩
      have hkey : k ≠ key := fun heq => h (by simp [keys, heq])
      rw [erase, if_neg hkey, ih fun hmem => h (List.mem_cons_of_mem _ hmem)]

theorem erase_eq_filter {entries : Entries α} (h : Unique entries) (key : String) :
    erase entries key = entries.filter fun entry => entry.1 ≠ key := by
  induction entries with
  | nil => rfl
  | cons entry rest ih =>
      rcases entry with ⟨k, v⟩
      have hnot : k ∉ keys rest := (List.nodup_cons.mp h).left
      have hrest := ih (List.nodup_cons.mp h).right
      rw [erase]
      split
      · next hkey =>
          rw [hkey] at hnot
          rw [erase_of_not_mem hnot] at hrest
          rw [List.filter_cons_of_neg (by simpa using hkey), ← hrest]
      · next hkey => rw [List.filter_cons_of_pos (by simpa using hkey), hrest]

theorem keys_erase {entries : Entries α} (h : Unique entries) (key : String) :
    keys (erase entries key) = (keys entries).filter fun k => k ≠ key := by
  rw [erase_eq_filter h, keys_filter fun k => decide (k ≠ key)]

theorem get?_erase_self {entries : Entries α} (h : Unique entries) (key : String) :
    get? (erase entries key) key = none := by
  rw [get?_eq_none_iff, keys_erase h, List.mem_filter]
  simp

theorem get?_erase_of_ne {entries : Entries α} {key k : String} (hne : key ≠ k) :
    get? (erase entries key) k = get? entries k := by
  induction entries with
  | nil => rfl
  | cons entry rest ih =>
      rcases entry with ⟨k', v⟩
      rw [erase]
      split
      · next hkey => rw [get?, if_neg (hkey ▸ hne)]
      · rw [get?, get?, ih]

/-!
## Several insertions
-/

theorem insert_insert_self (entries : Entries α) (key : String) (value value' : α) :
    insert (insert entries key value) key value' = insert entries key value' := by
  induction entries with
  | nil => exact if_pos rfl
  | cons entry rest ih =>
      rcases entry with ⟨k, v⟩
      by_cases hkey : k = key
      · simp [insert, hkey]
      · simp [insert, hkey, ih]

/-- Only the place of a new key depends on the order of the insertions. -/
theorem insert_comm_perm (entries : Entries α) {key other : String} (hne : key ≠ other)
    (value value' : α) :
    (insert (insert entries key value) other value').Perm
      (insert (insert entries other value') key value) := by
  induction entries with
  | nil =>
      simp only [insert, if_neg hne, if_neg hne.symm]
      exact List.Perm.swap ..
  | cons entry rest ih =>
      rcases entry with ⟨k, v⟩
      by_cases hkey : k = key
      · simp [insert, hkey, hne]
      · by_cases hother : k = other
        · simp [insert, hother, hne.symm]
        · simpa [insert, hkey, hother] using ih

theorem exists_split_of_get? {entries : Entries α} {key : String} {value : α}
    (h : get? entries key = some value) :
    exists front back : Entries α,
      entries = front ++ (key, value) :: back ∧ key ∉ keys front := by
  induction entries with
  | nil => cases h
  | cons entry rest ih =>
      rcases entry with ⟨k, v⟩
      by_cases hkey : k = key
      · rw [get?, if_pos hkey] at h
        cases h
        exact ⟨[], rest, by rw [hkey]; rfl, List.not_mem_nil⟩
      · rw [get?, if_neg hkey] at h
        rcases ih h with ⟨front, back, rfl, hnot⟩
        refine ⟨(k, v) :: front, back, rfl, fun hmem => ?_⟩
        rcases List.mem_cons.mp hmem with heq | hmem
        · exact hkey heq.symm
        · exact hnot hmem

theorem insert_append_cons {front : Entries α} {key : String} (hnot : key ∉ keys front)
    (back : Entries α) (value value' : α) :
    insert (front ++ (key, value) :: back) key value' = front ++ (key, value') :: back := by
  induction front with
  | nil => exact if_pos rfl
  | cons entry rest ih =>
      rcases entry with ⟨k, v⟩
      have hkey : k ≠ key := fun heq => hnot (List.mem_cons.mpr (Or.inl heq.symm))
      have hrest : key ∉ keys rest := fun hmem => hnot (List.mem_cons_of_mem _ hmem)
      rw [List.cons_append, insert, if_neg hkey, ih hrest, List.cons_append]

theorem insert_of_get? {entries : Entries α} {key : String} {value : α}
    (h : get? entries key = some value) : insert entries key value = entries := by
  rcases exists_split_of_get? h with ⟨front, back, rfl, hnot⟩
  exact insert_append_cons hnot back value value

theorem exists_insert_eq (entries : Entries α) (key : String) :
    exists front back : Entries α,
      forall value : α, insert entries key value = front ++ (key, value) :: back := by
  induction entries with
  | nil => exact ⟨[], [], fun _ => rfl⟩
  | cons entry rest ih =>
      rcases entry with ⟨k, v⟩
      by_cases hkey : k = key
      · exact ⟨[], rest, fun value => by rw [insert, if_pos hkey, hkey]; rfl⟩
      · rcases ih with ⟨front, back, hrest⟩
        refine ⟨(k, v) :: front, back, fun value => ?_⟩
        rw [insert, if_neg hkey, hrest, List.cons_append]

end Entries
end Troupe
