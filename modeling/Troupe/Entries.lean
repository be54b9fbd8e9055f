/-!
# Ordered dictionaries

Maps keep their entries in the order of first insertion and hold every key at
most once.  They are lists of pairs; the operations here are the only ones that
build such lists.

The main statement is that none of them can bring a key in twice.
-/

namespace Troupe

abbrev Entries (α : Type) := List (String × α)

namespace Entries

variable {α : Type}

def keys (entries : Entries α) : List String :=
  entries.map Prod.fst

def Unique (entries : Entries α) : Prop :=
  (keys entries).Nodup

def get? : Entries α -> String -> Option α
  | [], _ => none
  | (k, v) :: rest, key => if k = key then some v else get? rest key

/-- Replaces the value of a present key in its place and appends a new one. -/
def insert : Entries α -> String -> α -> Entries α
  | [], key, value => [(key, value)]
  | (k, v) :: rest, key, value =>
      if k = key then (k, value) :: rest else (k, v) :: insert rest key value

def erase : Entries α -> String -> Entries α
  | [], _ => []
  | (k, v) :: rest, key => if k = key then rest else (k, v) :: erase rest key

/-- A repeated key replaces the earlier value and keeps the earlier place. -/
def ofList (pairs : List (String × α)) : Entries α :=
  pairs.foldl (fun entries pair => insert entries pair.1 pair.2) []

/-!
## Keys stay unique
-/

theorem mem_keys_insert {entries : Entries α} {key k : String} {value : α} :
    k ∈ keys (insert entries key value) <-> k ∈ keys entries ∨ k = key := by
  induction entries with
  | nil => simp [insert, keys]
  | cons entry rest ih =>
      rcases entry with ⟨k', v'⟩
      by_cases h : k' = key
      · subst h
        simp only [insert, keys, if_true, List.map_cons, List.mem_cons]
        constructor
        · intro hk
          exact Or.inl hk
        · intro hk
          rcases hk with hk | hk
          · exact hk
          · exact Or.inl hk
      · have ih' : k ∈ (insert rest key value).map Prod.fst <->
            k ∈ rest.map Prod.fst ∨ k = key := ih
        simp only [insert, keys, h, if_false, List.map_cons, List.mem_cons, ih']
        exact or_assoc.symm

theorem mem_keys_of_mem_keys_erase {entries : Entries α} {key k : String}
    (h : k ∈ keys (erase entries key)) : k ∈ keys entries := by
  induction entries with
  | nil => simp [erase, keys] at h
  | cons entry rest ih =>
      rcases entry with ⟨k', v'⟩
      by_cases hk : k' = key
      · simp only [erase, hk, if_true] at h
        exact List.mem_cons_of_mem _ h
      · simp only [erase, hk, if_false, keys, List.map_cons, List.mem_cons] at h
        rcases h with h | h
        · simp [keys, h]
        · exact List.mem_cons_of_mem _ (ih h)

theorem unique_nil : Unique ([] : Entries α) :=
  List.nodup_nil

theorem Unique.insert {entries : Entries α} (h : Unique entries) (key : String) (value : α) :
    Unique (Entries.insert entries key value) := by
  induction entries with
  | nil => simp [Entries.insert, Unique, keys]
  | cons entry rest ih =>
      rcases entry with ⟨k', v'⟩
      have hrest : Unique rest := (List.nodup_cons.mp h).right
      have hnot : k' ∉ keys rest := (List.nodup_cons.mp h).left
      by_cases hk : k' = key
      · simpa [Entries.insert, hk, Unique, keys] using h
      · have hmem : k' ∉ keys (Entries.insert rest key value) := by
          intro hin
          rcases mem_keys_insert.mp hin with hin | hin
          · exact hnot hin
          · exact hk hin
        simp only [Entries.insert, hk, if_false]
        exact List.nodup_cons.mpr ⟨hmem, ih hrest⟩

theorem Unique.erase {entries : Entries α} (h : Unique entries) (key : String) :
    Unique (Entries.erase entries key) := by
  induction entries with
  | nil => exact unique_nil
  | cons entry rest ih =>
      rcases entry with ⟨k', v'⟩
      have hrest : Unique rest := (List.nodup_cons.mp h).right
      have hnot : k' ∉ keys rest := (List.nodup_cons.mp h).left
      by_cases hk : k' = key
      · simpa [Entries.erase, hk] using hrest
      · simp only [Entries.erase, hk, if_false]
        exact List.nodup_cons.mpr
          ⟨fun hin => hnot (mem_keys_of_mem_keys_erase hin), ih hrest⟩

theorem unique_foldl_insert (pairs : List (String × α)) {entries : Entries α}
    (h : Unique entries) :
    Unique (pairs.foldl (fun entries pair => insert entries pair.1 pair.2) entries) := by
  induction pairs generalizing entries with
  | nil => exact h
  | cons pair rest ih => exact ih (h.insert pair.1 pair.2)

theorem unique_ofList (pairs : List (String × α)) : Unique (ofList pairs) :=
  unique_foldl_insert pairs unique_nil

end Entries
end Troupe
