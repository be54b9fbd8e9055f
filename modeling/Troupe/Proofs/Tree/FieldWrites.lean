import Troupe.Proofs.Entries
import Troupe.Store.Access

/-!
# Writes into trees along names

What a write does to the tree that a value shows.  A null counts as a map without entries,
and the entries on the way that are missing are made; an array or another leaf on the way is
a refusal.

## Independent writes

Two writes whose names part somewhere go on in different entries from there on.  Above that
both go through the same entries, which either of them may have to make; but what the one
makes is a map, and the other one would have taken a null for a map as well.
-/

namespace Troupe
namespace Tree

/-- The entries among which a write looks for a name. -/
def fields (name : String) : Tree -> Except AccessFault (Entries Tree)
  | null => .ok []
  | map entries => .ok entries
  | array _ => .error (AccessFault.fieldOfArray name)
  | leaf => .error (AccessFault.noContainer leaf.kind (Key.field name))

def put : List String -> Tree -> Tree -> Except AccessFault Tree
  | [], _, value => .ok value
  | name :: rest, t, value =>
      match t.fields name with
      | .error fault => .error fault
      | .ok entries =>
          (put rest ((Entries.get? entries name).getD null) value).map fun child =>
            map (Entries.insert entries name child)

def write (t : Tree) (names : List String) (value : Tree) : Except AccessFault Unit × Tree :=
  match put names t value with
  | .ok t' => (.ok (), t')
  | .error fault => (.error fault, t)

/-- Trees that differ at most in the order of entries, in any of their maps. -/
inductive Reordered : Tree -> Tree -> Prop where
  | refl (t : Tree) : Reordered t t
  | trans {t u v : Tree} : Reordered t u -> Reordered u v -> Reordered t v
  | entries {es fs : Entries Tree} : es.Perm fs -> Reordered (map es) (map fs)
  | entry {front back : Entries Tree} {name : String} {t u : Tree} : Reordered t u ->
      Reordered (map (front ++ (name, t) :: back)) (map (front ++ (name, u) :: back))
  | item {front back : List Tree} {t u : Tree} : Reordered t u ->
      Reordered (array (front ++ t :: back)) (array (front ++ u :: back))

/-!
## Single writes
-/

section Writing

variable {t u value : Tree} {name : String} {rest names : List String}
  {entries : Entries Tree} {fault : AccessFault}

theorem fields_eq_ok (h : t.fields name = .ok entries) (other : String) :
    t.fields other = .ok entries := by
  cases t with
  | null => exact h
  | map es => exact h
  | _ => cases h

theorem put_cons (h : t.fields name = .ok entries) :
    put (name :: rest) t value =
      (put rest ((Entries.get? entries name).getD null) value).map fun child =>
        map (Entries.insert entries name child) := by
  rw [put, h]

theorem put_cons_eq_ok_iff :
    put (name :: rest) t value = .ok u <->
      exists (entries : Entries Tree) (child : Tree), t.fields name = .ok entries ∧
        put rest ((Entries.get? entries name).getD null) value = .ok child ∧
          map (Entries.insert entries name child) = u := by
  cases hfields : t.fields name with
  | error fault => simp [put, hfields]
  | ok entries =>
      rw [put_cons hfields]
      cases hput : put rest ((Entries.get? entries name).getD null) value with
      | error fault => simp [Except.map, hput]
      | ok child => simp [Except.map, hput]

theorem put_cons_eq_error_iff (h : t.fields name = .ok entries) :
    put (name :: rest) t value = .error fault <->
      put rest ((Entries.get? entries name).getD null) value = .error fault := by
  rw [put_cons h]
  cases put rest ((Entries.get? entries name).getD null) value with
  | error fault => simp [Except.map]
  | ok child => simp [Except.map]

theorem write_of_ok (h : put names t value = .ok u) : t.write names value = (.ok (), u) := by
  rw [write, h]

theorem write_of_error (h : put names t value = .error fault) :
    t.write names value = (.error fault, t) := by
  rw [write, h]

theorem exists_put_null (names : List String) (value : Tree) :
    exists t : Tree, put names null value = .ok t := by
  induction names with
  | nil => exact ⟨value, rfl⟩
  | cons name rest ih =>
      rcases ih with ⟨child, hchild⟩
      exact ⟨_, put_cons_eq_ok_iff.mpr ⟨[], child, rfl, hchild, rfl⟩⟩

end Writing

/-!
## Two writes
-/

section Independence

variable {t t₁ t₂ t₁₂ t₂₁ a b : Tree} {p q : List String}

theorem put_eq_error_iff (hpq : ¬ p <+: q) (hqp : ¬ q <+: p) (hput : put p t a = .ok t₁)
    (fault : AccessFault) : put q t₁ b = .error fault <-> put q t b = .error fault := by
  induction p generalizing q t t₁ with
  | nil => exact absurd List.nil_prefix hpq
  | cons n p ih =>
      cases q with
      | nil => exact absurd List.nil_prefix hqp
      | cons m q =>
          rcases put_cons_eq_ok_iff.mp hput with ⟨entries, child, hfields, hchild, rfl⟩
          rw [put_cons_eq_error_iff (t := map (Entries.insert entries n child)) rfl,
            put_cons_eq_error_iff (fields_eq_ok hfields m)]
          by_cases hname : n = m
          · subst hname
            rw [List.cons_prefix_cons, not_and] at hpq hqp
            rw [Entries.get?_insert_self]
            exact ih (hpq rfl) (hqp rfl) hchild
          · rw [Entries.get?_insert_of_ne child hname]

theorem put_eq_ok (hpq : ¬ p <+: q) (hqp : ¬ q <+: p) (h₁ : put p t a = .ok t₁)
    (h₂ : put q t b = .ok t₂) : exists t₁₂ : Tree, put q t₁ b = .ok t₁₂ := by
  cases h : put q t₁ b with
  | error fault =>
      rw [(put_eq_error_iff hpq hqp h₁ fault).mp h] at h₂
      cases h₂
  | ok t₁₂ => exact ⟨t₁₂, rfl⟩

theorem put_comm (hpq : ¬ p <+: q) (hqp : ¬ q <+: p) (h₁ : put p t a = .ok t₁)
    (h₂ : put q t b = .ok t₂) (h₁₂ : put q t₁ b = .ok t₁₂) (h₂₁ : put p t₂ a = .ok t₂₁) :
    Reordered t₁₂ t₂₁ := by
  induction p generalizing q t t₁ t₂ t₁₂ t₂₁ with
  | nil => exact absurd List.nil_prefix hpq
  | cons n p ih =>
      cases q with
      | nil => exact absurd List.nil_prefix hqp
      | cons m q =>
          rcases put_cons_eq_ok_iff.mp h₁ with ⟨entries, child₁, hfields, hchild₁, rfl⟩
          rcases put_cons_eq_ok_iff.mp h₂ with ⟨entries', child₂, hfields', hchild₂, rfl⟩
          cases hfields'.symm.trans (fields_eq_ok hfields m)
          rcases put_cons_eq_ok_iff.mp h₁₂ with ⟨entries₁, child₁₂, hfields₁, hchild₁₂, rfl⟩
          cases hfields₁
          rcases put_cons_eq_ok_iff.mp h₂₁ with ⟨entries₂, child₂₁, hfields₂, hchild₂₁, rfl⟩
          cases hfields₂
          by_cases hname : n = m
          · subst hname
            rw [List.cons_prefix_cons, not_and] at hpq hqp
            rw [Entries.get?_insert_self] at hchild₁₂ hchild₂₁
            rcases Entries.exists_insert_eq entries n with ⟨front, back, hinsert⟩
            rw [Entries.insert_insert_self, Entries.insert_insert_self, hinsert, hinsert]
            exact Reordered.entry (ih (hpq rfl) (hqp rfl) hchild₁ hchild₂ hchild₁₂ hchild₂₁)
          · rw [Entries.get?_insert_of_ne _ hname] at hchild₁₂
            rw [Entries.get?_insert_of_ne _ (Ne.symm hname)] at hchild₂₁
            cases hchild₁₂.symm.trans hchild₂
            cases hchild₂₁.symm.trans hchild₁
            exact Reordered.entries (Entries.insert_comm_perm entries hname _ _)

/-- Independent writes have the same outcomes in either order, and differ at most in which
of the new entries comes first. -/
theorem write_comm (t a b : Tree) (hpq : ¬ p <+: q) (hqp : ¬ q <+: p) :
    ((t.write q b).2.write p a).1 = (t.write p a).1 ∧
      ((t.write p a).2.write q b).1 = (t.write q b).1 ∧
        Reordered ((t.write p a).2.write q b).2 ((t.write q b).2.write p a).2 := by
  cases h₁ : put p t a with
  | error fault =>
      cases h₂ : put q t b with
      | error fault' =>
          simp only [write_of_error h₁, write_of_error h₂]
          exact ⟨trivial, trivial, Reordered.refl t⟩
      | ok t₂ =>
          have h₂₁ := (put_eq_error_iff hqp hpq h₂ fault).mpr h₁
          simp only [write_of_error h₁, write_of_ok h₂, write_of_error h₂₁]
          exact ⟨trivial, trivial, Reordered.refl t₂⟩
  | ok t₁ =>
      cases h₂ : put q t b with
      | error fault =>
          have h₁₂ := (put_eq_error_iff hpq hqp h₁ fault).mpr h₂
          simp only [write_of_ok h₁, write_of_error h₂, write_of_error h₁₂]
          exact ⟨trivial, trivial, Reordered.refl t₁⟩
      | ok t₂ =>
          rcases put_eq_ok hpq hqp h₁ h₂ with ⟨t₁₂, h₁₂⟩
          rcases put_eq_ok hqp hpq h₂ h₁ with ⟨t₂₁, h₂₁⟩
          simp only [write_of_ok h₁, write_of_ok h₂, write_of_ok h₁₂, write_of_ok h₂₁]
          exact ⟨trivial, trivial, put_comm hpq hqp h₁ h₂ h₁₂ h₂₁⟩

end Independence

end Tree
end Troupe
