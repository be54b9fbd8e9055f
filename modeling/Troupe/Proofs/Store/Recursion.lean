import Troupe.Json.Text
import Troupe.Proofs.Entries
import Troupe.Proofs.Store.Sound

/-!
# Recursion over stores

Freezing, copying, searching and comparing follow children, and the number of
nodes bounds how often.  In a sound store the bound is never met: no path is
longer than there are nodes, so each of them is the plain recursion over children
and would be without any bound.
-/

namespace Troupe
namespace Store

open Relation

/-!
## Path lengths
-/

/-- The paths that lead down from a node visit fewer than that many others. -/
def Within (s : Store) : Nat -> Handle -> Prop
  | 0, _ => False
  | n + 1, h => forall child : Handle, s.Child h child -> Within s n child

theorem Sound.within {s : Store} (hs : s.Sound) {h : Handle} (hsize : h < s.size) :
    s.Within s.size h := by
  classical
  have hbelow : forall (n : Nat) (h : Handle), h < s.size ->
      ((Finset.range s.size).filter (s.Reach h)).card ≤ n -> s.Within n h := by
    intro n
    induction n with
    | zero =>
        intro h hsize hcard
        have hself : h ∈ (Finset.range s.size).filter (s.Reach h) :=
          Finset.mem_filter.mpr ⟨Finset.mem_range.mpr hsize, ReflTransGen.refl⟩
        exact absurd (Finset.card_pos.mpr ⟨h, hself⟩) (Nat.not_lt.mpr hcard)
    | succ n ih =>
        intro h hsize hcard child hchild
        have hsubset : (Finset.range s.size).filter (s.Reach child) ⊂
            (Finset.range s.size).filter (s.Reach h) := by
          refine (Finset.ssubset_iff_of_subset ?_).mpr ⟨h, ?_, ?_⟩
          · intro x hx
            rcases Finset.mem_filter.mp hx with ⟨hrange, hreach⟩
            exact Finset.mem_filter.mpr ⟨hrange, ReflTransGen.head hchild hreach⟩
          · exact Finset.mem_filter.mpr ⟨Finset.mem_range.mpr hsize, ReflTransGen.refl⟩
          · intro hself
            exact hs.not_reach_parent hchild (Finset.mem_filter.mp hself).right
        have hfewer := Finset.card_lt_card hsubset
        exact ih child (hs.closed h child hchild) (Nat.le_of_lt_succ (hfewer.trans_le hcard))
  apply hbelow s.size h hsize
  calc ((Finset.range s.size).filter (s.Reach h)).card
      ≤ (Finset.range s.size).card := Finset.card_filter_le _ _
    _ = s.size := Finset.card_range _

section Fixed

variable {β : Type} {s : Store} {run : Nat -> Handle -> β}
  {body : (Handle -> β) -> Handle -> β}

/-- A bounded recursion that looks only at children does not change once the
bound is long enough. -/
theorem Within.stable
    (hsucc : forall (n : Nat) (h : Handle), run (n + 1) h = body (run n) h)
    (hbody : forall (f g : Handle -> β) (h : Handle),
      (forall child : Handle, s.Child h child -> f child = g child) -> body f h = body g h)
    {n m : Nat} {h : Handle} (hwithin : s.Within n h) (hle : n ≤ m) : run m h = run n h := by
  induction n generalizing m h with
  | zero => exact hwithin.elim
  | succ n ih =>
      cases m with
      | zero => exact absurd hle (Nat.not_succ_le_zero n)
      | succ m =>
          rw [hsucc, hsucc]
          apply hbody
          intro child hchild
          exact ih (hwithin child hchild) (Nat.le_of_succ_le_succ hle)

theorem Sound.run_eq (hs : s.Sound)
    (hsucc : forall (n : Nat) (h : Handle), run (n + 1) h = body (run n) h)
    (hbody : forall (f g : Handle -> β) (h : Handle),
      (forall child : Handle, s.Child h child -> f child = g child) -> body f h = body g h)
    {h : Handle} (hsize : h < s.size) : run s.size h = body (run s.size) h := by
  rcases Nat.exists_eq_succ_of_ne_zero (Nat.ne_zero_of_lt hsize) with ⟨n, hn⟩
  have hwithin : s.Within (n + 1) h := by
    have hall := hs.within hsize
    rwa [hn] at hall
  calc run s.size h = run (n + 1) h := by rw [hn]
    _ = body (run n) h := hsucc n h
    _ = body (run s.size) h := by
        apply hbody
        intro child hchild
        have hle : n ≤ s.size := by
          rw [hn]
          exact Nat.le_succ n
        exact (Within.stable hsucc hbody (hwithin child hchild) hle).symm

end Fixed

/-!
## Freezing
-/

def freezeNode (child : Handle -> Tree) : Node -> Tree
  | Node.null => Tree.null
  | Node.bool b => Tree.bool b
  | Node.integer i => Tree.integer i
  | Node.float x => Tree.float x
  | Node.string t => Tree.string t
  | Node.bytes b => Tree.bytes b
  | Node.map entries => Tree.map (entries.map fun entry => (entry.1, child entry.2))
  | Node.array items => Tree.array (items.map child)

theorem freezeNode_congr {f g : Handle -> Tree} {n : Node}
    (h : forall child : Handle, child ∈ n.children -> f child = g child) :
    freezeNode f n = freezeNode g n := by
  cases n with
  | map entries =>
      refine congrArg Tree.map (List.map_congr_left ?_)
      intro entry hentry
      rw [h entry.2 (List.mem_map_of_mem hentry)]
  | array items => exact congrArg Tree.array (List.map_congr_left h)
  | _ => rfl

theorem freezeWith_succ (s : Store) (n : Nat) (h : Handle) :
    freezeWith s (n + 1) h = freezeNode (freezeWith s n) (s.node h) := by
  rw [freezeWith]
  cases s.node h <;> rfl

theorem Sound.freeze_eq {s : Store} (hs : s.Sound) {h : Handle} (hsize : h < s.size) :
    s.freeze h = freezeNode s.freeze (s.node h) := by
  have hbody : forall (f g : Handle -> Tree) (h : Handle),
      (forall child : Handle, s.Child h child -> f child = g child) ->
        freezeNode f (s.node h) = freezeNode g (s.node h) := by
    intro f g h hsame
    exact freezeNode_congr hsame
  exact hs.run_eq (freezeWith_succ s) hbody hsize

/-!
## Text

Text is written from the document of the tree shown; the document of a node is
made of those of its children.
-/

def nodeDocument (child : Handle -> Json) : Node -> Json
  | Node.null => Json.null
  | Node.bool b => Json.bool b
  | Node.integer i => Json.ofInt64 i
  | Node.float x => if x.isFinite then Json.number (JsonNumber.real x) else Json.null
  | Node.string t => Json.string t
  | Node.bytes b => Json.string (Text.base64 b)
  | Node.map entries => Json.object (entries.map fun entry => (entry.1, child entry.2))
  | Node.array items => Json.array (items.map child)

theorem toJsonItems_eq_map (items : List Tree) :
    Tree.toJsonItems items = items.map Tree.toJson := by
  induction items with
  | nil => rfl
  | cons t rest ih => rw [Tree.toJsonItems, ih, List.map_cons]

theorem toJsonEntries_eq_map (entries : List (String × Tree)) :
    Tree.toJsonEntries entries = entries.map fun entry => (entry.1, entry.2.toJson) := by
  induction entries with
  | nil => rfl
  | cons entry rest ih => rw [Tree.toJsonEntries, ih, List.map_cons]

theorem toJson_freezeNode (child : Handle -> Tree) (n : Node) :
    (freezeNode child n).toJson = nodeDocument (fun h => (child h).toJson) n := by
  cases n with
  | map entries =>
      simp only [freezeNode, nodeDocument, Tree.toJson, toJsonEntries_eq_map, List.map_map]
      rfl
  | array items =>
      simp only [freezeNode, nodeDocument, Tree.toJson, toJsonItems_eq_map, List.map_map]
      rfl
  | _ => simp only [freezeNode, nodeDocument, Tree.toJson]

theorem Sound.document_eq {s : Store} (hs : s.Sound) {h : Handle} (hsize : h < s.size) :
    (s.freeze h).toJson = nodeDocument (fun h => (s.freeze h).toJson) (s.node h) := by
  rw [hs.freeze_eq hsize, toJson_freezeNode]

/-!
## Searching
-/

theorem reach_of_reachesWith {s : Store} {n : Nat} {h target : Handle}
    (hfound : s.reachesWith n h target = true) : s.Reach h target := by
  induction n generalizing h with
  | zero => cases hfound
  | succ n ih =>
      rw [reachesWith, Bool.or_eq_true, beq_iff_eq, List.any_eq_true] at hfound
      rcases hfound with heq | ⟨child, hchild, hbelow⟩
      · rw [heq]
        exact ReflTransGen.refl
      · exact ReflTransGen.head hchild (ih hbelow)

theorem reachesWith_of_reach {s : Store} {n : Nat} {h target : Handle}
    (hwithin : s.Within n h) (hreach : s.Reach h target) :
    s.reachesWith n h target = true := by
  induction n generalizing h with
  | zero => exact hwithin.elim
  | succ n ih =>
      rw [reachesWith, Bool.or_eq_true, beq_iff_eq, List.any_eq_true]
      rcases hreach.cases_head with heq | ⟨child, hchild, hbelow⟩
      · exact Or.inl heq
      · exact Or.inr ⟨child, hchild, ih (hwithin child hchild) hbelow⟩

/-- The search finds exactly what is there. -/
theorem Sound.reaches_iff {s : Store} (hs : s.Sound) {h : Handle} (hsize : h < s.size)
    (target : Handle) : s.reaches h target = true <-> s.Reach h target := by
  constructor
  · exact reach_of_reachesWith
  · exact reachesWith_of_reach (hs.within hsize)

theorem Sound.reaches_eq {s : Store} (hs : s.Sound) {h : Handle} (hsize : h < s.size)
    (target : Handle) :
    s.reaches h target =
      (h == target || (s.children h).any fun child => s.reaches child target) := by
  rw [Bool.eq_iff_iff, hs.reaches_iff hsize, Bool.or_eq_true, beq_iff_eq, List.any_eq_true]
  constructor
  · intro hreach
    rcases hreach.cases_head with heq | ⟨child, hchild, hbelow⟩
    · exact Or.inl heq
    · have hbelow' := (hs.reaches_iff (hs.closed h child hchild) target).mpr hbelow
      exact Or.inr ⟨child, hchild, hbelow'⟩
  · rintro (heq | ⟨child, hchild, hbelow⟩)
    · rw [heq]
      exact ReflTransGen.refl
    · have hbelow' := (hs.reaches_iff (hs.closed h child hchild) target).mp hbelow
      exact ReflTransGen.head hchild hbelow'

/-!
## Comparing
-/

def equalNodes (eq : Handle -> Handle -> Bool) : Node -> Node -> Bool
  | Node.null, Node.null => true
  | Node.bool x, Node.bool y => x == y
  | Node.integer x, Node.integer y => x == y
  | Node.float x, Node.float y => x.equal y
  | Node.string x, Node.string y => x == y
  | Node.bytes x, Node.bytes y => x == y
  | Node.array xs, Node.array ys => equalItems eq xs ys
  | Node.map es, Node.map fs => es.length == fs.length && equalEntries eq es fs
  | _, _ => false

theorem equalItems_congr {f g : Handle -> Handle -> Bool} {xs ys : List Handle}
    (h : forall x : Handle, x ∈ xs -> forall y : Handle, y ∈ ys -> f x y = g x y) :
    equalItems f xs ys = equalItems g xs ys := by
  induction xs generalizing ys with
  | nil => cases ys <;> rfl
  | cons x xs ih =>
      cases ys with
      | nil => rfl
      | cons y ys =>
          have hrest : equalItems f xs ys = equalItems g xs ys := ih fun x hx y hy =>
            h x (List.mem_cons_of_mem _ hx) y (List.mem_cons_of_mem _ hy)
          rw [equalItems, equalItems, h x List.mem_cons_self y List.mem_cons_self, hrest]

theorem equalEntries_congr {f g : Handle -> Handle -> Bool} {es fs : Entries Handle}
    (h : forall c : Handle, c ∈ Entries.values es -> forall d : Handle,
      d ∈ Entries.values fs -> f c d = g c d) : equalEntries f es fs = equalEntries g es fs := by
  have hsame : forall entry : String × Handle, entry ∈ es ->
      (Entries.get? fs entry.1).any (f entry.2) = (Entries.get? fs entry.1).any (g entry.2) := by
    intro entry hentry
    cases hfound : Entries.get? fs entry.1 with
    | none => rfl
    | some d => exact h entry.2 (List.mem_map_of_mem hentry) d (Entries.mem_values_of_get? hfound)
  unfold equalEntries
  rw [Bool.eq_iff_iff, List.all_eq_true, List.all_eq_true]
  constructor
  · intro hall entry hentry
    rw [← hsame entry hentry]
    exact hall entry hentry
  · intro hall entry hentry
    rw [hsame entry hentry]
    exact hall entry hentry

theorem equalNodes_congr {f g : Handle -> Handle -> Bool} {n n' : Node}
    (h : forall c : Handle, c ∈ n.children -> forall d : Handle, d ∈ n'.children ->
      f c d = g c d) : equalNodes f n n' = equalNodes g n n' := by
  cases n with
  | array xs =>
      cases n' with
      | array ys => exact equalItems_congr h
      | _ => rfl
  | map es =>
      cases n' with
      | map fs => rw [equalNodes, equalNodes, equalEntries_congr h]
      | _ => rfl
  | _ => cases n' <;> rfl

theorem equalWith_succ (s : Store) (n : Nat) (a b : Handle) :
    equalWith s (n + 1) a b = (a == b || equalNodes (equalWith s n) (s.node a) (s.node b)) := by
  rw [equalWith]
  cases s.node a <;> cases s.node b <;> rfl

theorem Sound.equal_eq {s : Store} (hs : s.Sound) {a : Handle} (hsize : a < s.size)
    (b : Handle) : s.equal a b = (a == b || equalNodes s.equal (s.node a) (s.node b)) := by
  have hsucc : forall (n : Nat) (a : Handle), equalWith s (n + 1) a =
      fun b => a == b || equalNodes (equalWith s n) (s.node a) (s.node b) := by
    intro n a
    exact funext (equalWith_succ s n a)
  have hbody : forall (f g : Handle -> Handle -> Bool) (a : Handle),
      (forall child : Handle, s.Child a child -> f child = g child) ->
        (fun b => a == b || equalNodes f (s.node a) (s.node b)) =
          fun b => a == b || equalNodes g (s.node a) (s.node b) := by
    intro f g a hsame
    funext b
    rw [equalNodes_congr fun c hc d _ => congrFun (hsame c hc) d]
  exact congrFun (hs.run_eq hsucc hbody hsize) b

/-!
## Copying

The store grows while a node is copied, so the nodes below are looked up in later
stores than the node itself.
-/

def cloneNode (copy : Store -> Handle -> Handle × Store) (s : Store) : Node -> Handle × Store
  | Node.map entries =>
      let (cs, s) := copyAll copy s (entries.map Prod.snd)
      s.alloc (Node.map ((entries.map Prod.fst).zip cs))
  | Node.array items =>
      let (cs, s) := copyAll copy s items
      s.alloc (Node.array cs)
  | leaf => s.alloc leaf

theorem copyAll_cons (copy : Store -> Handle -> Handle × Store) (s : Store) (h : Handle)
    (rest : List Handle) :
    copyAll copy s (h :: rest) =
      ((copy s h).1 :: (copyAll copy (copy s h).2 rest).1,
        (copyAll copy (copy s h).2 rest).2) := by
  rfl

theorem grows_copyAll {copy : Store -> Handle -> Handle × Store}
    (hcopy : forall (s : Store) (h : Handle), s.Grows (copy s h).2) (s : Store)
    (hs : List Handle) : s.Grows (copyAll copy s hs).2 := by
  induction hs generalizing s with
  | nil => exact Grows.refl s
  | cons h rest ih =>
      rw [copyAll_cons]
      exact (hcopy s h).trans (ih (copy s h).2)

theorem grows_cloneNode {copy : Store -> Handle -> Handle × Store}
    (hcopy : forall (s : Store) (h : Handle), s.Grows (copy s h).2) (s : Store) (n : Node) :
    s.Grows (cloneNode copy s n).2 := by
  cases n with
  | map entries => exact (grows_copyAll hcopy s _).trans (grows_alloc _ _)
  | array items => exact (grows_copyAll hcopy s _).trans (grows_alloc _ _)
  | _ => exact grows_alloc _ _

theorem copyAll_congr {copy copy' : Store -> Handle -> Handle × Store} {s : Store}
    {hs : List Handle}
    (hcopy : forall (s : Store) (h : Handle), s.Grows (copy s h).2)
    (hsame : forall s' : Store, s.Grows s' ->
      forall h : Handle, h ∈ hs -> copy s' h = copy' s' h) :
    copyAll copy s hs = copyAll copy' s hs := by
  induction hs generalizing s with
  | nil => rfl
  | cons h rest ih =>
      have hrest : copyAll copy (copy s h).2 rest = copyAll copy' (copy s h).2 rest := by
        apply ih
        intro s' hgrows h' hmem
        exact hsame s' ((hcopy s h).trans hgrows) h' (List.mem_cons_of_mem _ hmem)
      rw [copyAll_cons, copyAll_cons, hrest, hsame s (Grows.refl s) h List.mem_cons_self]

theorem cloneNode_congr {copy copy' : Store -> Handle -> Handle × Store} {s : Store} {n : Node}
    (hcopy : forall (s : Store) (h : Handle), s.Grows (copy s h).2)
    (hsame : forall s' : Store, s.Grows s' ->
      forall child : Handle, child ∈ n.children -> copy s' child = copy' s' child) :
    cloneNode copy s n = cloneNode copy' s n := by
  cases n with
  | map entries =>
      have hall : copyAll copy s (entries.map Prod.snd) = copyAll copy' s (entries.map Prod.snd) :=
        copyAll_congr hcopy hsame
      rw [cloneNode, cloneNode, hall]
  | array items =>
      have hall : copyAll copy s items = copyAll copy' s items := copyAll_congr hcopy hsame
      rw [cloneNode, cloneNode, hall]
  | _ => rfl

theorem deepCloneWith_succ (n : Nat) (s : Store) (h : Handle) :
    deepCloneWith (n + 1) s h = cloneNode (deepCloneWith n) s (s.node h) := by
  rw [deepCloneWith]
  cases s.node h <;> rfl

theorem grows_deepCloneWith (n : Nat) (s : Store) (h : Handle) :
    s.Grows (deepCloneWith n s h).2 := by
  induction n generalizing s h with
  | zero => exact grows_alloc s Node.null
  | succ n ih =>
      rw [deepCloneWith_succ]
      exact grows_cloneNode ih s (s.node h)

theorem Sound.deepCloneWith_stable {s s' : Store} (hs : s.Sound) {n m : Nat} {h : Handle}
    (hsize : h < s.size) (hwithin : s.Within n h) (hle : n ≤ m) (hgrows : s.Grows s') :
    deepCloneWith m s' h = deepCloneWith n s' h := by
  induction n generalizing m h s' with
  | zero => exact hwithin.elim
  | succ n ih =>
      cases m with
      | zero => exact absurd hle (Nat.not_succ_le_zero n)
      | succ m =>
          rw [deepCloneWith_succ, deepCloneWith_succ, hgrows.node_eq h hsize]
          apply cloneNode_congr (grows_deepCloneWith m)
          intro s'' hgrows' child hchild
          exact ih (hs.closed h child hchild) (hwithin child hchild)
            (Nat.le_of_succ_le_succ hle) (hgrows.trans hgrows')

theorem Sound.deepClone_eq {s : Store} (hs : s.Sound) {h : Handle} (hsize : h < s.size) :
    s.deepClone h = cloneNode deepClone s (s.node h) := by
  rcases Nat.exists_eq_succ_of_ne_zero (Nat.ne_zero_of_lt hsize) with ⟨n, hn⟩
  have hwithin := hs.within hsize
  rw [hn] at hwithin
  calc s.deepClone h = deepCloneWith (n + 1) s h := by rw [deepClone, hn]
    _ = cloneNode (deepCloneWith n) s (s.node h) := deepCloneWith_succ n s h
    _ = cloneNode deepClone s (s.node h) := by
        apply cloneNode_congr (grows_deepCloneWith n)
        intro s' hgrows child hchild
        have hle : n ≤ s'.size := by
          have hsizes := hgrows.size_le
          omega
        exact (hs.deepCloneWith_stable (hs.closed h child hchild) (hwithin child hchild) hle
          hgrows).symm

end Store
end Troupe
