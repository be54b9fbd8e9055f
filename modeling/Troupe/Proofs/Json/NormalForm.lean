import Troupe.Proofs.Json.Acceptance
import Troupe.Proofs.Json.Layouts

/-!
# What JSON keeps of a tree

JSON has neither byte strings nor floats that are not finite.  The normal form of
a tree is the tree with those replaced, and with everything else as it was: it is
what comes back from the tree's document.  That document is valid and nests as
deep as the tree.
-/

namespace Troupe

open Number

namespace Tree

mutual

/-- Bytes become their Base64 text, and floats that are not finite become null. -/
def norm : Tree -> Tree
  | float x => if x.isFinite then float x else null
  | bytes b => string (Text.base64 b)
  | map es => map (normEntries es)
  | array xs => array (normItems xs)
  | t => t

def normEntries : List (String × Tree) -> List (String × Tree)
  | [] => []
  | (k, t) :: rest => (k, norm t) :: normEntries rest

def normItems : List Tree -> List Tree
  | [] => []
  | t :: rest => norm t :: normItems rest

end

/-!
## Plain trees
-/

mutual

/-- There is nothing in the tree that JSON cannot keep. -/
def Plain : Tree -> Prop
  | float x => x.isFinite = true
  | bytes _ => False
  | map es => PlainEntries es
  | array xs => PlainItems xs
  | _ => True

def PlainEntries : List (String × Tree) -> Prop
  | [] => True
  | (_, t) :: rest => Plain t ∧ PlainEntries rest

def PlainItems : List Tree -> Prop
  | [] => True
  | t :: rest => Plain t ∧ PlainItems rest

end

mutual

theorem plain_norm : forall t : Tree, Plain t.norm
  | null => trivial
  | bool _ => trivial
  | integer _ => trivial
  | string _ => trivial
  | bytes _ => trivial
  | float x => by
      rw [norm]
      split
      · next hfinite => exact hfinite
      · trivial
  | map es => plainEntries_normEntries es
  | array xs => plainItems_normItems xs

theorem plainEntries_normEntries :
    forall es : List (String × Tree), PlainEntries (normEntries es)
  | [] => trivial
  | (_, t) :: rest => ⟨plain_norm t, plainEntries_normEntries rest⟩

theorem plainItems_normItems : forall xs : List Tree, PlainItems (normItems xs)
  | [] => trivial
  | t :: rest => ⟨plain_norm t, plainItems_normItems rest⟩

end

mutual

theorem norm_of_plain : forall {t : Tree}, Plain t -> t.norm = t
  | null, _ => rfl
  | bool _, _ => rfl
  | integer _, _ => rfl
  | string _, _ => rfl
  | float _, hfinite => if_pos hfinite
  | map _, hentries => congrArg map (normEntries_of_plain hentries)
  | array _, hitems => congrArg array (normItems_of_plain hitems)

theorem normEntries_of_plain :
    forall {es : List (String × Tree)}, PlainEntries es -> normEntries es = es
  | [], _ => rfl
  | (k, t) :: rest, ⟨hvalue, hrest⟩ => by
      rw [normEntries, norm_of_plain hvalue, normEntries_of_plain hrest]

theorem normItems_of_plain : forall {xs : List Tree}, PlainItems xs -> normItems xs = xs
  | [], _ => rfl
  | t :: rest, ⟨hvalue, hrest⟩ => by
      rw [normItems, norm_of_plain hvalue, normItems_of_plain hrest]

end

theorem norm_norm (t : Tree) : t.norm.norm = t.norm :=
  norm_of_plain (plain_norm t)

/-!
## Documents of trees
-/

theorem toNat_toUInt64_lt {i : Int64} (h : ¬ i < 0) : i.toUInt64.toNat < 0x8000000000000000 := by
  have hle : 0 ≤ i := Int64.not_lt.mp h
  have hhigh := Int64.toInt_lt i
  rw [Int64.toNat_toUInt64_of_le hle, Int64.toNatClampNeg]
  omega

theorem toTree_ofInt64 (i : Int64) : (Json.ofInt64 i).toTree = integer i := by
  unfold Json.ofInt64
  by_cases hneg : i < 0
  · rw [if_pos hneg]
    rfl
  · rw [if_neg hneg, Json.toTree, JsonNumber.toTree, if_pos (toNat_toUInt64_lt hneg),
      Int64.toInt64_toUInt64]

mutual

/-- A document holds the normal form of the tree that it was made from. -/
theorem toTree_toJson : forall t : Tree, t.toJson.toTree = t.norm
  | null => rfl
  | bool _ => rfl
  | integer i => toTree_ofInt64 i
  | string _ => rfl
  | bytes _ => rfl
  | float x => by
      rw [toJson, norm]
      split
      · rfl
      · rfl
  | map es => congrArg map (toTreeMembers_toJsonEntries es)
  | array xs => congrArg array (toTreeItems_toJsonItems xs)

theorem toTreeMembers_toJsonEntries :
    forall es : List (String × Tree), Json.toTreeMembers (toJsonEntries es) = normEntries es
  | [] => rfl
  | (k, t) :: rest => by
      rw [toJsonEntries, Json.toTreeMembers, normEntries, toTree_toJson t,
        toTreeMembers_toJsonEntries rest]

theorem toTreeItems_toJsonItems :
    forall xs : List Tree, Json.toTreeItems (toJsonItems xs) = normItems xs
  | [] => rfl
  | t :: rest => by
      rw [toJsonItems, Json.toTreeItems, normItems, toTree_toJson t, toTreeItems_toJsonItems rest]

end

mutual

theorem depth_toJson : forall t : Tree, t.toJson.depth = t.depth
  | null => rfl
  | bool _ => rfl
  | integer i => by
      rw [toJson, Json.ofInt64]
      split
      · rfl
      · rfl
  | string _ => rfl
  | bytes _ => rfl
  | float x => by
      rw [toJson]
      split
      · rfl
      · rfl
  | map es => congrArg Nat.succ (depthMembers_toJsonEntries es)
  | array xs => congrArg Nat.succ (depthItems_toJsonItems xs)

theorem depthMembers_toJsonEntries :
    forall es : List (String × Tree), Json.depthMembers (toJsonEntries es) = depthEntries es
  | [] => rfl
  | (k, t) :: rest => by
      rw [toJsonEntries, Json.depthMembers, depthEntries, depth_toJson t,
        depthMembers_toJsonEntries rest]

theorem depthItems_toJsonItems :
    forall xs : List Tree, Json.depthItems (toJsonItems xs) = depthItems xs
  | [] => rfl
  | t :: rest => by
      rw [toJsonItems, Json.depthItems, depthItems, depth_toJson t, depthItems_toJsonItems rest]

end

theorem keys_toJsonEntries (es : Entries Tree) :
    Entries.keys (toJsonEntries es) = Entries.keys es := by
  induction es with
  | nil => rfl
  | cons entry rest ih =>
      rcases entry with ⟨k, t⟩
      exact congrArg (List.cons k) ih

theorem valid_ofInt64 (i : Int64) : (Json.ofInt64 i).Valid := by
  unfold Json.ofInt64
  split
  · next hneg => exact hneg
  · trivial

mutual

theorem valid_toJson : forall {t : Tree}, t.UniqueKeys -> t.toJson.Valid
  | null, _ => trivial
  | bool _, _ => trivial
  | integer i, _ => valid_ofInt64 i
  | string _, _ => trivial
  | bytes _, _ => trivial
  | float x, _ => by
      rw [toJson]
      split
      · next hfinite => exact hfinite
      · trivial
  | map es, ⟨hkeys, hentries⟩ => by
      refine ⟨?_, validMembers_toJsonEntries hentries⟩
      rw [Entries.Unique, keys_toJsonEntries]
      exact hkeys
  | array _, hitems => validItems_toJsonItems hitems

theorem validMembers_toJsonEntries :
    forall {es : List (String × Tree)}, UniqueKeysEntries es ->
      Json.ValidMembers (toJsonEntries es)
  | [], _ => trivial
  | (_, _) :: _, ⟨hvalue, hrest⟩ => ⟨valid_toJson hvalue, validMembers_toJsonEntries hrest⟩

theorem validItems_toJsonItems :
    forall {xs : List Tree}, UniqueKeysItems xs -> Json.ValidItems (toJsonItems xs)
  | [], _ => trivial
  | _ :: _, ⟨hvalue, hrest⟩ => ⟨valid_toJson hvalue, validItems_toJsonItems hrest⟩

end

end Tree
end Troupe
