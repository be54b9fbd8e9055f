import Troupe.Proofs.Record.Configurations
import Troupe.Proofs.Store.Copies
import Troupe.Property.Basic
import Troupe.Store.Record

/-!
# Conversions settle

Many trees are read as the same value, and only one of them is written for it.  Whatever tree a
value was read from, it is read again from the tree that is written for it, and from fresh live
values just as from trees.
-/

namespace Troupe

open Number
open JsonForm hiding read write

/-!
## Properties

Codes are small and all fields are required, so every value is settled, also those that were
not read.
-/

namespace PropType

theorem settled (type : PropType) : Settled type := by
  cases type <;> exact ⟨rfl, trivial⟩

instance : Settling PropType where
  settled {_ type} _ _ := type.settled

end PropType

namespace PropMode

theorem settled (mode : PropMode) : Settled mode := by
  cases mode <;> exact ⟨rfl, trivial⟩

instance : Settling PropMode where
  settled {_ mode} _ _ := mode.settled

end PropMode

namespace PropertyInfo

theorem nodup_fields : (fields.map JsonForm.Field.name).Nodup := by decide

theorem settled (info : PropertyInfo) : Settled info := by
  have hwrite : JsonForm.write info =
      withFields fields
        [JsonForm.write info.id, JsonForm.write info.name, JsonForm.write info.description,
          JsonForm.write info.type, JsonForm.write info.mode] := rfl
  have hid := settled_uint32 info.id
  have hname : JsonForm.read (JsonForm.write info.name).throughTree = .ok info.name := rfl
  have hdescription :
      JsonForm.read (JsonForm.write info.description).throughTree = .ok info.description := rfl
  have htype := info.type.settled
  have hmode := info.mode.settled
  have hput :
      putItems fields
          { id := none, name := none, description := none, type := none, mode := none }
          ([JsonForm.write info.id, JsonForm.write info.name, JsonForm.write info.description,
            JsonForm.write info.type, JsonForm.write info.mode].map Json.throughTree) =
        .ok
          { id := some info.id, name := some info.name, description := some info.description
            type := some info.type, mode := some info.mode } := by
    simp only [fields, List.map_cons, List.map_nil, JsonForm.Field.of, putItems_cons_eq_ok_iff,
      putItems_nil_eq_ok_iff, hid.read_back, hname, hdescription, htype.read_back,
      hmode.read_back, Except.ok.injEq, exists_eq_left']
  constructor
  · rw [hwrite, throughTree_withFields]
    exact readRequired_withFields nodup_fields hput
  · rw [hwrite]
    apply valid_withFields nodup_fields (Nat.le_refl _)
    simp only [List.forall_mem_cons]
    exact ⟨hid.valid, trivial, trivial, htype.valid, hmode.valid, List.forall_mem_nil _⟩

instance : Settling PropertyInfo where
  settled {_ info} _ _ := info.settled

end PropertyInfo

/-!
## Conversions
-/

namespace JsonForm

variable {α : Type} [JsonForm α]

theorem ofTree_toTree [Settling α] {t : Tree} (hunique : t.UniqueKeys) {a : α}
    (hread : ofTree t = .ok a) : ofTree (toTree a) = .ok a :=
  ofTree_eq_ok_iff.mpr
    (Settling.settled (Json.fromTree_toJson hunique) (ofTree_eq_ok_iff.mp hread)).read_back

theorem uniqueKeys_toTree [Settling α] {t : Tree} (hunique : t.UniqueKeys) {a : α}
    (hread : ofTree t = .ok a) : (toTree a).UniqueKeys :=
  Json.uniqueKeys_toTree
    (Settling.settled (Json.fromTree_toJson hunique) (ofTree_eq_ok_iff.mp hread)).valid

/-- Values of the type that are read from trees are read again from the trees that are written
for them, and live values stand for trees in both directions. -/
structure Settles (α : Type) [JsonForm α] : Prop where
  again : forall {t : Tree} {a : α}, t.UniqueKeys -> ofTree t = .ok a ->
    ofTree (toTree a) = .ok a
  ofLive : forall {s : Store} {t : Tree}, s.Reachable -> t.UniqueKeys ->
    (s.thaw t).2.toRecord (s.thaw t).1 = (ofTree t : Except CodecError α)
  toLive : forall {s : Store} {t : Tree} {a : α}, s.Reachable -> t.UniqueKeys ->
    ofTree t = .ok a -> (s.ofRecord a).2.freeze (s.ofRecord a).1 = toTree a
  liveAgain : forall {s s' : Store} {h : Handle} {a : α}, s.Reachable -> h < s.size ->
    s.toRecord h = .ok a -> s'.Reachable -> (s'.ofRecord a).2.toRecord (s'.ofRecord a).1 = .ok a

theorem settles [Settling α] : Settles α := by
  have hshown {s : Store} {t : Tree} {a : α} (hs : s.Reachable) (hunique : t.UniqueKeys)
      (hread : ofTree t = .ok a) : (s.ofRecord a).2.freeze (s.ofRecord a).1 = toTree a :=
    Store.freeze_thaw hs.sound (uniqueKeys_toTree hunique hread)
  refine ⟨fun hunique hread => ofTree_toTree hunique hread, ?ofLive, hshown, ?liveAgain⟩
  case ofLive =>
    intro s t hs hunique
    rw [Store.toRecord, Store.freeze_thaw hs.sound hunique]
  case liveAgain =>
    intro s s' h a hs hsize hread hs'
    have hunique := hs.sound.uniqueKeys_freeze hsize
    rw [Store.toRecord, hshown hs' hunique hread]
    exact ofTree_toTree hunique hread

theorem read_null_ne_ok (i : Int64) : read Json.null ≠ .ok i := by
  intro hread
  cases hread

instance : Settling (Option Int64) :=
  settling_option read_null_ne_ok

theorem conversions_settle :
    Settles ActorConfig ∧ Settles SystemConfig ∧ Settles ThreadConfig ∧
      Settles PropertyInfo ∧ Settles PropType ∧ Settles PropMode ∧ Settles Format ∧
      Settles Bool ∧ Settles UInt8 ∧ Settles Int64 ∧ Settles UInt64 ∧ Settles Binary64 ∧
      Settles String ∧ Settles (Option Int64) ∧ Settles (List Int64) ∧
      Settles (SortedMap Binary64) ∧ Settles Json :=
  ⟨settles, settles, settles, settles, settles, settles, settles, settles, settles, settles,
    settles, settles, settles, settles, settles, settles, settles⟩

theorem conversions_settle_short_list :
    (Tree.array [Tree.string "sensor", Tree.null, Tree.integer 250]).UniqueKeys ∧
      ofTree (Tree.array [Tree.string "sensor", Tree.null, Tree.integer 250]) =
        .ok { ActorConfig.defaults with
          name := "sensor", enqueueTimeout := Duration.ofMillis 250 } ∧
      ofTree (toTree
          { ActorConfig.defaults with
            name := "sensor", enqueueTimeout := Duration.ofMillis 250 }) =
        .ok { ActorConfig.defaults with
          name := "sensor", enqueueTimeout := Duration.ofMillis 250 } := by
  have hunique : (Tree.array [Tree.string "sensor", Tree.null, Tree.integer 250]).UniqueKeys :=
    ⟨trivial, trivial, trivial, trivial⟩
  have hread : ofTree (Tree.array [Tree.string "sensor", Tree.null, Tree.integer 250]) =
      .ok { ActorConfig.defaults with
        name := "sensor", enqueueTimeout := Duration.ofMillis 250 } := by decide
  exact ⟨hunique, hread, conversions_settle.left.again hunique hread⟩

end JsonForm
end Troupe
