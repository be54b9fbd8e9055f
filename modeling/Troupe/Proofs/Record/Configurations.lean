import Troupe.Config
import Troupe.Proofs.Record.Fields

/-!
# Configurations through trees

A count passes through a tree within the signed range, and is refused beyond it.  A timeout is
cut twice before it becomes a count: to its whole milliseconds, and these to 64 bits.  Together
this decides which configurations come back as they were.
-/

namespace Troupe

open JsonForm hiding read write

/-!
## Formats
-/

namespace Format

def Full (format : Format) : Prop :=
  ofConfigured format.name = format

instance (format : Format) : Decidable format.Full :=
  inferInstanceAs (Decidable (ofConfigured format.name = format))

theorem full_ofConfigured (name : String) : (ofConfigured name).Full := by
  unfold Full ofConfigured
  by_cases hcbor : name = "cbor"
  · rw [if_pos hcbor]
    decide
  · by_cases hjson : name = "json"
    · rw [if_neg hcbor, if_pos hjson]
      decide
    · simp only [if_neg hcbor, if_neg hjson]

theorem full_of_read {v : Json} {format : Format} (hread : JsonForm.read v = .ok format) :
    format.Full := by
  rcases map_eq_ok_iff.mp hread with ⟨name, hname, rfl⟩
  exact full_ofConfigured name

theorem settled_of_full {format : Format} (hfull : format.Full) : Settled format :=
  ⟨congrArg Except.ok hfull, trivial⟩

instance : Settling Format where
  settled _ hread := settled_of_full (full_of_read hread)

end Format

/-!
## Actors
-/

namespace ActorConfig

theorem nodup_fields : (fields.map JsonForm.Field.name).Nodup := by decide

/-!
### The capacity
-/

def readCapacity (v : Json) : Except ShapeError (Option UInt64) :=
  match v with
  | Json.null => .ok none
  | other => (readCount "usize" other).map some

theorem readCapacity_of_ne {v : Json} (hv : v ≠ Json.null) :
    readCapacity v = (readCount "usize" v).map some := by
  cases v with
  | null => exact absurd rfl hv
  | _ => rfl

theorem fields_eq :
    fields =
      [JsonForm.Field.of "name" fun name c => { c with name := name },
        { name := "mailbox_capacity"
          put := fun v c => (readCapacity v).map fun o => { c with mailboxCapacity := o } },
        { name := "enqueue_timeout"
          put := fun v c =>
            (readCount "u64" v).map fun n =>
              { c with enqueueTimeout := Duration.ofMillis n.toNat } },
        { name := "stack_size"
          put := fun v c => (readCount "usize" v).map fun n => { c with stackSize := n } },
        JsonForm.Field.of "priority" fun priority c => { c with priority := priority }] := by
  have hmap (v : Json) (c : ActorConfig) :
      (readCount "usize" v).map (fun n => { c with mailboxCapacity := some n }) =
        ((readCount "usize" v).map some).map fun o => { c with mailboxCapacity := o } := by
    cases readCount "usize" v <;> rfl
  refine congrArg₂ List.cons rfl (congrArg₂ List.cons ?_ rfl)
  refine congrArg (JsonForm.Field.mk "mailbox_capacity") (funext fun v => funext fun c => ?_)
  cases v with
  | null => rfl
  | _ => exact hmap _ c

theorem readCapacity_lt {v : Json} (hfrom : v.FromTree) {o : Option UInt64}
    (hread : readCapacity v = .ok o) {n : UInt64} (ho : o = some n) : n.toNat < 2 ^ 63 := by
  subst ho
  by_cases hv : v = Json.null
  · subst hv
    cases hread
  · rw [readCapacity_of_ne hv] at hread
    rcases map_eq_ok_iff.mp hread with ⟨m, hm, hsome⟩
    cases hsome
    exact readCount_lt hfrom hm

theorem readCapacity_throughTree_eq_ok_iff {o o' : Option UInt64} :
    readCapacity (JsonForm.write o).throughTree = .ok o' <->
      (forall n : UInt64, o = some n -> n.toNat < 2 ^ 63) ∧ o = o' := by
  cases o with
  | none =>
      constructor
      · rintro ⟨⟩
        exact ⟨nofun, rfl⟩
      · rintro ⟨-, rfl⟩
        rfl
  | some n =>
      have hnumber : (Json.number (JsonNumber.natural n)).throughTree ≠ Json.null := by
        by_cases hsmall : n.toNat < 2 ^ 63
        · rw [Json.throughTree_natural hsmall]
          nofun
        · rw [Json.throughTree_natural_of_le (Nat.not_lt.mp hsmall)]
          nofun
      have hwrite : JsonForm.write (some n) = Json.number (JsonNumber.natural n) := rfl
      rw [hwrite, readCapacity_of_ne hnumber]
      simp only [map_eq_ok_iff, readCount_throughTree_eq_ok_iff, Option.some.injEq, forall_eq',
        and_assoc, exists_and_left, exists_eq_left']

/-!
### The record
-/

def sentMillis (c : ActorConfig) : Nat :=
  c.enqueueTimeout.wholeMillis % 2 ^ 64

structure Fits (c : ActorConfig) : Prop where
  capacity : forall n : UInt64, c.mailboxCapacity = some n -> n.toNat < 2 ^ 63
  timeout : c.sentMillis < 2 ^ 63
  stack : c.stackSize.toNat < 2 ^ 63

theorem write_eq (c : ActorConfig) :
    JsonForm.write c =
      withFields fields
        [JsonForm.write c.name, JsonForm.write c.mailboxCapacity, writeTimeout c.enqueueTimeout,
          JsonForm.write c.stackSize, JsonForm.write c.priority] := rfl

theorem read_withFields (values : List Json) :
    JsonForm.read (withFields fields values) = putItems fields defaults values :=
  readWithDefaults_withFields nodup_fields "ActorConfig" defaults values

theorem valid_write (c : ActorConfig) : (JsonForm.write c).Valid := by
  have hcapacity : (JsonForm.write c.mailboxCapacity).Valid := by
    cases c.mailboxCapacity <;> trivial
  rw [write_eq]
  apply valid_withFields nodup_fields (Nat.le_refl _)
  simp only [List.forall_mem_cons]
  exact ⟨trivial, hcapacity, trivial, trivial, trivial, List.forall_mem_nil _⟩

theorem read_throughTree_eq_ok_iff {c c' : ActorConfig} :
    JsonForm.read (JsonForm.write c).throughTree = .ok c' <->
      c.Fits ∧ { c with enqueueTimeout := Duration.ofMillis c.sentMillis } = c' := by
  have hname : JsonForm.read (JsonForm.write c.name).throughTree = .ok c.name := rfl
  have hpriority := (settled_uint8 c.priority).read_back
  have htimeout (n : UInt64) :
      readCount "u64" (writeTimeout c.enqueueTimeout).throughTree = .ok n <->
        c.sentMillis < 2 ^ 63 ∧ UInt64.ofNat c.enqueueTimeout.wholeMillis = n :=
    readCount_throughTree_eq_ok_iff
  have hstack (n : UInt64) :
      readCount "usize" (JsonForm.write c.stackSize).throughTree = .ok n <->
        c.stackSize.toNat < 2 ^ 63 ∧ c.stackSize = n :=
    readCount_throughTree_eq_ok_iff
  rw [write_eq, throughTree_withFields, read_withFields]
  simp only [fields_eq, List.map_cons, List.map_nil, JsonForm.Field.of, putItems_cons_eq_ok_iff,
    putItems_nil_eq_ok_iff, hname, hpriority, htimeout, hstack,
    readCapacity_throughTree_eq_ok_iff, Except.ok.injEq, and_assoc, exists_and_left,
    exists_eq_left']
  constructor
  · rintro ⟨hcapacity, htimeout, hstack, rfl⟩
    exact ⟨⟨hcapacity, htimeout, hstack⟩, rfl⟩
  · rintro ⟨⟨hcapacity, htimeout, hstack⟩, rfl⟩
    exact ⟨hcapacity, htimeout, hstack, rfl⟩

structure Lossless (c : ActorConfig) : Prop where
  capacity : forall n : UInt64, c.mailboxCapacity = some n -> n.toNat < 2 ^ 63
  timeout : exists millis : Nat, millis < 2 ^ 63 ∧ c.enqueueTimeout = Duration.ofMillis millis
  stack : c.stackSize.toNat < 2 ^ 63

theorem lossless_iff {c : ActorConfig} :
    c.Lossless <-> c.Fits ∧ Duration.ofMillis c.sentMillis = c.enqueueTimeout := by
  constructor
  · rintro ⟨hcapacity, ⟨millis, hmillis, htimeout⟩, hstack⟩
    have hsent : c.sentMillis = millis := by
      rw [sentMillis, htimeout, Duration.wholeMillis_ofMillis, Nat.mod_eq_of_lt (by omega)]
    exact ⟨⟨hcapacity, hsent ▸ hmillis, hstack⟩, by rw [hsent, htimeout]⟩
  · rintro ⟨hfits, htimeout⟩
    exact ⟨hfits.capacity, ⟨c.sentMillis, hfits.timeout, htimeout.symm⟩, hfits.stack⟩

theorem read_throughTree_iff_lossless {c : ActorConfig} :
    JsonForm.read (JsonForm.write c).throughTree = .ok c <-> c.Lossless := by
  rw [read_throughTree_eq_ok_iff, lossless_iff]
  refine and_congr_right fun _ => ?_
  constructor
  · exact congrArg enqueueTimeout
  · intro htimeout
    rw [htimeout]

theorem lossless_defaults : defaults.Lossless := by
  refine ⟨?_, ⟨100, by decide, rfl⟩, by decide⟩
  intro n hnone
  cases hnone

theorem lossless_of_read {v : Json} {c : ActorConfig} (hfrom : v.FromTree)
    (hread : JsonForm.read v = .ok c) : c.Lossless := by
  refine preserved_readWithDefaults ?_ lossless_defaults hfrom hread
  simp only [fields_eq, List.forall_mem_cons]
  refine ⟨preserves_of ?name, preserves_of ?capacity, preserves_of ?timeout, preserves_of ?stack,
    preserves_of ?priority, List.forall_mem_nil _⟩
  case name =>
    intro _ _ _ _ _ h
    exact ⟨h.capacity, h.timeout, h.stack⟩
  case capacity =>
    intro _ _ _ hfrom hread h
    exact ⟨fun _ => readCapacity_lt hfrom hread, h.timeout, h.stack⟩
  case timeout =>
    intro _ n _ hfrom hread h
    exact ⟨h.capacity, ⟨n.toNat, readCount_lt hfrom hread, rfl⟩, h.stack⟩
  case stack =>
    intro _ _ _ hfrom hread h
    exact ⟨h.capacity, h.timeout, readCount_lt hfrom hread⟩
  case priority =>
    intro _ _ _ _ _ h
    exact ⟨h.capacity, h.timeout, h.stack⟩

instance : Settling ActorConfig where
  settled {_ c} hfrom hread :=
    ⟨read_throughTree_iff_lossless.mpr (lossless_of_read hfrom hread), c.valid_write⟩

/-- A configuration comes back as it was if and only if nothing of it is lost.  Otherwise it is
refused for a count that is too large, or it comes back with another timeout. -/
theorem ofTree_toTree_iff_lossless (c : ActorConfig) :
    (JsonForm.ofTree (JsonForm.toTree c) = .ok c <-> c.Lossless) ∧
      (c.Lossless ∨
        (¬ c.Fits ∧
          exists error : ShapeError,
            (JsonForm.ofTree (JsonForm.toTree c) : Except CodecError ActorConfig) =
              .error (CodecError.decode Format.json (DecodeFault.shape error))) ∨
        (Duration.ofMillis c.sentMillis ≠ c.enqueueTimeout ∧
          JsonForm.ofTree (JsonForm.toTree c) =
            .ok { c with enqueueTimeout := Duration.ofMillis c.sentMillis })) := by
  refine ⟨ofTree_eq_ok_iff.trans read_throughTree_iff_lossless, ?_⟩
  by_cases hfits : c.Fits
  · by_cases htimeout : Duration.ofMillis c.sentMillis = c.enqueueTimeout
    · exact Or.inl (lossless_iff.mpr ⟨hfits, htimeout⟩)
    · have hread := read_throughTree_eq_ok_iff.mpr ⟨hfits, rfl⟩
      exact Or.inr (Or.inr ⟨htimeout, ofTree_eq_ok_iff.mpr hread⟩)
  · have hrefused (c' : ActorConfig) : JsonForm.read (JsonForm.toTree c).toJson ≠ .ok c' :=
      fun hread => hfits (read_throughTree_eq_ok_iff.mp hread).left
    exact Or.inr (Or.inl ⟨hfits, exists_ofTree_error hrefused⟩)

/-- Of a timeout just above what 64 bits of milliseconds hold, little is left. -/
example :
    JsonForm.ofTree (JsonForm.toTree
        { defaults with enqueueTimeout := Duration.ofMillis (2 ^ 64 + 5) }) =
      .ok { defaults with enqueueTimeout := Duration.ofMillis 5 } := by decide

end ActorConfig

/-!
## Threads
-/

namespace ThreadConfig

theorem nodup_fields : (fields.map JsonForm.Field.name).Nodup := by decide

def Fits (c : ThreadConfig) : Prop :=
  c.stackSize.toNat < 2 ^ 63

theorem settled_of_fits {c : ThreadConfig} (h : c.Fits) : Settled c := by
  have hwrite : JsonForm.write c =
      withFields fields [JsonForm.write c.name, JsonForm.write c.stackSize] := rfl
  have hname : JsonForm.read (JsonForm.write c.name).throughTree = .ok c.name := rfl
  have hcount : readCount "usize" (JsonForm.write c.stackSize).throughTree = .ok c.stackSize :=
    readCount_throughTree_eq_ok_iff.mpr ⟨h, rfl⟩
  refine settled_of_putItems (fun _ => rfl) nodup_fields (Nat.le_refl _) hwrite ?valid ?put
  case valid =>
    simp only [List.forall_mem_cons]
    exact ⟨trivial, trivial, List.forall_mem_nil _⟩
  case put =>
    simp only [fields, List.map_cons, List.map_nil, JsonForm.Field.of, putItems_cons_eq_ok_iff,
      putItems_nil_eq_ok_iff, hname, hcount, Except.ok.injEq, exists_eq_left']

theorem fits_of_read {v : Json} {c : ThreadConfig} (hfrom : v.FromTree)
    (hread : JsonForm.read v = .ok c) : c.Fits := by
  have hdefaults : defaults.stackSize.toNat < 2 ^ 63 := by decide
  refine preserved_readWithDefaults ?_ hdefaults hfrom hread
  simp only [fields, List.forall_mem_cons]
  refine ⟨preserves_of ?name, preserves_of ?stack, List.forall_mem_nil _⟩
  case name =>
    intro _ _ _ _ _ h
    exact h
  case stack =>
    intro _ _ _ hfrom hread _
    exact readCount_lt hfrom hread

instance : Settling ThreadConfig where
  settled hfrom hread := settled_of_fits (fits_of_read hfrom hread)

end ThreadConfig

/-!
## The system
-/

namespace SystemConfig

theorem nodup_fields : (fields.map JsonForm.Field.name).Nodup := by decide

/-- The counts lie within the signed range, and the format is not called by a short name. -/
structure Plain (c : SystemConfig) : Prop where
  actors : c.maxActors.toNat < 2 ^ 63
  format : c.wireFormat.Full
  capacity : c.mailboxCapacity.toNat < 2 ^ 63

theorem settled_of_plain {c : SystemConfig} (h : c.Plain) : Settled c := by
  have hwrite : JsonForm.write c =
      withFields fields
        [JsonForm.write c.maxActors, JsonForm.write c.device, JsonForm.write c.wireFormat,
          JsonForm.write c.mailboxCapacity] := rfl
  have hactors : readCount "usize" (JsonForm.write c.maxActors).throughTree = .ok c.maxActors :=
    readCount_throughTree_eq_ok_iff.mpr ⟨h.actors, rfl⟩
  have hdevice : JsonForm.read (JsonForm.write c.device).throughTree = .ok c.device := rfl
  have hformat := (Format.settled_of_full h.format).read_back
  have hcapacity :
      readCount "usize" (JsonForm.write c.mailboxCapacity).throughTree = .ok c.mailboxCapacity :=
    readCount_throughTree_eq_ok_iff.mpr ⟨h.capacity, rfl⟩
  refine settled_of_putItems (fun _ => rfl) nodup_fields (Nat.le_refl _) hwrite ?valid ?put
  case valid =>
    simp only [List.forall_mem_cons]
    exact ⟨trivial, trivial, trivial, trivial, List.forall_mem_nil _⟩
  case put =>
    simp only [fields, List.map_cons, List.map_nil, JsonForm.Field.of, putItems_cons_eq_ok_iff,
      putItems_nil_eq_ok_iff, hactors, hdevice, hformat, hcapacity, Except.ok.injEq,
      exists_eq_left']

theorem plain_of_read {v : Json} {c : SystemConfig} (hfrom : v.FromTree)
    (hread : JsonForm.read v = .ok c) : c.Plain := by
  have hdefaults : defaults.Plain := ⟨by decide, by decide, by decide⟩
  refine preserved_readWithDefaults ?_ hdefaults hfrom hread
  simp only [fields, List.forall_mem_cons]
  refine ⟨preserves_of ?actors, preserves_of ?device, preserves_of ?format,
    preserves_of ?capacity, List.forall_mem_nil _⟩
  case actors =>
    intro _ _ _ hfrom hread h
    exact ⟨readCount_lt hfrom hread, h.format, h.capacity⟩
  case device =>
    intro _ _ _ _ _ h
    exact ⟨h.actors, h.format, h.capacity⟩
  case format =>
    intro _ _ _ _ hread h
    exact ⟨h.actors, Format.full_of_read hread, h.capacity⟩
  case capacity =>
    intro _ _ _ hfrom hread h
    exact ⟨h.actors, h.format, readCount_lt hfrom hread⟩

instance : Settling SystemConfig where
  settled hfrom hread := settled_of_plain (plain_of_read hfrom hread)

end SystemConfig
end Troupe
