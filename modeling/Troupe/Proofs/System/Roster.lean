import Mathlib.Data.List.Nodup
import Troupe.Proofs.System.Operations

/-!
# The roster

Actors are registered one at a time under names of their own, and a group is registered
as a whole or not at all: if a member is refused, those registered before it are taken
out again by name, which leaves the registry as it was because no older actor can have
any of these names.
-/

namespace Troupe

structure GoodName (name : String) : Prop where
  nonempty : name ≠ ""
  noSlash : '/' ∉ name.toList
  noStar : '*' ∉ name.toList

namespace Registry

variable {r r' base : Registry} {config : SystemConfig} {ref : ActorRef}

theorem validName_iff {name : String} : validName name = true <-> GoodName name := by
  unfold validName
  rw [Bool.and_eq_true, List.all_eq_true]
  constructor
  · rintro ⟨hnonempty, hchars⟩
    refine ⟨?_, fun hslash => ?_, fun hstar => ?_⟩
    · rintro rfl
      simp at hnonempty
    · simpa using hchars '/' hslash
    · simpa using hchars '*' hstar
  · rintro ⟨hnonempty, hslash, hstar⟩
    refine ⟨by simpa using hnonempty, fun c hc => ?_⟩
    have hne : c ≠ '/' ∧ c ≠ '*' := ⟨fun h => hslash (h ▸ hc), fun h => hstar (h ▸ hc)⟩
    simpa using hne

/-!
## Placing and removing
-/

theorem find?_isSome_iff {name : String} : (r.find? name).isSome = true <-> name ∈ r.names := by
  unfold find? names
  rw [List.find?_isSome, List.mem_map]
  simp

theorem place_perm (ref : ActorRef) (refs : List ActorRef) :
    (place ref refs).Perm (ref :: refs) := by
  induction refs with
  | nil => exact List.Perm.refl _
  | cons other rest ih =>
      unfold place
      split
      · exact List.Perm.refl _
      · exact (ih.cons other).trans (List.Perm.swap ref other rest)

theorem remove_place (hnew : ref.name ∉ r.names) :
    ({ refs := place ref r.refs } : Registry).remove ref.name = r := by
  have hkept : forall refs : List ActorRef, ref.name ∉ refs.map (fun other => other.name) ->
      (place ref refs).filter (fun other => other.name != ref.name) = refs := by
    intro refs hnone
    induction refs with
    | nil => simp [place]
    | cons other rest ih =>
        rw [List.map_cons, List.mem_cons, not_or] at hnone
        have hother : (other.name != ref.name) = true := bne_iff_ne.mpr (Ne.symm hnone.left)
        have hself : (ref.name != ref.name) = false := by simp
        have hrest : rest.filter (fun other => other.name != ref.name) = rest := by
          refine List.filter_eq_self.mpr fun another hmem => bne_iff_ne.mpr ?_
          rintro hsame
          exact hnone.right (hsame ▸ List.mem_map_of_mem hmem)
        unfold place
        split
        · simp only [List.filter_cons, hself, hother, hrest, Bool.false_eq_true, if_false, if_true]
        · simp only [List.filter_cons, hother, if_true, ih hnone.right]
  exact congrArg Registry.mk (hkept r.refs hnew)

theorem remove_comm (r : Registry) (a b : String) :
    (r.remove a).remove b = (r.remove b).remove a := by
  simp [remove, List.filter_filter, Bool.and_comm]

theorem remove_removeAll (r : Registry) (all : List Enlisted) (name : String) :
    (r.removeAll all).remove name = (r.remove name).removeAll all := by
  unfold removeAll
  induction all generalizing r with
  | nil => rfl
  | cons enlisted rest ih =>
      rw [List.foldl_cons, List.foldl_cons, ih, remove_comm]

/-!
## One actor
-/

def enlistedAs (config : SystemConfig) (id : ActorId) (actor : ActorConfig) : Enlisted :=
  { ref := { id := id, name := actor.name, enqueueTimeout := actor.enqueueTimeout }
    capacity := (actor.mailboxCapacity.getD config.mailboxCapacity).toNat }

def plus (r : Registry) (ref : ActorRef) : Registry :=
  { refs := place ref r.refs }

structure Admits (r : Registry) (config : SystemConfig) (actor : ActorConfig) : Prop where
  capacity : (actor.mailboxCapacity.getD config.mailboxCapacity).toNat ≠ 0
  name : GoodName actor.name
  free : actor.name ∉ r.names
  room : r.length < config.maxActors.toNat

theorem enlist_of_admits {actor : ActorConfig} (h : r.Admits config actor) (id : ActorId) :
    r.enlist config id actor =
      .ok (enlistedAs config id actor, r.plus (enlistedAs config id actor).ref) := by
  have hfree : (r.find? actor.name).isSome = false := by
    rw [Bool.eq_false_iff, ne_eq, find?_isSome_iff]
    exact h.free
  unfold enlist
  simp [h.capacity, validName_iff.mpr h.name, insert, hfree, Nat.not_le.mpr h.room, enlistedAs,
    Registry.plus]

theorem admits_of_enlist {actor : ActorConfig} {id : ActorId} {enlisted : Enlisted}
    (h : r.enlist config id actor = .ok (enlisted, r')) : r.Admits config actor := by
  unfold enlist at h
  simp only at h
  split at h
  · cases h
  · next hcapacity =>
      split at h
      · cases h
      · next hname =>
          split at h
          · cases h
          · next hinsert =>
              unfold insert at hinsert
              split at hinsert
              · cases hinsert
              · next hfree =>
                  split at hinsert
                  · cases hinsert
                  · next hroom =>
                      rw [find?_isSome_iff] at hfree
                      refine ⟨hcapacity, ?_, hfree, Nat.not_le.mp hroom⟩
                      exact validName_iff.mp (by simpa using hname)

theorem length_plus (r : Registry) (ref : ActorRef) : (r.plus ref).length = r.length + 1 :=
  (place_perm ref r.refs).length_eq

theorem mem_names_plus {name : String} :
    name ∈ (r.plus ref).names <-> name = ref.name ∨ name ∈ r.names := by
  have hmem := ((place_perm ref r.refs).map fun other => other.name).mem_iff (a := name)
  rw [List.map_cons, List.mem_cons] at hmem
  exact hmem

/-!
## Several actors
-/

structure AdmitsAll (r : Registry) (config : SystemConfig) (actors : List ActorConfig) :
    Prop where
  capacity :
    forall actor : ActorConfig, actor ∈ actors ->
      (actor.mailboxCapacity.getD config.mailboxCapacity).toNat ≠ 0
  name : forall actor : ActorConfig, actor ∈ actors -> GoodName actor.name
  distinct : (actors.map fun actor => actor.name).Nodup
  free : forall actor : ActorConfig, actor ∈ actors -> actor.name ∉ r.names
  room : r.length + actors.length ≤ config.maxActors.toNat

theorem admitsAll_nil (hlimit : r.length ≤ config.maxActors.toNat) : r.AdmitsAll config [] :=
  ⟨nofun, nofun, List.nodup_nil, nofun, hlimit⟩

theorem admitsAll_cons {actor : ActorConfig} {rest : List ActorConfig}
    (hname : ref.name = actor.name) :
    r.AdmitsAll config (actor :: rest) <->
      r.Admits config actor ∧ (r.plus ref).AdmitsAll config rest := by
  constructor
  · rintro ⟨hcapacity, hnames, hdistinct, hfree, hroom⟩
    rw [List.forall_mem_cons] at hcapacity hnames hfree
    obtain ⟨hnew, hdistinct⟩ := List.nodup_cons.mp hdistinct
    rw [List.length_cons] at hroom
    refine ⟨⟨hcapacity.left, hnames.left, hfree.left, by omega⟩, hcapacity.right, hnames.right,
      hdistinct, fun other hother => ?_, ?_⟩
    · rw [mem_names_plus, hname, not_or]
      exact ⟨fun hsame => hnew (List.mem_map.mpr ⟨other, hother, hsame⟩), hfree.right other hother⟩
    · rw [length_plus]
      omega
  · rintro ⟨⟨hcapacity, hgood, hnew, hroom⟩, hcapacities, hnames, hdistinct, hfree, hrooms⟩
    have hothers : forall other : ActorConfig, other ∈ rest ->
        other.name ≠ actor.name ∧ other.name ∉ r.names := by
      intro other hother
      have hnone := hfree other hother
      rw [mem_names_plus, hname, not_or] at hnone
      exact hnone
    constructor
    case capacity => exact List.forall_mem_cons.mpr ⟨hcapacity, hcapacities⟩
    case name => exact List.forall_mem_cons.mpr ⟨hgood, hnames⟩
    case distinct =>
      refine List.nodup_cons.mpr ⟨fun hmem => ?_, hdistinct⟩
      rcases List.mem_map.mp hmem with ⟨other, hother, hsame⟩
      exact (hothers other hother).left hsame
    case free =>
      exact List.forall_mem_cons.mpr ⟨hnew, fun other hother => (hothers other hother).right⟩
    case room =>
      rw [length_plus] at hrooms
      rw [List.length_cons]
      omega

def enlistedFrom (config : SystemConfig) : Nat -> List ActorConfig -> List Enlisted
  | _, [] => []
  | first, actor :: rest =>
      enlistedAs config (ActorId.ofNat first) actor :: enlistedFrom config (first + 1) rest

theorem removeAll_plus {before : List Enlisted} (hnew : ref.name ∉ r.names)
    (hclean : r.removeAll before = base) (enlisted : Enlisted) (hself : enlisted.ref = ref) :
    (r.plus ref).removeAll (before ++ [enlisted]) = base := by
  have hlast : (r.plus ref).removeAll (before ++ [enlisted]) =
      ((r.plus ref).removeAll before).remove ref.name := by
    simp [removeAll, hself]
  rw [hlast, remove_removeAll, Registry.plus, remove_place hnew, hclean]

/-- Actors are all registered, or none of them is, and nobody else is lost. -/
theorem enlistAll_cases (actors : List ActorConfig) (first : Nat) (before : List Enlisted)
    (hclean : r.removeAll before = base) (hlimit : r.length ≤ config.maxActors.toNat) :
    (exists error : ActorError,
      enlistAll config r first before actors = (.error error, base) ∧
        ¬ r.AdmitsAll config actors) ∨
    (exists r' : Registry,
      enlistAll config r first before actors =
        (.ok (before ++ enlistedFrom config first actors), r') ∧
        r.AdmitsAll config actors ∧
          r'.refs.Perm ((enlistedFrom config first actors).map (fun e => e.ref) ++ r.refs)) := by
  induction actors generalizing r first before with
  | nil =>
      refine Or.inr ⟨r, ?_, admitsAll_nil hlimit, List.Perm.refl _⟩
      simp [enlistAll, enlistedFrom]
  | cons actor rest ih =>
      unfold enlistAll enlistedFrom
      let enlisted := enlistedAs config (ActorId.ofNat first) actor
      by_cases hadmits : r.Admits config actor
      · have hnew : enlisted.ref.name ∉ r.names := hadmits.free
        have hroom : (r.plus enlisted.ref).length ≤ config.maxActors.toNat := by
          rw [length_plus]
          exact hadmits.room
        rw [enlist_of_admits hadmits]
        simp only
        rcases ih (first + 1) (before ++ [enlisted]) (removeAll_plus hnew hclean enlisted rfl) hroom
          with ⟨error, hrefused, hnone⟩ | ⟨r', haccepted, hall, hperm⟩
        · refine Or.inl ⟨error, hrefused, fun hboth => hnone ?_⟩
          exact ((admitsAll_cons rfl).mp hboth).right
        · refine Or.inr ⟨r', ?_, (admitsAll_cons rfl).mpr ⟨hadmits, hall⟩, ?_⟩
          · rw [haccepted, List.append_assoc]
            rfl
          · refine hperm.trans ?_
            refine ((place_perm enlisted.ref r.refs).append_left _).trans ?_
            exact List.perm_middle
      · refine Or.inl ?_
        cases hrefused : r.enlist config (ActorId.ofNat first) actor with
        | ok both =>
            rcases both with ⟨other, r'⟩
            exact absurd (admits_of_enlist hrefused) hadmits
        | error error =>
            refine ⟨error, by simp only [hclean], fun hall => hadmits ?_⟩
            exact ((admitsAll_cons (show enlisted.ref.name = actor.name from rfl)).mp hall).left

end Registry

namespace System

variable {σ α : Type} {s s' : System σ α}

/-!
## Calls
-/

/-- The registered actors are those that perform, and every performer's id counts its
position. -/
structure Roster (s : System σ α) : Prop where
  limit : s.registry.length ≤ s.config.maxActors.toNat
  name : forall name : String, name ∈ s.registry.names -> GoodName name
  distinct : s.registry.names.Nodup
  performers : s.registry.refs.Perm (s.performers.map fun p => p.actor.ref)
  id :
    forall (i : Nat) (p : Performer σ α), s.performers[i]? = some p ->
      p.actor.ref.id = ActorId.ofNat (i + 1)

/-- Actors have been added as they were configured. -/
structure Adds (s s' : System σ α) (actors : List ActorConfig) : Prop where
  admitted : s.registry.AdmitsAll s.config actors
  config : s'.config = s.config
  registry :
    s'.registry.refs.Perm
      ((Registry.enlistedFrom s.config s.nextNumber actors).map (fun e => e.ref) ++
        s.registry.refs)
  performers :
    (s'.performers.map fun p => p.actor.ref) =
      (s.performers.map fun p => p.actor.ref) ++
        (Registry.enlistedFrom s.config s.nextNumber actors).map fun e => e.ref
  kept : s.performers <+: s'.performers
  there : forall p : Performer σ α, p ∈ s'.performers -> p ∈ s.performers ∨ p.isGone = false
  bridge : s'.bridge = s.bridge

theorem addPerformers_refs (thread : String) (clock : Nat)
    (members : List (Enlisted × Part σ α)) :
    (addPerformers thread clock s members).config = s.config ∧
      (addPerformers thread clock s members).registry = s.registry ∧
        ((addPerformers thread clock s members).performers.map fun p => p.actor.ref) =
          (s.performers.map fun p => p.actor.ref) ++ members.map fun member => member.1.ref := by
  induction members generalizing s with
  | nil => exact ⟨rfl, rfl, (List.append_nil _).symm⟩
  | cons member rest ih =>
      rcases ih (s := s.addPerformer member.1 member.2 thread clock) with
        ⟨hconfig, hregistry, hrefs⟩
      refine ⟨hconfig, hregistry, ?_⟩
      unfold addPerformers
      rw [hrefs]
      simp [addPerformer, Actor.create]

theorem addPerformers_kept (thread : String) (clock : Nat) (members : List (Enlisted × Part σ α)) :
    s.performers <+: (addPerformers thread clock s members).performers ∧
      (forall p : Performer σ α, p ∈ (addPerformers thread clock s members).performers ->
        p ∈ s.performers ∨ p.isGone = false) ∧
        (addPerformers thread clock s members).bridge = s.bridge := by
  induction members generalizing s with
  | nil => exact ⟨List.prefix_rfl, fun _ hp => Or.inl hp, rfl⟩
  | cons member rest ih =>
      rcases ih (s := s.addPerformer member.1 member.2 thread clock) with
        ⟨hkept, hthere, hbridge⟩
      refine ⟨(List.prefix_append _ _).trans hkept, fun p hp => ?_, hbridge⟩
      rcases hthere p hp with hbefore | hnew
      · rcases List.mem_append.mp hbefore with hold | hadded
        · exact Or.inl hold
        · obtain rfl := List.mem_singleton.mp hadded
          exact Or.inr rfl
      · exact Or.inr hnew

theorem addClock_eq (s : System σ α) :
    exists (clock : Nat) (clocks : List Instant),
      s.addClock = (clock, { s with clocks := clocks }) := by
  unfold addClock
  split
  · exact ⟨_, _, rfl⟩
  · exact ⟨_, _, rfl⟩

theorem length_enlistedFrom (config : SystemConfig) (first : Nat) (actors : List ActorConfig) :
    (Registry.enlistedFrom config first actors).length = actors.length := by
  induction actors generalizing first with
  | nil => rfl
  | cons actor rest ih => simp [Registry.enlistedFrom, ih]

theorem adds_performers {registry : Registry} {actors : List ActorConfig} {parts : List (Part σ α)}
    (hadmitted : s.registry.AdmitsAll s.config actors)
    (hregistry : registry.refs.Perm
      ((Registry.enlistedFrom s.config s.nextNumber actors).map (fun e => e.ref) ++
        s.registry.refs))
    (hparts : parts.length = actors.length) (thread : String) (clock : Nat)
    (clocks : List Instant) :
    Adds s
      (addPerformers thread clock { s with registry := registry, clocks := clocks }
        ((Registry.enlistedFrom s.config s.nextNumber actors).zip parts)) actors := by
  rcases addPerformers_refs (s := { s with registry := registry, clocks := clocks }) thread clock
    ((Registry.enlistedFrom s.config s.nextNumber actors).zip parts) with
    ⟨hconfig, hsame, hrefs⟩
  rcases addPerformers_kept (s := { s with registry := registry, clocks := clocks }) thread clock
    ((Registry.enlistedFrom s.config s.nextNumber actors).zip parts) with
    ⟨hkept, hthere, hbridge⟩
  refine ⟨hadmitted, hconfig, ?_, ?_, hkept, hthere, hbridge⟩
  · rw [hsame]
    exact hregistry
  · have hlength : (Registry.enlistedFrom s.config s.nextNumber actors).length ≤ parts.length := by
      exact Nat.le_of_eq ((length_enlistedFrom ..).trans hparts.symm)
    have hzip := List.map_fst_zip hlength
    rw [hrefs]
    refine congrArg _ ?_
    calc
      _ = (((Registry.enlistedFrom s.config s.nextNumber actors).zip parts).map Prod.fst).map
            (fun e => e.ref) := by rw [List.map_map]; rfl
      _ = _ := by rw [hzip]

theorem spawn_cases (s : System σ α) (config : ActorConfig) (part : Part σ α) :
    (exists error : ActorError, s.spawn config part = (.error error, s) ∧
      ¬ s.registry.AdmitsAll s.config [config]) ∨
    (exists s' : System σ α,
      s.spawn config part =
        (.ok (Registry.enlistedAs s.config (ActorId.ofNat s.nextNumber) config).ref, s') ∧
        Adds s s' [config]) := by
  let enlisted := Registry.enlistedAs s.config (ActorId.ofNat s.nextNumber) config
  have hsingle : s.registry.AdmitsAll s.config [config] <->
      s.registry.Admits s.config config ∧
        (s.registry.plus enlisted.ref).AdmitsAll s.config [] :=
    Registry.admitsAll_cons rfl
  unfold spawn
  by_cases hadmits : s.registry.Admits s.config config
  · have hroom : (s.registry.plus enlisted.ref).length ≤ s.config.maxActors.toNat := by
      rw [Registry.length_plus]
      exact hadmits.room
    rw [Registry.enlist_of_admits hadmits]
    rcases addClock_eq { s with registry := s.registry.plus enlisted.ref } with
      ⟨clock, clocks, hclock⟩
    refine Or.inr ⟨_, by simp only [enlisted, hclock]; rfl, ?_⟩
    exact adds_performers (hsingle.mpr ⟨hadmits, Registry.admitsAll_nil hroom⟩)
      (Registry.place_perm enlisted.ref s.registry.refs)
      (show [part].length = [config].length from rfl) ("actor-" ++ config.name) clock clocks
  · cases hrefused : s.registry.enlist s.config (ActorId.ofNat s.nextNumber) config with
    | ok both =>
        rcases both with ⟨other, registry⟩
        exact absurd (Registry.admits_of_enlist hrefused) hadmits
    | error error => exact Or.inl ⟨error, rfl, fun hall => hadmits (hsingle.mp hall).left⟩

theorem spawnGroup_cases (hlimit : s.registry.length ≤ s.config.maxActors.toNat)
    (thread : ThreadConfig) (members : List (ActorConfig × Part σ α)) :
    (exists error : ActorError, s.spawnGroup thread members = (.error error, s) ∧
      (members = [] ∨ ¬ s.registry.AdmitsAll s.config (members.map Prod.fst))) ∨
    (exists s' : System σ α,
      s.spawnGroup thread members =
        (.ok ((Registry.enlistedFrom s.config s.nextNumber (members.map Prod.fst)).map
          fun e => e.ref), s') ∧
        members ≠ [] ∧ Adds s s' (members.map Prod.fst)) := by
  unfold spawnGroup Registry.enlistGroup
  cases hmembers : members with
  | nil => exact Or.inl ⟨_, rfl, Or.inl rfl⟩
  | cons first rest =>
      rw [<- hmembers, if_neg (by simp [hmembers])]
      rcases Registry.enlistAll_cases (members.map Prod.fst) s.nextNumber [] rfl hlimit with
        ⟨error, hrefused, hnone⟩ | ⟨registry, haccepted, hadmitted, hperm⟩
      · rw [hrefused]
        exact Or.inl ⟨error, rfl, Or.inr hnone⟩
      · rcases addClock_eq { s with registry := registry } with ⟨clock, clocks, hclock⟩
        rw [haccepted]
        simp only [List.nil_append, hclock]
        refine Or.inr ⟨_, rfl, ?_, ?_⟩
        · rw [hmembers]
          exact List.cons_ne_nil first rest
        · exact adds_performers hadmitted hperm (by simp) _ clock clocks

/-!
## The roster is kept
-/

theorem Continues.refs (h : Continues s s') :
    (s'.performers.map fun p => p.actor.ref) = s.performers.map fun p => p.actor.ref := by
  refine List.ext_getElem (by simp [h.length]) fun i hi hi' => ?_
  rw [List.getElem_map, List.getElem_map]
  rw [List.length_map] at hi hi'
  exact (h.performers i _ _ (List.getElem?_eq_getElem hi')
    (List.getElem?_eq_getElem hi)).actor.ref

theorem roster_create (config : SystemConfig) (transport : Transport) (isVirtual : Bool) :
    (create config transport isVirtual : System σ α).Roster := by
  constructor
  case limit => exact Nat.zero_le _
  case name => exact fun name hmem => absurd hmem List.not_mem_nil
  case distinct => exact List.nodup_nil
  case performers => exact List.Perm.refl _
  case id =>
    intro i p hp
    cases hp

theorem Roster.of_refs (h : s.Roster) (hregistry : s'.registry = s.registry)
    (hconfig : s'.config = s.config)
    (hrefs : (s'.performers.map fun p => p.actor.ref) =
      s.performers.map fun p => p.actor.ref) : s'.Roster := by
  constructor
  case limit =>
    rw [hregistry, hconfig]
    exact h.limit
  case name =>
    rw [hregistry]
    exact h.name
  case distinct =>
    rw [hregistry]
    exact h.distinct
  case performers =>
    rw [hregistry, hrefs]
    exact h.performers
  case id =>
    intro i q hq
    have href : (s.performers.map fun p => p.actor.ref)[i]? = some q.actor.ref := by
      rw [<- hrefs, List.getElem?_map, hq]
      rfl
    rw [List.getElem?_map] at href
    rcases Option.map_eq_some_iff.mp href with ⟨p, hp, hsame⟩
    rw [<- hsame]
    exact h.id i p hp

theorem Roster.continues (h : s.Roster) (hgoes : Continues s s') : s'.Roster :=
  h.of_refs hgoes.registry hgoes.config hgoes.refs

theorem refs_perish (s : System σ α) (i : Nat) :
    ((s.perish i).performers.map fun p => p.actor.ref) =
      s.performers.map fun p => p.actor.ref := by
  refine List.ext_getElem? fun j => ?_
  unfold perish modify
  rw [List.getElem?_map, List.getElem?_map, List.getElem?_modify]
  cases s.performers[j]? with
  | none => rfl
  | some p =>
      simp only [Option.map_some]
      split <;> rfl

theorem id_enlistedFrom {config : SystemConfig} {first i : Nat} {actors : List ActorConfig}
    {enlisted : Enlisted}
    (h : (Registry.enlistedFrom config first actors)[i]? = some enlisted) :
    enlisted.ref.id = ActorId.ofNat (first + i) := by
  induction actors generalizing first i with
  | nil => simp [Registry.enlistedFrom] at h
  | cons actor rest ih =>
      cases i with
      | zero =>
          obtain rfl := Option.some.inj h
          rfl
      | succ i =>
          rw [show first + (i + 1) = first + 1 + i by omega]
          exact ih h

theorem names_enlistedFrom (config : SystemConfig) (first : Nat) (actors : List ActorConfig) :
    ((Registry.enlistedFrom config first actors).map fun e => e.ref.name) =
      actors.map fun actor => actor.name := by
  induction actors generalizing first with
  | nil => rfl
  | cons actor rest ih => simp [Registry.enlistedFrom, Registry.enlistedAs, ih]

theorem Roster.adds {actors : List ActorConfig} (h : s.Roster) (hadds : Adds s s' actors) :
    s'.Roster := by
  have hnames : s'.registry.names.Perm
      ((actors.map fun actor => actor.name) ++ s.registry.names) := by
    have hperm := hadds.registry.map fun ref => ref.name
    rw [List.map_append, List.map_map] at hperm
    exact names_enlistedFrom s.config s.nextNumber actors ▸ hperm
  constructor
  case limit =>
    have hlength := hadds.registry.length_eq
    have hroom := hadds.admitted.room
    rw [List.length_append, List.length_map, length_enlistedFrom] at hlength
    rw [hadds.config]
    unfold Registry.length at *
    omega
  case name =>
    intro name hmem
    rcases List.mem_append.mp (hnames.mem_iff.mp hmem) with hnew | hold
    · rcases List.mem_map.mp hnew with ⟨actor, hactor, rfl⟩
      exact hadds.admitted.name actor hactor
    · exact h.name name hold
  case distinct =>
    refine hnames.nodup_iff.mpr (List.nodup_append.mpr ⟨hadds.admitted.distinct, h.distinct, ?_⟩)
    rintro name hnew _ hold rfl
    rcases List.mem_map.mp hnew with ⟨actor, hactor, rfl⟩
    exact hadds.admitted.free actor hactor hold
  case performers =>
    rw [hadds.performers]
    refine hadds.registry.trans ?_
    exact ((h.performers.append_left _).trans List.perm_append_comm)
  case id =>
    intro i p hp
    have href : (s'.performers.map fun p => p.actor.ref)[i]? = some p.actor.ref := by
      rw [List.getElem?_map, hp]
      rfl
    rw [hadds.performers] at href
    by_cases hold : i < s.performers.length
    · rw [List.getElem?_append_left (by simpa using hold), List.getElem?_map] at href
      rcases Option.map_eq_some_iff.mp href with ⟨q, hq, hsame⟩
      rw [<- hsame]
      exact h.id i q hq
    · rw [List.getElem?_append_right (by simpa using hold), List.length_map, List.getElem?_map]
        at href
      rcases Option.map_eq_some_iff.mp href with ⟨enlisted, henlisted, hsame⟩
      rw [<- hsame, id_enlistedFrom henlisted, nextNumber]
      congr 1
      omega

end System

theorem Sealing.Step.shape {σ α : Type} {x y : Sealing σ α} {occurrence? : Option Occurrence}
    (h : Sealing.Step x occurrence? y)
    (hlimit : x.system.registry.length ≤ x.system.config.maxActors.toNat) :
    System.Continues x.system y.system ∨
      (exists actors : List ActorConfig, System.Adds x.system y.system actors) ∨
        ((exists occurrence : Occurrence, occurrence? = some occurrence ∧ occurrence.IsSeal) ∧
          y.system = { x.system with bridge := x.system.bridge.sealBindings }) ∨
          exists (i : Nat) (p : Performer σ α), x.system.performers[i]? = some p ∧
            occurrence? = some (Occurrence.perished p.actor.ref.id) ∧
              y.system = x.system.perish i := by
  have hsame : System.Continues x.system x.system := (System.Keeps.refl x.system).toContinues
  cases h with
  | happened hhappens =>
      rcases hhappens.shape with hgoes | ⟨config, part, -, rfl⟩ | ⟨thread, members, -, rfl⟩ |
        ⟨rfl, rfl⟩ | ⟨i, p, hp, rfl, rfl⟩
      · exact Or.inl hgoes
      · rcases System.spawn_cases x.system config part with ⟨_, hrefused, -⟩ | ⟨s, haccepted, hadds⟩
        · rw [hrefused]
          exact Or.inl hsame
        · rw [haccepted]
          exact Or.inr (Or.inl ⟨_, hadds⟩)
      · rcases System.spawnGroup_cases hlimit thread members with
          ⟨_, hrefused, -⟩ | ⟨s, haccepted, -, hadds⟩
        · rw [hrefused]
          exact Or.inl hsame
        · rw [haccepted]
          exact Or.inr (Or.inl ⟨_, hadds⟩)
      · exact Or.inr (Or.inr (Or.inl ⟨⟨_, rfl, trivial⟩, rfl⟩))
      · exact Or.inr (Or.inr (Or.inr ⟨i, p, hp, rfl, rfl⟩))
  | sealed => exact Or.inr (Or.inr (Or.inl ⟨⟨_, rfl, trivial⟩, rfl⟩))
  | called => exact Or.inl hsame
  | awaited => exact Or.inl hsame

theorem Sealing.Step.roster {σ α : Type} {x y : Sealing σ α} {occurrence? : Option Occurrence}
    (h : Sealing.Step x occurrence? y) (hroster : x.system.Roster) : y.system.Roster := by
  rcases h.shape hroster.limit with hgoes | ⟨actors, hadds⟩ | ⟨-, hsealed⟩ | ⟨i, p, -, -, hlost⟩
  · exact hroster.continues hgoes
  · exact hroster.adds hadds
  · rw [hsealed]
    exact hroster.of_refs rfl rfl rfl
  · rw [hlost]
    exact hroster.of_refs rfl rfl (System.refs_perish x.system i)

theorem Sealing.Run.roster {σ α : Type} {x y : Sealing σ α} {trace : List Occurrence}
    (h : Sealing.Run x trace y) (hroster : x.system.Roster) : y.system.Roster := by
  induction h with
  | refl => exact hroster
  | snoc _ hstep ih => exact hstep.roster ih

namespace System

variable {σ α : Type} {s : System σ α}

theorem Reached.roster (h : s.Reached) : s.Roster := by
  rcases h.comes with ⟨config, transport, isVirtual, hcomes⟩
  rcases hcomes [] with ⟨trace, hrun⟩
  exact hrun.roster (roster_create config transport isVirtual)

/-!
## All or none
-/

/-- What comes of a call that is to register actors. -/
structure Registers (s s' : System σ α) (actors : List ActorConfig)
    (outcome : Except ActorError (List ActorRef)) : Prop where
  succeeds : outcome.isOk = true <-> actors ≠ [] ∧ s.registry.AdmitsAll s.config actors
  refused : forall error : ActorError, outcome = .error error -> s' = s
  /-- The new actors, in the order in which they were given, are all that is new. -/
  accepted :
    forall refs : List ActorRef, outcome = .ok refs ->
      (refs.map fun ref => (ref.name, ref.enqueueTimeout)) =
          (actors.map fun actor => (actor.name, actor.enqueueTimeout)) ∧
        s'.registry.refs.Perm (refs ++ s.registry.refs)

/-- What is true of the registry at any moment, and of the calls that register actors. -/
structure Registered (s : System σ α) : Prop where
  distinct : s.registry.names.Nodup
  name : forall name : String, name ∈ s.registry.names -> GoodName name
  limit : s.registry.length ≤ s.config.maxActors.toNat
  spawn :
    forall (config : ActorConfig) (part : Part σ α),
      Registers s (s.spawn config part).2 [config]
        ((s.spawn config part).1.map fun ref => [ref])
  spawnGroup :
    forall (thread : ThreadConfig) (members : List (ActorConfig × Part σ α)),
      Registers s (s.spawnGroup thread members).2 (members.map Prod.fst)
        (s.spawnGroup thread members).1

theorem settings_enlistedFrom (config : SystemConfig) (first : Nat) (actors : List ActorConfig) :
    (((Registry.enlistedFrom config first actors).map fun e => e.ref).map fun ref =>
      (ref.name, ref.enqueueTimeout)) =
        actors.map fun actor => (actor.name, actor.enqueueTimeout) := by
  induction actors generalizing first with
  | nil => rfl
  | cons actor rest ih =>
      rw [Registry.enlistedFrom, List.map_cons, List.map_cons, ih]
      rfl

theorem registers_refused {s : System σ α} {actors : List ActorConfig} {error : ActorError}
    (hnone : ¬ (actors ≠ [] ∧ s.registry.AdmitsAll s.config actors)) :
    Registers s s actors (.error error) :=
  ⟨⟨nofun, fun hall => absurd hall hnone⟩, fun _ _ => rfl, nofun⟩

theorem registers_accepted {s s' : System σ α} {actors : List ActorConfig}
    (hsome : actors ≠ []) (hadds : Adds s s' actors) :
    Registers s s' actors
      (.ok ((Registry.enlistedFrom s.config s.nextNumber actors).map fun e => e.ref)) := by
  refine ⟨⟨fun _ => ⟨hsome, hadds.admitted⟩, fun _ => rfl⟩, nofun, fun refs hrefs => ?_⟩
  obtain rfl := Except.ok.inj hrefs
  exact ⟨settings_enlistedFrom s.config s.nextNumber actors, hadds.registry⟩

/-- Registered names stay distinct, well formed and few enough, and every call that
registers actors registers all of them or none. -/
theorem registers_all_or_none (h : s.Reached) : s.Registered := by
  have hroster := h.roster
  refine ⟨hroster.distinct, hroster.name, hroster.limit, fun config part => ?_,
    fun thread members => ?_⟩
  · rcases spawn_cases s config part with ⟨error, hrefused, hnone⟩ | ⟨s', haccepted, hadds⟩
    · rw [hrefused]
      exact registers_refused fun hall => hnone hall.right
    · rw [haccepted]
      exact registers_accepted (List.cons_ne_nil config []) hadds
  · rcases spawnGroup_cases hroster.limit thread members with
      ⟨error, hrefused, hnone⟩ | ⟨s', haccepted, hsome, hadds⟩
    · rw [hrefused]
      refine registers_refused fun hall => ?_
      rcases hnone with rfl | hnone
      · exact hall.left rfl
      · exact hnone hall.right
    · rw [haccepted]
      exact registers_accepted (fun hnil => hsome (List.map_eq_nil_iff.mp hnil)) hadds

/-- A group whose last member has a name that is taken leaves nothing behind, so its
first member can still be registered in another group. -/
theorem registers_all_or_none_refused_group :
    let part : Part Unit Unit :=
      { handlers := [], mind := (), play := fun _ _ => Program.done (.ok (), ()) }
    let member (name : String) : ActorConfig × Part Unit Unit :=
      ({ ActorConfig.defaults with name := name }, part)
    let config : SystemConfig := { SystemConfig.defaults with maxActors := 3 }
    let single := ((create config Transport.null false).spawn (member "lamp").1 part).2
    let refused := (single.spawnGroup ThreadConfig.defaults [member "fan", member "lamp"]).2
    let full := (refused.spawnGroup ThreadConfig.defaults [member "fan", member "door"]).2
    full.Reached ∧ refused.registry.names = ["lamp"] ∧
      full.registry.names = ["door", "fan", "lamp"] ∧ full.Registered := by
  intro part member config single refused full
  have hsingle : single.Reached := (Reached.create config Transport.null false).spawn _ part
  have hrefused : refused.Reached := hsingle.spawnGroup _ _
  have hfull : full.Reached := hrefused.spawnGroup _ _
  exact ⟨hfull, by decide +kernel, by decide +kernel, registers_all_or_none hfull⟩

end System
end Troupe
