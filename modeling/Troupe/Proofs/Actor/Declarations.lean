import Troupe.Actor.Startup

/-!
# Declarations

A declaration is refused before anything has changed, or its value cannot be placed, or
it goes through.  Whatever comes of it, the actor is bound with its first writable
property to the topic of its own writes, and to no other one.
-/

namespace Troupe
namespace Actor

variable {α : Type} {a : Actor α} {bridge bridge' : Bridge} {info : PropertyInfo}
variable {initial : Handle}

theorem checkDeclaration_eq_ok_iff {t : Tree} :
    a.checkDeclaration info t = .ok () <->
      a.isStarting = true ∧ a.props.info? info.name = none ∧ info.type.admits t = true := by
  unfold checkDeclaration
  cases a.isStarting <;> cases a.props.info? info.name <;> cases info.type.admits t <;> simp

inductive Declares (a : Actor α) (bridge : Bridge) (info : PropertyInfo) (initial : Handle) :
    Except ActorError Unit × Actor α × Bridge -> Prop where
  | refused {error : ActorError} :
      a.checkDeclaration info (a.props.store.freeze initial) = .error error ->
        Declares a bridge info initial (.error error, a, bridge)
  | unbound {error : ActorError} :
      a.checkDeclaration info (a.props.store.freeze initial) = .ok () ->
        a.bindWrites bridge info = .error error ->
          Declares a bridge info initial (.error error, a, bridge)
  | unplaced {error : ActorError} {bridge' : Bridge} :
      a.checkDeclaration info (a.props.store.freeze initial) = .ok () ->
        a.bindWrites bridge info = .ok bridge' ->
          (a.props.insert info.name initial).1 = .error error ->
            Declares a bridge info initial
              (.error error, { a with props := (a.props.insert info.name initial).2 }, bridge')
  | declared {old : Option Handle} {bridge' : Bridge} :
      a.checkDeclaration info (a.props.store.freeze initial) = .ok () ->
        a.bindWrites bridge info = .ok bridge' ->
          (a.props.insert info.name initial).1 = .ok old ->
            Declares a bridge info initial
              (.ok (),
                { a with
                  props :=
                    { (a.props.insert info.name initial).2 with
                      declared := a.props.declared ++
                        [{ info with id := UInt32.ofNat a.props.declared.length }] } },
                bridge')

theorem declares (a : Actor α) (bridge : Bridge) (info : PropertyInfo) (initial : Handle) :
    Declares a bridge info initial (a.declare bridge info initial) := by
  unfold declare
  cases hcheck : a.checkDeclaration info (a.props.store.freeze initial) with
  | error error => exact Declares.refused hcheck
  | ok =>
      cases hbind : a.bindWrites bridge info with
      | error error => exact Declares.unbound hcheck hbind
      | ok bridge' =>
          have hsplit : a.props.insert info.name initial =
              ((a.props.insert info.name initial).1, (a.props.insert info.name initial).2) := rfl
          cases hplaced : (a.props.insert info.name initial).1 with
          | error error =>
              rw [hplaced] at hsplit
              rw [hsplit]
              exact Declares.unplaced hcheck hbind hplaced
          | ok old =>
              rw [hplaced] at hsplit
              rw [hsplit]
              exact Declares.declared hcheck hbind hplaced

/-!
## Bindings for writes
-/

/-- The binding is for writes of the actor's own properties. -/
structure OwnWrites (a : Actor α) (binding : Binding) : Prop where
  pattern : TopicPattern.parse (a.topic "set") = .ok binding.pattern
  target : binding.target = a.ref
  reading : binding.reading = Reading.setProps

theorem bindWrites_cases (h : a.bindWrites bridge info = .ok bridge') :
    (info.mode.writable && !a.props.anyWritable) = false ∧ bridge' = bridge ∨
      exists binding : Binding, a.OwnWrites binding ∧
        bridge' = { bridge with bindings := bridge.bindings ++ [binding] } := by
  unfold bindWrites at h
  split at h
  · unfold Bridge.bind at h
    split at h
    · cases h
    · next pattern hpattern =>
        split at h
        · cases h
        · cases h
          exact Or.inr ⟨_, ⟨hpattern, rfl, rfl⟩, rfl⟩
  · next hfirst =>
      cases h
      exact Or.inl ⟨Bool.eq_false_iff.mpr hfirst, rfl⟩

theorem bindWrites_of_first (hfirst : (info.mode.writable && !a.props.anyWritable) = true) :
    a.bindWrites bridge info = bridge.bind (a.topic "set") a.ref Reading.setProps :=
  if_pos hfirst

theorem bindWrites_of_later (hlater : (info.mode.writable && !a.props.anyWritable) = false) :
    a.bindWrites bridge info = .ok bridge :=
  if_neg (Bool.eq_false_iff.mp hlater)

theorem bindWrites_added (h : a.bindWrites bridge info = .ok bridge') :
    exists added : List Binding,
      bridge' = { bridge with bindings := bridge.bindings ++ added } ∧
        (added.length = if info.mode.writable && !a.props.anyWritable then 1 else 0) ∧
          forall binding : Binding, binding ∈ added -> a.OwnWrites binding := by
  cases hfirst : info.mode.writable && !a.props.anyWritable with
  | false =>
      rw [bindWrites_of_later hfirst] at h
      cases h
      exact ⟨[], by rw [List.append_nil], rfl, nofun⟩
  | true =>
      rcases bindWrites_cases h with ⟨hlater, -⟩ | ⟨binding, hown, hadded⟩
      · rw [hfirst] at hlater
        cases hlater
      · exact ⟨[binding], hadded, rfl, fun other hmem => List.mem_singleton.mp hmem ▸ hown⟩

theorem Declares.bindings {outcome : Except ActorError Unit × Actor α × Bridge}
    (h : Declares a bridge info initial outcome) :
    exists added : List Binding, outcome.2.2.bindings = bridge.bindings ++ added ∧
      forall binding : Binding, binding ∈ added -> a.OwnWrites binding := by
  have hbound : forall bridge' : Bridge, a.bindWrites bridge info = .ok bridge' ->
      exists added : List Binding, bridge'.bindings = bridge.bindings ++ added ∧
        forall binding : Binding, binding ∈ added -> a.OwnWrites binding := by
    intro bridge' hbind
    rcases bindWrites_added hbind with ⟨added, hadded, -, hown⟩
    rw [hadded]
    exact ⟨added, rfl, hown⟩
  cases h with
  | refused => exact ⟨[], (List.append_nil _).symm, nofun⟩
  | unbound => exact ⟨[], (List.append_nil _).symm, nofun⟩
  | unplaced _ hbind => exact hbound _ hbind
  | declared _ hbind => exact hbound _ hbind

def BoundToWrites (a : Actor α) (bridge : Bridge) : Prop :=
  exists binding : Binding, binding ∈ bridge.bindings ∧ a.OwnWrites binding

theorem Declares.boundToWrites {outcome : Except ActorError Unit × Actor α × Bridge}
    (h : Declares a bridge info initial outcome) (hbefore : a.props.anyWritable = false)
    (hafter : outcome.2.1.props.anyWritable = true) : a.BoundToWrites outcome.2.2 := by
  have hkept : (a.props.insert info.name initial).2.anyWritable = a.props.anyWritable := rfl
  cases h with
  | refused =>
      rw [hbefore] at hafter
      cases hafter
  | unbound =>
      rw [hbefore] at hafter
      cases hafter
  | unplaced =>
      rw [hkept, hbefore] at hafter
      cases hafter
  | declared _ hbind =>
      have hwritable : info.mode.writable = true := by
        rw [Props.anyWritable, List.any_append] at hafter
        rw [Props.anyWritable] at hbefore
        simpa [hbefore] using hafter
      rcases bindWrites_cases hbind with ⟨hnot, -⟩ | ⟨binding, hown, hbound⟩
      · rw [hwritable, hbefore] at hnot
        cases hnot
      · rw [hbound]
        exact ⟨binding, List.mem_append_right _ List.mem_cons_self, hown⟩

end Actor
end Troupe
