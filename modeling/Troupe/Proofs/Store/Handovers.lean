import Troupe.Proofs.Store.Calls
import Troupe.Proofs.Store.Containment
import Troupe.Proofs.Store.Effects

/-!
# Handing values over

`set` leaves in its target what the value holds, down to the same children; below the first
level the two nodes are one from then on.  If the value is handed over by the last that had
its node, the contents need not be copied: they can be moved out of the node, since nobody is
left who could look into it.  `Holding` follows who has which handles, and shows that moving
cannot be told from copying.
-/

namespace Troupe
namespace Store

open Relation

/-!
## Overwriting
-/

/-- The target holds what the value held, and nothing else has changed. -/
structure Overwritten (s : Store) (t value : Handle) (s' : Store) : Prop where
  size_eq : s'.size = s.size
  node : s'.node t = s.node value
  others : forall x : Handle, x ≠ t -> s'.node x = s.node x
  shown : forall (h : Handle) (path : List Nat), h < s.size -> s.descend? h path = some t ->
    s'.descend? h path = some t ∧ (s'.freeze h).descend? path = some (s.freeze value)

structure Alters (s : Store) (x : Handle) (s' : Store) : Prop where
  step : s.Step s'
  node_eq : forall y : Handle, y < s.size -> y ≠ x -> s'.node y = s.node y

/-- Two nodes that have gone apart: neither sees what is done to the other itself, as long as
it does not come to lie above it, and both see what is done to a node below both. -/
structure Parted (s : Store) (t value : Handle) : Prop where
  below : ¬ s.Reach t value
  above : ¬ s.Reach value t
  value_unseen : forall u u' : Store, ReflTransGen Step s u -> ¬ u.Reach t value ->
    u.Alters value u' -> u'.freeze t = u.freeze t
  target_unseen : forall u u' : Store, ReflTransGen Step s u -> ¬ u.Reach value t ->
    u.Alters t u' -> u'.freeze value = u.freeze value
  shared : forall (u u' : Store) (c : Handle) (path path' : List Nat), ReflTransGen Step s u ->
    u.descend? t path = some c -> u.descend? value path' = some c -> u.Alters c u' ->
      (u'.freeze t).descend? path = some (u'.freeze c) ∧
        (u'.freeze value).descend? path' = some (u'.freeze c) ∧
          (u'.freeze c ≠ u.freeze c ->
            u'.freeze t ≠ u.freeze t ∧ u'.freeze value ≠ u.freeze value)

section Overwriting

variable {s s' : Store} {t value x : Handle}

theorem set_cases (hset : s.set t value = (.ok (), s')) :
    (value = t ∧ s' = s) ∨
      (value ≠ t ∧ ¬ s.reaches value t = true ∧ s' = s.write t (s.node value)) := by
  unfold Store.set at hset
  by_cases hself : value = t
  · rw [if_pos hself] at hset
    cases hset
    exact Or.inl ⟨hself, rfl⟩
  · by_cases hsearch : s.reaches value t = true
    · rw [if_neg hself, if_pos hsearch] at hset
      cases hset
    · rw [if_neg hself, if_neg hsearch] at hset
      cases hset
      exact Or.inr ⟨hself, hsearch, rfl⟩

theorem Sound.freeze_overwritten (hs : s.Sound) (ht : t < s.size) (hvalue : value < s.size)
    (hset : s.set t value = (.ok (), s')) : s'.freeze t = s.freeze value := by
  rcases set_cases hset with ⟨rfl, rfl⟩ | ⟨-, hsearch, rfl⟩
  · rfl
  · have hfree := not_reach_of_reaches hs hvalue hsearch
    have hchildren : forall c : Handle, c ∈ (s.node value).children -> ¬ s.Reach c t :=
      fun c hchild hreach => hfree (ReflTransGen.head hchild hreach)
    rw [hs.freeze_write ht (hs.closed value) hchildren (hs.uniqueKeys value),
      hs.freeze_eq hvalue]

theorem Sound.overwritten (hs : s.Sound) (ht : t < s.size) (hvalue : value < s.size)
    (hset : s.set t value = (.ok (), s')) : s.Overwritten t value s' := by
  have hlocal : s.Localized t s' := by
    have heffect := (hs.effect_set (t := t) hvalue).localized hs
    rw [hset] at heffect
    exact heffect
  have hnodes : s'.size = s.size ∧ s'.node t = s.node value ∧
      forall x : Handle, x ≠ t -> s'.node x = s.node x := by
    rcases set_cases hset with ⟨rfl, rfl⟩ | ⟨-, -, rfl⟩
    · exact ⟨rfl, rfl, fun _ _ => rfl⟩
    · exact ⟨size_write .., node_write_self ht, fun _ => node_write_of_ne⟩
  constructor
  · exact hnodes.left
  · exact hnodes.right.left
  · exact hnodes.right.right
  · intro h path hsize hpath
    refine ⟨hs.descend?_to hlocal.node_eq hsize hpath, ?_⟩
    rw [(hlocal.occurrence h path hsize hpath).right, hs.freeze_overwritten ht hvalue hset]

/-- Whoever could not see a node before its contents were written elsewhere does not come to
see it: below the contents the node itself is not. -/
theorem Sound.not_reach_overwritten (hs : s.Sound) (hset : s.set t value = (.ok (), s'))
    (ht : t < s.size) {h : Handle} (hfree : ¬ s.Reach h value) (hreach : s'.Reach h x) :
    ¬ s.Reach x value := by
  rcases set_cases hset with ⟨rfl, rfl⟩ | ⟨-, -, rfl⟩
  · exact fun hbelow => hfree (hreach.trans hbelow)
  · induction hreach with
    | refl => exact hfree
    | @tail parent child _ hchild ih =>
        intro hbelow
        by_cases hself : parent = t
        · rw [Child, children, hself, node_write_self ht] at hchild
          exact hs.not_reach_parent hchild hbelow
        · rw [Child, children, node_write_of_ne hself] at hchild
          exact ih (ReflTransGen.head hchild hbelow)

theorem Hides.given {r : Handle -> Prop} {gone : List Handle} (hides : s.Hides r gone)
    (hs : s.Sound) (ht : r t) (hvalue : r value) (hset : s.set t value = (.ok (), s')) :
    s'.Hides (fun x => r x ∧ ¬ s.Reach x value) (value :: gone) := by
  have hsize := hides.region.valid
  have hregion : s'.Region r := by
    rcases set_cases hset with ⟨-, rfl⟩ | ⟨-, -, rfl⟩
    · exact hides.region
    · exact (hides.region.write ht (hides.region.children hvalue rfl)).region
  have hsame : s'.size = s.size := by
    rw [← size_set s t value, hset]
  constructor
  case region =>
    constructor
    · exact fun x hx => hregion.valid x hx.left
    · intro x child hx hchild
      refine ⟨hregion.closed x child hx.left hchild, ?_⟩
      exact hs.not_reach_overwritten hset (hsize t ht) hx.right (ReflTransGen.single hchild)
  case old =>
    intro v hmem
    rw [hsame]
    rcases List.mem_cons.mp hmem with rfl | hmem
    · exact hsize v hvalue
    · exact hides.old v hmem
  case outside =>
    intro v hmem hx
    rcases List.mem_cons.mp hmem with rfl | hmem
    · exact hx.right ReflTransGen.refl
    · exact hides.outside v hmem hx.left

theorem Alters.localized (hs : s.Sound) (halters : s.Alters x s') : s.Localized x s' :=
  hs.localized (hs.step halters.step) (hs.size_le halters.step) halters.node_eq

theorem Alters.shows (hs : s.Sound) (halters : s.Alters x s') {h : Handle} (hsize : h < s.size)
    {path : List Nat} (hpath : s.descend? h path = some x) :
    (s'.freeze h).descend? path = some (s'.freeze x) ∧
      (s'.freeze x ≠ s.freeze x -> s'.freeze h ≠ s.freeze h) := by
  have hlocal := halters.localized hs
  constructor
  · exact (hlocal.occurrence h path hsize hpath).right
  · intro hchanged hsame
    exact hchanged ((hlocal.differs h hsize (reach_iff_descend?.mpr ⟨path, hpath⟩)).mp hsame)

theorem Sound.parted (hs : s.Sound) (ht : t < s.size) (hvalue : value < s.size)
    (hne : value ≠ t) (hset : s.set t value = (.ok (), s')) : s'.Parted t value := by
  have hwritten := hs.overwritten ht hvalue hset
  have hs' : s'.Sound := by
    have hsound := sound_set (h := t) hs hvalue
    rw [hset] at hsound
    exact hsound
  have hlater : forall {u : Store}, ReflTransGen Step s' u -> u.Sound ∧ t < u.size ∧
      value < u.size := by
    intro u hrun
    rcases hs'.run hrun with ⟨hu, hle⟩
    rw [hwritten.size_eq] at hle
    exact ⟨hu, Nat.lt_of_lt_of_le ht hle, Nat.lt_of_lt_of_le hvalue hle⟩
  constructor
  case below =>
    intro hreach
    rcases hreach.cases_head with heq | ⟨c, hchild, hbelow⟩
    · exact hne heq.symm
    · rw [Child, children, hwritten.node] at hchild
      exact hs.not_reach_overwritten hset ht (hs.not_reach_parent hchild) hbelow
        ReflTransGen.refl
  case above =>
    intro hreach
    have hbefore := reach_to (fun x hx => (hwritten.others x hx).symm) hreach
    rcases set_cases hset with ⟨heq, -⟩ | ⟨-, hsearch, -⟩
    · exact hne heq
    · exact not_reach_of_reaches hs hvalue hsearch hbefore
  case value_unseen =>
    intro u u' hrun hfree halters
    rcases hlater hrun with ⟨hu, ht', -⟩
    exact (halters.localized hu).elsewhere t ht' hfree
  case target_unseen =>
    intro u u' hrun hfree halters
    rcases hlater hrun with ⟨hu, -, hvalue'⟩
    exact (halters.localized hu).elsewhere value hvalue' hfree
  case shared =>
    intro u u' c path path' hrun hpath hpath' halters
    rcases hlater hrun with ⟨hu, ht', hvalue'⟩
    have hfirst := halters.shows hu ht' hpath
    have hsecond := halters.shows hu hvalue' hpath'
    exact ⟨hfirst.left, hsecond.left, fun hchanged =>
      ⟨hfirst.right hchanged, hsecond.right hchanged⟩⟩

end Overwriting

/-!
## Handles in hand
-/

/-- A store with the handles into it that are in somebody's hands, as often as they are. -/
structure Holding where
  store : Store
  held : List Handle

/-- What can be done with handles in hand.  A call leaves its arguments in hand; a value that
is given away to overwrite a target is in hand no longer, even if it is refused. -/
inductive Action where
  | call (c : Call)
  | give (t value : Handle)
  | drop (h : Handle)

namespace Holding

/-- Nobody else has the node: it is in no other hands, nor below anything that is. -/
def sole (σ : Holding) (value : Handle) : Bool :=
  (σ.held.erase value).all fun h => !σ.store.reaches h value

/-- Overwrites a node with a value that is given away.  If contents may be moved, those of a
value that nobody else has are moved out of it. -/
def give (moves : Bool) (σ : Holding) (t value : Handle) : Answer × Holding :=
  match σ.store.set t value with
  | (.ok (), s) =>
      (Answer.done,
        { store := if moves && σ.sole value then s.write value Node.null else s
          held := σ.held.erase value })
  | (.error error, s) =>
      (Answer.refused error, { store := s, held := σ.held.erase value })

def perform (moves : Bool) (σ : Holding) : Action -> Answer × Holding
  | Action.call c =>
      let (answer, s) := c.run σ.store
      (answer, { store := s, held := answer.handles ++ σ.held })
  | Action.give t value => σ.give moves t value
  | Action.drop h => (Answer.done, { σ with held := σ.held.erase h })

def answers (moves : Bool) (σ : Holding) : List Action -> List Answer
  | [] => []
  | action :: rest =>
      (σ.perform moves action).1 :: answers moves (σ.perform moves action).2 rest

/-- The handles that an action is about are in hand, the target also after the value has been
given away. -/
def Allows (σ : Holding) : Action -> Prop
  | Action.call c => c.Proper ∧ forall h : Handle, h ∈ c.arguments -> h ∈ σ.held
  | Action.give t value => value ∈ σ.held ∧ t ∈ σ.held.erase value
  | Action.drop h => h ∈ σ.held

def AllowsAll (σ : Holding) : List Action -> Prop
  | [] => True
  | action :: rest => σ.Allows action ∧ AllowsAll (σ.perform true action).2 rest

/-- A holding as another one in which nothing was ever moved out, and in which there are more
handles in hand.  What they have of nodes in sight is the same. -/
structure Mirrors (σ τ : Holding) (others : List Handle) : Prop where
  sound : τ.store.Sound
  held : τ.held = σ.held ++ others
  hidden : exists (r : Handle -> Prop) (gone : List Handle), τ.store.Hides r gone ∧
    (forall h : Handle, h ∈ σ.held -> r h) ∧ σ.store = τ.store.blank gone

section Mirroring

variable {σ τ ρ : Holding} {others : List Handle} {t value : Handle} {action : Action}

/-- Nobody else has a node exactly if its handle is not in hand once more and no container
that can be come to from a handle in hand has it. -/
theorem sole_iff (hs : σ.store.Sound)
    (hvalid : forall h : Handle, h ∈ σ.held -> h < σ.store.size) :
    σ.sole value = true <->
      value ∉ σ.held.erase value ∧
        forall h parent : Handle, h ∈ σ.held.erase value -> σ.store.Reach h parent ->
          ¬ σ.store.Child parent value := by
  have hsearch : σ.sole value = true <->
      forall h : Handle, h ∈ σ.held.erase value -> ¬ σ.store.Reach h value := by
    rw [sole, List.all_eq_true]
    refine forall_congr' fun h => forall_congr' fun hmem => ?_
    rw [Bool.not_eq_true', ← Bool.not_eq_true,
      hs.reaches_iff (hvalid h (List.mem_of_mem_erase hmem))]
  rw [hsearch]
  constructor
  · intro hfree
    constructor
    · exact fun hmem => hfree value hmem ReflTransGen.refl
    · exact fun h parent hmem hreach hchild => hfree h hmem (hreach.tail hchild)
  · rintro ⟨hlast, hunheld⟩ h hmem hreach
    rcases hreach.cases_tail with heq | ⟨parent, habove, hchild⟩
    · exact hlast (heq ▸ hmem)
    · exact hunheld h parent hmem habove hchild

theorem Allows.of_more (hheld : τ.held = σ.held ++ others) (hallows : σ.Allows action) :
    τ.Allows action := by
  have hmore : forall x : Handle, x ∈ σ.held -> x ∈ τ.held := by
    intro x hmem
    rw [hheld]
    exact List.mem_append_left others hmem
  cases action with
  | call c => exact ⟨hallows.left, fun x hmem => hmore x (hallows.right x hmem)⟩
  | give t value =>
      refine ⟨hmore value hallows.left, ?_⟩
      rw [hheld, List.erase_append_left others hallows.left]
      exact List.mem_append_left others hallows.right
  | drop x => exact hmore x hallows

theorem Mirrors.call (h : σ.Mirrors τ others) {c : Call} (hproper : c.Proper)
    (hheld : forall x : Handle, x ∈ c.arguments -> x ∈ σ.held) :
    (σ.perform true (Action.call c)).1 = (τ.perform false (Action.call c)).1 ∧
      (σ.perform true (Action.call c)).2.Mirrors (τ.perform false (Action.call c)).2
        others := by
  rcases h.hidden with ⟨r, gone, hides, hsight, hstore⟩
  have harguments : forall x : Handle, x ∈ c.arguments -> r x :=
    fun x hmem => hsight x (hheld x hmem)
  rcases Call.act hproper harguments with ⟨out, hact, hout⟩
  rcases hact.confined h.sound hides.region (fun _ => id) with ⟨r', hextends, hsight'⟩
  have hrun : c.run σ.store = blanked gone (c.run τ.store) := by
    rw [hstore, Call.run_blank h.sound hides harguments]
  simp only [perform, hrun, blanked]
  refine ⟨trivial, h.sound.step (hact.step hides.region.valid), ?_, r', gone,
    hides.extend hextends, fun x hmem => ?_, rfl⟩
  · rw [h.held, List.append_assoc]
  · rcases List.mem_append.mp hmem with hnew | hold
    · exact hsight' x (hout x hnew)
    · exact hextends.mono x (hsight x hold)

theorem Mirrors.give (h : σ.Mirrors τ others) (hvalue : value ∈ σ.held)
    (ht : t ∈ σ.held.erase value) :
    (σ.give true t value).1 = (τ.give false t value).1 ∧
      (σ.give true t value).2.Mirrors (τ.give false t value).2 others := by
  rcases h.hidden with ⟨r, gone, hides, hsight, hstore⟩
  have hr := hsight value hvalue
  have hrt := hsight t (List.mem_of_mem_erase ht)
  have hset : σ.store.set t value = blanked gone (τ.store.set t value) := by
    rw [hstore, hides.set hrt hr]
  have hheld : τ.held.erase value = σ.held.erase value ++ others := by
    rw [h.held, List.erase_append_left others hvalue]
  have hsound := sound_set (h := t) h.sound (hides.region.valid value hr)
  rcases hides.region.set hrt hr with ⟨r', hextends, -⟩
  have hsight' : forall x : Handle, x ∈ σ.held.erase value -> r' x :=
    fun x hmem => hextends.mono x (hsight x (List.mem_of_mem_erase hmem))
  rcases houtcome : τ.store.set t value with ⟨error | _, s⟩
  · rw [houtcome] at hset hsound hextends
    simp only [Holding.give, hset, houtcome, blanked]
    exact ⟨trivial, hsound, hheld, r', gone, hides.extend hextends, hsight', rfl⟩
  · rw [houtcome] at hset hsound hextends
    simp only [Holding.give, hset, houtcome, blanked, Bool.true_and, Bool.false_and]
    refine ⟨trivial, hsound, hheld, ?_⟩
    by_cases hsole : σ.sole value = true
    · refine ⟨_, value :: gone, hides.given h.sound hrt hr houtcome, fun x hmem => ?_, ?_⟩
      · have hx := hsight x (List.mem_of_mem_erase hmem)
        have hsearch := List.all_eq_true.mp hsole x hmem
        rw [hstore, hides.reaches hx, Bool.not_eq_true', ← Bool.not_eq_true] at hsearch
        exact ⟨hx, not_reach_of_reaches h.sound (hides.region.valid x hx) hsearch⟩
      · rw [if_pos hsole]
        exact write_null_blank
    · refine ⟨r', gone, hides.extend hextends, hsight', ?_⟩
      rw [if_neg hsole]
      rfl

theorem Mirrors.perform (h : σ.Mirrors τ others) (hallows : σ.Allows action) :
    (σ.perform true action).1 = (τ.perform false action).1 ∧
      (σ.perform true action).2.Mirrors (τ.perform false action).2 others := by
  cases action with
  | call c => exact h.call hallows.left hallows.right
  | give t value => exact h.give hallows.left hallows.right
  | drop x =>
      refine ⟨rfl, h.sound, ?_, ?_⟩
      · rw [Holding.perform, Holding.perform, h.held, List.erase_append_left others hallows]
      · rcases h.hidden with ⟨r, gone, hides, hsight, hstore⟩
        exact ⟨r, gone, hides, fun y hmem => hsight y (List.mem_of_mem_erase hmem), hstore⟩

/-- Whether contents are moved or copied, and whoever else has handles, the answers are those
that there are if everything is copied. -/
theorem Mirrors.answers (h : σ.Mirrors τ others) (h' : ρ.Mirrors τ []) {actions : List Action}
    (hallows : σ.AllowsAll actions) :
    σ.answers true actions = τ.answers false actions ∧
      ρ.answers true actions = τ.answers false actions := by
  induction actions generalizing σ τ ρ with
  | nil => exact ⟨rfl, rfl⟩
  | cons action rest ih =>
      have hheld : ρ.held = σ.held ++ others := by
        rw [← h.held, h'.held, List.append_nil]
      have hfirst := h.perform hallows.left
      have hfirst' := h'.perform (hallows.left.of_more hheld)
      have hrest := ih hfirst.right hfirst'.right hallows.right
      simp only [Holding.answers, hfirst.left, hfirst'.left, hrest, and_self]

theorem mirrors_of_store_eq (hs : τ.store.Sound) (hstore : σ.store = τ.store)
    (hheld : τ.held = σ.held ++ others)
    (hvalid : forall h : Handle, h ∈ σ.held -> h < τ.store.size) : σ.Mirrors τ others := by
  refine ⟨hs, hheld, fun h => h < τ.store.size, [], ?_, hvalid, ?_⟩
  · constructor
    · exact ⟨fun _ => id, fun parent child _ hchild => hs.closed parent child hchild⟩
    · exact fun v hmem => by cases hmem
    · exact fun v hmem => by cases hmem
  · rw [hstore, blank_nil]

theorem mirrors_self (hs : σ.store.Sound)
    (hvalid : forall h : Handle, h ∈ σ.held -> h < σ.store.size) : σ.Mirrors σ [] :=
  mirrors_of_store_eq hs rfl (List.append_nil σ.held).symm hvalid

end Mirroring

end Holding

/-- A value that overwrites a target comes to share with it what it holds, and no more.  Nobody
can tell whether the contents were moved out of a node that nobody else had or were copied:
all answers are the same whatever other handles there are, and as if nothing was ever moved. -/
theorem overwriting_shares_children {s : Store} (hreachable : s.Reachable) :
    (forall (t value : Handle) (s' : Store), t < s.size -> value < s.size ->
      s.set t value = (.ok (), s') ->
        s.Overwritten t value s' ∧ (value ≠ t -> s'.Parted t value)) ∧
      forall held : List Handle, (forall h : Handle, h ∈ held -> h < s.size) ->
        (forall value : Handle, Holding.sole { store := s, held := held } value = true <->
          value ∉ held.erase value ∧
            forall h parent : Handle, h ∈ held.erase value -> s.Reach h parent ->
              ¬ s.Child parent value) ∧
          forall (others : List Handle) (actions : List Action),
            (forall h : Handle, h ∈ others -> h < s.size) ->
            Holding.AllowsAll { store := s, held := held } actions ->
              Holding.answers true { store := s, held := held } actions =
                  Holding.answers true { store := s, held := held ++ others } actions ∧
                Holding.answers true { store := s, held := held } actions =
                  Holding.answers false { store := s, held := held } actions := by
  have hs := hreachable.sound
  constructor
  · intro t value s' ht hvalue hset
    exact ⟨hs.overwritten ht hvalue hset, fun hne => hs.parted ht hvalue hne hset⟩
  · intro held hheld
    refine ⟨fun value => Holding.sole_iff hs hheld, fun others actions hothers hallows => ?_⟩
    have hvalid : forall h : Handle, h ∈ held ++ others -> h < s.size := by
      intro h hmem
      rcases List.mem_append.mp hmem with hmem | hmem
      · exact hheld h hmem
      · exact hothers h hmem
    have hmore : Holding.Mirrors { store := s, held := held }
        { store := s, held := held ++ others } others :=
      Holding.mirrors_of_store_eq hs rfl rfl hheld
    have hself : Holding.Mirrors { store := s, held := held } { store := s, held := held } [] :=
      Holding.mirrors_self hs hheld
    rcases hmore.answers (Holding.mirrors_self hs hvalid) hallows with ⟨hcopied, hcopied'⟩
    exact ⟨hcopied.trans hcopied'.symm, (hself.answers hself hallows).left⟩

/-- A target that has held the value's child before is looked at from the node above it. -/
theorem overwriting_shares_children_moved_out :
    let s := ((((Store.empty.alloc (Node.integer 1)).2.ofItems [0]).2.ofPairs
      [("a", 0)]).2.ofItems [1]).2
    let alone : Holding := { store := s, held := [1, 2, 3] }
    let several : Holding := { store := s, held := [1, 2, 3] ++ [2] }
    let actions : List Action :=
      [Action.give 1 2, Action.call (Call.freeze 3), Action.call (Call.look 1)]
    (alone.sole 2 = true ∧ several.sole 2 = false) ∧
      s.Overwritten 1 2 (s.set 1 2).2 ∧ (s.set 1 2).2.Parted 1 2 ∧
        alone.answers true actions = several.answers true actions ∧
          alone.answers true actions = alone.answers false actions := by
  intro s alone several actions
  have hreachable : s.Reachable :=
    (((reachable_empty.step (Step.leaf rfl)).step (Step.ofItems (by decide))).step
      (Step.ofPairs (by decide))).step (Step.ofItems (by decide))
  rcases overwriting_shares_children hreachable with ⟨hset, hruns⟩
  rcases hset 1 2 (s.set 1 2).2 (by decide) (by decide) rfl with ⟨hwritten, hparted⟩
  have hallows : alone.AllowsAll actions :=
    ⟨⟨by decide, by decide⟩, ⟨trivial, by decide⟩, ⟨trivial, by decide⟩, trivial⟩
  have hobserved := (hruns [1, 2, 3] (by decide)).right
  refine ⟨⟨by decide, by decide⟩, hwritten, hparted (by decide), ?_⟩
  exact hobserved [2] actions (by decide) hallows

end Store
end Troupe
