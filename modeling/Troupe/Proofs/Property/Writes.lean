import Troupe.Proofs.Actor.Declarations
import Troupe.Proofs.Property.Values

/-!
# Writes from outside

A write of properties is made as a whole or not at all.  An actor checks all of it
before it changes anything, changes exactly the named values, and puts the earlier
values back when its program objects.
-/

namespace Troupe

open Relation Store

namespace Props

/-!
## How properties come about
-/

structure Worked (p p' : Props) : Prop where
  store : ReflTransGen Store.Step p.store p'.store
  root : p'.root = p.root
  declared : p'.declared = p.declared

/-- Properties that an actor may come to have: declared by its program, worked on
by it, written from outside, and put back. -/
inductive Made : Props -> Prop where
  | empty : Made Props.empty
  | work {p p' : Props} : Made p -> p.Worked p' -> Made p'
  | declare {α : Type} {a : Actor α} {initial : Handle} (bridge : Bridge) (info : PropertyInfo) :
      Made a.props -> initial < a.props.store.size ->
        Made (a.declare bridge info initial).2.1.props
  | write {p : Props} {payload : Tree} (actor : String) :
      Made p -> payload.UniqueKeys -> Made (p.apply actor payload).2
  | restore {p : Props} {previous : List (String × Tree)} :
      Made p -> Tree.UniqueKeysEntries previous -> Made (p.restore previous)

theorem Worked.valid {p p' : Props} (h : p.Worked p') (hp : p.Valid) : p'.Valid := by
  rcases hp.sound.run h.store with ⟨hsound, hsize⟩
  refine ⟨hsound, ?_⟩
  rw [h.root]
  exact Nat.lt_of_lt_of_le hp.root hsize

def names (p : Props) : List String :=
  p.declared.map fun info => info.name

theorem info?_eq_none {p : Props} {name : String} (h : p.info? name = none) :
    name ∉ p.names := by
  intro hmem
  rcases List.mem_map.mp hmem with ⟨info, hinfo, rfl⟩
  have hnone := List.find?_eq_none.mp h info hinfo
  simp at hnone

theorem info?_of_mem {p : Props} (hnames : p.names.Nodup) {info : PropertyInfo}
    (hmem : info ∈ p.declared) : p.info? info.name = some info := by
  cases hfound : p.info? info.name with
  | none => exact absurd (List.mem_map.mpr ⟨info, hmem, rfl⟩) (info?_eq_none hfound)
  | some other =>
      have hname : other.name = info.name := by simpa using List.find?_some hfound
      have hother : other ∈ p.declared := List.mem_of_find?_eq_some hfound
      rw [List.inj_on_of_nodup_map hnames hother hmem hname]

theorem declare_names {α : Type} (a : Actor α) (bridge : Bridge) (info : PropertyInfo)
    (initial : Handle) :
    (a.declare bridge info initial).2.1.props.names = a.props.names ∨
      info.name ∉ a.props.names ∧
        (a.declare bridge info initial).2.1.props.names = a.props.names ++ [info.name] := by
  have hdeclares := a.declares bridge info initial
  generalize a.declare bridge info initial = outcome at hdeclares
  cases hdeclares with
  | refused => exact Or.inl rfl
  | unbound => exact Or.inl rfl
  | unplaced => exact Or.inl rfl
  | declared hcheck =>
      have hnew := info?_eq_none (Actor.checkDeclaration_eq_ok_iff.mp hcheck).right.left
      exact Or.inr ⟨hnew, List.map_append⟩

theorem declare_nodup {α : Type} {a : Actor α} (hnames : a.props.names.Nodup) (bridge : Bridge)
    (info : PropertyInfo) (initial : Handle) :
    (a.declare bridge info initial).2.1.props.names.Nodup := by
  rcases declare_names a bridge info initial with hsame | ⟨hnew, hadded⟩
  · rw [hsame]
    exact hnames
  · rw [hadded]
    exact List.nodup_append.mpr ⟨hnames, List.nodup_singleton _, by
      rintro name hmem _ hlast rfl
      exact hnew (List.mem_singleton.mp hlast ▸ hmem)⟩

theorem declare_valid {α : Type} {a : Actor α} (hp : a.props.Valid) {initial : Handle}
    (hinitial : initial < a.props.store.size) (bridge : Bridge) (info : PropertyInfo) :
    (a.declare bridge info initial).2.1.props.Valid := by
  have hinserted := hp.insert hinitial info.name
  have hdeclares := a.declares bridge info initial
  generalize a.declare bridge info initial = outcome at hdeclares
  cases hdeclares with
  | refused => exact hp
  | unbound => exact hp
  | unplaced => exact hinserted
  | declared => exact ⟨hinserted.sound, hinserted.root⟩

theorem valid_empty : Props.empty.Valid :=
  ⟨sound_empty.alloc nofun Entries.unique_nil, by decide⟩

theorem Valid.apply {p : Props} (hp : p.Valid) (actor : String) {payload : Tree}
    (hunique : payload.UniqueKeys) :
    (p.apply actor payload).2.Valid ∧ (p.apply actor payload).2.declared = p.declared := by
  cases payload with
  | map entries =>
      unfold Props.apply
      simp only
      split
      · exact ⟨hp, rfl⟩
      · have hwritten := (hp.writeAll hunique.right).left
        exact ⟨hwritten.valid, hwritten.declared⟩
  | _ => exact ⟨hp, rfl⟩

theorem Made.valid {p : Props} (h : p.Made) : p.Valid ∧ p.names.Nodup := by
  induction h with
  | empty => exact ⟨valid_empty, List.nodup_nil⟩
  | work _ hworked ih =>
      refine ⟨hworked.valid ih.left, ?_⟩
      rw [names, hworked.declared]
      exact ih.right
  | @declare α a initial bridge info _ hinitial ih =>
      exact ⟨declare_valid ih.left hinitial bridge info, declare_nodup ih.right bridge info initial⟩
  | write actor _ hunique ih =>
      have happlied := ih.left.apply actor hunique
      refine ⟨happlied.left, ?_⟩
      rw [names, happlied.right]
      exact ih.right
  | restore _ hunique ih =>
      have hrestored := ih.left.restore hunique
      refine ⟨hrestored.valid, ?_⟩
      rw [names, hrestored.declared]
      exact ih.right

theorem Made.declareTree {α : Type} {a : Actor α} (h : Made a.props) (bridge : Bridge)
    (info : PropertyInfo) {initial : Tree} (hunique : initial.UniqueKeys) :
    let live := a.props.store.thaw initial
    Made ({ a with props := { a.props with store := live.2 } }.declare bridge info
      live.1).2.1.props := by
  intro live
  have hstep : ReflTransGen Store.Step a.props.store live.2 :=
    ReflTransGen.single (Store.Step.thaw hunique)
  have hlive : live.1 < live.2.size :=
    (yields_thaw h.valid.left.sound hunique).valid
  exact Made.declare bridge info (Made.work h ⟨hstep, rfl, rfl⟩) hlive

/-!
## Checks
-/

/-- An entry of a write names a writable property and gives it a value of its type. -/
def Fits (p : Props) (entry : String × Tree) : Prop :=
  exists info : PropertyInfo, info ∈ p.declared ∧ info.name = entry.1 ∧
    info.mode.writable = true ∧ info.type.admits entry.2 = true

def Accepts (p : Props) (payload : Tree) : Prop :=
  exists entries : List (String × Tree), payload = Tree.map entries ∧
    forall entry : String × Tree, entry ∈ entries -> p.Fits entry

def HoldsDeclared (p : Props) : Prop :=
  exists values : Entries Tree, p.tree = Tree.map values ∧
    forall name : String, name ∈ p.names -> name ∈ Entries.keys values

theorem accepts_map_iff {p : Props} {entries : List (String × Tree)} :
    p.Accepts (Tree.map entries) <->
      forall entry : String × Tree, entry ∈ entries -> p.Fits entry := by
  constructor
  · rintro ⟨others, hsame, hfits⟩
    cases hsame
    exact hfits
  · intro hfits
    exact ⟨entries, rfl, hfits⟩

theorem check_eq_ok_iff {p : Props} (hnames : p.names.Nodup) {entry : String × Tree} :
    p.check entry = .ok () <-> p.Fits entry := by
  constructor
  · intro h
    unfold check at h
    split at h
    · cases h
    · next info hinfo =>
        have hname : info.name = entry.1 := by simpa using List.find?_some hinfo
        split at h
        · cases h
        · next hmode =>
            split at h
            · cases h
            · next htype =>
                exact ⟨info, List.mem_of_find?_eq_some hinfo, hname, by simpa using hmode,
                  by simpa using htype⟩
  · rintro ⟨info, hmem, hname, hmode, htype⟩
    have hinfo := info?_of_mem hnames hmem
    rw [hname] at hinfo
    simp [check, hinfo, hmode, htype]

theorem checkAll_eq_ok_iff {p : Props} (hnames : p.names.Nodup)
    {entries : List (String × Tree)} :
    p.checkAll entries = .ok () <->
      forall entry : String × Tree, entry ∈ entries -> p.Fits entry := by
  induction entries with
  | nil => exact ⟨fun _ => nofun, fun _ => rfl⟩
  | cons entry rest ih =>
      rw [List.forall_mem_cons, <- check_eq_ok_iff hnames, <- ih, checkAll]
      cases p.check entry with
      | ok _ => simp
      | error error => simp

theorem apply_of_not_accepts {p : Props} (hnames : p.names.Nodup) (actor : String) {payload : Tree}
    (h : ¬ p.Accepts payload) :
    exists error : ActorError, p.apply actor payload = (.error error, p) := by
  cases payload with
  | map entries =>
      cases hcheck : p.checkAll entries with
      | ok _ => exact absurd (accepts_map_iff.mpr ((checkAll_eq_ok_iff hnames).mp hcheck)) h
      | error error => exact ⟨error, by simp only [Props.apply, hcheck]⟩
  | _ => exact ⟨_, rfl⟩

theorem apply_of_accepts {p : Props} (hnames : p.names.Nodup) (actor : String)
    {entries : List (String × Tree)} (h : p.Accepts (Tree.map entries)) :
    p.apply actor (Tree.map entries) = p.writeAll entries := by
  have hcheck := (checkAll_eq_ok_iff hnames).mpr (accepts_map_iff.mp h)
  simp only [Props.apply, hcheck]

theorem HoldsDeclared.present {p : Props} (h : p.HoldsDeclared) {values entries : Entries Tree}
    (htree : p.tree = Tree.map values) (haccepts : p.Accepts (Tree.map entries)) {name : String}
    (hmem : name ∈ Entries.keys entries) : name ∈ Entries.keys values := by
  rcases h with ⟨_, htree', hholds⟩
  cases htree.symm.trans htree'
  rcases List.mem_map.mp hmem with ⟨entry, hentry, rfl⟩
  rcases accepts_map_iff.mp haccepts entry hentry with ⟨info, hinfo, hname, -, -⟩
  exact hholds _ (List.mem_map.mpr ⟨info, hinfo, hname⟩)

theorem Accepts.not_mem {p : Props} (hnames : p.names.Nodup) {entries : Entries Tree}
    (h : p.Accepts (Tree.map entries)) {info : PropertyInfo} (hinfo : info ∈ p.declared)
    (hmode : info.mode.writable = false) : info.name ∉ Entries.keys entries := by
  intro hmem
  rcases List.mem_map.mp hmem with ⟨entry, hentry, hname⟩
  rcases accepts_map_iff.mp h entry hentry with ⟨other, hother, hsame, hwritable, -⟩
  obtain rfl : other = info :=
    List.inj_on_of_nodup_map hnames hother hinfo (hsame.trans hname)
  cases hmode.symm.trans hwritable

end Props

namespace Actor

variable {α : Type}

/-!
## The three outcomes
-/

theorem openEnvelope_write {a : Actor α} {env : Envelope} {topic : String} {payload : Tree}
    (hmessage : env.message = Message.setProps topic payload) :
    a.openEnvelope env = a.openWrite payload := by
  simp [openEnvelope, hmessage]

theorem openWrite_refused {a : Actor α} (hnames : a.props.names.Nodup) {payload : Tree}
    (h : ¬ a.props.Accepts payload) :
    a.openWrite payload =
      { a with
        stats := { a.stats with
          delivered := a.stats.delivered + 1, failed := a.stats.failed + 1 } } := by
  rcases Props.apply_of_not_accepts hnames a.ref.name h with ⟨error, happly⟩
  have happly' : a.countDelivered.props.apply a.countDelivered.ref.name payload =
      (.error error, a.props) := happly
  simp only [openWrite, happly']
  rfl

theorem openWrite_present {a : Actor α} (hvalid : a.props.Valid) (hnames : a.props.names.Nodup)
    {values entries : Entries Tree} (htree : a.props.tree = Tree.map values)
    (hpresent : forall name : String, name ∈ Entries.keys entries -> name ∈ Entries.keys values)
    (hunique : (Tree.map entries).UniqueKeys) (h : a.props.Accepts (Tree.map entries)) :
    exists p : Props,
      a.openWrite (Tree.map entries) =
          { a with
            props := p
            stats := { a.stats with delivered := a.stats.delivered + 1 }
            hook := some (Hook.props (Entries.displaced Tree.null values entries)) } ∧
        p.Valid ∧ p.tree = Tree.map (Entries.overlay values entries) := by
  rcases hvalid.writeAll_map htree hpresent hunique.left hunique.right with
    ⟨hprevious, hwritten, hshows⟩
  have happly : a.countDelivered.props.apply a.countDelivered.ref.name (Tree.map entries) =
      (.ok _, (a.props.writeAll entries).2) :=
    (Props.apply_of_accepts hnames a.ref.name h).trans (Prod.ext hprevious rfl)
  refine ⟨(a.props.writeAll entries).2, ?_, hwritten, hshows⟩
  simp only [openWrite, happly]
  rfl

theorem openWrite_accepted {a : Actor α} (hvalid : a.props.Valid) (hnames : a.props.names.Nodup)
    (hholds : a.props.HoldsDeclared) {values entries : Entries Tree}
    (htree : a.props.tree = Tree.map values) (hunique : (Tree.map entries).UniqueKeys)
    (h : a.props.Accepts (Tree.map entries)) :
    exists p : Props,
      a.openWrite (Tree.map entries) =
          { a with
            props := p
            stats := { a.stats with delivered := a.stats.delivered + 1 }
            hook := some (Hook.props (Entries.displaced Tree.null values entries)) } ∧
        p.Valid ∧ p.tree = Tree.map (Entries.overlay values entries) :=
  openWrite_present hvalid hnames htree (fun _ hmem => hholds.present htree h hmem) hunique h

theorem conclude_refused {b : Actor α} {previous : List (String × Tree)}
    (hhook : b.hook = some (Hook.props previous)) (bridge : Bridge) (error : ActorError) :
    b.conclude bridge (.error error) =
      ({ b with hook := none, props := b.props.restore previous }.countFailed, bridge) := by
  unfold conclude
  rw [hhook]

/-- A program that objects to a write and has left the values alone gets the earlier
ones back. -/
theorem restore_overlay {p : Props} {values entries : Entries Tree} (hvalid : p.Valid)
    (hvalues : (Tree.map values).UniqueKeys)
    (hpresent : forall name : String, name ∈ Entries.keys entries -> name ∈ Entries.keys values)
    (hkeys : Entries.Unique entries)
    (htree : p.tree = Tree.map (Entries.overlay values entries)) :
    (p.restore (Entries.displaced Tree.null values entries)).tree = Tree.map values := by
  rw [hvalid.restore_map htree, Entries.overlay_displaced Tree.null hvalues.left]
  · intro name hmem
    rw [Entries.keys_overlay]
    exact hpresent name (Entries.keys_displaced Tree.null values entries ▸ hmem)
  · rw [Entries.Unique, Entries.keys_displaced]
    exact hkeys
  · exact Props.uniqueKeysEntries_displaced hvalues entries

/-!
## Values that cannot be written
-/

/-- What may happen to an actor that is written to: it opens a write, its program
works on the values under other names, or it ends a hook. -/
inductive WriteStep (name : String) (a : Actor α) : Actor α -> Prop where
  | write {env : Envelope} {topic : String} {payload : Tree} :
      a.hook = none -> env.message = Message.setProps topic payload -> payload.UniqueKeys ->
        WriteStep name a (a.openEnvelope env)
  | work {b : Actor α} :
      a.props.Worked b.props ->
        b.props.tree.get? (Key.field name) = a.props.tree.get? (Key.field name) ->
          (forall previous : List (String × Tree), b.hook = some (Hook.props previous) ->
            a.hook = some (Hook.props previous)) ->
              WriteStep name a b
  | conclude (bridge : Bridge) (result : Except ActorError Unit) :
      WriteStep name a (a.conclude bridge result).1

/-- A property may not be written, and no write of it is under way. -/
structure Guards (info : PropertyInfo) (a : Actor α) : Prop where
  valid : a.props.Valid
  names : a.props.names.Nodup
  declared : info ∈ a.props.declared
  remembers : forall previous : List (String × Tree), a.hook = some (Hook.props previous) ->
    Tree.UniqueKeysEntries previous ∧ info.name ∉ Entries.keys previous

theorem Guards.touches {a b : Actor α} {info : PropertyInfo} {names : List String}
    (h : Guards info a) (htouches : a.props.Touches names b.props) (hnot : info.name ∉ names)
    (hremembers : forall previous : List (String × Tree), b.hook = some (Hook.props previous) ->
      Tree.UniqueKeysEntries previous ∧ info.name ∉ Entries.keys previous) :
    Guards info b ∧
      b.props.tree.get? (Key.field info.name) = a.props.tree.get? (Key.field info.name) := by
  refine ⟨⟨htouches.valid, ?_, ?_, hremembers⟩, htouches.value info.name hnot⟩
  · rw [Props.names, htouches.declared]
    exact h.names
  · rw [htouches.declared]
    exact h.declared

theorem Guards.write {a : Actor α} {info : PropertyInfo} (h : Guards info a)
    (hmode : info.mode.writable = false) (hfree : a.hook = none) {payload : Tree}
    (hunique : payload.UniqueKeys) :
    Guards info (a.openWrite payload) ∧
      (a.openWrite payload).props.tree.get? (Key.field info.name) =
        a.props.tree.get? (Key.field info.name) := by
  by_cases haccepts : a.props.Accepts payload
  · rcases id haccepts with ⟨entries, rfl, -⟩
    have hnot := haccepts.not_mem h.names h.declared hmode
    rcases h.valid.writeAll hunique.right with ⟨htouches, hremembers⟩
    have happly : a.countDelivered.props.apply a.countDelivered.ref.name (Tree.map entries) =
        a.props.writeAll entries := Props.apply_of_accepts h.names a.ref.name haccepts
    unfold openWrite
    rcases hwritten : a.props.writeAll entries with ⟨error | previous, p⟩
    · rw [hwritten] at happly htouches
      simp only [happly]
      refine h.touches htouches hnot fun previous hhook => ?_
      cases hfree.symm.trans hhook
    · rw [hwritten] at happly htouches hremembers
      simp only [happly]
      refine h.touches htouches hnot fun remembered hhook => ?_
      rcases hremembers previous rfl with ⟨hkeys, htrees⟩
      cases hhook
      exact ⟨htrees, fun hmem => hnot (hkeys ▸ hmem)⟩
  · rw [openWrite_refused h.names haccepts]
    refine ⟨⟨h.valid, h.names, h.declared, fun previous hhook => ?_⟩, rfl⟩
    cases hfree.symm.trans hhook

theorem hook_conclude (a : Actor α) (bridge : Bridge) (result : Except ActorError Unit) :
    (a.conclude bridge result).1.hook = none := by
  unfold conclude
  cases hhook : a.hook with
  | none => exact hhook
  | some hook =>
      cases hook <;> cases result <;> first | rfl | (simp only; split <;> rfl)

/-- The end of a hook leaves the values alone, unless it undoes a write. -/
theorem props_conclude (a : Actor α) (bridge : Bridge) (result : Except ActorError Unit) :
    (a.conclude bridge result).1.props = a.props ∨
      exists previous : List (String × Tree), a.hook = some (Hook.props previous) ∧
        (a.conclude bridge result).1.props = a.props.restore previous := by
  unfold conclude
  cases hhook : a.hook with
  | none => exact Or.inl rfl
  | some hook =>
      cases hook with
      | props previous =>
          cases result with
          | ok _ =>
              simp only
              split <;> exact Or.inl rfl
          | error error => exact Or.inr ⟨previous, rfl, rfl⟩
      | _ => cases result <;> exact Or.inl rfl

theorem Guards.conclude {a : Actor α} {info : PropertyInfo} (h : Guards info a) (bridge : Bridge)
    (result : Except ActorError Unit) :
    Guards info (a.conclude bridge result).1 ∧
      (a.conclude bridge result).1.props.tree.get? (Key.field info.name) =
        a.props.tree.get? (Key.field info.name) := by
  have hfree : (a.conclude bridge result).1.hook = none := hook_conclude a bridge result
  have hremembers : forall previous : List (String × Tree),
      (a.conclude bridge result).1.hook = some (Hook.props previous) ->
        Tree.UniqueKeysEntries previous ∧ info.name ∉ Entries.keys previous := by
    intro previous hhook
    cases hfree.symm.trans hhook
  rcases props_conclude a bridge result with hkept | ⟨previous, hhook, hrestored⟩
  · have htouches : a.props.Touches [] (a.conclude bridge result).1.props := by
      rw [hkept]
      exact Props.Touches.refl h.valid
    exact h.touches htouches nofun hremembers
  · rcases h.remembers previous hhook with ⟨htrees, hnot⟩
    have htouches := h.valid.restore htrees
    rw [<- hrestored] at htouches
    exact h.touches htouches hnot hremembers

theorem Guards.step {a b : Actor α} {info : PropertyInfo} (h : Guards info a)
    (hmode : info.mode.writable = false) (hstep : WriteStep info.name a b) :
    Guards info b ∧
      b.props.tree.get? (Key.field info.name) = a.props.tree.get? (Key.field info.name) := by
  cases hstep with
  | write hfree hmessage hunique =>
      rw [openEnvelope_write hmessage]
      exact h.write hmode hfree hunique
  | work hworked hvalue hhook =>
      refine ⟨⟨hworked.valid h.valid, ?_, ?_, fun previous hprevious => ?_⟩, hvalue⟩
      · rw [Props.names, hworked.declared]
        exact h.names
      · rw [hworked.declared]
        exact h.declared
      · exact h.remembers previous (hhook previous hprevious)
  | conclude bridge result => exact h.conclude bridge result

theorem Guards.run {a b : Actor α} {info : PropertyInfo} (h : Guards info a)
    (hmode : info.mode.writable = false) (hrun : ReflTransGen (WriteStep info.name) a b) :
    Guards info b ∧
      b.props.tree.get? (Key.field info.name) = a.props.tree.get? (Key.field info.name) := by
  induction hrun with
  | refl => exact ⟨h, rfl⟩
  | tail _ hstep ih =>
      rcases ih.left.step hmode hstep with ⟨hguards, hvalue⟩
      exact ⟨hguards, hvalue.trans ih.right⟩

/-!
## Every write
-/

/-- A write that does not fit as a whole is counted as failed and changes nothing
else; one that fits changes exactly the named values, and is undone and counted as
failed if the program objects without having changed them itself.  Nothing is
published either way.  A property that may only be read keeps its value however
many writes there are. -/
theorem set_writes {a : Actor α} (hmade : a.props.Made) (hholds : a.props.HoldsDeclared)
    (hfree : a.hook = none) {env : Envelope} {topic : String} {payload : Tree}
    (hmessage : env.message = Message.setProps topic payload) (hunique : payload.UniqueKeys) :
    (¬ a.props.Accepts payload ->
      a.openEnvelope env =
          { a with
            stats := { a.stats with
              delivered := a.stats.delivered + 1, failed := a.stats.failed + 1 } } ∧
        forall (bridge : Bridge) (result : Except ActorError Unit),
          (a.openEnvelope env).conclude bridge result = (a.openEnvelope env, bridge)) ∧
    (forall values entries : Entries Tree, a.props.tree = Tree.map values ->
      payload = Tree.map entries -> a.props.Accepts payload ->
        exists (p : Props) (previous : List (String × Tree)),
          a.openEnvelope env =
              { a with
                props := p, hook := some (Hook.props previous)
                stats := { a.stats with delivered := a.stats.delivered + 1 } } ∧
            p.tree = Tree.map (Entries.overlay values entries) ∧
            previous.map Prod.fst = Entries.keys entries ∧
            forall (b : Actor α) (bridge : Bridge) (error : ActorError),
              p.Worked b.props -> b.props.tree = p.tree ->
                b.hook = some (Hook.props previous) ->
                  (b.conclude bridge (.error error)).1.props.tree = a.props.tree ∧
                    (b.conclude bridge (.error error)).1.stats =
                        { b.stats with failed := b.stats.failed + 1 } ∧
                      (b.conclude bridge (.error error)).2 = bridge) ∧
    (forall (info : PropertyInfo) (b : Actor α), info ∈ a.props.declared ->
      info.mode = PropMode.read -> ReflTransGen (WriteStep info.name) a b ->
        b.props.tree.get? (Key.field info.name) = a.props.tree.get? (Key.field info.name)) := by
  rcases hmade.valid with ⟨hvalid, hnames⟩
  rw [openEnvelope_write hmessage]
  refine ⟨fun hrefused => ?_, fun values entries htree hpayload haccepts => ?_,
    fun info b hinfo hmode hrun => ?_⟩
  · rw [openWrite_refused hnames hrefused]
    refine ⟨rfl, fun bridge result => ?_⟩
    simp [conclude, hfree]
  · subst hpayload
    rcases openWrite_accepted hvalid hnames hholds htree hunique haccepts with
      ⟨p, hopened, hwritten, hshows⟩
    refine ⟨p, _, hopened, hshows, Entries.keys_displaced Tree.null values entries,
      fun b bridge error hworked hkept hhook => ?_⟩
    have hback := restore_overlay (hworked.valid hwritten) (htree ▸ hvalid.uniqueKeys)
      (fun name hmem => hholds.present htree haccepts hmem) hunique.left (hkept.trans hshows)
    rw [conclude_refused hhook]
    exact ⟨hback.trans htree.symm, rfl, rfl⟩
  · have hguards : Guards info a :=
      ⟨hvalid, hnames, hinfo, fun previous hhook => by cases hfree.symm.trans hhook⟩
    exact (hguards.run (by rw [hmode]; rfl) hrun).right

/-- A lamp that is starting up and has declared a level, which may be written, and
then its serial number. -/
def lamp : Actor Unit :=
  let ref : ActorRef :=
    { id := ActorId.ofNat 1, name := "lamp", enqueueTimeout := Duration.zero }
  let declare (a : Actor Unit) (info : PropertyInfo) (initial : Tree) :=
    let live := a.props.store.thaw initial
    ({ a with props := { a.props with store := live.2 } }.declare
      (Bridge.create Transport.null Format.cbor) info live.1).2.1
  let blank := (create ref "node" [] 1).beginHook Hook.start
  let leveled := declare blank
    (PropertyInfo.create "level" PropType.uint PropMode.readWrite "") (Tree.integer 1)
  declare leveled (PropertyInfo.create "serial" PropType.str PropMode.read "") (Tree.string "x")

theorem lamp_made : lamp.props.Made := by
  have hlevel : (Tree.integer 1).UniqueKeys := trivial
  have hserial : (Tree.string "x").UniqueKeys := trivial
  exact Props.Made.declareTree (Props.Made.declareTree Props.Made.empty _ _ hlevel) _ _ hserial

/-- A write that would forge the lamp's serial number is refused, one that dims the
lamp is made, and it is undone if the program objects; the serial number stays. -/
theorem set_writes_lamp :
    let a := { lamp with hook := none }
    let write (payload : Tree) := Envelope.ofMessage (Message.setProps "node/lamp/set" payload)
    let dim := Tree.map [("level", Tree.integer 2)]
    let forge := Tree.map [("level", Tree.integer 2), ("serial", Tree.string "y")]
    let objected := ((a.openEnvelope (write dim)).conclude
      (Bridge.create Transport.null Format.cbor) (.error (ActorError.handler "no"))).1
    ((a.openEnvelope (write forge)).props = a.props ∧
      (a.openEnvelope (write forge)).stats.failed = 1) ∧
    ((a.openEnvelope (write dim)).props.tree =
        Tree.map [("level", Tree.integer 2), ("serial", Tree.string "x")] ∧
      objected.props.tree = a.props.tree ∧ objected.stats.failed = 1) ∧
    (a.openEnvelope (write dim)).props.tree.get? (Key.field "serial") =
      some (Tree.string "x") := by
  intro a write dim forge objected
  have hmade : a.props.Made := lamp_made
  have hnames := hmade.valid.right
  have htree : a.props.tree =
      Tree.map [("level", Tree.integer 1), ("serial", Tree.string "x")] := by decide
  have hholds : a.props.HoldsDeclared := ⟨_, htree, by decide⟩
  have hdim : a.props.Accepts dim :=
    Props.accepts_map_iff.mpr ((Props.checkAll_eq_ok_iff hnames).mp rfl)
  have hforge : ¬ a.props.Accepts forge := by
    intro h
    have hcheck := (Props.checkAll_eq_ok_iff hnames).mpr (Props.accepts_map_iff.mp h)
    cases hcheck
  have hunique : dim.UniqueKeys ∧ forge.UniqueKeys := by
    simp [dim, forge, Tree.UniqueKeys, Tree.UniqueKeysEntries, Entries.Unique, Entries.keys]
  have hasked : (write forge).message = Message.setProps "node/lamp/set" forge := rfl
  have hdimmed : (write dim).message = Message.setProps "node/lamp/set" dim := rfl
  rcases set_writes hmade hholds rfl hasked hunique.right with ⟨hrefused, -⟩
  rcases set_writes hmade hholds rfl hdimmed hunique.left with ⟨-, hwritten, hkept⟩
  rcases hwritten _ _ htree rfl hdim with ⟨p, previous, hopened, hshows, -, hundone⟩
  have hvalue : a.props.tree.get? (Key.field "serial") = some (Tree.string "x") := by
    rw [htree]
    rfl
  refine ⟨?refused, ?written, ?kept⟩
  case refused =>
    rw [(hrefused hforge).left]
    exact ⟨rfl, rfl⟩
  case written =>
    have hworked : p.Worked (a.openEnvelope (write dim)).props := by
      rw [hopened]
      exact ⟨ReflTransGen.refl, rfl, rfl⟩
    have hsame : (a.openEnvelope (write dim)).props.tree = p.tree := by rw [hopened]
    have hhook : (a.openEnvelope (write dim)).hook = some (Hook.props previous) := by rw [hopened]
    rcases hundone _ (Bridge.create Transport.null Format.cbor) (ActorError.handler "no")
      hworked hsame hhook with ⟨hback, hfailed, -⟩
    refine ⟨hsame.trans (hshows.trans rfl), hback, ?_⟩
    rw [hfailed, hopened]
    rfl
  case kept =>
    let serial := { PropertyInfo.create "serial" PropType.str PropMode.read "" with id := 1 }
    have hserial : serial ∈ a.props.declared := by decide
    have hstep : WriteStep serial.name a (a.openEnvelope (write dim)) :=
      WriteStep.write rfl hdimmed hunique.left
    exact (hkept serial _ hserial rfl (ReflTransGen.single hstep)).trans hvalue

end Actor
end Troupe
