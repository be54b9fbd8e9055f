import Troupe.Proofs.Actor.Refusals
import Troupe.Proofs.Property.Writes
import Troupe.Proofs.Store.Dictionary
import Troupe.Proofs.Store.Reads

/-!
# The types of values

A value under a declared name is one that the declared type admits.  Writes from outside
keep it so, and so does a program that reads its values, removes them, and places admitted
ones.  Putting earlier values back keeps it so only if there were any: a write remembers a
null for a name without a value, and no type admits a null.
-/

namespace Troupe

open Relation Store

namespace Props

variable {p p' p'' : Props} {blank : List String} {name : String} {t : Tree}

/-- The value may stand under the name: the type declared for the name, if one is, admits it,
or else it is the null of a name that has been left blank. -/
def Suits (p : Props) (blank : List String) (name : String) (value : Tree) : Prop :=
  forall info : PropertyInfo, info ∈ p.declared -> info.name = name ->
    info.type.admits value = true ∨ value = Tree.null ∧ name ∈ blank

def Typed (p : Props) (blank : List String) : Prop :=
  forall (name : String) (value : Tree),
    p.tree.get? (Key.field name) = some value -> p.Suits blank name value

theorem admits_null (type : PropType) : type.admits Tree.null = false := by
  cases type <;> rfl

theorem Suits.mono {more : List String} (h : p.Suits blank name t) (hsubset : blank ⊆ more) :
    p.Suits more name t := by
  intro info hinfo hname
  rcases h info hinfo hname with hadmits | ⟨hnull, hblank⟩
  · exact Or.inl hadmits
  · exact Or.inr ⟨hnull, hsubset hblank⟩

theorem Suits.of_declared (h : p.Suits blank name t) (hdeclared : p'.declared = p.declared) :
    p'.Suits blank name t := by
  intro info hinfo
  exact h info (hdeclared ▸ hinfo)

theorem Typed.mono {more : List String} (h : p.Typed blank) (hsubset : blank ⊆ more) :
    p.Typed more := by
  intro name value hvalue
  exact (h name value hvalue).mono hsubset

theorem Typed.of_values (h : p.Typed blank) (hdeclared : p'.declared = p.declared)
    (hvalues : forall name : String,
      p'.tree.get? (Key.field name) = p.tree.get? (Key.field name)) : p'.Typed blank := by
  intro name value hvalue
  exact (h name value ((hvalues name).symm.trans hvalue)).of_declared hdeclared

/-!
## Placing values
-/

theorem Valid.tree_rewritten (hp : p.Valid) {entries : Entries Handle}
    (hchildren : forall c : Handle, c ∈ Entries.values entries ->
      c < p.store.size ∧ ¬ p.store.Reach c p.root) (hkeys : Entries.Unique entries) :
    { p with store := p.store.write p.root (Node.map entries) }.tree =
      Tree.map (entries.map fun entry => (entry.1, p.store.freeze entry.2)) :=
  hp.sound.freeze_write hp.root (fun c hmem => (hchildren c hmem).left)
    (fun c hmem => (hchildren c hmem).right) hkeys

theorem Valid.free_child (hp : p.Valid) {entries : Entries Handle}
    (hnode : p.store.node p.root = Node.map entries) {c : Handle}
    (hmem : c ∈ Entries.values entries) : c < p.store.size ∧ ¬ p.store.Reach c p.root := by
  have hchild := (hp.child_of_entries hnode).left c hmem
  exact ⟨hp.sound.closed _ _ hchild, hp.sound.not_reach_parent hchild⟩

theorem Valid.insert_accepted (hp : p.Valid) {value : Handle} (hopen : ¬ p.Refuses value)
    (name : String) :
    exists entries : Entries Handle,
      (forall c : Handle, c ∈ Entries.values entries ->
        c < p.store.size ∧ ¬ p.store.Reach c p.root) ∧
      Entries.Unique entries ∧
      (p.insert name value).2 =
        { p with
          store := p.store.write p.root (Node.map (Entries.insert entries name value)) } ∧
      forall other : String,
        p.tree.get? (Key.field other) = (Entries.get? entries other).map p.store.freeze := by
  have hreaches : ¬ p.store.reaches value p.root = true := fun h => hopen (Or.inl h)
  unfold Props.insert Store.insert
  rw [if_neg hreaches, hp.tree_eq]
  cases hnode : p.store.node p.root with
  | null => exact ⟨[], nofun, Entries.unique_nil, rfl, fun _ => rfl⟩
  | map entries =>
      exact ⟨entries, fun _ => hp.free_child hnode, (hp.child_of_entries hnode).right, rfl,
        Entries.get?_map p.store.freeze entries⟩
  | _ =>
      refine absurd (Or.inr ⟨?_, ?_⟩) hopen
      · rw [hnode]
        nofun
      · rw [hnode]
        nofun

theorem Valid.insert_value (hp : p.Valid) {value : Handle} (hvalue : value < p.store.size)
    (name : String) :
    (exists error : ActorError, p.insert name value = (.error error, p)) ∨
      (exists old : Option Handle, (p.insert name value).1 = .ok old) ∧
        (p.insert name value).2.tree.get? (Key.field name) = some (p.store.freeze value) ∧
          forall other : String, other ≠ name ->
            (p.insert name value).2.tree.get? (Key.field other) =
              p.tree.get? (Key.field other) := by
  rcases p.insert_cases name value with ⟨-, fault, hrefused⟩ | ⟨hopen, old, store, hplaced⟩
  · exact Or.inl ⟨_, hrefused⟩
  · rcases hp.insert_accepted hopen name with ⟨entries, hold, hkeys, hinsert, hshown⟩
    have hchildren : forall c : Handle, c ∈ Entries.values (Entries.insert entries name value) ->
        c < p.store.size ∧ ¬ p.store.Reach c p.root := by
      intro c hmem
      rcases Entries.mem_values_insert hmem with hbefore | rfl
      · exact hold c hbefore
      · exact ⟨hvalue, fun h => hopen (Or.inl ((hp.sound.reaches_iff hvalue p.root).mpr h))⟩
    refine Or.inr ⟨⟨old, congrArg Prod.fst hplaced⟩, ?_⟩
    rw [hinsert, hp.tree_rewritten hchildren (hkeys.insert name value), Entries.insert_map]
    refine ⟨Entries.get?_insert_self _ _ _, fun other hne => ?_⟩
    rw [hshown, <- Entries.get?_map]
    exact Entries.get?_insert_of_ne _ hne.symm

theorem Typed.insert (h : p.Typed blank) (hp : p.Valid) {value : Handle}
    (hvalue : value < p.store.size) (hsuits : p.Suits blank name (p.store.freeze value)) :
    (p.insert name value).2.Typed blank := by
  rcases hp.insert_value hvalue name with ⟨error, hrefused⟩ | ⟨-, hself, hother⟩
  · rw [hrefused]
    exact h
  · intro other shown hshown
    by_cases hname : other = name
    · subst hname
      cases hself.symm.trans hshown
      exact hsuits
    · exact h other shown ((hother other hname).symm.trans hshown)

theorem Typed.insertTree (h : p.Typed blank) (hp : p.Valid) (ht : t.UniqueKeys)
    (hsuits : p.Suits blank name t) : (p.insertTree name t).2.Typed blank := by
  have hmade := yields_thaw hp.sound ht
  have hthawed : { p with store := (p.store.thaw t).2 }.Typed blank :=
    h.of_values rfl fun _ =>
      congrArg (Tree.get? · _) (hp.sound.freeze_grows hmade.sound hmade.grows hp.root)
  refine hthawed.insert (hp.thaw ht) hmade.valid ?_
  rw [freeze_thaw hp.sound ht]
  exact hsuits

/-!
## Writes from outside
-/

theorem Valid.valueOf_eq (hp : p.Valid) {old : Tree} (hold : (p.valueOf name).1 = .ok old) :
    old = (p.tree.get? (Key.field name)).getD Tree.null := by
  have hshown : p.tree.get? (Key.field name) =
      (p.store.child? p.root (Key.field name)).map p.store.freeze := by
    rw [hp.tree_eq, get?_freezeNode]
    rfl
  unfold Props.valueOf Props.update at hold
  rw [hshown]
  cases hchild : p.store.child? p.root (Key.field name) with
  | some c =>
      rw [get_of_child? hchild] at hold
      exact (Except.ok.inj hold).symm
  | none =>
      rcases get_of_child?_eq_none hchild with ⟨-, hget⟩ | ⟨-, fault, hget⟩
      · rw [hget] at hold
        cases hold
        exact freeze_alloc hp.sound nofun trivial
      · rw [hget] at hold
        cases hold

theorem Typed.writeAll {entries : List (String × Tree)} (h : p.Typed blank) (hp : p.Valid)
    (hkeys : Entries.Unique entries) (hunique : Tree.UniqueKeysEntries entries)
    (hsuits : forall entry : String × Tree, entry ∈ entries -> p.Suits blank entry.1 entry.2) :
    (p.writeAll entries).2.Typed blank ∧
      forall previous : List (String × Tree), (p.writeAll entries).1 = .ok previous ->
        forall entry : String × Tree, entry ∈ previous ->
          entry.2 = (p.tree.get? (Key.field entry.1)).getD Tree.null := by
  induction entries generalizing p with
  | nil =>
      refine ⟨h, fun previous hprevious entry hmem => ?_⟩
      cases hprevious
      cases hmem
  | cons entry rest ih =>
      rcases entry with ⟨name, value⟩
      rcases hunique with ⟨hvalue, hrest⟩
      rcases List.nodup_cons.mp hkeys with ⟨hnot, hkeys⟩
      rcases List.forall_mem_cons.mp hsuits with ⟨hfirst, hlater⟩
      have hread := (hp.valueOf name).left
      have hfound := @Valid.valueOf_eq p name hp
      have htyped : (p.valueOf name).2.Typed blank :=
        h.of_values hread.declared fun other => hread.value other List.not_mem_nil
      rcases hold : p.valueOf name with ⟨error | old, p₁⟩
      · rw [hold] at htyped
        simp only [Props.writeAll, hold]
        refine ⟨htyped, fun previous hprevious => ?_⟩
        cases hprevious
      · rw [hold] at hread hfound htyped
        have hplaced := hread.trans (hread.valid.touches_insertTree hvalue name)
        have htyped := htyped.insertTree hread.valid hvalue (hfirst.of_declared hread.declared)
        rcases hinsert : p₁.insertTree name value with ⟨error | before, p₂⟩
        · rw [hinsert] at htyped
          simp only [Props.writeAll, hold, hinsert]
          refine ⟨htyped, fun previous hprevious => ?_⟩
          cases hprevious
        · rw [hinsert] at hplaced htyped
          have hremembers := (hplaced.valid.writeAll hrest).right
          have hlast := ih htyped hplaced.valid hkeys hrest fun entry hmem =>
            (hlater entry hmem).of_declared hplaced.declared
          rcases hwritten : p₂.writeAll rest with ⟨error | previous, p₃⟩
          · rw [hwritten] at hlast
            simp only [Props.writeAll, hold, hinsert, hwritten]
            refine ⟨hlast.left, fun previous hprevious => ?_⟩
            cases hprevious
          · rw [hwritten] at hremembers hlast
            simp only [Props.writeAll, hold, hinsert, hwritten]
            refine ⟨hlast.left, fun remembered heq => ?_⟩
            cases heq
            refine List.forall_mem_cons.mpr ⟨hfound rfl, fun entry hmem => ?_⟩
            have hname : entry.1 ≠ name := by
              rintro rfl
              have hkey : entry.1 ∈ Entries.keys previous := List.mem_map_of_mem hmem
              rw [(hremembers previous rfl).left] at hkey
              exact hnot hkey
            rw [hlast.right previous rfl entry hmem, hplaced.value entry.1 (by simpa using hname)]

/-- A write from outside keeps the values typed.  It remembers values of declared names, and
null where there was none. -/
theorem Typed.apply (h : p.Typed blank) (hp : p.Valid) (hnames : p.names.Nodup) (actor : String)
    {payload : Tree} (hunique : payload.UniqueKeys) :
    (p.apply actor payload).2.Typed blank ∧
      forall previous : List (String × Tree), (p.apply actor payload).1 = .ok previous ->
        Tree.UniqueKeysEntries previous ∧
          forall entry : String × Tree, entry ∈ previous ->
            entry.1 ∈ p.names ∧ entry.2 = (p.tree.get? (Key.field entry.1)).getD Tree.null := by
  by_cases haccepts : p.Accepts payload
  · rcases id haccepts with ⟨entries, rfl, hfits⟩
    rw [apply_of_accepts hnames actor haccepts]
    have hsuits : forall entry : String × Tree, entry ∈ entries ->
        p.Suits blank entry.1 entry.2 := by
      intro entry hmem info hinfo hname
      rcases hfits entry hmem with ⟨other, hother, hsame, -, hadmits⟩
      obtain rfl : other = info :=
        List.inj_on_of_nodup_map hnames hother hinfo (hsame.trans hname.symm)
      exact Or.inl hadmits
    rcases h.writeAll hp hunique.left hunique.right hsuits with ⟨htyped, hvalues⟩
    refine ⟨htyped, fun previous hprevious => ?_⟩
    rcases (hp.writeAll hunique.right).right previous hprevious with ⟨hkeys, htrees⟩
    refine ⟨htrees, fun entry hmem => ⟨?_, hvalues previous hprevious entry hmem⟩⟩
    have hkey : entry.1 ∈ Entries.keys entries := hkeys ▸ List.mem_map_of_mem hmem
    rcases List.mem_map.mp hkey with ⟨asked, hasked, hname⟩
    rcases hfits asked hasked with ⟨info, hinfo, hsame, -⟩
    exact List.mem_map.mpr ⟨info, hinfo, hsame.trans hname⟩
  · rcases apply_of_not_accepts hnames actor haccepts with ⟨error, happly⟩
    rw [happly]
    exact ⟨h, nofun⟩

def blanks (previous : List (String × Tree)) : List String :=
  (previous.filter fun entry => entry.2.kind = Kind.null).map Prod.fst

theorem mem_blanks_iff {previous : List (String × Tree)} :
    name ∈ blanks previous <-> (name, Tree.null) ∈ previous := by
  unfold blanks
  constructor
  · intro h
    rcases List.mem_map.mp h with ⟨⟨other, old⟩, hmem, rfl⟩
    rcases List.mem_filter.mp hmem with ⟨hentry, hkind⟩
    cases old with
    | null => exact hentry
    | _ => cases hkind
  · intro h
    exact List.mem_map.mpr ⟨_, List.mem_filter.mpr ⟨h, rfl⟩, rfl⟩

theorem Typed.suits_remembered (h : p.Typed blank) {previous : List (String × Tree)}
    {entry : String × Tree} (hmem : entry ∈ previous)
    (hold : entry.2 = (p.tree.get? (Key.field entry.1)).getD Tree.null) :
    p.Suits (blank ++ blanks previous) entry.1 entry.2 := by
  cases hfound : p.tree.get? (Key.field entry.1) with
  | some value =>
      rw [hfound] at hold
      rw [hold]
      exact (h entry.1 value hfound).mono (List.subset_append_left _ _)
  | none =>
      rw [hfound] at hold
      have hnull : (entry.1, Tree.null) ∈ previous := by
        rw [show Tree.null = entry.2 from hold.symm]
        exact hmem
      intro info _ _
      exact Or.inr ⟨hold, List.mem_append_right _ (mem_blanks_iff.mpr hnull)⟩

theorem Typed.restore {previous : List (String × Tree)} (h : p.Typed blank) (hp : p.Valid)
    (hunique : Tree.UniqueKeysEntries previous)
    (hsuits : forall entry : String × Tree, entry ∈ previous -> p.Suits blank entry.1 entry.2) :
    (p.restore previous).Typed blank := by
  induction previous generalizing p with
  | nil => exact h
  | cons entry rest ih =>
      rcases entry with ⟨name, old⟩
      rcases hunique with ⟨hold, hrest⟩
      rcases List.forall_mem_cons.mp hsuits with ⟨hfirst, hlater⟩
      have hplaced := hp.touches_insertTree hold name
      have htyped := h.insertTree hp hold hfirst
      unfold Props.restore
      rcases hinsert : p.insertTree name old with ⟨error | before, p'⟩
      · rw [hinsert] at htyped
        exact htyped
      · rw [hinsert] at hplaced htyped
        exact ih htyped hplaced.valid hrest fun entry hmem =>
          (hlater entry hmem).of_declared hplaced.declared

/-!
## Programs that keep to their declarations
-/

/-- The values have been worked on, and those under declared names are as they were, or
admitted, or gone. -/
structure Tends (p p' : Props) : Prop where
  worked : p.Worked p'
  value : forall (info : PropertyInfo) (value : Tree), info ∈ p.declared ->
    p'.tree.get? (Key.field info.name) = some value ->
      p.tree.get? (Key.field info.name) = some value ∨ info.type.admits value = true

theorem Tends.trans (h : p.Tends p') (h' : p'.Tends p'') : p.Tends p'' := by
  refine ⟨⟨h.worked.store.trans h'.worked.store, h'.worked.root.trans h.worked.root,
    h'.worked.declared.trans h.worked.declared⟩, fun info value hinfo hvalue => ?_⟩
  rcases h'.value info value (h.worked.declared.symm ▸ hinfo) hvalue with hkept | hadmits
  · exact h.value info value hinfo hkept
  · exact Or.inr hadmits

theorem Valid.tends_of_grows (hp : p.Valid) {store : Store} (hstep : p.store.Step store)
    (hgrows : p.store.Grows store) : p.Tends { p with store := store } := by
  refine ⟨⟨ReflTransGen.single hstep, rfl, rfl⟩, fun info value _ hvalue => Or.inl ?_⟩
  have hkept : store.freeze p.root = p.tree :=
    hp.sound.freeze_grows (hp.sound.step hstep) hgrows hp.root
  rw [<- hkept]
  exact hvalue

theorem Valid.tends_get (hp : p.Valid) (name : String) :
    p.Tends { p with store := (p.store.get p.root (Key.field name)).2 } :=
  hp.tends_of_grows (Store.Step.get _ hp.root) (grows_get _ _ _)

theorem Valid.tends_insert (hp : p.Valid) {value : Handle} (hvalue : value < p.store.size)
    (hadmits : forall info : PropertyInfo, info ∈ p.declared -> info.name = name ->
      info.type.admits (p.store.freeze value) = true) :
    p.Tends (p.insert name value).2 := by
  refine ⟨⟨ReflTransGen.single (Store.Step.insert name hp.root hvalue), rfl, rfl⟩,
    fun info shown hinfo hshown => ?_⟩
  rcases hp.insert_value hvalue name with ⟨error, hrefused⟩ | ⟨-, hself, hother⟩
  · rw [hrefused] at hshown
    exact Or.inl hshown
  · by_cases hname : info.name = name
    · rw [hname] at hshown
      cases hself.symm.trans hshown
      exact Or.inr (hadmits info hinfo hname)
    · exact Or.inl ((hother info.name hname).symm.trans hshown)

theorem Valid.tends_remove (hp : p.Valid) (name : String) :
    p.Tends { p with store := (p.store.remove p.root (Key.field name)).2 } := by
  refine ⟨⟨ReflTransGen.single (Store.Step.remove _ hp.root), rfl, rfl⟩,
    fun info value _ hvalue => Or.inl ?_⟩
  cases hnode : p.store.node p.root with
  | map entries =>
      have hkeys := (hp.child_of_entries hnode).right
      have hchildren : forall c : Handle, c ∈ Entries.values (Entries.erase entries name) ->
          c < p.store.size ∧ ¬ p.store.Reach c p.root :=
        fun c hmem => hp.free_child hnode (Entries.mem_values_erase hmem)
      have hremoved : (p.store.remove p.root (Key.field name)).2 =
          p.store.write p.root (Node.map (Entries.erase entries name)) :=
        congrArg Prod.snd (remove_of_map hnode (Key.field name))
      rw [hremoved, hp.tree_rewritten hchildren (hkeys.erase name)] at hvalue
      rw [hp.tree_eq, hnode]
      refine (Entries.get?_map p.store.freeze entries info.name).trans ?_
      have hleft := (Entries.get?_map p.store.freeze _ info.name).symm.trans hvalue
      by_cases hname : name = info.name
      · rw [<- hname, Entries.get?_erase_self hkeys] at hleft
        cases hleft
      · rwa [Entries.get?_erase_of_ne hname] at hleft
  | _ =>
      unfold Store.remove at hvalue
      rw [hnode] at hvalue
      exact hvalue

/-- What a program makes of its values that minds its declarations: it reads and removes values,
makes new ones, and places those that the declared types admit. -/
inductive Minds (p : Props) : Props -> Prop where
  | start : Minds p p
  | read {p' : Props} (name : String) : Minds p p' ->
      Minds p { p' with store := (p'.store.get p'.root (Key.field name)).2 }
  | make {p' : Props} {t : Tree} : Minds p p' -> t.UniqueKeys ->
      Minds p { p' with store := (p'.store.thaw t).2 }
  | remove {p' : Props} (name : String) : Minds p p' ->
      Minds p { p' with store := (p'.store.remove p'.root (Key.field name)).2 }
  | place {p' : Props} {name : String} {value : Handle} : Minds p p' -> value < p'.store.size ->
      (forall info : PropertyInfo, info ∈ p'.declared -> info.name = name ->
        info.type.admits (p'.store.freeze value) = true) ->
          Minds p (p'.insert name value).2

theorem Minds.tends (h : p.Minds p') (hp : p.Valid) : p.Tends p' := by
  induction h with
  | start => exact ⟨⟨ReflTransGen.refl, rfl, rfl⟩, fun _ _ _ => Or.inl⟩
  | read name _ ih => exact ih.trans ((ih.worked.valid hp).tends_get name)
  | make _ hunique ih =>
      have hvalid := ih.worked.valid hp
      exact ih.trans (hvalid.tends_of_grows (Store.Step.thaw hunique)
        (yields_thaw hvalid.sound hunique).grows)
  | remove name _ ih => exact ih.trans ((ih.worked.valid hp).tends_remove name)
  | place _ hvalue hadmits ih => exact ih.trans ((ih.worked.valid hp).tends_insert hvalue hadmits)

theorem Typed.tends (h : p.Typed blank) (htends : p.Tends p') : p'.Typed blank := by
  rintro _ value hvalue info hinfo rfl
  rw [htends.worked.declared] at hinfo
  rcases htends.value info value hinfo hvalue with hkept | hadmits
  · exact h info.name value hkept info hinfo rfl
  · exact Or.inl hadmits

end Props
end Troupe
