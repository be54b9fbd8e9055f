import Troupe.Proofs.Record.Settled

/-!
# Fields of records

A draft is filled field by field, in whatever order a document gives the fields and however
many it gives, so what the draft satisfies at the end is what each field preserves.  A record
is written with all of its fields, under different names, and is then read like the list of
their values; so it passes through trees if every field does.
-/

namespace Troupe
namespace JsonForm

theorem map_eq_ok_iff {ε α β : Type} {f : α -> β} {result : Except ε α} {b : β} :
    result.map f = .ok b <-> exists a : α, result = .ok a ∧ f a = b := by
  cases result with
  | error error => exact iff_of_false nofun (by simp)
  | ok a => simp [Except.map]

variable {δ : Type} {fields : List (Field δ)} {draft draft' : δ} {P : δ -> Prop}

/-!
## Reading
-/

/-- A field that is read from a tree leaves the draft with a property that it has. -/
def Field.Preserves (field : Field δ) (P : δ -> Prop) : Prop :=
  forall {v : Json} {draft draft' : δ}, v.FromTree -> P draft ->
    field.put v draft = .ok draft' -> P draft'

theorem preserves_of {α : Type} {name : String} {readValue : Json -> Except ShapeError α}
    {set : α -> δ -> δ}
    (h : forall {v : Json} {a : α} {draft : δ}, v.FromTree -> readValue v = .ok a -> P draft ->
      P (set a draft)) :
    Field.Preserves
      { name := name, put := fun v draft => (readValue v).map fun a => set a draft } P := by
  intro v draft draft' hfrom hdraft hput
  rcases map_eq_ok_iff.mp hput with ⟨a, ha, rfl⟩
  exact h hfrom ha hdraft

theorem preserved_putMembers (hfields : forall field : Field δ, field ∈ fields -> field.Preserves P)
    {members : List (String × Json)}
    (hfrom : forall member : String × Json, member ∈ members -> member.2.FromTree)
    (hdraft : P draft) (hread : putMembers fields draft members = .ok draft') : P draft' := by
  induction members generalizing draft with
  | nil =>
      cases hread
      exact hdraft
  | cons member rest ih =>
      rcases member with ⟨k, v⟩
      rw [List.forall_mem_cons] at hfrom
      rw [putMembers] at hread
      split at hread
      · exact ih hfrom.right hdraft hread
      · next field hfound =>
          split at hread
          · cases hread
          · next next hput =>
              have hfield : field.Preserves P :=
                hfields field (List.mem_of_find?_eq_some hfound)
              exact ih hfrom.right (hfield hfrom.left hdraft hput) hread

theorem preserved_putItems (hfields : forall field : Field δ, field ∈ fields -> field.Preserves P)
    {items : List Json} (hfrom : forall v : Json, v ∈ items -> v.FromTree) (hdraft : P draft)
    (hread : putItems fields draft items = .ok draft') : P draft' := by
  induction fields generalizing draft items with
  | nil =>
      cases hread
      exact hdraft
  | cons field rest ih =>
      rw [List.forall_mem_cons] at hfields
      cases items with
      | nil =>
          cases hread
          exact hdraft
      | cons v more =>
          rw [List.forall_mem_cons] at hfrom
          rw [putItems] at hread
          split at hread
          · cases hread
          · next next hput =>
              exact ih hfields.right hfrom.right (hfields.left hfrom.left hdraft hput) hread

theorem preserved_readWithDefaults {name : String} {defaults : δ}
    (hfields : forall field : Field δ, field ∈ fields -> field.Preserves P)
    (hdefaults : P defaults) {v : Json} (hfrom : v.FromTree)
    (hread : readWithDefaults name fields defaults v = .ok draft) : P draft := by
  cases v with
  | object members =>
      exact preserved_putMembers hfields (fun _ => hfrom.members) hdefaults hread
  | array items =>
      rw [readWithDefaults] at hread
      split at hread
      · cases hread
      · next filled hput =>
          split at hread
          · cases hread
            exact preserved_putItems hfields (fun _ => hfrom.items) hdefaults hput
          · cases hread
  | _ => cases hread

/-!
## Writing

A record is written with all of its fields in their order, and is then read like the list of
their values.
-/

def withFields (fields : List (Field δ)) (values : List Json) : Json :=
  Json.object ((fields.map Field.name).zip values)

theorem throughTree_withFields (fields : List (Field δ)) (values : List Json) :
    (withFields fields values).throughTree = withFields fields (values.map Json.throughTree) := by
  rw [withFields, withFields, Json.throughTree_object, List.zip_map_right]
  rfl

theorem valid_withFields (hnames : (fields.map Field.name).Nodup) {values : List Json}
    (hall : fields.length ≤ values.length) (hvalues : forall v : Json, v ∈ values -> v.Valid) :
    (withFields fields values).Valid := by
  constructor
  · rw [Entries.Unique, Entries.keys, List.map_fst_zip (by rwa [List.length_map])]
    exact hnames
  · refine Json.validMembers_iff.mpr fun member hmem => ?_
    exact hvalues member.2 (List.of_mem_zip hmem).right

theorem find?_name (hnames : (fields.map Field.name).Nodup) {field : Field δ}
    (hmem : field ∈ fields) :
    (fields.find? fun other => other.name == field.name) = some field := by
  induction fields with
  | nil => cases hmem
  | cons first rest ih =>
      rcases List.nodup_cons.mp hnames with ⟨hfirst, hrest⟩
      rcases List.mem_cons.mp hmem with rfl | hmem
      · exact List.find?_cons_of_pos (beq_self_eq_true _)
      · have hother : first.name ≠ field.name := by
          intro hsame
          exact hfirst (hsame ▸ List.mem_map_of_mem hmem)
        rw [List.find?_cons_of_neg (by simpa using hother)]
        exact ih hrest hmem

theorem putMembers_zip (hnames : (fields.map Field.name).Nodup) {given : List (Field δ)}
    (hgiven : given ⊆ fields) (values : List Json) (draft : δ) :
    putMembers fields draft ((given.map Field.name).zip values) =
      putItems given draft values := by
  induction given generalizing values draft with
  | nil => rfl
  | cons field rest ih =>
      rcases List.cons_subset.mp hgiven with ⟨hfield, hrest⟩
      cases values with
      | nil => rfl
      | cons v more =>
          rw [List.map_cons, List.zip_cons_cons, putMembers, find?_name hnames hfield, putItems]
          cases hput : field.put v draft with
          | error error => simp only [hput]
          | ok next =>
              simp only [hput]
              exact ih hrest more next

theorem readWithDefaults_withFields (hnames : (fields.map Field.name).Nodup) (name : String)
    (defaults : δ) (values : List Json) :
    readWithDefaults name fields defaults (withFields fields values) =
      putItems fields defaults values :=
  putMembers_zip hnames (List.Subset.refl fields) values defaults

theorem readRequired_withFields {α : Type} {complete : δ -> Except ShapeError α}
    (hnames : (fields.map Field.name).Nodup) {name : String} {empty : δ} {values : List Json}
    (hput : putItems fields empty values = .ok draft) :
    readRequired name fields empty complete (withFields fields values) = complete draft := by
  rw [withFields, readRequired, putMembers_zip hnames (List.Subset.refl fields), hput]

theorem putItems_cons_eq_ok_iff {α : Type} {name : String}
    {readValue : Json -> Except ShapeError α} {set : α -> δ -> δ} {rest : List (Field δ)} {v : Json}
    {more : List Json} :
    putItems ({ name := name, put := fun v draft => (readValue v).map fun a => set a draft } :: rest)
        draft (v :: more) = .ok draft' <->
      exists a : α, readValue v = .ok a ∧ putItems rest (set a draft) more = .ok draft' := by
  cases hread : readValue v with
  | error error => simp [putItems, hread, Except.map]
  | ok a => simp [putItems, hread, Except.map]

theorem putItems_nil_eq_ok_iff {items : List Json} :
    putItems [] draft items = .ok draft' <-> draft = draft' :=
  Except.ok.injEq draft draft' ▸ Iff.rfl

theorem settled_of_putItems [JsonForm δ] {name : String} {defaults record : δ}
    {values : List Json}
    (hform : forall v : Json, read v = readWithDefaults name fields defaults v)
    (hnames : (fields.map Field.name).Nodup) (hall : fields.length ≤ values.length)
    (hwrite : write record = withFields fields values)
    (hvalues : forall v : Json, v ∈ values -> v.Valid)
    (hput : putItems fields defaults (values.map Json.throughTree) = .ok record) :
    Settled record := by
  constructor
  · rw [hwrite, throughTree_withFields, hform, readWithDefaults_withFields hnames, hput]
  · rw [hwrite]
    exact valid_withFields hnames hall hvalues

end JsonForm
end Troupe
