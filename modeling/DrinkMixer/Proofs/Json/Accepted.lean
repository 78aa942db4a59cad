import DrinkMixer.Json.Record
import DrinkMixer.Proofs.Json.Skipped

/-!
# Records that were accepted

A record that is read from a text is written there: as an object in which each field is named at
most once and has the value written there, or the one of the default if it is not named; or as a
list with the values of the first fields in order. The fields are told apart by an index, and come
with the values that they are read from (`Layout`).

Main statements: `Layout.taken_readMembers` and `Layout.taken_readElements`, what members and
elements make of a record, and `Layout.named_or_listed`, the text that a record is read from.
-/

namespace DrinkMixer.Json

open Reader Value

variable {text rest : List UInt8}

/-! ### Members of a name -/

/-- The values of the members with a name, whatever escapes it is written with. -/
def valuesOf (name : String) (members : List (Spelling × Value)) : List Value :=
  (members.filter fun member => member.1.meaning? == some (bytes name)).map Prod.snd

/-- The only member with a name has a value, or there is no such member and the value is the
default. -/
def Given (name : String) (members : List (Spelling × Value)) (value default : Value) : Prop :=
  valuesOf name members = [value] ∨ valuesOf name members = [] ∧ value = default

section Given

variable {name : String} {spelling : Spelling} {members : List (Spelling × Value)}
  {value given default : Value}

/-- A member of another name gives nothing. -/
theorem valuesOf_cons_of_ne (h : spelling.meaning? ≠ some (bytes name)) :
    valuesOf name ((spelling, value) :: members) = valuesOf name members := by
  rw [valuesOf, List.filter_cons_of_neg (by simpa using h), valuesOf]

/-- A member that no other of its name follows gives its value, whatever the default is. -/
theorem Given.cons_of_eq (hmembers : Given name members given value)
    (h : spelling.meaning? = some (bytes name)) (hlast : valuesOf name members = []) :
    Given name ((spelling, value) :: members) given default := by
  have hstays : given = value := by
    rcases hmembers with hsome | ⟨-, hstays⟩
    · rw [hlast] at hsome
      cases hsome
    · exact hstays
  left
  rw [valuesOf, List.filter_cons_of_pos (by simp [h]), List.map_cons, ← valuesOf, hlast, hstays]

end Given

/-! ### Fields -/

/-- The fields of a record under an index, each with the value that it is read from. -/
structure Layout {ρ : Type} (schema : Schema ρ) (ι : Type) where
  field : ι → RecordField ρ
  /-- The order of the fields in lists. -/
  indices : List ι
  /-- The value of a field of a record. -/
  value : ι → ρ → Value
  fields_eq : schema.fields = indices.map field
  nodup : indices.Nodup
  complete : ∀ i, i ∈ indices
  /-- Fields are told apart by their names. -/
  injective : ∀ {i j}, bytes (field i).name = bytes (field j).name → i = j
  /-- What is read into a field is its value. -/
  taken : ∀ {i record changed text rest}, (field i).read record text = .ok (changed, rest) →
    Taken (value i changed).tokens text rest
  /-- Other fields are left alone. -/
  frame : ∀ {i j record changed text rest}, (field i).read record text = .ok (changed, rest) →
    j ≠ i → value j changed = value j record

namespace Layout

variable {ρ ι : Type} {schema : Schema ρ} {record changed : ρ} {first : Bool}

/-- Every field of a record has the value that the only member with its name gives it, or the one
of the default if there is no such member. -/
def Named (layout : Layout schema ι) (members : List (Spelling × Value)) (record : ρ) : Prop :=
  ∀ i, Given (layout.field i).name members (layout.value i record) (layout.value i schema.default)

/-- The first fields of a record have the values in a list, and the others those of the default. -/
def Listed (layout : Layout schema ι) (elements : List Value) (record : ρ) : Prop :=
  layout.indices.map (layout.value · record) =
    elements ++ (layout.indices.map (layout.value · schema.default)).drop elements.length

variable (layout : Layout schema ι)

theorem exists_of_field? {name : List UInt8} {field : RecordField ρ}
    (h : schema.field? name = some field) :
    ∃ i, field = layout.field i ∧ bytes (layout.field i).name = name := by
  have hmem := List.mem_of_find?_eq_some h
  have hname := List.find?_some h
  rw [layout.fields_eq] at hmem
  obtain ⟨i, -, rfl⟩ := List.mem_map.mp hmem
  exact ⟨i, rfl, eq_of_beq hname⟩

theorem ne_of_field? {name : List UInt8} (h : schema.field? name = none) (i : ι) :
    bytes (layout.field i).name ≠ name := by
  have hmem : layout.field i ∈ schema.fields := by
    rw [layout.fields_eq]
    exact List.mem_map_of_mem (layout.complete i)
  have hnone := List.find?_eq_none.mp h _ hmem
  simpa using hnone

/-! ### Objects -/

theorem refuseDuplicate_ne_ok {α : Type} {name : String} {x : α} :
    (Schema.refuseDuplicate name : Reader α) text ≠ .ok (x, rest) := by
  intro h
  obtain ⟨_, _, _, haccept⟩ := exists_of_bind h
  obtain ⟨_, _, _, hrefuse⟩ := exists_of_bind haccept
  cases hrefuse

/-- A member is its name, the colon and its value, behind the separator. -/
theorem taken_member {name : Spelling} {value : Value} {members : List (Spelling × Value)}
    {named coloned valued entered : List UInt8}
    (hseparator : Taken (separator first) text entered) (hname : Taken [name.token] entered named)
    (hcolon : Taken [[colon]] named coloned) (hvalue : Taken value.tokens coloned valued)
    (hmembers : Taken (memberTokens false members ++ [[closeObject]]) valued rest) :
    Taken (memberTokens first ((name, value) :: members) ++ [[closeObject]]) text rest := by
  have hall := hseparator.append (hname.append (hcolon.append (hvalue.append hmembers)))
  simpa [memberTokens] using hall

/-- The members that are read give each field that they name its value. None of them names a field
that was seen before. -/
theorem taken_readMembers {fuel : Nat} {seen : List String}
    (h : schema.readMembers fuel first seen record text = .ok (changed, rest)) :
    ∃ members, Taken (memberTokens first members ++ [[closeObject]]) text rest ∧
      ∀ i, Given (layout.field i).name members (layout.value i changed) (layout.value i record) ∧
        ((layout.field i).name ∈ seen → valuesOf (layout.field i).name members = []) := by
  induction fuel generalizing first seen record text with
  | zero => cases h
  | succ fuel ih =>
    obtain ⟨follows, entered, hfollows, hnext⟩ := exists_of_bind h
    obtain ⟨more, rfl, hseparator⟩ := taken_memberFollows hfollows
    cases follows with
    | false =>
      obtain ⟨_, _, hadvance, hpure⟩ := exists_of_bind hnext
      cases hadvance
      cases hpure
      refine ⟨[], hseparator.append (taken_token [closeObject] more), fun i => ?_⟩
      exact ⟨Or.inr ⟨rfl, rfl⟩, fun _ => rfl⟩
    | true =>
      obtain ⟨name, named, hname, hmember⟩ := exists_of_bind hnext
      obtain ⟨spelling, hmeaning, hspelled⟩ := taken_name hname
      cases hfield : schema.field? name with
      | none =>
        -- the member of another name is passed over
        simp only [hfield] at hmember
        obtain ⟨_, coloned, hcolon, hskipped⟩ := exists_of_bind hmember
        obtain ⟨_, valued, hskip, hothers⟩ := exists_of_bind hskipped
        obtain ⟨value, hvalue⟩ := taken_skipValue hskip
        obtain ⟨members, hmembers, hgiven⟩ := ih hothers
        refine ⟨(spelling, value) :: members, taken_member hseparator hspelled
          (taken_nameEnd hcolon) hvalue hmembers, fun i => ?_⟩
        have hother : spelling.meaning? ≠ some (bytes (layout.field i).name) := by
          rw [hmeaning]
          exact fun hsome => layout.ne_of_field? hfield i (Option.some.inj hsome).symm
        rw [Given, valuesOf_cons_of_ne hother]
        exact hgiven i
      | some field =>
        obtain ⟨i, rfl, rfl⟩ := layout.exists_of_field? hfield
        simp only [hfield] at hmember
        split_ifs at hmember with hseen
        · exact absurd hmember refuseDuplicate_ne_ok
        obtain ⟨_, coloned, hcolon, hread⟩ := exists_of_bind hmember
        obtain ⟨filled, valued, hfilled, hothers⟩ := exists_of_bind hread
        obtain ⟨members, hmembers, hgiven⟩ := ih hothers
        refine ⟨(spelling, layout.value i filled) :: members, taken_member hseparator hspelled
          (taken_nameEnd hcolon) (layout.taken hfilled) hmembers, fun j => ?_⟩
        obtain ⟨hothersGive, hnone⟩ := hgiven j
        by_cases hij : j = i
        · -- no further member has this name, so the value stays
          subst hij
          have hlast := hnone List.mem_cons_self
          exact ⟨hothersGive.cons_of_eq hmeaning hlast, fun hmem => absurd hmem hseen⟩
        · have hother : spelling.meaning? ≠ some (bytes (layout.field j).name) := by
            rw [hmeaning]
            exact fun hsome => hij (layout.injective (Option.some.inj hsome).symm)
          rw [Given, valuesOf_cons_of_ne hother, ← layout.frame hfilled hij]
          exact ⟨hothersGive, fun hmem => hnone (List.mem_cons_of_mem _ hmem)⟩

/-! ### Lists -/

/-- The elements that are read give the first fields their values. -/
theorem taken_readElements {indices : List ι} (hnodup : indices.Nodup)
    (h : Schema.readElements first (indices.map layout.field) record text = .ok (changed, rest)) :
    ∃ elements, Taken (elementTokens first elements) text rest ∧
      indices.map (layout.value · changed) =
        elements ++ (indices.map (layout.value · record)).drop elements.length ∧
      ∀ i ∉ indices, layout.value i changed = layout.value i record := by
  induction indices generalizing first record text with
  | nil =>
    cases h
    exact ⟨[], .refl _, rfl, fun _ _ => rfl⟩
  | cons i indices ih =>
    rw [List.nodup_cons] at hnodup
    obtain ⟨follows, entered, hfollows, hnext⟩ := exists_of_bind h
    have hseparator := taken_elementFollows hfollows
    cases follows with
    | false =>
      cases hnext
      exact ⟨[], hseparator, rfl, fun _ _ => rfl⟩
    | true =>
      obtain ⟨filled, valued, hfilled, hothers⟩ := exists_of_bind hnext
      obtain ⟨elements, helements, hvalues, hrest⟩ := ih hnodup.2 hothers
      -- reading one field leaves the values of the others
      have hothersStay : indices.map (layout.value · filled) =
          indices.map (layout.value · record) := by
        refine List.map_congr_left fun j hj => layout.frame hfilled ?_
        rintro rfl
        exact hnodup.1 hj
      refine ⟨layout.value i filled :: elements, ?_, ?_, fun j hj => ?_⟩
      · exact hseparator.append ((layout.taken hfilled).append helements)
      · rw [List.map_cons, hrest i hnodup.1, hvalues, hothersStay]
        rfl
      · rw [List.mem_cons, not_or] at hj
        rw [hrest j hj.2, layout.frame hfilled hj.1]

/-! ### Records -/

/-- What a record is read from is an object or a list. -/
theorem taken_read (h : schema.read text = .ok (record, rest)) :
    (∃ members, Taken (object members).tokens text rest ∧ layout.Named members record) ∨
      ∃ elements, Taken (list elements).tokens text rest ∧ layout.Listed elements record := by
  obtain ⟨b, middle, hstart, hnext⟩ := exists_of_bind h
  obtain ⟨htaken, more, rfl⟩ := taken_valueStart hstart
  -- an object gives fields by name and a list by place, and nothing else begins a record
  split_ifs at hnext with hobject hlist
  · obtain ⟨_, _, hadvance, hread⟩ := exists_of_bind hnext
    cases hadvance
    obtain ⟨members, hmembers, hgiven⟩ := layout.taken_readMembers hread
    left
    subst hobject
    refine ⟨members, ?_, fun i => (hgiven i).1⟩
    have hopened := htaken.append (taken_token [openObject] more)
    exact hopened.append hmembers
  · obtain ⟨_, _, hadvance, hread⟩ := exists_of_bind hnext
    cases hadvance
    obtain ⟨listed, behind, helements, hend⟩ := exists_of_bind hread
    obtain ⟨_, _, hclose, hpure⟩ := exists_of_bind hend
    cases hpure
    rw [layout.fields_eq] at helements
    obtain ⟨elements, htakenElements, hvalues, -⟩ :=
      layout.taken_readElements layout.nodup helements
    right
    subst hlist
    refine ⟨elements, ?_, hvalues⟩
    have hopened := htaken.append (taken_token [openList] more)
    exact hopened.append (htakenElements.append (taken_endList hclose))
  · exact absurd hnext mismatch_ne_ok

/-- Behind a record that is read from a document there are blanks only. -/
theorem exists_of_ofBytes {document : List UInt8} (h : schema.ofBytes document = .ok record) :
    ∃ left, schema.read document = .ok (record, left) ∧ Spaced [] left := by
  have hrun : Except.map Prod.fst ((schema.read >>= fun record => do
      documentEnd
      pure record : Reader ρ) document) = .ok record := h
  cases hread : (schema.read >>= fun record => do
      documentEnd
      pure record : Reader ρ) document with
  | error fault =>
    rw [hread] at hrun
    cases hrun
  | ok taken =>
    obtain ⟨found, behind⟩ := taken
    rw [hread] at hrun
    cases hrun
    obtain ⟨record, left, hrecord, hend⟩ := exists_of_bind hread
    obtain ⟨_, _, hdocumentEnd, hpure⟩ := exists_of_bind hend
    cases hpure
    exact ⟨left, hrecord, spaced_documentEnd hdocumentEnd⟩

/-- A text that a record is read from holds an object or a list, and nothing else. -/
theorem named_or_listed {document : String} (h : schema.ofText document = .ok record) :
    (∃ members, Spaced (object members).tokens (bytes document) ∧ layout.Named members record) ∨
      ∃ elements, Spaced (list elements).tokens (bytes document) ∧
        layout.Listed elements record := by
  obtain ⟨left, hread, hblanks⟩ := exists_of_ofBytes h
  rcases layout.taken_read hread with ⟨members, htaken, hnamed⟩ | ⟨elements, htaken, hlisted⟩
  · exact Or.inl ⟨members, htaken.spaced hblanks, hnamed⟩
  · exact Or.inr ⟨elements, htaken.spaced hblanks, hlisted⟩

end Layout

end DrinkMixer.Json
