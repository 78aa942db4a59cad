import DrinkMixer.Json.Record
import DrinkMixer.Proofs.Json.Values

/-!
# Records read back

What is written of a record is read back as that record if each field is read back from what is
written of it, if no two fields have the same name, and if the fields together make up the record
(`Schema.Lawful`).

Main statement: `ofText_toText`, the text of a record holds that record.
-/

namespace DrinkMixer.Json

open Reader

variable {ρ : Type}

/-! ### Fields -/

/-- Whether a byte stands for itself within quotes. -/
def isVerbatim (b : UInt8) : Bool :=
  b != quote && b != TextState.backslash && 0x20 ≤ b

/-- Whether a byte stands for itself within quotes and is ASCII. -/
def isPlain (b : UInt8) : Bool :=
  isVerbatim b && b < 0x80

theorem isVerbatim_of_isPlain {b : UInt8} (h : isPlain b = true) : isVerbatim b = true :=
  (Bool.and_eq_true_iff.mp h).1

namespace RecordField

/-- The second record with the field of the first: what the field writes is read into it. -/
def copy (field : RecordField ρ) (source target : ρ) : ρ :=
  match field.read target (field.write source) with
  | .ok (record, _) => record
  | .error _ => target

/-- Fields that are read back from what is written of them. -/
structure Lawful (field : RecordField ρ) : Prop where
  plain : (bytes field.name).all isPlain = true
  /-- Nothing behind the value is touched. -/
  read_write (source target : ρ) {rest : List UInt8} (h : Delimited rest) :
    field.read target (field.write source ++ rest) = .ok (field.copy source target, rest)
  /-- Nothing but ASCII is written. -/
  ascii (source : ρ) : ∀ b ∈ field.write source, b < 0x80

section Of

variable {α : Type} [Wire α] [LawfulWire α] {name : String} {get : ρ → α} {set : ρ → α → ρ}

theorem read_of (source target : ρ) {rest : List UInt8} (h : Delimited rest) :
    (of name get set).read target ((of name get set).write source ++ rest) =
      .ok (set target (get source), rest) :=
  map_of_ok (LawfulWire.read_write (get source) h)

@[simp] theorem copy_of (source target : ρ) :
    (of name get set).copy source target = set target (get source) := by
  have hread : (of name get set).read target ((of name get set).write source ++ []) =
      .ok (set target (get source), []) := read_of source target delimited_nil
  rw [List.append_nil] at hread
  rw [copy, hread]

/-- A value that is read back makes a field that is. -/
theorem lawful_of (hname : (bytes name).all isPlain = true) : (of name get set).Lawful where
  plain := hname
  read_write source target rest h := by
    rw [copy_of]
    exact read_of source target h
  ascii source := LawfulWire.ascii (get source)

end Of

end RecordField

/-! ### Objects -/

/-- Schemas whose records are read back from what is written of them. -/
structure Schema.Lawful (schema : Schema ρ) : Prop where
  fields : ∀ field ∈ schema.fields, field.Lawful
  /-- No two fields have the same name. -/
  distinct : (schema.fields.map fun field => bytes field.name).Nodup
  /-- A record is made up of its fields. -/
  complete : ∀ source,
    schema.fields.foldl (fun target field => field.copy source target) schema.default = source

section Names

variable {rest : List UInt8}

/-- A byte that stands for itself is taken up as it is. -/
theorem scan_verbatim {checked : Bool} {b : UInt8} {read : List UInt8}
    (h : isVerbatim b = true) :
    scan checked .plain read (b :: rest) = scan checked .plain (b :: read) rest := by
  simp only [isVerbatim, Bool.and_eq_true, bne_iff_ne, decide_eq_true_eq] at h
  obtain ⟨⟨hquote, hbackslash⟩, hcontrol⟩ := h
  have hlow : ¬b < 0x20 := UInt8.not_lt.mpr hcontrol
  rw [scan, if_neg hquote, if_neg hbackslash, if_neg hlow]

/-- A text without escapes is scanned up to its closing quote. -/
theorem scan_append {text read : List UInt8} (h : ∀ b ∈ text, isVerbatim b = true) :
    scan true .plain read (text ++ quote :: rest) = .ok (read.reverse ++ text, rest) := by
  induction text generalizing read with
  | nil => simp [scan]
  | cons b text ih =>
    rw [List.forall_mem_cons] at h
    rw [List.cons_append, scan_verbatim h.1, ih h.2, List.reverse_cons, List.append_assoc,
      List.singleton_append]

/-- A name is read with its quotes. -/
theorem name_append {text : List UInt8} (h : ∀ b ∈ text, isVerbatim b = true) :
    name (quote :: (text ++ quote :: rest)) = .ok (text, rest) := by
  have hadvance : advance (quote :: (text ++ quote :: rest)) = .ok ((), text ++ quote :: rest) :=
    rfl
  rw [name, bind_of_ok hadvance, Reader.text, scan_append h, List.reverse_nil, List.nil_append]

/-- Among things with different keys, each is found by its own. -/
theorem find?_of_nodup {α β : Type} [BEq β] [LawfulBEq β] {key : α → β} {list : List α} {x : α}
    (hnodup : (list.map key).Nodup) (hx : x ∈ list) :
    (list.find? fun y => key y == key x) = some x := by
  induction list with
  | nil => cases hx
  | cons y list ih =>
    rw [List.map_cons, List.nodup_cons] at hnodup
    rcases List.mem_cons.mp hx with rfl | hmem
    · rw [List.find?_cons_of_pos (by simp)]
    · have hne : key y ≠ key x := by
        intro heq
        apply hnodup.1
        rw [heq]
        exact List.mem_map_of_mem hmem
      rw [List.find?_cons_of_neg (by simpa using hne), ih hnodup.2 hmem]

end Names

namespace Schema

variable {schema : Schema ρ} {field : RecordField ρ} {source target : ρ} {rest : List UInt8}

/-- The members for some fields, each behind a comma unless it is the first of the object. -/
def members (source : ρ) : (first : Bool) → List (RecordField ρ) → List UInt8
  | _, [] => []
  | first, field :: fields =>
    (if first then [] else [comma]) ++ (member source field ++ members source false fields)

theorem intercalate_members (source : ρ) (fields : List (RecordField ρ)) :
    [comma].intercalate (fields.map (member source)) = members source true fields := by
  induction fields with
  | nil => rfl
  | cons field fields ih =>
    cases fields with
    | nil => simp [members]
    | cons next fields =>
      rw [List.map_cons, List.intercalate_cons_of_ne_nil (by simp), ih]
      simp [members]

/-- Every member takes up a byte. -/
theorem length_le_members (source : ρ) (first : Bool) (fields : List (RecordField ρ)) :
    fields.length ≤ (members source first fields).length := by
  induction fields generalizing first with
  | nil => exact Nat.le_refl 0
  | cons field fields ih =>
    have hmore := ih false
    have hmember : 0 < (member source field).length := by
      rw [member, List.cons_append, List.length_cons]
      exact Nat.succ_pos _
    rw [members, List.length_append, List.length_append, List.length_cons]
    omega

/-- What follows the value of a member. -/
theorem delimited_members (source : ρ) (fields : List (RecordField ρ)) :
    Delimited (members source false fields ++ closeObject :: rest) := by
  cases fields with
  | nil => exact delimited_closeObject rest
  | cons field fields => exact delimited_comma _

/-- A member is read into the field of its name. -/
theorem readMembers_member {fuel : Nat} {first : Bool} {seen : List String}
    (hfield : schema.field? (bytes field.name) = some field) (hlawful : field.Lawful)
    (hseen : field.name ∉ seen) (h : Delimited rest) :
    schema.readMembers (fuel + 1) first seen target
        ((if first then [] else [comma]) ++ (member source field ++ rest)) =
      schema.readMembers fuel false (field.name :: seen) (field.copy source target) rest := by
  have hmember : member source field ++ rest =
      quote :: (bytes field.name ++ quote :: colon :: (field.write source ++ rest)) := by
    simp [member]
  have hfollows : memberFollows first ((if first then [] else [comma]) ++
      (member source field ++ rest)) = .ok (true, member source field ++ rest) := by
    rw [hmember]
    cases first with
    | true => rfl
    | false => rfl
  have hname : name (member source field ++ rest) =
      .ok (bytes field.name, colon :: (field.write source ++ rest)) := by
    rw [hmember]
    exact name_append fun b hb => isVerbatim_of_isPlain (List.all_eq_true.mp hlawful.plain b hb)
  have hcolon : nameEnd (colon :: (field.write source ++ rest)) =
      .ok ((), field.write source ++ rest) := rfl
  rw [readMembers, bind_of_ok hfollows, if_pos rfl, bind_of_ok hname]
  simp only [hfield, if_neg hseen]
  rw [bind_of_ok hcolon, bind_of_ok (hlawful.read_write source target h)]

/-- The members for some fields are read into these fields, up to the end of the object. -/
theorem readMembers_members (h : schema.Lawful) {fields : List (RecordField ρ)} {fuel : Nat}
    {first : Bool} {seen : List String} (hfuel : fields.length < fuel)
    (hfields : ∀ field ∈ fields, field ∈ schema.fields)
    (hdistinct : (fields.map RecordField.name).Nodup)
    (hseen : ∀ field ∈ fields, field.name ∉ seen) :
    schema.readMembers fuel first seen target
        (members source first fields ++ closeObject :: rest) =
      .ok (fields.foldl (fun target field => field.copy source target) target, rest) := by
  induction fields generalizing fuel first seen target with
  | nil =>
    obtain ⟨fuel, rfl⟩ := Nat.exists_eq_add_one.mpr hfuel
    have hfollows : memberFollows first (closeObject :: rest) =
        .ok (false, closeObject :: rest) := rfl
    rw [members, List.nil_append, readMembers, bind_of_ok hfollows]
    rfl
  | cons field fields ih =>
    rw [List.length_cons] at hfuel
    obtain ⟨fuel, rfl⟩ := Nat.exists_eq_add_one.mpr (Nat.zero_lt_of_lt hfuel)
    rw [List.forall_mem_cons] at hfields hseen
    rw [List.map_cons, List.nodup_cons] at hdistinct
    have hfield : schema.field? (bytes field.name) = some field :=
      find?_of_nodup h.distinct hfields.1
    -- the names are distinct, so those that are left are still new
    have hnew : ∀ other ∈ fields, other.name ∉ field.name :: seen := by
      intro other hother
      rw [List.mem_cons, not_or]
      refine ⟨?_, hseen.2 other hother⟩
      intro hname
      apply hdistinct.1
      rw [← hname]
      exact List.mem_map_of_mem hother
    rw [members, List.append_assoc, List.append_assoc,
      readMembers_member hfield (h.fields field hfields.1) hseen.1
        (delimited_members source fields),
      ih (Nat.lt_of_succ_lt_succ hfuel) hfields.2 hdistinct.2 hnew, List.foldl_cons]

/-- A record is read back from its object. -/
theorem read_write (h : schema.Lawful) (source : ρ) (rest : List UInt8) :
    schema.read (schema.write source ++ rest) = .ok (source, rest) := by
  have hdocument : schema.write source ++ rest =
      openObject :: (members source true schema.fields ++ closeObject :: rest) := by
    rw [write, intercalate_members]
    simp
  have hstart : valueStart (schema.write source ++ rest) =
      .ok (openObject, schema.write source ++ rest) := by
    rw [hdocument]
    exact valueStart_cons rfl
  have hadvance : advance (schema.write source ++ rest) =
      .ok ((), members source true schema.fields ++ closeObject :: rest) := by
    rw [hdocument]
    rfl
  have hdistinct : (schema.fields.map RecordField.name).Nodup := by
    have hbytes : ((schema.fields.map RecordField.name).map bytes).Nodup := by
      rw [List.map_map]
      exact h.distinct
    exact List.Pairwise.of_map bytes (fun _ _ hne heq => hne (congrArg bytes heq)) hbytes
  have hfuel := length_le_members source true schema.fields
  rw [read, bind_of_ok hstart, if_pos rfl, bind_of_ok hadvance]
  rw [readMembers_members h (by rw [List.length_append]; omega) (fun _ => id) hdistinct
    (fun _ _ => List.not_mem_nil), h.complete]

end Schema

/-- Nothing but ASCII is written of a member. -/
theorem RecordField.Lawful.ascii_member {field : RecordField ρ} (h : field.Lawful) (source : ρ) :
    ∀ b ∈ Schema.member source field, b < 0x80 := by
  have hname : ∀ b ∈ bytes field.name, b < 0x80 := by
    intro b hb
    have hplain := List.all_eq_true.mp h.plain b hb
    simp only [isPlain, Bool.and_eq_true, decide_eq_true_eq] at hplain
    exact hplain.2
  simp only [Schema.member, List.cons_append, List.forall_mem_cons, List.forall_mem_append]
  exact ⟨by decide, hname, by decide, by decide, h.ascii source⟩

/-- Nothing but ASCII is written of a record. -/
theorem Schema.Lawful.ascii {schema : Schema ρ} (h : schema.Lawful) (source : ρ) :
    ∀ b ∈ schema.write source, b < 0x80 := by
  have hmembers : ∀ part ∈ schema.fields.map (member source), ∀ b ∈ part, b < 0x80 := by
    intro part hpart
    obtain ⟨field, hfield, rfl⟩ := List.mem_map.mp hpart
    exact (h.fields field hfield).ascii_member source
  rw [write, List.forall_mem_append, List.forall_mem_cons, List.forall_mem_singleton]
  exact ⟨⟨by decide, ascii_intercalate hmembers⟩, by decide⟩

/-- Records within records are read back. -/
theorem Schema.Lawful.lawfulWire {schema : Schema ρ} (h : schema.Lawful) :
    @LawfulWire ρ (.ofSchema schema) :=
  let _ : Wire ρ := .ofSchema schema
  { read_write := fun source rest _ => Schema.read_write h source rest
    start := fun _ => ⟨openObject, _, rfl, rfl⟩
    ascii := h.ascii }

/-! ### Texts -/

/-- An ASCII character is encoded as itself. -/
theorem utf8EncodeChar_ofUInt8 {b : UInt8} (h : b < 0x80) :
    String.utf8EncodeChar (Char.ofUInt8 b) = [b] := by
  have hsize : (Char.ofUInt8 b).utf8Size = 1 := by
    rw [Char.utf8Size_eq_one_iff, UInt32.le_iff_toNat_le]
    rw [UInt8.lt_iff_toNat_lt] at h
    exact Nat.le_of_lt_succ h
  have hbyte : (Char.ofUInt8 b).val.toUInt8 = b := by
    show b.toUInt32.toUInt8 = b
    simp
  rw [String.utf8EncodeChar_eq_singleton hsize, hbyte]

/-- The bytes of a text made of ASCII bytes are these bytes. -/
theorem bytes_ofList {document : List UInt8} (h : ∀ b ∈ document, b < 0x80) :
    bytes (String.ofList (document.map Char.ofUInt8)) = document := by
  have hencode : (document.map Char.ofUInt8).flatMap String.utf8EncodeChar = document := by
    induction document with
    | nil => rfl
    | cons b document ih =>
      rw [List.forall_mem_cons] at h
      rw [List.map_cons, List.flatMap_cons, utf8EncodeChar_ofUInt8 h.1, ih h.2,
        List.singleton_append]
  show (String.ofList _).toByteArray.data.toList = document
  rw [String.toByteArray_ofList, List.utf8Encode, List.toList_data_toByteArray, hencode]

/-- The text of a record holds that record. -/
theorem Schema.ofText_toText {schema : Schema ρ} (h : schema.Lawful) (source : ρ) :
    schema.ofText (schema.toText source) = .ok source := by
  have hread := Schema.read_write h source []
  have hend : documentEnd [] = .ok ((), []) := rfl
  rw [List.append_nil] at hread
  rw [ofText, toText, bytes_ofList (h.ascii source), ofBytes]
  show Except.map Prod.fst ((schema.read >>= fun record => documentEnd >>= fun _ => pure record)
    (schema.write source)) = _
  rw [bind_of_ok hread, bind_of_ok hend]
  rfl

end DrinkMixer.Json
