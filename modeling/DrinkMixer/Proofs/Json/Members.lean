import DrinkMixer.Proofs.Json.Literals
import DrinkMixer.Proofs.Json.Skipping
import Mathlib.Data.List.Forall2
import Mathlib.Data.List.Pairwise

/-!
# Records changed by the members of an object

Each member of an object whose name is that of a field puts a literal in place of that field
(`Slot`), and the others are passed over. No field may be named twice (`override?`). A record is
read so if each of its fields is read as the slot of its name says (`Slot.Reads`).

Main statements: `override?_perm`, the order of the members does not matter, `assign?_eq`, changing
one field after the other is all the changes together, and `ofText_members`, a text that holds an
object is read as the record with the named fields replaced.
-/

namespace DrinkMixer.Json

open Reader Value

variable {ρ : Type}

/-! ### Slots -/

/-- A field of a record, as a member of an object replaces it. -/
structure Slot (ρ : Type) where
  name : String
  /-- The values that are literals of the field, as they are written. -/
  Fits : Value → Prop
  /-- Replaces the field by what a literal stands for, unless it is out of range. -/
  change? : Value → Option (ρ → ρ)

/-- A field that a function sets. -/
def Slot.of {α : Type} [Literal α] (name : String) (set : ρ → α → ρ) : Slot ρ where
  name := name
  Fits := Literal.Fits α
  change? value := (Literal.value? value).map fun x record => set record x

/-- The slot with a name, as it is written between its quotes. -/
def slot? (slots : List (Slot ρ)) (name : Spelling) : Option (Slot ρ) :=
  slots.find? fun slot => bytes slot.name == name.bytes

/-- The members that name a field, each with the slot of the field. -/
def named (slots : List (Slot ρ)) (members : List (Spelling × Value)) :
    List (Slot ρ × Value) :=
  members.filterMap fun member => (slot? slots member.1).map fun slot => (slot, member.2)

/-- The names of fields among the members, in order. -/
def givenNames (slots : List (Slot ρ)) (members : List (Spelling × Value)) : List String :=
  (named slots members).map fun given => given.1.name

/-- The record in which some fields are replaced, unless a literal given for one of them is out of
range. -/
def changed? (given : List (Slot ρ × Value)) (record : ρ) : Option ρ :=
  (given.mapM fun (replaced : Slot ρ × Value) => replaced.1.change? replaced.2).map fun changes =>
    changes.foldl (fun record change => change record) record

/-- The record in which just the named fields are replaced, unless some field is named twice or
some literal is out of range. -/
def override? (slots : List (Slot ρ)) (members : List (Spelling × Value)) (record : ρ) :
    Option ρ :=
  if (givenNames slots members).Nodup then changed? (named slots members) record else none

/-- A member whose name has no escapes, and whose value is a literal if the name is that of a
field. -/
def FitsMember (slots : List (Slot ρ)) (member : Spelling × Value) : Prop :=
  member.1.isVerbatim = true ∧ ∀ slot ∈ slot? slots member.1, slot.Fits member.2

/-- The literals of a record are the objects with such members, in any order and among others. -/
abbrev Literal.ofSlots (slots : List (Slot ρ)) (default : ρ) : Literal ρ where
  Fits value := ∃ members, value = object members ∧ ∀ member ∈ members, FitsMember slots member
  value?
    | object members => override? slots members default
    | _ => none

section Given

variable {slots : List (Slot ρ)} {slot : Slot ρ} {member : Spelling × Value}
  {members : List (Spelling × Value)}

/-- A member that names no field can have any value. -/
theorem fitsMember_of_unnamed (hverbatim : member.1.isVerbatim = true)
    (hslot : slot? slots member.1 = none) : FitsMember slots member := by
  refine ⟨hverbatim, fun slot hmem => ?_⟩
  rw [hslot] at hmem
  cases hmem

theorem changed?_cons (given : Slot ρ × Value) (others : List (Slot ρ × Value)) (record : ρ) :
    changed? (given :: others) record =
      (given.1.change? given.2).bind fun change => changed? others (change record) := by
  simp only [changed?, List.mapM_cons]
  cases given.1.change? given.2 with
  | none => rfl
  | some change =>
    cases others.mapM fun (replaced : Slot ρ × Value) => replaced.1.change? replaced.2 <;> rfl

theorem named_cons_of_none (h : slot? slots member.1 = none) :
    named slots (member :: members) = named slots members := by
  simp [named, h]

theorem named_cons_of_some (h : slot? slots member.1 = some slot) :
    named slots (member :: members) = (slot, member.2) :: named slots members := by
  simp [named, h]

theorem givenNames_cons_of_some (h : slot? slots member.1 = some slot) :
    givenNames slots (member :: members) = slot.name :: givenNames slots members := by
  rw [givenNames, named_cons_of_some h]
  rfl

/-- A member that names no field changes nothing. -/
theorem override?_cons_of_none (h : slot? slots member.1 = none) (record : ρ) :
    override? slots (member :: members) record = override? slots members record := by
  rw [override?, override?, givenNames, named_cons_of_none h]
  rfl

/-- A member that names a field replaces it before the others replace theirs. -/
theorem override?_cons_of_some (h : slot? slots member.1 = some slot) (record : ρ) :
    override? slots (member :: members) record =
      if slot.name ∈ givenNames slots members then none
      else (slot.change? member.2).bind fun change =>
        override? slots members (change record) := by
  rw [override?, givenNames_cons_of_some h, named_cons_of_some h]
  by_cases hnew : slot.name ∈ givenNames slots members
  · rw [if_neg (by simp [hnew]), if_pos hnew]
  · by_cases hnodup : (givenNames slots members).Nodup
    · rw [if_pos (by simp [hnew, hnodup]), if_neg hnew, changed?_cons]
      simp only [override?, if_pos hnodup]
    · rw [if_neg (by simp [hnodup]), if_neg hnew]
      simp only [override?, if_neg hnodup]
      cases slot.change? member.2 <;> rfl

end Given

/-! ### The order of members -/

/-- Slots of which each leaves the field of the other alone. -/
def Slot.Commutes (slot other : Slot ρ) : Prop :=
  ∀ value value' change change', slot.change? value = some change →
    other.change? value' = some change' →
      ∀ record, change (change' record) = change' (change record)

instance : Std.Symm (@Slot.Commutes ρ) where
  symm _ _ h value value' change change' hvalue hvalue' record :=
    (h value' value change' change hvalue' hvalue record).symm

/-- Slots commute if what sets them does. -/
theorem commutes_of {α β : Type} [Literal α] [Literal β] {name name' : String} {set : ρ → α → ρ}
    {set' : ρ → β → ρ} (h : ∀ record x y, set (set' record y) x = set' (set record x) y) :
    (Slot.of name set).Commutes (.of name' set') := by
  intro value value' change change' hvalue hvalue' record
  obtain ⟨x, _, rfl⟩ := Option.map_eq_some_iff.mp hvalue
  obtain ⟨y, _, rfl⟩ := Option.map_eq_some_iff.mp hvalue'
  exact h record x y

/-- Different fields can be replaced in any order. -/
theorem changed?_perm {given given' : List (Slot ρ × Value)} (hperm : given.Perm given')
    (hcommutes : ∀ one ∈ given, ∀ other ∈ given, one.1.name ≠ other.1.name →
      one.1.Commutes other.1)
    (hnodup : (given.map fun given => given.1.name).Nodup) (record : ρ) :
    changed? given record = changed? given' record := by
  -- on how the one order comes from the other: only neighbours change places
  induction hperm generalizing record with
  | nil => rfl
  | cons head _ ih =>
    rw [List.map_cons, List.nodup_cons] at hnodup
    have hothers : ∀ record, changed? _ record = changed? _ record :=
      ih (fun one hone other hother => hcommutes one (List.mem_cons_of_mem _ hone) other
        (List.mem_cons_of_mem _ hother)) hnodup.2
    simp only [changed?_cons, hothers]
  | swap second head others =>
    have hne : head.1.name ≠ second.1.name := by
      simp only [List.map_cons, List.nodup_cons, List.mem_cons, not_or] at hnodup
      exact hnodup.1.1
    have hcommute := hcommutes head (by simp) second (by simp) hne
    simp only [changed?_cons]
    cases hhead : head.1.change? head.2 with
    | none => cases second.1.change? second.2 <;> rfl
    | some change =>
      cases hsecond : second.1.change? second.2 with
      | none => rfl
      | some change' =>
        simp only [Option.bind_some, hcommute _ _ _ _ hhead hsecond record]
  | trans hfirst _ ih ih' =>
    rw [ih hcommutes hnodup]
    refine ih' (fun one hone other hother => ?_) ((hfirst.map _).nodup_iff.mp hnodup) record
    exact hcommutes one (hfirst.mem_iff.mpr hone) other (hfirst.mem_iff.mpr hother)

/-- The members of an object replace the same fields in any order. -/
theorem override?_perm {slots : List (Slot ρ)} (hslots : slots.Pairwise Slot.Commutes)
    {members members' : List (Spelling × Value)} (hperm : members.Perm members') (record : ρ) :
    override? slots members record = override? slots members' record := by
  have hnamed : (named slots members).Perm (named slots members') := hperm.filterMap _
  have hnodup : (givenNames slots members).Nodup ↔ (givenNames slots members').Nodup :=
    (hnamed.map _).nodup_iff
  have hslot : ∀ given ∈ named slots members, given.1 ∈ slots := by
    intro given hgiven
    obtain ⟨member, _, hmember⟩ := List.mem_filterMap.mp hgiven
    obtain ⟨slot, hslot, rfl⟩ := Option.map_eq_some_iff.mp hmember
    exact List.mem_of_find?_eq_some hslot
  by_cases h : (givenNames slots members).Nodup
  · rw [override?, override?, if_pos h, if_pos (hnodup.mp h)]
    refine changed?_perm hnamed (fun one hone other hother hne => ?_) h record
    exact hslots.forall (hslot one hone) (hslot other hother) (ne_of_apply_ne Slot.name hne)
  · rw [override?, override?, if_neg h, if_neg (mt hnodup.mpr h)]

/-! ### One member after the other -/

/-- The record changed by one member after the other, given the names seen so far. -/
def assign? (slots : List (Slot ρ)) :
    (seen : List String) → List (Spelling × Value) → ρ → Option ρ
  | _, [], record => some record
  | seen, member :: members, record =>
    match slot? slots member.1 with
    | none => assign? slots seen members record
    | some slot =>
      if slot.name ∈ seen then none
      else (slot.change? member.2).bind fun change =>
        assign? slots (slot.name :: seen) members (change record)

/-- Changing one field after the other is all the changes together. -/
theorem assign?_eq (slots : List (Slot ρ)) (seen : List String)
    (members : List (Spelling × Value)) (record : ρ) :
    assign? slots seen members record =
      if ∀ name ∈ givenNames slots members, name ∉ seen then override? slots members record
      else none := by
  induction members generalizing seen record with
  | nil => simp [assign?, givenNames, changed?, named, override?]
  | cons member members ih =>
    rw [assign?]
    cases hslot : slot? slots member.1 with
    | none =>
      rw [override?_cons_of_none hslot, givenNames, named_cons_of_none hslot]
      exact ih seen record
    | some slot =>
      rw [override?_cons_of_some hslot, givenNames_cons_of_some hslot]
      by_cases hseen : slot.name ∈ seen
      · simp [hseen]
      -- those behind differ from this one and from those before it
      have hiff : (∀ name ∈ givenNames slots members, name ∉ slot.name :: seen) ↔
          slot.name ∉ givenNames slots members ∧
            ∀ name ∈ givenNames slots members, name ∉ seen := by
        constructor
        · intro h
          exact ⟨fun hmem => h _ hmem List.mem_cons_self,
            fun name hname hmem => h name hname (List.mem_cons_of_mem _ hmem)⟩
        · rintro ⟨hnew, h⟩ name hname hmem
          rcases List.mem_cons.mp hmem with rfl | hmem
          · exact hnew hname
          · exact h name hname hmem
      simp only [ih, hiff, List.forall_mem_cons, hseen, not_false_eq_true, true_and, if_false]
      by_cases hnew : slot.name ∈ givenNames slots members
      · simp [hnew]
      · by_cases hothers : ∀ name ∈ givenNames slots members, name ∉ seen
        · simp only [hnew, not_false_eq_true, true_and, if_pos hothers, if_false]
        · simp [hothers]

/-! ### Reading members -/

/-- A field is read as the slot of its name says. -/
structure Slot.Reads (slot : Slot ρ) (field : RecordField ρ) : Prop where
  name : slot.name = field.name
  yields {record : ρ} {value : Value} {text : List UInt8} {more : List Token}
    (hfits : slot.Fits value) (htext : Spaced (value.tokens ++ more) text) (hmore : Ends more) :
    Yields (field.read record) text ((slot.change? value).map fun change => change record) more

theorem reads_of {α : Type} [Wire α] [Literal α] [LawfulLiteral α] (name : String) (get : ρ → α)
    (set : ρ → α → ρ) : (Slot.of name set).Reads (.of name get set) where
  name := rfl
  yields {record value text more} hfits htext hmore := by
    have hread := LawfulLiteral.yields_read hfits htext hmore
    have hset := hread.map (set record)
    rw [Slot.of, Option.map_map]
    exact hset

section Reading

variable {slots : List (Slot ρ)} {schema : Schema ρ} {text : List UInt8} {more : List Token}
  {first : Bool}

/-- The field with a name is read as the slot with that name says. -/
theorem field?_eq (h : List.Forall₂ Slot.Reads slots schema.fields) (name : Spelling) :
    (slot? slots name = none ∧ schema.field? name.bytes = none) ∨
      ∃ slot field, slot? slots name = some slot ∧ schema.field? name.bytes = some field ∧
        slot.Reads field := by
  rw [Schema.field?, slot?]
  generalize schema.fields = fields at h
  induction h with
  | nil => exact Or.inl ⟨rfl, rfl⟩
  | @cons slot field slots fields hreads _ ih =>
    rw [List.find?_cons, List.find?_cons, ← hreads.name]
    cases bytes slot.name == name.bytes with
    | true => exact Or.inr ⟨slot, field, rfl, rfl, hreads⟩
    | false => exact ih

/-- A member of an object is told from its end. -/
theorem exists_memberFollows {name : Spelling}
    (htext : Spaced (separator first ++ name.token :: more) text) :
    ∃ rest, memberFollows first text =
      .ok (true, quote :: (name.bytes ++ quote :: rest)) ∧ Spaced more rest := by
  have hsplit : ∀ rest, name.bytes ++ [quote] ++ rest = name.bytes ++ quote :: rest := by simp
  cases first with
  | true =>
    obtain ⟨rest, hblanks, hrest⟩ := htext.exists_skipBlanks rfl
    rw [hsplit] at hblanks
    refine ⟨rest, ?_, hrest⟩
    rw [memberFollows, bind_of_ok hblanks]
    rfl
  | false =>
    obtain ⟨inner, hcomma, hinner⟩ := htext.exists_skipBlanks rfl
    obtain ⟨rest, hblanks, hrest⟩ := hinner.exists_skipBlanks rfl
    rw [hsplit] at hblanks
    have hpeek : peek? (comma :: inner) = .ok (some comma, comma :: inner) := rfl
    have hadvance : advance (comma :: inner) = .ok ((), inner) := rfl
    have hother : comma ≠ closeObject := by decide
    refine ⟨rest, ?_, hrest⟩
    rw [memberFollows, bind_of_ok hcomma]
    show (peek? >>= _ : Reader Bool) (comma :: inner) = _
    rw [bind_of_ok hpeek]
    simp only [if_neg hother, Bool.false_eq_true, if_false, if_true]
    rw [bind_of_ok hadvance, bind_of_ok hblanks]
    rfl

theorem exists_memberFollows_end (htext : Spaced ([closeObject] :: more) text) :
    ∃ rest, memberFollows first text = .ok (false, closeObject :: rest) ∧ Spaced more rest := by
  obtain ⟨rest, hblanks, hrest⟩ := htext.exists_skipBlanks rfl
  refine ⟨rest, ?_, hrest⟩
  rw [memberFollows, bind_of_ok hblanks]
  rfl

/-- The second member of a name is refused, whatever follows it. -/
theorem yields_refuseDuplicate {α : Type} (name : String) :
    Yields (Schema.refuseDuplicate name : Reader α) text none more := by
  have hblanks : skipBlanks text = .ok ((), text.dropWhile isBlank) := rfl
  have haccept : ∃ taken rest, accept closeObject (text.dropWhile isBlank) = .ok (taken, rest) := by
    by_cases hclose : (text.dropWhile isBlank).head? = some closeObject
    · obtain ⟨rest, hrest⟩ := List.head?_eq_some_iff.mp hclose
      rw [hrest]
      exact ⟨true, rest, rfl⟩
    · exact ⟨false, _, accept_of_ne hclose⟩
  obtain ⟨taken, rest, haccept⟩ := haccept
  rw [Schema.refuseDuplicate]
  exact .of_ok hblanks (.of_ok haccept ⟨_, rfl⟩)

/-- The members of an object are read one after the other: those that name a field into the field,
and the others are passed over. -/
theorem yields_readMembers (hslots : List.Forall₂ Slot.Reads slots schema.fields)
    {members : List (Spelling × Value)} {fuel : Nat} {seen : List String} {record : ρ}
    (hfits : ∀ member ∈ members, FitsMember slots member)
    (htext : Spaced (memberTokens first members ++ [closeObject] :: more) text)
    (hfuel : members.length < fuel) :
    Yields (schema.readMembers fuel first seen record) text (assign? slots seen members record)
      more := by
  -- on the members that are left, with the names that were seen before them
  induction members generalizing fuel first seen record text with
  | nil =>
    obtain ⟨fuel, rfl⟩ := Nat.exists_eq_add_one.mpr hfuel
    obtain ⟨rest, hfollows, hrest⟩ := exists_memberFollows_end htext
    rw [Schema.readMembers]
    exact .of_ok hfollows ⟨rest, rfl, hrest⟩
  | cons member members ih =>
    rw [List.length_cons] at hfuel
    obtain ⟨fuel, rfl⟩ := Nat.exists_eq_add_one.mpr (Nat.zero_lt_of_lt hfuel)
    rw [List.forall_mem_cons] at hfits
    obtain ⟨⟨hverbatim, hvalue⟩, hmembers⟩ := hfits
    obtain ⟨name, value⟩ := member
    have htokens : memberTokens first ((name, value) :: members) ++ [closeObject] :: more =
        separator first ++ name.token :: [colon] ::
          (value.tokens ++ (memberTokens false members ++ [closeObject] :: more)) := by
      simp [memberTokens]
    rw [htokens] at htext
    obtain ⟨rest, hfollows, hrest⟩ := exists_memberFollows htext
    have hname : Reader.name (quote :: (name.bytes ++ quote :: rest)) = .ok (name.bytes, rest) :=
      name_append fun b hb => Spelling.verbatim_of_mem_bytes hverbatim hb
    obtain ⟨behind, hcolon, hbehind⟩ := yields_nameEnd hrest
    have hends := ends_memberTokens more members
    rw [Schema.readMembers, assign?]
    refine .of_ok hfollows ?_
    rw [if_pos rfl]
    refine .of_ok hname ?_
    -- a member without a field is passed over, and a second one for a field is refused
    rcases field?_eq hslots name with ⟨hslot, hfield⟩ | ⟨slot, field, hslot, hfield, hreads⟩
    · simp only [hslot, hfield]
      obtain ⟨left, hskip, hleft⟩ := yields_skipValue value hbehind hends
      exact .of_ok hcolon (.of_ok hskip (ih hmembers hleft (by omega)))
    · simp only [hslot, hfield, ← hreads.name]
      by_cases hseen : slot.name ∈ seen
      · simp only [if_pos hseen]
        exact yields_refuseDuplicate slot.name
      · simp only [if_neg hseen]
        have hread : Yields (field.read record) behind
            ((slot.change? value).map fun change => change record)
            (memberTokens false members ++ [closeObject] :: more) :=
          hreads.yields (hvalue slot hslot) hbehind hends
        have hothers : ∀ changed left,
            Spaced (memberTokens false members ++ [closeObject] :: more) left →
              Yields (schema.readMembers fuel false (slot.name :: seen) changed) left
                (assign? slots (slot.name :: seen) members changed) more :=
          fun _ _ hleft => ih hmembers hleft (Nat.lt_of_succ_lt_succ hfuel)
        have hall := hread.bind fun changed _ left hleft => hothers changed left hleft
        rw [Option.bind_map] at hall
        exact .of_ok hcolon hall

/-! ### Reading records -/

/-- The literals of a record are read as the default with the named fields replaced. -/
theorem yields_read (hslots : List.Forall₂ Slot.Reads slots schema.fields)
    {members : List (Spelling × Value)} (hfits : ∀ member ∈ members, FitsMember slots member)
    (htext : Spaced ((object members).tokens ++ more) text) :
    Yields schema.read text (override? slots members schema.default) more := by
  rw [tokens_object_append] at htext
  obtain ⟨rest, hstart, hrest⟩ := exists_valueStart htext rfl
  have hlength := length_le_memberTokens true members
  have htokens := hrest.length_le (isToken_memberTokens true members)
  have hread : Yields (schema.readMembers (rest.length + 1) true [] schema.default) rest
      (assign? slots [] members schema.default) more :=
    yields_readMembers hslots hfits hrest (by omega)
  rw [assign?_eq, if_pos fun _ _ => List.not_mem_nil] at hread
  rw [Schema.read]
  refine .of_ok hstart ?_
  rw [if_pos rfl]
  exact .of_advance hread

/-- Records whose fields are read as their slots say have lawful literals. -/
theorem lawfulLiteral_ofSlots (hslots : List.Forall₂ Slot.Reads slots schema.fields) :
    @LawfulLiteral ρ (.ofSchema schema) (.ofSlots slots schema.default) :=
  let _ : Wire ρ := .ofSchema schema
  let _ : Literal ρ := .ofSlots slots schema.default
  { yields_read := by
      rintro value text more ⟨members, rfl, hfits⟩ htext _
      exact yields_read hslots hfits htext }

theorem yields_documentEnd (htext : Spaced [] text) : Yields documentEnd text (some ()) [] := by
  refine ⟨[], ?_, .blanks (List.forall_mem_nil _)⟩
  rw [documentEnd, bind_of_ok htext.skipBlanks_eq_nil]
  rfl

/-- A text that holds an object is read as the default with the named fields replaced, and refused
if a field is named twice or a literal is out of range. -/
theorem ofText_spaced (hslots : List.Forall₂ Slot.Reads slots schema.fields)
    {members : List (Spelling × Value)} (hfits : ∀ member ∈ members, FitsMember slots member)
    {text : String} (htext : Spaced (object members).tokens (bytes text)) :
    match override? slots members schema.default with
    | some record => schema.ofText text = .ok record
    | none => ∃ fault, schema.ofText text = .error fault := by
  rw [← List.append_nil (object members).tokens] at htext
  have hread := (yields_read hslots hfits htext).followed fun rest hrest => yields_documentEnd hrest
  rw [Schema.ofText, Schema.ofBytes, StateT.run']
  generalize override? slots members schema.default = record? at hread ⊢
  cases record? with
  | none =>
    obtain ⟨fault, hfault⟩ := hread
    exact ⟨fault, by rw [hfault]; rfl⟩
  | some record =>
    obtain ⟨rest, hok, _⟩ := hread
    show Except.map Prod.fst _ = _
    rw [hok]
    rfl

/-- A text that lists the members of an object in any order is read as the default with the named
fields replaced. -/
theorem ofText_members (hslots : List.Forall₂ Slot.Reads slots schema.fields)
    (hcommutes : slots.Pairwise Slot.Commutes) {members written : List (Spelling × Value)}
    (hperm : written.Perm members) (hfits : ∀ member ∈ members, FitsMember slots member)
    {text : String} (htext : Spaced (object written).tokens (bytes text)) :
    match override? slots members schema.default with
    | some record => schema.ofText text = .ok record
    | none => ∃ fault, schema.ofText text = .error fault := by
  rw [← override?_perm hcommutes hperm]
  exact ofText_spaced hslots (fun member hmember => hfits member (hperm.mem_iff.mp hmember)) htext

end Reading

end DrinkMixer.Json
