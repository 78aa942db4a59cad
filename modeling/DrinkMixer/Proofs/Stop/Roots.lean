import DrinkMixer.Stop
import Mathlib.Logic.ExistsUnique

/-!
# Stop handles and their roots

Handles are created, copied and raised in any order. Going from a copy to the handle it was made
from, and on from there, ends at a handle that was created: the root. Copies hold the flag of the
handle they were made from and no two created handles hold the same one, so handles share a flag
exactly if they share a root.

Main statements: `Feasible.tracks`, what steps leave behind, `isRaised_actAll`, a raised flag stays
raised, and `isRaised_iff_root_raised`, which handles show a raised flag.
-/

namespace DrinkMixer.StopHandles

/-! ### Steps -/

/-- What can be done to stop handles. -/
inductive Step
  | create
  | copy (source : Nat)
  | raise (handle : Nat)
  deriving DecidableEq, Repr

/-- Does what a step says. -/
def act (handles : StopHandles) : Step → StopHandles
  | .create => handles.create
  | .copy source => handles.copy source
  | .raise handle => handles.raise handle

/-- Does what the steps say, one after another. -/
def actAll (handles : StopHandles) (steps : List Step) : StopHandles :=
  steps.foldl act handles

/-- The steps that make a handle, in order: the handle 0 is made by the first of them. -/
def makings (steps : List Step) : List Step :=
  steps.filter fun
    | .raise _ => false
    | _ => true

/-- Only handles that are there by then are copied and raised. -/
inductive Feasible : List Step → Prop
  | start : Feasible []
  | create {steps : List Step} (before : Feasible steps) : Feasible (steps ++ [.create])
  | copy {steps : List Step} {source : Nat} (before : Feasible steps)
    (there : source < (makings steps).length) : Feasible (steps ++ [.copy source])
  | raise {steps : List Step} {handle : Nat} (before : Feasible steps)
    (there : handle < (makings steps).length) : Feasible (steps ++ [.raise handle])

/-- The root of a created handle is the handle itself, and that of a copy is the root of the handle
it was made from. -/
inductive Root (steps : List Step) : Nat → Nat → Prop
  | created {handle : Nat} (made : (makings steps)[handle]? = some .create) :
    Root steps handle handle
  | copied {handle source root : Nat} (made : (makings steps)[handle]? = some (.copy source))
    (origin : Root steps source root) : Root steps handle root

section Steps

variable {steps : List Step} {handle source : Nat}

@[simp] theorem actAll_concat (handles : StopHandles) (steps : List Step) (step : Step) :
    handles.actAll (steps ++ [step]) = (handles.actAll steps).act step := by
  simp [actAll]

@[simp] theorem makings_create : makings (steps ++ [.create]) = makings steps ++ [.create] := by
  simp [makings]

@[simp] theorem makings_copy :
    makings (steps ++ [.copy source]) = makings steps ++ [.copy source] := by
  simp [makings]

@[simp] theorem makings_raise : makings (steps ++ [.raise handle]) = makings steps := by
  simp [makings]

theorem raise_not_mem_makings : .raise handle ∉ makings steps := by
  simp [makings]

/-- A step that makes a handle raises none. -/
theorem raise_mem_concat_iff {step : Step}
    (hmakes : makings (steps ++ [step]) = makings steps ++ [step]) :
    .raise handle ∈ steps ++ [step] ↔ .raise handle ∈ steps := by
  refine ⟨fun hmem => (List.mem_append.mp hmem).resolve_right fun hstep => ?_,
    fun hmem => List.mem_append_left _ hmem⟩
  have hmakings := hmakes ▸ List.mem_append_right (makings steps) hstep
  exact raise_not_mem_makings hmakings

/-- An entry of a list with one more element at its end is an old one or the new one. -/
theorem getElem?_concat_eq_some_iff {α : Type} {xs : List α} {x y : α} {i : Nat} :
    (xs ++ [x])[i]? = some y ↔ xs[i]? = some y ∨ i = xs.length ∧ x = y := by
  rcases Nat.lt_trichotomy i xs.length with hlt | rfl | hgt
  · rw [List.getElem?_append_left hlt]
    simp [Nat.ne_of_lt hlt]
  · simp
  · have hlength : (xs ++ [x]).length ≤ i := by
      rw [List.length_append]
      exact hgt
    rw [List.getElem?_eq_none hlength, List.getElem?_eq_none (Nat.le_of_lt hgt)]
    simp [Nat.ne_of_gt hgt]

namespace Feasible

/-- A handle is copied before the copy is there. -/
theorem source_lt (h : Feasible steps) (hmade : (makings steps)[handle]? = some (.copy source)) :
    source < handle := by
  induction h with
  | start => simp [makings] at hmade
  | create before ih =>
    rw [makings_create, getElem?_concat_eq_some_iff] at hmade
    rcases hmade with hold | ⟨-, hnew⟩
    · exact ih hold
    · cases hnew
  | copy before there ih =>
    rw [makings_copy, getElem?_concat_eq_some_iff] at hmade
    rcases hmade with hold | ⟨rfl, hnew⟩
    · exact ih hold
    · cases hnew
      exact there
  | raise before there ih =>
    rw [makings_raise] at hmade
    exact ih hmade

/-- A handle that was raised is there. -/
theorem raised_lt (h : Feasible steps) (hraise : .raise handle ∈ steps) :
    handle < (makings steps).length := by
  induction h with
  | start => cases hraise
  | create before ih =>
    have hbefore := ih ((raise_mem_concat_iff makings_create).mp hraise)
    rw [makings_create, List.length_append]
    exact Nat.lt_add_right _ hbefore
  | copy before there ih =>
    have hbefore := ih ((raise_mem_concat_iff makings_copy).mp hraise)
    rw [makings_copy, List.length_append]
    exact Nat.lt_add_right _ hbefore
  | raise before there ih =>
    rw [makings_raise]
    rcases List.mem_append.mp hraise with hold | hnew
    · exact ih hold
    · cases List.mem_singleton.mp hnew
      exact there

/-- Going back from a copy ends, since it was made from a handle before it. -/
theorem exists_root (h : Feasible steps) (hthere : handle < (makings steps).length) :
    ∃ root, Root steps handle root := by
  induction handle using Nat.strongRecOn with
  | ind handle ih =>
    have hmade := List.getElem?_eq_getElem hthere
    cases hstep : (makings steps)[handle] with
    | create =>
      rw [hstep] at hmade
      exact ⟨handle, .created hmade⟩
    | copy source =>
      rw [hstep] at hmade
      have hlt := h.source_lt hmade
      obtain ⟨root, horigin⟩ := ih source hlt (Nat.lt_trans hlt hthere)
      exact ⟨root, .copied hmade horigin⟩
    | raise raised => exact absurd (hstep ▸ List.getElem_mem hthere) raise_not_mem_makings

end Feasible

theorem Root.unique {first second : Nat} (hfirst : Root steps handle first)
    (hsecond : Root steps handle second) : first = second := by
  induction hfirst with
  | created made =>
    cases hsecond with
    | created => rfl
    | copied made' => simp [made] at made'
  | copied made origin ih =>
    cases hsecond with
    | created made' => simp [made] at made'
    | copied made' origin' =>
      rw [made] at made'
      cases made'
      exact ih origin'

theorem Root.created_root {root : Nat} (h : Root steps handle root) :
    (makings steps)[root]? = some .create := by
  induction h with
  | created made => exact made
  | copied made origin ih => exact ih

end Steps

/-! ### Flags -/

theorem getElem?_set_true_iff {flags : List Bool} {flag other : Nat} (hlt : flag < flags.length) :
    (flags.set flag true)[other]? = some true ↔ flags[other]? = some true ∨ flag = other := by
  rw [List.getElem?_set]
  split
  case isTrue heq => simp [heq, heq ▸ hlt]
  case isFalse hne => simp [hne]

/-- What steps leave behind. It is said of flags and not of what handles show, so that making a
handle leaves the raised flags alone. -/
structure Tracks (steps : List Step) (handles : StopHandles) : Prop where
  length_held : handles.held.length = (makings steps).length
  flag_lt : ∀ flag ∈ handles.held, flag < handles.raised.length
  /-- A copy holds the flag of the handle it was made from. -/
  copied : ∀ {handle source : Nat}, (makings steps)[handle]? = some (.copy source) →
    handles.held[handle]? = handles.held[source]?
  /-- No two created handles hold the same flag. -/
  created : ∀ {first second : Nat}, (makings steps)[first]? = some .create →
    (makings steps)[second]? = some .create →
    handles.held[first]? = handles.held[second]? → first = second
  /-- The flags that are raised are those of the handles that were raised. -/
  raised_iff : ∀ flag, handles.raised[flag]? = some true ↔
    ∃ handle, .raise handle ∈ steps ∧ handles.held[handle]? = some flag

section Flags

variable {steps : List Step} {handles : StopHandles} {handle source : Nat}

/-- A handle that was made is held. -/
theorem Tracks.exists_flag (h : Tracks steps handles) (hthere : handle < (makings steps).length) :
    ∃ flag, handles.held[handle]? = some flag :=
  ⟨_, List.getElem?_eq_getElem (h.length_held ▸ hthere)⟩

/-- A new handle holds a flag that is there and leaves all flags as they are: a copy that of the
handle it is made from, and a created handle one that no other holds. -/
theorem Tracks.make {step : Step} {flag : Nat} {raised : List Bool} (h : Tracks steps handles)
    (hsteps : Feasible steps) (hmakes : makings (steps ++ [step]) = makings steps ++ [step])
    (hflag : flag < raised.length) (hgrown : handles.raised.length ≤ raised.length)
    (hraised : ∀ other : Nat, raised[other]? = some true ↔ handles.raised[other]? = some true)
    (hcopied : ∀ source, step = .copy source → handles.held[source]? = some flag)
    (hcreated : step = .create → flag ∉ handles.held) :
    Tracks (steps ++ [step]) ⟨handles.held ++ [flag], raised⟩ := by
  have hlength := h.length_held
  have hthere : ∀ {i : Nat} {making : Step}, (makings steps)[i]? = some making →
      i < (makings steps).length := fun hmade => (List.getElem?_eq_some_iff.mp hmade).1
  have hold : ∀ {i : Nat}, i < (makings steps).length →
      (handles.held ++ [flag])[i]? = handles.held[i]? := by
    intro i hi
    exact List.getElem?_append_left (hlength ▸ hi)
  have hnew : (handles.held ++ [flag])[(makings steps).length]? = some flag := by
    rw [← hlength, List.getElem?_concat_length]
  constructor
  case length_held =>
    rw [hmakes, List.length_append, List.length_append, hlength]
    rfl
  case flag_lt =>
    intro held hheld
    rcases List.mem_append.mp hheld with hheld | hheld
    · exact Nat.lt_of_lt_of_le (h.flag_lt held hheld) hgrown
    · rwa [List.mem_singleton.mp hheld]
  case copied =>
    intro handle source hmade
    rw [hmakes, getElem?_concat_eq_some_iff] at hmade
    rcases hmade with hmade | ⟨rfl, rfl⟩
    · have hlt := hsteps.source_lt hmade
      rw [hold (hthere hmade), hold (Nat.lt_trans hlt (hthere hmade)), h.copied hmade]
    · have hsource := hcopied source rfl
      have hlt := (List.getElem?_eq_some_iff.mp hsource).1
      rw [hnew, hold (hlength ▸ hlt), hsource]
  case created =>
    intro first second hfirst hsecond hsame
    have hunheld : step = .create → ∀ i : Nat, handles.held[i]? ≠ some flag :=
      fun hcreate i hi => hcreated hcreate (List.mem_of_getElem? hi)
    rw [hmakes, getElem?_concat_eq_some_iff] at hfirst hsecond
    -- either of the two may be the new handle
    rcases hfirst with hfirst | ⟨rfl, hcreate⟩ <;> rcases hsecond with hsecond | ⟨rfl, hcreate'⟩
    · rw [hold (hthere hfirst), hold (hthere hsecond)] at hsame
      exact h.created hfirst hsecond hsame
    · rw [hold (hthere hfirst), hnew] at hsame
      exact absurd hsame (hunheld hcreate' first)
    · rw [hold (hthere hsecond), hnew] at hsame
      exact absurd hsame.symm (hunheld hcreate second)
    · rfl
  case raised_iff =>
    intro other
    rw [hraised, h.raised_iff]
    refine exists_congr fun handle => ?_
    rw [raise_mem_concat_iff hmakes]
    exact and_congr_right fun hmem => by rw [hold (hsteps.raised_lt hmem)]

theorem Tracks.create (h : Tracks steps handles) (hsteps : Feasible steps) :
    Tracks (steps ++ [.create]) handles.create := by
  refine h.make hsteps makings_create (by simp) (by simp) ?_ ?_ ?_
  · intro other
    simp [getElem?_concat_eq_some_iff]
  · intro _ hstep
    cases hstep
  · intro _ hheld
    exact Nat.lt_irrefl _ (h.flag_lt _ hheld)

theorem Tracks.copy (h : Tracks steps handles) (hsteps : Feasible steps)
    (hthere : source < (makings steps).length) :
    Tracks (steps ++ [.copy source]) (handles.copy source) := by
  obtain ⟨flag, hflag⟩ := h.exists_flag hthere
  have hcopy : handles.copy source = ⟨handles.held ++ [flag], handles.raised⟩ := by
    simp [StopHandles.copy, hflag]
  have hlt := h.flag_lt flag (List.mem_of_getElem? hflag)
  rw [hcopy]
  refine h.make hsteps makings_copy hlt (Nat.le_refl _) (fun _ => Iff.rfl) ?_ ?_
  · intro _ hstep
    cases hstep
    exact hflag
  · intro hstep
    cases hstep

theorem Tracks.raise (h : Tracks steps handles) (hthere : handle < (makings steps).length) :
    Tracks (steps ++ [.raise handle]) (handles.raise handle) := by
  obtain ⟨flag, hflag⟩ := h.exists_flag hthere
  have hraise : handles.raise handle = ⟨handles.held, handles.raised.set flag true⟩ := by
    simp [StopHandles.raise, hflag]
  have hlt := h.flag_lt flag (List.mem_of_getElem? hflag)
  rw [hraise]
  constructor
  case length_held => rw [makings_raise, h.length_held]
  case flag_lt => simpa using h.flag_lt
  case copied =>
    rw [makings_raise]
    exact h.copied
  case created =>
    rw [makings_raise]
    exact h.created
  case raised_iff =>
    -- a flag is raised now if it was before or if it is the one of this handle
    intro other
    rw [getElem?_set_true_iff hlt, h.raised_iff]
    constructor
    · rintro (⟨raised, hraise, hheld⟩ | rfl)
      · exact ⟨raised, List.mem_append_left _ hraise, hheld⟩
      · exact ⟨handle, List.mem_append_right _ (List.mem_singleton_self _), hflag⟩
    · rintro ⟨raised, hraise, hheld⟩
      rcases List.mem_append.mp hraise with hold | hnew
      · exact Or.inl ⟨raised, hold, hheld⟩
      · cases List.mem_singleton.mp hnew
        exact Or.inr (Option.some.inj (hflag.symm.trans hheld))

theorem Feasible.tracks (h : Feasible steps) : Tracks steps (({} : StopHandles).actAll steps) := by
  induction h with
  | start => exact ⟨rfl, by simp [actAll], by simp [makings], by simp [makings], by simp [actAll]⟩
  | create before ih =>
    rw [actAll_concat]
    exact ih.create before
  | copy before there ih =>
    rw [actAll_concat]
    exact ih.copy before there
  | raise before there ih =>
    rw [actAll_concat]
    exact ih.raise there

/-- Every handle holds the flag of its root. -/
theorem Tracks.held_root {root : Nat} (h : Tracks steps handles) (hroot : Root steps handle root) :
    handles.held[handle]? = handles.held[root]? := by
  induction hroot with
  | created made => rfl
  | copied made origin ih => rw [h.copied made, ih]

/-- Handles with roots hold the same flag exactly if the roots are the same. -/
theorem Tracks.held_eq_iff {other root root' : Nat} (h : Tracks steps handles)
    (hroot : Root steps handle root) (hroot' : Root steps other root') :
    handles.held[handle]? = handles.held[other]? ↔ root = root' := by
  rw [h.held_root hroot, h.held_root hroot']
  exact ⟨h.created hroot.created_root hroot'.created_root, fun hsame => hsame ▸ rfl⟩

end Flags

/-! ### What handles show -/

theorem isRaised_iff {handles : StopHandles} {handle : Nat} :
    handles.isRaised handle = true ↔
      ∃ flag, handles.held[handle]? = some flag ∧ handles.raised[flag]? = some true := by
  rw [isRaised]
  cases handles.held[handle]? with
  | none => simp
  | some flag => cases hflag : handles.raised[flag]? <;> simp [hflag]

/-- No step takes its flag from a handle. -/
theorem held_act {handles : StopHandles} {handle flag : Nat} (step : Step)
    (h : handles.held[handle]? = some flag) : (handles.act step).held[handle]? = some flag := by
  have happend : ∀ new, (handles.held ++ [new])[handle]? = some flag :=
    fun _ => getElem?_concat_eq_some_iff.mpr (Or.inl h)
  cases step with
  | create => exact happend _
  | copy source =>
    rw [act, copy]
    split
    · exact happend _
    · exact h
  | raise raised =>
    rw [act, raise]
    split
    · exact h
    · exact h

/-- No step lowers a flag. -/
theorem raised_act {handles : StopHandles} {flag : Nat} (step : Step)
    (h : handles.raised[flag]? = some true) : (handles.act step).raised[flag]? = some true := by
  cases step with
  | create => exact getElem?_concat_eq_some_iff.mpr (Or.inl h)
  | copy source =>
    rw [act, copy]
    split
    · exact h
    · exact h
  | raise raised =>
    rw [act, raise]
    split
    case h_1 other hother =>
      by_cases hlt : other < handles.raised.length
      · exact (getElem?_set_true_iff hlt).mpr (Or.inl h)
      · rwa [List.set_eq_of_length_le (Nat.le_of_not_lt hlt)]
    case h_2 => exact h

theorem isRaised_act {handles : StopHandles} {handle : Nat} (step : Step)
    (h : handles.isRaised handle = true) : (handles.act step).isRaised handle = true := by
  obtain ⟨flag, hheld, hraised⟩ := isRaised_iff.mp h
  exact isRaised_iff.mpr ⟨flag, held_act step hheld, raised_act step hraised⟩

theorem isRaised_actAll {handles : StopHandles} {handle : Nat} (steps : List Step)
    (h : handles.isRaised handle = true) : (handles.actAll steps).isRaised handle = true := by
  induction steps generalizing handles with
  | nil => exact h
  | cons step rest ih => exact ih (isRaised_act step h)

/-- Steps leave one handle for each that makes one, and each has one root. A handle shows a raised
flag exactly if a handle with the same root was raised, before the handle was made or after, and
whatever is done then it goes on to show it. -/
theorem isRaised_iff_root_raised (steps : List Step) (h : Feasible steps) :
    let handles := ({} : StopHandles).actAll steps
    handles.held.length = (makings steps).length ∧
      ∀ handle < (makings steps).length, (∃! root, Root steps handle root) ∧
        (handles.isRaised handle = true ↔
          ∃ raised root, .raise raised ∈ steps ∧ Root steps raised root ∧
            Root steps handle root) ∧
        (handles.isRaised handle = true → ∀ later,
          (({} : StopHandles).actAll (steps ++ later)).isRaised handle = true) := by
  intro handles
  have htracks : Tracks steps handles := h.tracks
  refine ⟨htracks.length_held, fun handle hhandle => ?_⟩
  obtain ⟨root, hroot⟩ := h.exists_root hhandle
  refine ⟨⟨root, hroot, fun other hother => hother.unique hroot⟩, ?_, ?_⟩
  · constructor
    · -- the flag that is shown was raised through a handle that holds it too
      intro hraised
      obtain ⟨flag, hheld, hflag⟩ := isRaised_iff.mp hraised
      obtain ⟨raised, hraise, hsame⟩ := (htracks.raised_iff flag).mp hflag
      obtain ⟨root', hroot'⟩ := h.exists_root (h.raised_lt hraise)
      have heq := (htracks.held_eq_iff hroot' hroot).mp (hsame.trans hheld.symm)
      exact ⟨raised, root, hraise, heq ▸ hroot', hroot⟩
    · rintro ⟨raised, root', hraise, hraised, hroot'⟩
      obtain ⟨flag, hheld⟩ := htracks.exists_flag hhandle
      have hsame := (htracks.held_eq_iff hraised hroot').mpr rfl
      exact isRaised_iff.mpr
        ⟨flag, hheld, (htracks.raised_iff flag).mpr ⟨raised, hraise, hsame.trans hheld⟩⟩
  · intro hraised later
    have happend : ({} : StopHandles).actAll (steps ++ later) = handles.actAll later :=
      List.foldl_append
    rw [happend]
    exact isRaised_actAll later hraised

/-- Two families of handles: in the first a copy of a copy is raised, and then another copy of the
root is made. -/
theorem isRaised_iff_root_raised_families :
    let steps : List Step := [.create, .create, .copy 0, .copy 2, .raise 3, .copy 0]
    let handles := ({} : StopHandles).actAll steps
    Feasible steps ∧ handles.isRaised 4 = true ∧ handles.isRaised 1 = false ∧
      (({} : StopHandles).actAll (steps ++ [.raise 1])).isRaised 4 = true := by
  intro steps handles
  have hsteps : Feasible steps :=
    .copy (.raise (.copy (.copy (.create (.create .start)) (by decide)) (by decide)) (by decide))
      (by decide)
  have hfirst : Root steps 0 0 := .created rfl
  have hraised : Root steps 3 0 := .copied rfl (.copied rfl hfirst)
  have hcopy : Root steps 4 0 := .copied rfl hfirst
  have hother : Root steps 1 1 := .created rfl
  obtain ⟨-, hshown⟩ := isRaised_iff_root_raised steps hsteps
  obtain ⟨-, hfour, hlater⟩ := hshown 4 (by decide)
  obtain ⟨-, hone, -⟩ := hshown 1 (by decide)
  have hfour' := hfour.mpr ⟨3, 0, by decide, hraised, hcopy⟩
  refine ⟨hsteps, hfour', Bool.eq_false_iff.mpr fun hraise => ?_, hlater hfour' [.raise 1]⟩
  obtain ⟨raised, root, hmem, hroot, hroot'⟩ := hone.mp hraise
  have hthree : raised = 3 := by simpa [steps] using hmem
  subst hthree
  exact absurd ((hroot.unique hraised).symm.trans (hroot'.unique hother)) (by decide)

end DrinkMixer.StopHandles
