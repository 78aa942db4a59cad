import DrinkMixer.Proofs.Tag.ChipRounds

/-!
# When the encryption is stopped

A key that is tried may leave the encryption of the contactless reader chip armed. It is stopped
when the key was refused and when the block was read, but not when the run fails in between
(`Abandoned`), and then the next run asks for tags with the encryption still armed.

Main statement: `stopped_iff_not_abandoned`, between trying a key and the next time tags are asked,
the encryption is stopped unless the key was tried in a round that failed.
-/

namespace DrinkMixer.TagChip

variable {ρ : Type}

/-! ### Lists in chunks that begin with a start -/

section Chunks

variable {α : Type} {Start : α → Prop}

/-- A chunk has a start at its beginning and nowhere else. -/
def Opens (Start : α → Prop) (chunk : List α) : Prop :=
  ∃ first rest, chunk = first :: rest ∧ Start first ∧ ∀ x ∈ rest, ¬Start x

theorem Opens.start_of_flatten_eq {chunks : List (List α)} {x : α} {rest : List α}
    (hchunks : ∀ chunk ∈ chunks, Opens Start chunk) (h : chunks.flatten = x :: rest) :
    Start x := by
  cases chunks with
  | nil => simp at h
  | cons chunk chunks =>
    rcases hchunks chunk List.mem_cons_self with ⟨first, tail, rfl, hfirst, _⟩
    rw [List.flatten_cons, List.cons_append, List.cons.injEq] at h
    rw [← h.1]
    exact hfirst

/-- What stands before a start and holds no start is the end of one chunk. -/
theorem Opens.suffix_of_flatten_eq {chunks : List (List α)} {before inner after : List α} {y : α}
    (hchunks : ∀ chunk ∈ chunks, Opens Start chunk)
    (h : chunks.flatten = before ++ inner ++ y :: after) (hne : inner ≠ [])
    (hinner : ∀ x ∈ inner, ¬Start x) (hy : Start y) :
    ∃ chunk ∈ chunks, inner <:+ chunk := by
  induction chunks generalizing before with
  | nil => simp at h
  | cons chunk chunks ih =>
    rw [List.forall_mem_cons] at hchunks
    rcases hchunks with ⟨hchunk, hchunks⟩
    rw [List.flatten_cons] at h
    rcases List.append_eq_append_iff.mp h with ⟨more, hmore, hlater⟩ | ⟨more, hmore, hlater⟩
    · rcases List.append_eq_append_iff.mp hmore with ⟨own, hown, rfl⟩ | ⟨earlier, rfl, hrest⟩
      · -- the part begins in this chunk, and what follows the chunk is a start
        cases more with
        | nil =>
          rw [List.append_nil]
          exact ⟨chunk, List.mem_cons_self, before, hown.symm⟩
        | cons x more =>
          have hstart : Start x := Opens.start_of_flatten_eq hchunks hlater
          exact absurd hstart (hinner x (by simp))
      · rw [hrest] at hlater
        rcases ih hchunks hlater with ⟨found, hfound, hsuffix⟩
        exact ⟨found, List.mem_cons_of_mem _ hfound, hsuffix⟩
    · cases more with
      | nil =>
        rw [List.append_nil] at hmore
        exact ⟨chunk, List.mem_cons_self, before, hmore.symm⟩
      | cons x more =>
        -- a start would stand in the middle of the chunk
        rcases hchunk with ⟨first, rest, hchunk, _, hrest⟩
        rw [List.cons_append, List.cons.injEq] at hlater
        rcases hlater with ⟨rfl, _⟩
        have hmem : y ∈ rest := by
          rw [hmore] at hchunk
          cases before with
          | nil =>
            cases inner with
            | nil => exact absurd rfl hne
            | cons z inner =>
              rw [List.nil_append, List.cons_append, List.cons.injEq] at hchunk
              rw [← hchunk.2]
              simp
          | cons z before =>
            rw [List.cons_append, List.cons_append, List.cons.injEq] at hchunk
            rw [← hchunk.2]
            simp
        exact absurd hy (hrest y hmem)

end Chunks

/-! ### Keys that are tried -/

/-- After a key was tried the run failed at once, with the encryption possibly armed: the chip could
not be reached to open the block, or the open block could not be read. -/
def Abandoned (answer : Except Fault Unit) (between : List (Call (TagChip ρ))) : Prop :=
  (∃ fault, answer = .error fault ∧ fault.isTransfer = true) ∨
    answer = .ok () ∧ ∃ block fault, between.head? = some ⟨.read block, .error fault⟩

variable {settings : TagSettings}

theorem opens_of_chipRound {calls : List (Call (TagChip ρ))}
    {result : Except Failure (Option Reading)} (h : ChipRound settings calls result) :
    Opens (fun call => call.op = .reqa) calls := by
  cases h <;> exact ⟨_, _, rfl, rfl, by simp⟩

/-- What follows a key that is tried in a round, up to the end of the round. -/
theorem tried_of_suffix {round between : List (Call (TagChip ρ))} {uid : Uid} {block : UInt8}
    {key : AuthKey} {answer : Except Fault Unit} {result : Except Failure (Option Reading)}
    (h : ChipRound settings round result)
    (hsuffix : ⟨.authenticate uid block key, answer⟩ :: between <:+ round) :
    (∃ fault stopped, fault.isTransfer = false ∧ answer = .error fault ∧
      between = [⟨.stopCrypto, stopped⟩]) ∨
    (∃ fault, fault.isTransfer = true ∧ answer = .error fault ∧ between = []) ∨
    (∃ block fault, answer = .ok () ∧ between = [⟨.read block, .error fault⟩]) ∨
    ∃ block data halted stopped, answer = .ok () ∧
      between = [⟨.read block, .ok data⟩, ⟨.halt, halted⟩, ⟨.stopCrypto, stopped⟩] := by
  -- a key is tried at one place of a round at most, which fixes the rest of the round
  cases h <;> simp only [List.suffix_cons_iff, List.suffix_nil, List.cons.injEq, reduceCtorEq,
    or_false] at hsuffix
  case unanswered | unasked => cases hsuffix.1
  case left | unselected => rcases hsuffix with ⟨hcall, _⟩ | ⟨hcall, _⟩ <;> cases hcall
  case refused fault stopped h =>
    rcases hsuffix with ⟨hcall, _⟩ | ⟨hcall, _⟩ | ⟨hcall, rfl⟩ | ⟨hcall, _⟩ <;> cases hcall
    exact Or.inl ⟨fault, stopped, h, rfl, rfl⟩
  case unopened fault h =>
    rcases hsuffix with ⟨hcall, _⟩ | ⟨hcall, _⟩ | ⟨hcall, rfl⟩ <;> cases hcall
    exact Or.inr (Or.inl ⟨fault, h, rfl, rfl⟩)
  case unread fault =>
    rcases hsuffix with ⟨hcall, _⟩ | ⟨hcall, _⟩ | ⟨hcall, rfl⟩ | ⟨hcall, _⟩ <;> cases hcall
    exact Or.inr (Or.inr (Or.inl ⟨_, fault, rfl, rfl⟩))
  case read data halted stopped =>
    rcases hsuffix with ⟨hcall, _⟩ | ⟨hcall, _⟩ | ⟨hcall, rfl⟩ | ⟨hcall, _⟩ | ⟨hcall, _⟩ |
      ⟨hcall, _⟩ <;> cases hcall
    exact Or.inr (Or.inr (Or.inr ⟨_, data, halted, stopped, rfl, rfl⟩))

/-- In a round the encryption is stopped after a key was tried, unless the round fails. -/
theorem stopped_iff_of_suffix {round between : List (Call (TagChip ρ))} {uid : Uid} {block : UInt8}
    {key : AuthKey} {answer : Except Fault Unit} {result : Except Failure (Option Reading)}
    (h : ChipRound settings round result)
    (hsuffix : ⟨.authenticate uid block key, answer⟩ :: between <:+ round) :
    (∃ stopped, ⟨.stopCrypto, stopped⟩ ∈ between) ↔ ¬Abandoned answer between := by
  rcases tried_of_suffix h hsuffix with ⟨fault, stopped, htransfer, rfl, rfl⟩ |
    ⟨fault, htransfer, rfl, rfl⟩ | ⟨block, fault, rfl, rfl⟩ |
    ⟨block, data, halted, stopped, rfl, rfl⟩
  · simp [Abandoned, htransfer]
  · simp [Abandoned, htransfer]
  · -- the block was open and could not be read
    have habandoned : Abandoned (ρ := ρ) (.ok ()) [⟨.read block, .error fault⟩] :=
      Or.inr ⟨rfl, block, fault, rfl⟩
    constructor
    · rintro ⟨stopped, hmem⟩
      cases List.mem_singleton.mp hmem
    · intro h
      exact absurd habandoned h
  · constructor
    · rintro _ (⟨_, hanswer, _⟩ | ⟨_, _, _, hhead⟩)
      · cases hanswer
      · cases hhead
    · intro _
      exact ⟨stopped, by simp⟩

/-- What the chip is told and answers in several runs for contactless tags. -/
def dialogue {σ : Type} (w : World (ChipStation ρ) σ) (settings : Settings) (fuels : List Nat)
    (standing : Standing) (memory : Memory ρ) (s : σ) : List (Call (TagChip ρ)) :=
  commands (((((ReadProcedure.readTags settings fuels).run standing).realize onStation).run
    memory).calls w s)

/-- In any number of runs for contactless tags, on any hardware and from whatever was left behind,
look at a key that is tried and at the next time tags are asked: in between the encryption is
stopped, except when the chip could not be reached to open the block or the open block could not
be read, and then it is not. -/
theorem stopped_iff_not_abandoned {σ : Type} (w : World (ChipStation ρ) σ) (settings : Settings)
    (fuels : List Nat) (standing : Standing) (memory : Memory ρ) (s : σ)
    {before between after : List (Call (TagChip ρ))} {uid : Uid} {block : UInt8} {key : AuthKey}
    {answer : Except Fault Unit} {reply : Except Fault ρ}
    (h : dialogue w settings fuels standing memory s =
      before ++ ⟨.authenticate uid block key, answer⟩ :: between ++ ⟨.reqa, reply⟩ :: after)
    (hbetween : ∀ call ∈ between, call.op ≠ .reqa) :
    (∃ stopped, ⟨.stopCrypto, stopped⟩ ∈ between) ↔ ¬Abandoned answer between := by
  rcases commands_readTags w settings fuels standing memory s with ⟨rounds, hrounds, hall⟩
  have hsplit : rounds.flatten =
      before ++ ⟨.authenticate uid block key, answer⟩ :: between ++ ⟨.reqa, reply⟩ :: after := by
    rw [← hrounds]
    exact h
  have hopens : ∀ round ∈ rounds, Opens (fun call => call.op = .reqa) round := by
    intro round hround
    rcases hall round hround with ⟨_, hchip⟩
    exact opens_of_chipRound hchip
  -- the key and what follows it hold no request, so they lie in one round
  have hinner : ∀ call ∈ ⟨.authenticate uid block key, answer⟩ :: between, ¬call.op = .reqa := by
    rw [List.forall_mem_cons]
    exact ⟨by simp, hbetween⟩
  rcases Opens.suffix_of_flatten_eq hopens hsplit (by simp) hinner rfl with
    ⟨round, hround, hsuffix⟩
  rcases hall round hround with ⟨_, hchip⟩
  exact stopped_iff_of_suffix hchip hsuffix

/-- The tag in the field of `unreadable`. -/
def lonely : Uid := ⟨[0x04, 0xA1, 0xB2, 0xC3], by decide⟩

/-- Hardware with one tag in the field, where opening a block is answered as given and no block can
be read. -/
def unreadable (answer : Except Fault Unit) : World (ChipStation UInt16) Unit where
  answer
    | .inl .reqa, _ => (.ok 0x0004, ())
    | .inl (.select _), _ => (.ok lonely, ())
    | .inl (.authenticate _ _ _), _ => (answer, ())
    | .inl (.read _), _ => (.error .timeout, ())
    | .inl .halt, _ => (.ok (), ())
    | .inl .stopCrypto, _ => (.ok (), ())
    | .inr (.inl (.read _ _)), _ => (.error .readFailed, ())
    | .inr (.inr (.inl .release)), _ => ((), ())
    | .inr (.inr (.inr (.inl .look))), _ => (false, ())
    | .inr (.inr (.inr (.inr (.inl _)))), _ => ((), ())
    | .inr (.inr (.inr (.inr (.inr _)))), _ => ((), ())

/-- What tags in the field of `unreadable` answer. -/
def asked : Call (TagChip UInt16) := ⟨.reqa, .ok 0x0004⟩

/-- The tag in the field of `unreadable` is selected. -/
def found : Call (TagChip UInt16) := ⟨.select 0x0004, .ok lonely⟩

/-- The key is tried on the tag in the field of `unreadable`. -/
def tried (answer : Except Fault Unit) : Call (TagChip UInt16) :=
  ⟨.authenticate lonely 8 (Vector.replicate 6 0xFF), answer⟩

/-- A tag refuses the key, and then tags are asked again. -/
theorem stopped_of_refused :
    let stop : Call (TagChip UInt16) := ⟨.stopCrypto, .ok ()⟩
    dialogue (unreadable (.error .timeout)) {} [2] {} {} () =
      [asked, found] ++ tried (.error .timeout) :: [stop] ++
        asked :: [found, tried (.error .timeout), stop] ∧
    ((∃ stopped, ⟨.stopCrypto, stopped⟩ ∈ [stop]) ↔ ¬Abandoned (.error .timeout) [stop]) := by
  intro stop
  have hdialogue : dialogue (unreadable (.error .timeout)) {} [2] {} {} () =
      [asked, found] ++ tried (.error .timeout) :: [stop] ++
        asked :: [found, tried (.error .timeout), stop] := rfl
  have hbetween : ∀ call ∈ [stop], call.op ≠ .reqa := by simp [stop]
  exact ⟨hdialogue, stopped_iff_not_abandoned (unreadable (.error .timeout)) {} [2] {} {} ()
    hdialogue hbetween⟩

/-- The encryption is not always stopped before tags are asked again: two runs of one round each
find a tag whose block cannot be read. -/
theorem not_always_stopped :
    ¬∀ (ρ σ : Type) (w : World (ChipStation ρ) σ) (settings : Settings) (fuels : List Nat)
      (standing : Standing) (memory : Memory ρ) (s : σ)
      (before between after : List (Call (TagChip ρ))) (uid : Uid) (block : UInt8) (key : AuthKey)
      (answer : Except Fault Unit) (reply : Except Fault ρ),
      dialogue w settings fuels standing memory s =
        before ++ ⟨.authenticate uid block key, answer⟩ :: between ++ ⟨.reqa, reply⟩ :: after →
      (∀ call ∈ between, call.op ≠ .reqa) → ∃ stopped, ⟨.stopCrypto, stopped⟩ ∈ between := by
  intro h
  have hdialogue : dialogue (unreadable (.ok ())) {} [1, 1] {} {} () =
      [asked, found] ++ tried (.ok ()) :: [⟨.read 8, .error .timeout⟩] ++
        asked :: [found, tried (.ok ()), ⟨.read 8, .error .timeout⟩] := rfl
  rcases h UInt16 Unit _ _ _ _ _ _ _ _ _ _ _ _ _ _ hdialogue (by simp) with ⟨_, hmem⟩
  cases List.mem_singleton.mp hmem

end DrinkMixer.TagChip
