import LineAtlas.Settings.Basic

/-!
# Stored values

A change of one block, the first of its script, leaves all others and their order, or adds one at the end where there
is none (`Changed`, `changed_change`); two changes of one block are one (`change_change`).  Storing a value is such a
change.  `Stored` says what that means for the settings as a whole, and `stored_set` that `set` does it; where the value
is the one before, nothing changes (`set_eq_self`).
-/

namespace LineAtlas.Settings

variable {s after : Settings} {script other : String} {key : Key} {value : Option String} {added : List Block}
  {f g : Block → Block}

@[simp] theorem Block.script_set (b : Block) (key : Key) (value : Option String) :
    (b.set key value).script = b.script := by
  cases key <;> rfl

theorem Block.get?_set (b : Block) (key other : Key) (value : Option String) :
    (b.set key value).get? other = if other = key then value else b.get? other := by
  cases key <;> cases other <;> rfl

theorem Block.get?_empty (script : String) (key : Key) : (Block.empty script).get? key = none := by
  cases key <;> rfl

theorem Block.set_get? (b : Block) (key : Key) : b.set key (b.get? key) = b := by
  cases key <;> rfl

/-! ### The first block of a script -/

private theorem find?_changeFirst (change : Block → Block) (hchange : ∀ b, (change b).script = b.script)
    (blocks : List Block) :
    (changeFirst script change blocks).find? (·.script = other) =
      if other = script then (blocks.find? (·.script = script)).map change else blocks.find? (·.script = other) := by
  induction blocks with
  | nil => simp [changeFirst]
  | cons b blocks ih =>
    unfold changeFirst
    by_cases hb : b.script = script
    · by_cases ho : other = script
      · simp [hb, hchange, ho]
      · simp [hb, hchange, ho, Ne.symm ho]
    · rw [if_neg hb, List.find?_cons, ih]
      by_cases ho : other = script
      · simp [hb, ho]
      · rw [if_neg ho, if_neg ho, List.find?_cons]

private theorem changeFirst_changeFirst (g : Block → Block) (hf : ∀ b, (f b).script = b.script) (blocks : List Block) :
    changeFirst script g (changeFirst script f blocks) = changeFirst script (g ∘ f) blocks := by
  induction blocks with
  | nil => rfl
  | cons b blocks ih =>
    by_cases hb : b.script = script
    · simp [changeFirst, hb, hf]
    · simp [changeFirst, hb, ih]

private theorem changeFirst_append_cons {before after : List Block} {b : Block} (change : Block → Block)
    (hbefore : ∀ a ∈ before, a.script ≠ script) (hb : b.script = script) :
    changeFirst script change (before ++ b :: after) = before ++ change b :: after := by
  induction before with
  | nil => simp [changeFirst, hb]
  | cons a before ih =>
    rw [List.cons_append, changeFirst, if_neg (hbefore a List.mem_cons_self),
      ih fun c hc => hbefore c (List.mem_cons_of_mem a hc), List.cons_append]

theorem block?_eq_some_iff {b : Block} :
    s.block? script = some b ↔ b.script = script ∧
      ∃ before after, s.blocks = before ++ b :: after ∧ ∀ a ∈ before, a.script ≠ script := by
  unfold block?
  simp [List.find?_eq_some_iff_append]

theorem block?_eq_none_iff : s.block? script = none ↔ ∀ b ∈ s.blocks, b.script ≠ script := by
  unfold block?
  simp

theorem block?_withBlock (s : Settings) (script other : String) :
    (s.withBlock script).block? other =
      if other = script then some ((s.block? script).getD (.empty script)) else s.block? other := by
  unfold withBlock
  cases h : s.block? script with
  | some b =>
    rw [Option.isSome_some, if_pos rfl]
    split
    · rename_i ho
      rw [ho, h, Option.getD_some]
    · rfl
  | none =>
    have hnone := h
    unfold block? at hnone ⊢
    rw [Option.isSome_none, if_neg Bool.false_ne_true, List.find?_append]
    split
    · rename_i ho
      simp [ho, hnone, Block.empty]
    · rename_i ho
      simp [Ne.symm ho, Block.empty]

theorem withBlock_of_block? {b : Block} (h : s.block? script = some b) : s.withBlock script = s := by
  rw [withBlock, h, Option.isSome_some, if_pos rfl]

/-- The settings with a change of the block of a script, which is made where there is none. -/
def change (s : Settings) (script : String) (f : Block → Block) : Settings :=
  { s.withBlock script with blocks := changeFirst script f (s.withBlock script).blocks }

theorem block?_change (s : Settings) (script other : String) (hf : ∀ b, (f b).script = b.script) :
    (s.change script f).block? other =
      if other = script then some (f ((s.block? script).getD (.empty script))) else s.block? other := by
  have hmade := block?_withBlock s script
  unfold block? at hmade
  show List.find? _ (changeFirst script f (s.withBlock script).blocks) = _
  rw [find?_changeFirst f hf, hmade, hmade, if_pos rfl]
  split <;> rfl

theorem change_change (s : Settings) (script : String) (g : Block → Block) (hf : ∀ b, (f b).script = b.script) :
    (s.change script f).change script g = s.change script (g ∘ f) := by
  have hblock := block?_change s script script hf
  rw [if_pos rfl] at hblock
  rw [change, withBlock_of_block? hblock, change, change, changeFirst_changeFirst g hf]

/-- A change that leaves the block of the script as it is makes that block at most. -/
theorem change_eq_withBlock (h : f ((s.block? script).getD (.empty script)) = (s.block? script).getD (.empty script)) :
    s.change script f = s.withBlock script := by
  have hmade := block?_withBlock s script script
  rw [if_pos rfl] at hmade
  obtain ⟨hb, front, rest, hblocks, hfront⟩ := block?_eq_some_iff.1 hmade
  have hsame : changeFirst script f (s.withBlock script).blocks = (s.withBlock script).blocks := by
    rw [hblocks, changeFirst_append_cons f hfront hb, h]
  rw [change, hsame]

/-- The settings `after` are the settings `s` with a change of the first block of a script; where the script has no
block, some were added at the end.  All else is as it was. -/
structure Changed (s : Settings) (script : String) (f : Block → Block) (added : List Block) (after : Settings) :
    Prop where
  format : after.format = s.format
  blocks : (∃ front b rest, s.blocks = front ++ b :: rest ∧ (∀ a ∈ front, a.script ≠ script) ∧ b.script = script ∧
      after.blocks = front ++ f b :: rest) ∨
    (∀ b ∈ s.blocks, b.script ≠ script) ∧ after.blocks = s.blocks ++ added

theorem changed_change (s : Settings) (script : String) (f : Block → Block) :
    s.Changed script f [f (.empty script)] (s.change script f) := by
  refine ⟨?_, ?_⟩
  · unfold change withBlock
    dsimp only
    split <;> rfl
  · cases h : s.block? script with
    | some b =>
      obtain ⟨hb, front, rest, hblocks, hfront⟩ := block?_eq_some_iff.1 h
      refine .inl ⟨front, b, rest, hblocks, hfront, hb, ?_⟩
      rw [← changeFirst_append_cons f hfront hb, ← hblocks]
      show changeFirst _ _ (s.withBlock script).blocks = _
      rw [withBlock_of_block? h]
    | none =>
      have hnone := block?_eq_none_iff.1 h
      have hmade : (s.withBlock script).blocks = s.blocks ++ [.empty script] := by
        rw [withBlock, h, Option.isSome_none, if_neg Bool.false_ne_true]
      refine .inr ⟨hnone, ?_⟩
      show changeFirst _ _ (s.withBlock script).blocks = _
      rw [hmade]
      exact changeFirst_append_cons f hnone rfl

/-- Where there is a block, none is added. -/
theorem Changed.of_block? {b : Block} {more : List Block} (h : s.Changed script f added after)
    (hb : s.block? script = some b) : s.Changed script f more after where
  format := h.format
  blocks := by
    refine .inl (h.blocks.resolve_right ?_)
    rintro ⟨hnone, -⟩
    rw [block?_eq_none_iff.2 hnone] at hb
    cases hb

theorem changed_self (h : ∀ b, s.block? script = some b → f b = b) : s.Changed script f [] s where
  format := rfl
  blocks := by
    cases hblock : s.block? script with
    | some b =>
      obtain ⟨hb, front, rest, hblocks, hfront⟩ := block?_eq_some_iff.1 hblock
      exact .inl ⟨front, b, rest, hblocks, hfront, hb, by rw [h b hblock, hblocks]⟩
    | none => exact .inr ⟨block?_eq_none_iff.1 hblock, (List.append_nil s.blocks).symm⟩

/-! ### What storing does -/

/-- The settings `after` are the settings `s` with a value stored for a script: the first block of the script has the
value in the place of the one before, or there was none and one was added.  All else is as it was. -/
structure Stored (s : Settings) (script : String) (key : Key) (value : Option String) (after : Settings) : Prop where
  format : after.format = s.format
  get? : ∀ other k, after.get? other k = if other = script ∧ k = key then value else s.get? other k
  blocks : (∃ front b rest, s.blocks = front ++ b :: rest ∧ (∀ a ∈ front, a.script ≠ script) ∧ b.script = script ∧
      after.blocks = front ++ b.set key value :: rest) ∨
    (∀ b ∈ s.blocks, b.script ≠ script) ∧ after.blocks = s.blocks ++ [(Block.empty script).set key value]

theorem block?_set (s : Settings) (script other : String) (key : Key) (value : Option String) :
    (s.set script key value).2.block? other =
      if other = script then some (((s.block? script).getD (.empty script)).set key value) else s.block? other :=
  block?_change s script other fun b => b.script_set key value

theorem get?_set (s : Settings) (script other : String) (key k : Key) (value : Option String) :
    (s.set script key value).2.get? other k = if other = script ∧ k = key then value else s.get? other k := by
  unfold get?
  rw [block?_set]
  by_cases ho : other = script
  · subst ho
    rw [if_pos rfl, Option.bind_some, Block.get?_set]
    by_cases hk : k = key
    · rw [if_pos hk, if_pos ⟨rfl, hk⟩]
    · rw [if_neg hk, if_neg fun h => hk h.2]
      cases s.block? other with
      | none => exact Block.get?_empty other k
      | some b => rfl
  · rw [if_neg ho, if_neg fun h => ho h.1]

theorem stored_set (s : Settings) (script : String) (key : Key) (value : Option String) :
    s.Stored script key value (s.set script key value).2 := by
  have hchanged := changed_change s script (·.set key value)
  exact ⟨hchanged.format, fun other k => get?_set s script other key k value, hchanged.blocks⟩

/-- Storing the value that is held already changes no block, but may make one. -/
theorem set_eq_withBlock (h : s.get? script key = value) : (s.set script key value).2 = s.withBlock script := by
  refine change_eq_withBlock ?_
  have hheld : ((s.block? script).getD (.empty script)).get? key = value := by
    rw [← h, get?]
    cases s.block? script with
    | none => exact Block.get?_empty script key
    | some b => rfl
  rw [← hheld, Block.set_get?]

/-- Storing the value that is stored already changes nothing. -/
theorem set_eq_self {v : String} (h : s.get? script key = some v) :
    (s.set script key (some v)).2 = s := by
  obtain ⟨b, hb, -⟩ := Option.bind_eq_some_iff.1 h
  rw [set_eq_withBlock h, withBlock_of_block? hb]

end LineAtlas.Settings
