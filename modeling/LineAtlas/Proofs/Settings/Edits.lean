import LineAtlas.Proofs.FirstMention
import LineAtlas.Proofs.Settings.Blocks
import LineAtlas.Script.Compiled

/-!
# Settings after any edits

Settings are edited by storing a value for a script under a key and by asking for the block of a script, which is made
where there is none.  The blocks are then a finite map: one edit changes what is held under at most one script and key
(`get?_edit`) and puts its script at the end unless it has a block (`scripts_edit`).

The key facts: after any edits of empty settings each script and key has what was stored there last, and the blocks
stand in the order in which their scripts were first mentioned (`last_stored_counts`); and `set` tells truly whether it
has changed the settings, but for one case, in which it makes an empty block and tells of no change (`change_told_iff`).
-/

namespace LineAtlas.Settings

variable {s : Settings}

/-- The scripts of the blocks, in their order. -/
def scripts (s : Settings) : List String := s.blocks.map Block.script

/-! ### Edits -/

/-- What can be done to settings. -/
inductive Edit where
  /-- A value is stored for a script, or removed. -/
  | store (script : String) (key : Key) (value : Option String)
  /-- The block of a script is asked for, and made where there is none. -/
  | mention (script : String)
  deriving DecidableEq

/-- The script that an edit mentions. -/
def Edit.script : Edit → String
  | .store script _ _ => script
  | .mention script => script

/-- What an edit stores for a script under a key, if it stores there at all. -/
def Edit.stored? (script : String) (key : Key) : Edit → Option (Option String)
  | .store other k value => if script = other ∧ key = k then some value else none
  | .mention _ => none

/-- The settings after an edit. -/
def edit (s : Settings) : Edit → Settings
  | .store script key value => (s.set script key value).2
  | .mention script => s.withBlock script

/-- The settings after some edits; at first they are empty. -/
def after (edits : List Edit) : Settings := edits.foldl edit empty

/-- What was stored last for a script under a key; nothing if nothing was. -/
def lastStored (edits : List Edit) (script : String) (key : Key) : Option String :=
  (edits.filterMap (Edit.stored? script key)).getLast?.join

/-! ### One edit -/

theorem mem_scripts_iff {script : String} : script ∈ s.scripts ↔ (s.block? script).isSome := by
  unfold scripts block?
  rw [List.find?_isSome, List.mem_map]
  simp only [decide_eq_true_eq]

theorem get?_withBlock (s : Settings) (script other : String) (key : Key) :
    (s.withBlock script).get? other key = s.get? other key := by
  unfold get?
  rw [block?_withBlock]
  by_cases ho : other = script
  · subst ho
    rw [if_pos rfl, Option.bind_some]
    cases s.block? other with
    | none => exact Block.get?_empty other key
    | some b => rfl
  · rw [if_neg ho]

theorem scripts_withBlock (s : Settings) (script : String) :
    (s.withBlock script).scripts = if script ∈ s.scripts then s.scripts else s.scripts ++ [script] := by
  unfold withBlock
  by_cases h : script ∈ s.scripts
  · rw [if_pos h, if_pos (mem_scripts_iff.1 h)]
  · rw [if_neg h, if_neg (mt mem_scripts_iff.2 h)]
    exact List.map_append

theorem scripts_change (s : Settings) (script : String) {f : Block → Block} (hf : ∀ b, (f b).script = b.script) :
    (s.change script f).scripts = (s.withBlock script).scripts := by
  unfold scripts change
  dsimp only
  induction (s.withBlock script).blocks with
  | nil => rfl
  | cons b blocks ih =>
    unfold changeFirst
    by_cases hb : b.script = script
    · rw [if_pos hb, List.map_cons, List.map_cons, hf]
    · rw [if_neg hb, List.map_cons, List.map_cons, ih]

theorem scripts_set (s : Settings) (script : String) (key : Key) (value : Option String) :
    (s.set script key value).2.scripts = if script ∈ s.scripts then s.scripts else s.scripts ++ [script] :=
  (scripts_change s script fun b => b.script_set key value).trans (scripts_withBlock s script)

/-- An edit changes what is held under the script and key where it stores, and nothing else. -/
theorem get?_edit (s : Settings) (e : Edit) (script : String) (key : Key) :
    (s.edit e).get? script key = (e.stored? script key).getD (s.get? script key) := by
  cases e with
  | store other k value =>
    simp only [edit, Edit.stored?, get?_set]
    by_cases h : script = other ∧ key = k
    · rw [if_pos h, if_pos h, Option.getD_some]
    · rw [if_neg h, if_neg h, Option.getD_none]
  | mention other => exact get?_withBlock s other script key

/-- An edit keeps the blocks in their order; a script without a block gets one at the end. -/
theorem scripts_edit (s : Settings) (e : Edit) :
    (s.edit e).scripts = if e.script ∈ s.scripts then s.scripts else s.scripts ++ [e.script] := by
  cases e with
  | store script key value => exact scripts_set s script key value
  | mention script => exact scripts_withBlock s script

theorem format_edit (s : Settings) (e : Edit) : (s.edit e).format = s.format := by
  cases e with
  | store script key value => exact (s.stored_set script key value).format
  | mention script =>
    show (s.withBlock script).format = s.format
    unfold withBlock
    split <;> rfl

/-! ### Any edits -/

theorem after_concat (edits : List Edit) (e : Edit) : after (edits ++ [e]) = (after edits).edit e := by
  unfold after
  rw [List.foldl_append, List.foldl_cons, List.foldl_nil]

theorem lastStored_concat (edits : List Edit) (e : Edit) (script : String) (key : Key) :
    lastStored (edits ++ [e]) script key = (e.stored? script key).getD (lastStored edits script key) := by
  unfold lastStored
  rw [List.filterMap_append, List.filterMap_cons, List.filterMap_nil]
  cases e.stored? script key with
  | none => rw [List.append_nil, Option.getD_none]
  | some value => rw [List.getLast?_concat, Option.join_some, Option.getD_some]

theorem get?_after (edits : List Edit) (script : String) (key : Key) :
    (after edits).get? script key = lastStored edits script key := by
  induction edits using List.reverseRecOn with
  | nil => rfl
  | append_singleton edits e ih => rw [after_concat, get?_edit, lastStored_concat, ih]

theorem scripts_after (edits : List Edit) : (after edits).scripts = (edits.map Edit.script).eraseDups := by
  induction edits using List.reverseRecOn with
  | nil => rfl
  | append_singleton edits e ih =>
    rw [after_concat, scripts_edit, ih, List.map_append, List.map_singleton, List.eraseDups_concat]

theorem format_after (edits : List Edit) : (after edits).format = none := by
  induction edits using List.reverseRecOn with
  | nil => rfl
  | append_singleton edits e ih => rw [after_concat, format_edit, ih]

/-- Settings are a finite map from scripts and keys to values.  After any edits of empty settings each script and key
has the value that was stored there last, no two blocks have one script, the blocks stand in the order in which their
scripts were first mentioned, and the form of answers is as it was.  In any settings, with several blocks for a script
too, storing a value puts it where it was stored and changes nothing under any other script or key; the blocks keep
their order, and at most one is new and stands at the end. -/
theorem last_stored_counts :
    (∀ edits : List Edit,
      (∀ script key, (after edits).get? script key = lastStored edits script key) ∧
      (after edits).scripts.Nodup ∧
      (after edits).scripts = (edits.map Edit.script).eraseDups ∧
      (after edits).format = empty.format) ∧
    (∀ (s : Settings) (script : String) (key : Key) (value : Option String),
      (s.set script key value).2.get? script key = value ∧
      (∀ other k, ¬ (other = script ∧ k = key) →
        (s.set script key value).2.get? other k = s.get? other k) ∧
      (s.set script key value).2.scripts = s.scripts ++ (if script ∈ s.scripts then [] else [script]) ∧
      s.Stored script key value (s.set script key value).2) := by
  refine ⟨fun edits => ⟨get?_after edits, ?_, scripts_after edits, format_after edits⟩, fun s script key value => ?_⟩
  · rw [scripts_after]
    exact List.nodup_eraseDups _
  · refine ⟨(get?_set ..).trans (if_pos ⟨rfl, rfl⟩), fun other k h => (get?_set ..).trans (if_neg h), ?_,
      s.stored_set script key value⟩
    rw [scripts_set]
    by_cases h : script ∈ s.scripts
    · rw [if_pos h, if_pos h, List.append_nil]
    · rw [if_neg h, if_neg h]

/-! ### Changes that are told -/

theorem withBlock_eq_self_iff {script : String} : s.withBlock script = s ↔ script ∈ s.scripts := by
  constructor
  · intro h
    by_contra hscript
    have hscripts := scripts_withBlock s script
    rw [h, if_neg hscript] at hscripts
    exact List.cons_ne_nil script [] (List.self_eq_append_right.1 hscripts)
  · intro h
    obtain ⟨b, hb⟩ := Option.isSome_iff_exists.1 (mem_scripts_iff.1 h)
    exact withBlock_of_block? hb

theorem get?_eq_none_of_notMem {script : String} (h : script ∉ s.scripts) (key : Key) : s.get? script key = none := by
  rw [get?, Option.not_isSome_iff_eq_none.1 (mt mem_scripts_iff.2 h), Option.bind_none]

theorem set_fst_eq_false_iff {script : String} {key : Key} {value : Option String} :
    (s.set script key value).1 = false ↔ s.get? script key = value := by
  show decide (s.get? script key ≠ value) = false ↔ _
  rw [decide_eq_false_iff_not, not_not]

theorem ne_of_set_fst {script : String} {key : Key} {value : Option String} (h : (s.set script key value).1 = true) :
    (s.set script key value).2 ≠ s := by
  intro hsame
  have hheld := get?_set s script script key key value
  rw [hsame, if_pos ⟨rfl, rfl⟩] at hheld
  rw [set_fst_eq_false_iff.2 hheld] at h
  cases h

theorem set_of_not_told {script : String} {key : Key} {value : Option String}
    (h : (s.set script key value).1 = false) : (s.set script key value).2 = s.withBlock script :=
  set_eq_withBlock (set_fst_eq_false_iff.1 h)

private theorem told_iff_ne_iff {script : String} {key : Key} {value : Option String} :
    ((s.set script key value).1 = true ↔ (s.set script key value).2 ≠ s) ↔ script ∈ s.scripts ∨ value ≠ none := by
  by_cases hscript : script ∈ s.scripts
  · refine iff_of_true ⟨ne_of_set_fst, fun hne => ?_⟩ (.inl hscript)
    by_contra htold
    exact hne ((set_of_not_told (Bool.eq_false_iff.2 htold)).trans (withBlock_eq_self_iff.2 hscript))
  · have hnone := get?_eq_none_of_notMem hscript key
    cases value with
    | some v =>
      have htold : (s.set script key (some v)).1 = true := by
        rw [← Bool.not_eq_false, set_fst_eq_false_iff, hnone]
        exact nofun
      exact iff_of_true ⟨ne_of_set_fst, fun _ => htold⟩ (.inr nofun)
    | none =>
      -- an empty block is made, and what is held under the key is none before and after
      have hfalse : (s.set script key none).1 = false := set_fst_eq_false_iff.2 hnone
      have hne : (s.set script key none).2 ≠ s := by
        rw [set_of_not_told hfalse]
        exact mt withBlock_eq_self_iff.1 hscript
      refine iff_of_false (fun h => ?_) (not_or.2 ⟨hscript, not_not.2 rfl⟩)
      rw [h.2 hne] at hfalse
      cases hfalse

private theorem clear_kept_iff (c : CompiledScript) :
    ((c.clear s).1 = false → (c.clear s).2.2 = s) ↔ c.address ∈ s.scripts := by
  constructor
  · intro h
    by_contra hscript
    have hfalse : (s.set c.address .lineMap none).1 = false :=
      set_fst_eq_false_iff.2 (get?_eq_none_of_notMem hscript .lineMap)
    exact hscript (withBlock_eq_self_iff.1 ((set_of_not_told hfalse).symm.trans (h hfalse)))
  · intro hscript hfalse
    exact (set_of_not_told hfalse).trans (withBlock_eq_self_iff.2 hscript)

/-- `set` tells of a change exactly where there is one, unless a value is removed of a script that has no block: this
makes an empty block for the script and tells of no change.  In no other way does it change settings of which it tells
no change, and neither does the clearing of a compiled script, which tells of no change in the same case. -/
theorem change_told_iff (s : Settings) (script : String) (key : Key) (value : Option String) (c : CompiledScript) :
    (((s.set script key value).1 = true ↔ (s.set script key value).2 ≠ s) ↔ script ∈ s.scripts ∨ value ≠ none) ∧
    ((s.set script key value).1 = false → (s.set script key value).2 = s.withBlock script) ∧
    (((c.clear s).1 = false → (c.clear s).2.2 = s) ↔ c.address ∈ s.scripts) ∧
    ((c.clear s).1 = false → (c.clear s).2.2 = s.withBlock c.address) :=
  ⟨told_iff_ne_iff, set_of_not_told, clear_kept_iff c, set_of_not_told⟩

/-- A root is removed of a script that was never mentioned, and the map of another: no change is told of, and both
scripts have blocks now. -/
theorem untold_change :
    (empty.set "out.js" .root none).1 = false ∧
    (empty.set "out.js" .root none).2 = ⟨none, [⟨"out.js", none, none⟩]⟩ ∧
    ((CompiledScript.ofAddress "a.js").clear empty).1 = false ∧
    ((CompiledScript.ofAddress "a.js").clear empty).2.2 = ⟨none, [⟨"a.js", none, none⟩]⟩ ∧
    ¬ ∀ (s : Settings) (script : String) (key : Key) (value : Option String),
      (s.set script key value).1 = true ↔ (s.set script key value).2 ≠ s := by
  refine ⟨rfl, rfl, rfl, rfl, fun h => ?_⟩
  have htold : (empty.set "out.js" .root none).1 = true := (h empty "out.js" .root none).2 (by decide)
  cases htold

end LineAtlas.Settings
