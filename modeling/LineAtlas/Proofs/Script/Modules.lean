import LineAtlas.Proofs.FirstMention
import LineAtlas.Proofs.Index.Isolation
import LineAtlas.Script.Modules

/-!
# Tables of modules after any steps

Scripts are added to a table, also again, and questions are put to their maps in between.  `outcome` is the map of the
last addition of a script, if it could be read, and `heard` are the questions that were put to it since.

The key facts: a table holds its scripts in the order of their first addition, and for each script the index of its
outcome after what it heard.  One step keeps this (`Holds.step`), so it is true after any steps (`holds_after`), and a
reverse query goes through the scripts in that order (`Holds.value_reverse`).
-/

namespace LineAtlas.ModuleTable

/-! ### Steps -/

/-- What can be done with a table.  An addition from a provider can meet any lines, since a shelf can hold any. -/
inductive Step where
  | add (script : String) (lines : List String)
  | addFrom (provider : Provider) (script address : String)
  | ask (script : String) (q : Question)
  | reverse (file : String) (line : Nat)

/-- The table after a step. -/
def step (t : ModuleTable) : Step → ModuleTable
  | .add script lines => (t.add script lines).value.2
  | .addFrom provider script address => (t.addFrom provider script address).value.2
  | .ask script q => ((ask script q.asked).run t).value.2
  | .reverse file line => ((reverse file line).run t).value.2

/-- A table after some steps. -/
def after (steps : List Step) : ModuleTable := steps.foldl step empty

/-- The script that a step adds, with the map that could be read for it. -/
def Step.addition? : Step → Option (String × Option LineMap)
  | .add script lines => some (script, (LineMap.read script lines).toOption)
  | .addFrom provider script address =>
    some (script, (provider.lines address).toOption.bind fun lines => (LineMap.read script lines).toOption)
  | _ => none

/-- The additions among some steps. -/
def additions (steps : List Step) : List (String × Option LineMap) := steps.filterMap Step.addition?

/-- The map of the last addition of a script, if there was an addition and it could be read. -/
def outcome (steps : List Step) (script : String) : Option LineMap := ((additions steps).reverse.lookup script).join

/-- The questions that the map of a script has heard since it was added, after one more step. -/
def Step.heardAfter (script : String) (qs : List Question) : Step → List Question
  | .add added _ | .addFrom _ added _ => if added = script then [] else qs
  | .ask asked q => if asked = script then qs ++ [q] else qs
  | .reverse file line => qs ++ [.reverse file line]

/-- The questions that the map of a script has heard since it was last added. -/
def heard (steps : List Step) (script : String) : List Question := steps.foldl (fun qs st => st.heardAfter script qs) []

/-! ### Operations -/

theorem map_fst_replaceIn (script : String) (index : Option Index) (modules : List (String × Option Index)) :
    (replaceIn script index modules).map Prod.fst =
      if script ∈ modules.map Prod.fst then modules.map Prod.fst else modules.map Prod.fst ++ [script] := by
  induction modules with
  | nil => simp [replaceIn]
  | cons m modules ih =>
    unfold replaceIn
    by_cases hm : m.1 = script
    · simp [hm]
    · rw [if_neg hm, List.map_cons, List.map_cons, ih]
      by_cases hmem : script ∈ modules.map Prod.fst
      · rw [if_pos hmem, if_pos (.tail _ hmem)]
      · rw [if_neg hmem, if_neg (by simpa [Ne.symm hm] using hmem), List.cons_append]

private theorem lookup_cons_eq {α : Type} (script : String) (row : String × α) (rows : List (String × α)) :
    (row :: rows).lookup script = if script = row.1 then some row.2 else rows.lookup script := by
  obtain ⟨key, v⟩ := row
  rw [List.lookup_cons]
  by_cases h : script = key
  · rw [if_pos h, h, BEq.rfl]
  · rw [if_neg h, beq_false_of_ne h]

theorem lookup_replaceIn (script other : String) (index : Option Index) (modules : List (String × Option Index)) :
    (replaceIn script index modules).lookup other = if other = script then some index else modules.lookup other := by
  induction modules with
  | nil => rw [replaceIn, lookup_cons_eq]
  | cons m modules ih =>
    unfold replaceIn
    by_cases hm : m.1 = script
    · rw [if_pos hm, lookup_cons_eq, lookup_cons_eq]
      by_cases h : other = script
      · rw [if_pos h, if_pos h]
      · rw [if_neg h, if_neg h, if_neg (hm ▸ h)]
    · rw [if_neg hm, lookup_cons_eq, lookup_cons_eq, ih]
      by_cases h : other = m.1
      · rw [if_pos h, if_pos h, if_neg (h ▸ hm)]
      · rw [if_neg h, if_neg h]

theorem scripts_insert (t : ModuleTable) (script : String) (index : Option Index) :
    (t.insert script index).scripts = if script ∈ t.scripts then t.scripts else t.scripts ++ [script] :=
  map_fst_replaceIn ..

theorem index?_insert (t : ModuleTable) (script other : String) (index : Option Index) :
    (t.insert script index).index? other = if other = script then index else t.index? other := by
  unfold index? insert
  rw [lookup_replaceIn]
  by_cases h : other = script
  · rw [if_pos h, if_pos h, Option.join_some]
  · rw [if_neg h, if_neg h]

theorem mem_scripts_of_index? {t : ModuleTable} {script : String} {index : Index} (h : t.index? script = some index) :
    script ∈ t.scripts := by
  obtain ⟨before, rest, hmodules, -⟩ := List.lookup_eq_some_iff.1 (Option.join_eq_some_iff.1 h)
  unfold scripts
  simp [hmodules]

/-- An addition from given lines says whether they were read, and keeps the index of what was read. -/
theorem value_add (t : ModuleTable) (script : String) (lines : List String) :
    (t.add script lines).value = t.record script (LineMap.read script lines).toOption := by
  unfold add
  cases LineMap.read script lines <;> rfl

theorem toOption_value_loadMap (provider : Provider) (address script : String) :
    (provider.loadMap address script).value.toOption =
      (provider.lines address).toOption.bind fun lines => (LineMap.read script lines).toOption := by
  unfold Provider.loadMap
  rw [Told.value_bind]
  cases provider.lines address with
  | error cause => rfl
  | ok lines =>
    dsimp only [Except.toOption, Option.bind_some]
    cases LineMap.read script lines with
    | error fault => rfl
    | ok map => rfl

theorem value_addFrom (t : ModuleTable) (provider : Provider) (script address : String) :
    (t.addFrom provider script address).value = t.record script
      ((provider.lines address).toOption.bind fun lines => (LineMap.read script lines).toOption) := by
  rw [← toOption_value_loadMap]
  rfl

theorem step_ask (t : ModuleTable) (script : String) (q : Question) :
    t.step (.ask script q) =
      (t.index? script).elim t fun index => t.insert script (some (q.asked.run index).value.2) := by
  show ((ask script q.asked).run t).value.2 = _
  unfold ask StateT.run
  beta_reduce
  cases t.index? script with
  | none => rfl
  | some index => rfl

/-- A reverse query is put to each loaded map, in order. -/
theorem value_reverseIn (file : String) (line : Nat) (modules : List (String × Option Index)) :
    (reverseIn file line modules).value =
      (modules.flatMap fun m => m.2.elim [] fun index => index.answer (Index.reverse file line),
        modules.map fun m => (m.1, m.2.map fun index => ((Index.reverse file line).run index).value.2)) := by
  induction modules with
  | nil => rfl
  | cons m modules ih =>
    obtain ⟨script, index⟩ := m
    have start : (reverseIn file line ((script, index) :: modules)).value =
        ((Index.ask (Index.reverse file line) index).value.1.getD [] ++ (reverseIn file line modules).value.1,
          (script, (Index.ask (Index.reverse file line) index).value.2) :: (reverseIn file line modules).value.2) := rfl
    rw [start, ih]
    cases index <;> rfl

theorem value_reverse (t : ModuleTable) (file : String) (line : Nat) :
    ((reverse file line).run t).value.1 =
      t.modules.flatMap fun m => m.2.elim [] fun index => index.answer (Index.reverse file line) :=
  congrArg Prod.fst (value_reverseIn file line t.modules)

theorem modules_step_reverse (t : ModuleTable) (file : String) (line : Nat) :
    (t.step (.reverse file line)).modules =
      t.modules.map fun m => (m.1, m.2.map fun index => ((Index.reverse file line).run index).value.2) :=
  congrArg Prod.snd (value_reverseIn file line t.modules)

theorem scripts_step_reverse (t : ModuleTable) (file : String) (line : Nat) :
    (t.step (.reverse file line)).scripts = t.scripts := by
  unfold scripts
  rw [modules_step_reverse, List.map_map]
  rfl

private theorem lookup_map_snd {α β : Type} (f : α → β) (script : String) (rows : List (String × α)) :
    (rows.map fun row => (row.1, f row.2)).lookup script = (rows.lookup script).map f := by
  induction rows with
  | nil => rfl
  | cons row rows ih =>
    rw [List.map_cons, lookup_cons_eq, lookup_cons_eq, ih]
    by_cases h : script = row.1
    · rw [if_pos h, if_pos h, Option.map_some]
    · rw [if_neg h, if_neg h]

theorem index?_step_reverse (t : ModuleTable) (file : String) (line : Nat) (script : String) :
    (t.step (.reverse file line)).index? script =
      (t.index? script).map fun index => ((Index.reverse file line).run index).value.2 := by
  unfold index?
  rw [modules_step_reverse, lookup_map_snd]
  cases t.modules.lookup script <;> rfl

/-! ### One step -/

variable {t : ModuleTable} {steps : List Step}

/-- A table with the scripts that some steps added, in the order of their first addition, and for each of them the index
of its outcome after what it heard. -/
structure Holds (t : ModuleTable) (steps : List Step) : Prop where
  scripts : t.scripts = ((additions steps).map Prod.fst).eraseDups
  index : ∀ script, t.index? script = (outcome steps script).map fun m => m.indexAfter (heard steps script)

theorem additions_append (steps : List Step) (st : Step) :
    additions (steps ++ [st]) = additions steps ++ st.addition?.toList := by
  unfold additions
  rw [List.filterMap_append]
  cases h : st.addition? <;> simp [h]

theorem heard_append (steps : List Step) (st : Step) (script : String) :
    heard (steps ++ [st]) script = st.heardAfter script (heard steps script) := by
  unfold heard
  rw [List.foldl_append]
  rfl

theorem outcome_append_of_none {st : Step} (h : st.addition? = none) (script : String) :
    outcome (steps ++ [st]) script = outcome steps script := by
  unfold outcome
  rw [additions_append, h, Option.toList_none, List.append_nil]

theorem outcome_append_of_some {st : Step} {added : String} {map : Option LineMap}
    (h : st.addition? = some (added, map)) (script : String) :
    outcome (steps ++ [st]) script = if script = added then map else outcome steps script := by
  unfold outcome
  rw [additions_append, h, Option.toList_some, List.reverse_append, List.reverse_singleton, List.singleton_append,
    lookup_cons_eq]
  by_cases hs : script = added
  · rw [if_pos hs, if_pos hs, Option.join_some]
  · rw [if_neg hs, if_neg hs]

/-- An addition puts a script at the end or leaves it in its place, and starts it anew. -/
theorem Holds.record (h : Holds t steps) {st : Step} {added : String} {map : Option LineMap}
    (hst : st.addition? = some (added, map))
    (hheard : ∀ script qs, st.heardAfter script qs = if added = script then [] else qs) :
    Holds (t.record added map).2 (steps ++ [st]) := by
  constructor
  · rw [additions_append, hst, Option.toList_some, List.map_append, List.map_singleton, List.eraseDups_concat,
      ← h.scripts]
    exact scripts_insert ..
  · intro script
    rw [outcome_append_of_some hst, heard_append, hheard]
    refine (index?_insert ..).trans ?_
    by_cases hs : script = added
    · rw [if_pos hs, if_pos hs, if_pos hs.symm]
      rfl
    · rw [if_neg hs, if_neg hs, if_neg (Ne.symm hs)]
      exact h.index script

theorem Holds.ask (h : Holds t steps) (asked : String) (q : Question) :
    Holds (t.step (.ask asked q)) (steps ++ [.ask asked q]) := by
  rw [step_ask]
  constructor
  · rw [additions_append, show (Step.ask asked q).addition? = none from rfl, Option.toList_none, List.append_nil,
      ← h.scripts]
    cases hi : t.index? asked with
    | none => rfl
    | some index =>
      rw [Option.elim_some, scripts_insert, if_pos (mem_scripts_of_index? hi)]
  · intro script
    rw [outcome_append_of_none rfl, heard_append, Step.heardAfter]
    by_cases hs : asked = script
    · subst hs
      rw [if_pos rfl, h.index]
      cases houtcome : outcome steps asked with
      | none =>
        rw [Option.map_none, Option.elim_none, h.index, houtcome]
        rfl
      | some m =>
        rw [Option.map_some, Option.elim_some, index?_insert, if_pos rfl, Option.map_some, LineMap.indexAfter_append]
    · rw [if_neg hs, ← h.index]
      cases t.index? asked with
      | none => rfl
      | some index => rw [Option.elim_some, index?_insert, if_neg (Ne.symm hs)]

theorem Holds.reverse (h : Holds t steps) (file : String) (line : Nat) :
    Holds (t.step (.reverse file line)) (steps ++ [.reverse file line]) := by
  constructor
  · rw [additions_append, show (Step.reverse file line).addition? = none from rfl, Option.toList_none, List.append_nil,
      scripts_step_reverse]
    exact h.scripts
  · intro script
    rw [outcome_append_of_none rfl, heard_append, Step.heardAfter, index?_step_reverse, h.index, Option.map_map]
    congr 1
    funext m
    rw [Function.comp_apply, LineMap.indexAfter_append]
    rfl

theorem Holds.step (h : Holds t steps) (st : Step) : Holds (t.step st) (steps ++ [st]) := by
  cases st with
  | add script lines =>
    show Holds (t.add script lines).value.2 _
    rw [value_add]
    exact h.record rfl fun _ _ => rfl
  | addFrom provider script address =>
    show Holds (t.addFrom provider script address).value.2 _
    rw [value_addFrom]
    exact h.record rfl fun _ _ => rfl
  | ask script q => exact h.ask script q
  | reverse file line => exact h.reverse file line

/-! ### Any steps -/

theorem holds_after (steps : List Step) : Holds (after steps) steps := by
  induction steps using List.reverseRecOn with
  | nil => exact ⟨rfl, fun _ => rfl⟩
  | append_singleton steps st ih =>
    unfold after
    rw [List.foldl_append]
    exact ih.step st

theorem Holds.nodup_scripts (h : Holds t steps) : t.scripts.Nodup := by
  rw [h.scripts]
  exact List.nodup_eraseDups _

private theorem lookup_of_mem {α : Type} {rows : List (String × α)} (h : (rows.map Prod.fst).Nodup) {row : String × α}
    (hrow : row ∈ rows) : rows.lookup row.1 = some row.2 := by
  induction rows with
  | nil => cases hrow
  | cons first rows ih =>
    rw [List.map_cons, List.nodup_cons] at h
    rw [lookup_cons_eq]
    rcases List.mem_cons.1 hrow with rfl | hrow
    · rw [if_pos rfl]
    · have hne : row.1 ≠ first.1 := fun hkey => h.1 (hkey ▸ List.mem_map_of_mem hrow)
      rw [if_neg hne]
      exact ih h.2 hrow

/-- A table that has each script once is the list of its scripts with their indexes. -/
theorem modules_eq (h : t.scripts.Nodup) : t.modules = t.scripts.map fun script => (script, t.index? script) := by
  unfold scripts
  rw [List.map_map]
  refine (List.map_id _).symm.trans (List.map_congr_left fun m hm => ?_)
  rw [Function.comp_apply, index?, lookup_of_mem h hm]
  rfl

/-- A reverse query goes through the scripts that have a map, in the order of the table. -/
theorem Holds.value_reverse (h : Holds t steps) (file : String) (line : Nat) :
    ((ModuleTable.reverse file line).run t).value.1 = t.scripts.flatMap fun script =>
      (outcome steps script).elim [] fun m =>
        (m.indexAfter (heard steps script)).answer (Index.reverse file line) := by
  rw [ModuleTable.value_reverse, modules_eq h.nodup_scripts, List.flatMap_map]
  apply List.flatMap_congr
  intro script _
  rw [h.index]
  cases outcome steps script <;> rfl

/-- A map that was read for a script is a map of that script. -/
theorem Step.script_of_addition? {st : Step} {script : String} {m : LineMap}
    (h : st.addition? = some (script, some m)) : m.script = script := by
  have hread {lines : List String} (h : (LineMap.read script lines).toOption = some m) : m.script = script :=
    (LineMap.isTextOf_of_read (Except.toOption_eq_some_iff.1 h)).1
  cases st with
  | add added lines =>
    obtain ⟨rfl, hmap⟩ := Prod.mk.inj (Option.some.inj h)
    exact hread hmap
  | addFrom provider added address =>
    obtain ⟨rfl, hmap⟩ := Prod.mk.inj (Option.some.inj h)
    obtain ⟨lines, -, hmap⟩ := Option.bind_eq_some_iff.1 hmap
    exact hread hmap
  | _ => cases h

theorem script_of_outcome {script : String} {m : LineMap} (h : outcome steps script = some m) : m.script = script := by
  obtain ⟨before, rest, hadditions, -⟩ := List.lookup_eq_some_iff.1 (Option.join_eq_some_iff.1 h)
  have hmem : (script, some m) ∈ additions steps := by
    rw [← List.mem_reverse, hadditions]
    simp
  obtain ⟨st, -, hst⟩ := List.mem_filterMap.1 hmem
  exact Step.script_of_addition? hst

private theorem script_of_mem_hits {m : LineMap} {file : String} {line : Nat} {hit : Location}
    (h : hit ∈ m.hits file line) : hit.script = m.script := by
  obtain ⟨⟨generated, id⟩, -, hhit⟩ := List.mem_filterMap.1 h
  dsimp only at hhit
  split at hhit
  · cases hhit
    rfl
  · cases hhit

/-- A hit is on a line of a script of the table. -/
theorem Holds.script_mem_scripts (h : Holds t steps) {file : String} {line : Nat} {hit : Location}
    (hmem : hit ∈ ((ModuleTable.reverse file line).run t).value.1) : hit.script ∈ t.scripts := by
  rw [h.value_reverse, List.mem_flatMap] at hmem
  obtain ⟨script, hscript, hhit⟩ := hmem
  cases houtcome : outcome steps script with
  | none => simp [houtcome] at hhit
  | some m =>
    rw [houtcome, Option.elim_some, LineMap.indexAfter_eq_settled, Index.answer_reverse] at hhit
    rwa [script_of_mem_hits hhit, script_of_outcome houtcome]

/-- After any steps a table has each script that was added once, in the order of first addition.  A script has an index
exactly if its last addition could be read, and then that of the map that was read for it, after the questions that it
has heard since.  An addition says whether its own map could be read.  A reverse query gives the hits of the scripts
that have a map, in the order of the table, and so none on another script. -/
theorem last_addition_counts (steps : List Step) :
    (after steps).scripts = ((additions steps).map Prod.fst).eraseDups ∧ (after steps).scripts.Nodup ∧
    (∀ script, (after steps).index? script =
      (outcome steps script).map fun m => m.indexAfter (heard steps script)) ∧
    (∀ script m, outcome steps script = some m → m.script = script) ∧
    (∀ script lines, ((after steps).add script lines).value.1 = true ↔ ∃ m, LineMap.read script lines = .ok m) ∧
    (∀ (provider : Provider) script address, ((after steps).addFrom provider script address).value.1 = true ↔
      ∃ lines m, provider.lines address = .ok lines ∧ LineMap.read script lines = .ok m) ∧
    (∀ file line, ((reverse file line).run (after steps)).value.1 =
      (after steps).scripts.flatMap fun script => (outcome steps script).elim [] fun m =>
        (m.indexAfter (heard steps script)).answer (Index.reverse file line)) ∧
    (∀ file line, ∀ hit ∈ ((reverse file line).run (after steps)).value.1, hit.script ∈ (after steps).scripts) := by
  have h := holds_after steps
  refine ⟨h.scripts, h.nodup_scripts, h.index, fun script m => script_of_outcome, fun script lines => ?_,
    fun provider script address => ?_, h.value_reverse, fun file line hit => h.script_mem_scripts⟩
  · rw [value_add]
    simp only [record, Option.isSome_iff_exists, Except.toOption_eq_some_iff]
  · rw [value_addFrom]
    simp only [record, Option.isSome_iff_exists, Option.bind_eq_some_iff, Except.toOption_eq_some_iff]
    exact exists_comm.trans (by simp only [exists_and_left])

/-- The lines of a map for one generated line. -/
def linesSample : List String :=
  ["/** Begin line maps. **/\x7b\"count\": 1\x7d", "[0]", "/** Begin file information. **/", "[\"a.js\"]",
    "/** Begin mapping definitions. **/", "[\"a.js\", 3]"]

/-- A script is added from a shelf and asked, then another one, and then the first again with lines that are no map. -/
def stepsSample : List Step :=
  [.addFrom (.shelf ⟨[("out.map", linesSample)]⟩) "out.js" "out.map", .ask "out.js" (.recordAt 1 1),
    .add "more.js" linesSample, .reverse "a.js" 3, .add "out.js" []]

/-- The map that the lines of the sample describe. -/
def linesSampleMap (script : String) : LineMap := ⟨script, [⟨[.mapping 0]⟩], [["a.js"]], ["[\"a.js\", 3]"]⟩

/-- The map that the sample steps leave for the second script, and the hit on its line. -/
theorem last_addition_counts_sample :
    outcome stepsSample "more.js" = some (linesSampleMap "more.js") ∧ (linesSampleMap "more.js").script = "more.js" ∧
    ((reverse "a.js" 3).run (after stepsSample)).value.1 = [⟨"more.js", 1⟩] ∧
    "more.js" ∈ (after stepsSample).scripts := by
  obtain ⟨scripts, -, -, named, -, -, reversed, hits⟩ := last_addition_counts stepsSample
  have houtcome : outcome stepsSample "more.js" = some (linesSampleMap "more.js") := rfl
  have hbroken : outcome stepsSample "out.js" = none := rfl
  have hheard : heard stepsSample "more.js" = [.reverse "a.js" 3] := rfl
  have hscripts : (after stepsSample).scripts = ["out.js", "more.js"] := scripts.trans rfl
  have hanswer : ((linesSampleMap "more.js").indexAfter [.reverse "a.js" 3]).answer (Index.reverse "a.js" 3) =
      [⟨"more.js", 1⟩] := by decide +kernel
  have hhits : ((reverse "a.js" 3).run (after stepsSample)).value.1 = [⟨"more.js", 1⟩] := by
    rw [reversed, hscripts, List.flatMap_cons, List.flatMap_singleton, hbroken, houtcome, Option.elim_none,
      Option.elim_some, List.nil_append, hheard]
    exact hanswer
  exact ⟨houtcome, named _ _ houtcome, hhits, hits "a.js" 3 _ (hhits ▸ List.mem_singleton_self _)⟩

end LineAtlas.ModuleTable
