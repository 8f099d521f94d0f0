import LineAtlas.Proofs.Index.Entries
import LineAtlas.Proofs.Script.Modules
import LineAtlas.Script.Mapper

/-!
# What mappers answer

Both kinds of mappers put a question about a script to its loaded map.  One lemma for each operation says what it
answers in terms of that map, and what becomes of the loaded maps: `value_ask` and `index?_ask`, `value_reverse` and
`index?_reverse`.  A mapper without a map for a script has nothing to say about it and stays as it is (`ask_of_none`).

A compiled script looks a position up twice for its mapped source, and finds the same record both times, with nothing
more to decode (`CompiledScript.recordAt_again`).  So `mappedSource` does what one question does (`mappedSource_run`).
-/

namespace LineAtlas

namespace CompiledScript

/-! ### Positions of compiled scripts -/

theorem recordAt_of_some (address : String) (index : Index) (line offset : Nat) :
    (recordAt line offset).run ⟨address, some index⟩ =
      ⟨(index.answer (Index.recordAt line offset), ⟨address, some ((Index.recordAt line offset).run index).value.2⟩),
        ((Index.recordAt line offset).run index).events⟩ := by
  have hvalue : ((recordAt line offset).run ⟨address, some index⟩).value =
      (index.answer (Index.recordAt line offset),
        ⟨address, some ((Index.recordAt line offset).run index).value.2⟩) := rfl
  have hevents : ((recordAt line offset).run ⟨address, some index⟩).events =
      ((Index.recordAt line offset).run index).events ++ [] ++ [] ++ [] := rfl
  simp only [List.append_nil] at hevents
  rw [← hvalue, ← hevents]

theorem recordAt_again (c : CompiledScript) (line offset : Nat) :
    (recordAt line offset).run ((recordAt line offset).run c).value.2 =
      ⟨((recordAt line offset).run c).value, []⟩ := by
  obtain ⟨address, index⟩ := c
  cases index with
  | none => rfl
  | some index =>
    rw [recordAt_of_some]
    dsimp only
    rw [recordAt_of_some, Index.answer, Index.recordAt_again]
    rfl

theorem address_recordAt (c : CompiledScript) (line offset : Nat) :
    ((recordAt line offset).run c).value.2.address = c.address := by
  obtain ⟨address, index⟩ := c
  cases index <;> rfl

theorem sourceLocation_run (settings : Settings) (c : CompiledScript) (line offset : Nat) :
    (sourceLocation settings line offset).run c =
      ⟨(((recordAt line offset).run c).value.1.elim (.ok none) (c.locate settings),
        ((recordAt line offset).run c).value.2), ((recordAt line offset).run c).events⟩ := by
  have haddress := address_recordAt c line offset
  unfold sourceLocation
  rw [StateT.run_bind]
  generalize (recordAt line offset).run c = found at haddress ⊢
  obtain ⟨⟨record, later⟩, events⟩ := found
  rw [Told.mk_bind]
  cases record with
  | none => simp
  | some record =>
    have hlocate : later.locate settings record = c.locate settings record := by
      unfold locate root?
      rw [show later.address = c.address from haddress]
    simp [hlocate]

end CompiledScript

namespace Mapper

variable {α : Type} {m : Mapper} {script : String}

/-! ### Questions about a script -/

theorem value_ask_compiled (c : CompiledScript) (script : String) (q : Query α) :
    ((ask script q).run (.compiled c)).value =
      if c.address = script then
        (c.index.map fun index => index.answer q,
          .compiled { c with index := c.index.map fun index => (q.run index).value.2 })
      else (none, .compiled c) := by
  unfold ask StateT.run
  beta_reduce
  dsimp only
  by_cases hc : c.address = script
  · rw [if_pos hc, if_pos hc]
    obtain ⟨address, index⟩ := c
    cases index <;> rfl
  · rw [if_neg hc, if_neg hc]
    rfl

theorem value_ask_modules (t : ModuleTable) (script : String) (q : Query α) :
    ((ask script q).run (.modules t)).value =
      ((t.index? script).map fun index => index.answer q,
        .modules ((t.index? script).elim t fun index => t.insert script (some (q.run index).value.2))) := by
  have hask : ((ModuleTable.ask script q).run t).value =
      ((t.index? script).map fun index => index.answer q,
        (t.index? script).elim t fun index => t.insert script (some (q.run index).value.2)) := by
    unfold ModuleTable.ask StateT.run
    beta_reduce
    cases t.index? script <;> rfl
  have start : ((ask script q).run (.modules t)).value =
      (((ModuleTable.ask script q).run t).value.1, .modules ((ModuleTable.ask script q).run t).value.2) := rfl
  rw [start, hask]

/-- A question is answered by the loaded map of the script. -/
theorem value_ask (m : Mapper) (script : String) (q : Query α) :
    ((ask script q).run m).value.1 = (m.index? script).map fun index => index.answer q := by
  cases m with
  | compiled c =>
    rw [value_ask_compiled, index?]
    split <;> rfl
  | modules t =>
    rw [value_ask_modules]
    rfl

/-- A question changes the map of the script to which it is put, and no other. -/
theorem index?_ask (m : Mapper) (script other : String) (q : Query α) :
    ((ask script q).run m).value.2.index? other =
      if other = script then (m.index? script).map fun index => (q.run index).value.2 else m.index? other := by
  cases m with
  | compiled c =>
    rw [value_ask_compiled]
    unfold index?
    by_cases hc : c.address = script
    · rw [if_pos hc]
      by_cases hother : other = script
      · simp [hc, hother]
      · simp [hc, hother, Ne.symm hother]
    · rw [if_neg hc]
      by_cases hother : other = script
      · simp [hc, hother]
      · simp [hother]
  | modules t =>
    rw [value_ask_modules]
    show ((t.index? script).elim t fun index => t.insert script (some (q.run index).value.2)).index? other =
      if other = script then (t.index? script).map fun index => (q.run index).value.2 else t.index? other
    cases hindex : t.index? script with
    | none =>
      by_cases hother : other = script
      · rw [if_pos hother, hother, Option.elim_none, hindex]
        rfl
      · rw [if_neg hother]
        rfl
    | some index => rw [Option.elim_some, ModuleTable.index?_insert, Option.map_some]

/-- What is reported of a question is what the loaded map of the script reports. -/
theorem events_ask (m : Mapper) (script : String) (q : Query α) :
    ((ask script q).run m).events = (m.index? script).elim [] fun index => (q.run index).events := by
  cases m with
  | compiled c =>
    obtain ⟨address, index⟩ := c
    unfold ask StateT.run index?
    dsimp only
    split
    · cases index <;> simp [CompiledScript.ask, Index.ask, StateT.run, Told.events_map]
    · rfl
  | modules t =>
    have start : ((ask script q).run (.modules t)).events = ((ModuleTable.ask script q).run t).events ++ [] := rfl
    rw [start, index?]
    unfold ModuleTable.ask StateT.run
    dsimp only
    cases t.index? script <;> simp [Told.events_map]

theorem ask_of_none (h : m.index? script = none) (q : Query α) : ((ask script q).run m).value = (none, m) := by
  cases m with
  | compiled c =>
    rw [value_ask_compiled]
    split
    · have hindex : c.index = none := by simpa [index?, *] using h
      obtain ⟨address, index⟩ := c
      subst hindex
      rfl
    · rfl
  | modules t =>
    have hindex : t.index? script = none := h
    rw [value_ask_modules, hindex]
    rfl

/-- The path of the source file of a record. -/
def pathOf (settings : Settings) (m : Mapper) (record : Record) : Except Fault (Option String) :=
  match m with
  | .compiled c => (c.locate settings record).map (·.map SourceLocation.path)
  | .modules _ => .ok record.file

theorem pathOf_ask (settings : Settings) (m : Mapper) (script : String) (q : Query α) (record : Record) :
    ((ask script q).run m).value.2.pathOf settings record = m.pathOf settings record := by
  cases m with
  | compiled c =>
    rw [value_ask_compiled]
    split <;> rfl
  | modules t =>
    rw [value_ask_modules]
    rfl

/-! ### Positions -/

/-- The record at a position of a script. -/
def record? (m : Mapper) (script : String) (line offset : Nat) : Option Record :=
  (m.index? script).bind fun index => index.answer (Index.recordAt line offset)

theorem value_recordAt (m : Mapper) (script : String) (line offset : Nat) :
    ((recordAt script line offset).run m).value =
      (m.record? script line offset, ((ask script (Index.recordAt line offset)).run m).value.2) := by
  have start : ((recordAt script line offset).run m).value =
      (((ask script (Index.recordAt line offset)).run m).value.1.join,
        ((ask script (Index.recordAt line offset)).run m).value.2) := rfl
  rw [start, value_ask, record?]
  cases m.index? script <;> rfl

theorem recordAt_run (m : Mapper) (script : String) (line offset : Nat) :
    (recordAt script line offset).run m =
      ⟨(m.record? script line offset, ((ask script (Index.recordAt line offset)).run m).value.2),
        ((ask script (Index.recordAt line offset)).run m).events⟩ := by
  have hevents : ((recordAt script line offset).run m).events =
      ((ask script (Index.recordAt line offset)).run m).events ++ [] := rfl
  rw [← value_recordAt, ← List.append_nil (Told.events _), ← hevents]

/-- Where a compiled script has a record, the question was put to the script itself. -/
theorem ask_compiled_of_record? {c : CompiledScript} {record : Record} {line offset : Nat}
    (h : (Mapper.compiled c).record? script line offset = some record) :
    ((ask script (Index.recordAt line offset)).run (.compiled c)).value.2 =
        .compiled ((CompiledScript.recordAt line offset).run c).value.2 ∧
      ((CompiledScript.recordAt line offset).run c).value.1 = some record := by
  obtain ⟨index, hindex, hrecord⟩ := Option.bind_eq_some_iff.1 h
  have hloaded : c.address = script ∧ c.index = some index := Option.ite_none_right_eq_some.1 hindex
  obtain ⟨address, loaded⟩ := c
  obtain ⟨rfl, rfl⟩ : address = script ∧ loaded = some index := hloaded
  rw [value_ask_compiled, if_pos rfl, CompiledScript.recordAt_of_some]
  exact ⟨rfl, hrecord⟩

theorem pathAt_run_compiled (settings : Settings) (c : CompiledScript) (line offset : Nat) (record : Record) :
    (pathAt settings line offset record).run (.compiled c) =
      (fun found => (found.1.map (·.map SourceLocation.path), compiled found.2)) <$>
        (CompiledScript.sourceLocation settings line offset).run c := rfl

/-- Once a record has been found at a position, the path of its source file is told without a change. -/
theorem pathAt_run {record : Record} {line offset : Nat} (settings : Settings)
    (h : m.record? script line offset = some record) :
    (pathAt settings line offset record).run ((ask script (Index.recordAt line offset)).run m).value.2 =
      ⟨(m.pathOf settings record, ((ask script (Index.recordAt line offset)).run m).value.2), []⟩ := by
  rw [← pathOf_ask settings m script (Index.recordAt line offset)]
  cases m with
  | modules t =>
    rw [value_ask_modules]
    rfl
  | compiled c =>
    obtain ⟨hlater, hrecord⟩ := ask_compiled_of_record? h
    rw [hlater]
    -- the second look at the position starts from what the first one has left
    have hagain := CompiledScript.recordAt_again c line offset
    generalize (CompiledScript.recordAt line offset).run c = found at hrecord hagain ⊢
    obtain ⟨⟨_, later⟩, events⟩ := found
    obtain rfl : _ = some record := hrecord
    have hlocated : (CompiledScript.sourceLocation settings line offset).run later =
        ⟨(later.locate settings record, later), []⟩ := by
      rw [CompiledScript.sourceLocation_run, hagain]
      rfl
    rw [pathAt_run_compiled, hlocated, Told.map_mk]
    rfl

theorem mappedSource_run (settings : Settings) (m : Mapper) (script : String) (line offset : Nat) :
    (mappedSource settings script line offset).run m =
      ⟨((m.record? script line offset).map fun record => ⟨record, m.pathOf settings record⟩,
        ((ask script (Index.recordAt line offset)).run m).value.2),
        ((ask script (Index.recordAt line offset)).run m).events⟩ := by
  unfold mappedSource
  rw [StateT.run_bind, recordAt_run, Told.mk_bind]
  cases h : m.record? script line offset with
  | none => simp
  | some record =>
    dsimp only
    rw [StateT.run_bind, pathAt_run settings h, Told.mk_bind]
    simp

theorem value_mappedSource (settings : Settings) (m : Mapper) (script : String) (line offset : Nat) :
    ((mappedSource settings script line offset).run m).value =
      ((m.record? script line offset).map fun record => ⟨record, m.pathOf settings record⟩,
        ((ask script (Index.recordAt line offset)).run m).value.2) := by
  rw [mappedSource_run]

theorem record_mappedSource (settings : Settings) (m : Mapper) (script : String) (line offset : Nat) :
    ((mappedSource settings script line offset).run m).value.1.map MappedSource.record =
      m.record? script line offset := by
  rw [value_mappedSource, Option.map_map]
  exact congrFun Option.map_id _

theorem mappedSource_eq_some_iff {settings : Settings} {line offset : Nat} {source : MappedSource} :
    ((mappedSource settings script line offset).run m).value.1 = some source ↔
      m.record? script line offset = some source.record ∧ source.path = m.pathOf settings source.record := by
  rw [value_mappedSource, Option.map_eq_some_iff]
  constructor
  · rintro ⟨record, hrecord, rfl⟩
    exact ⟨hrecord, rfl⟩
  · rintro ⟨hrecord, hpath⟩
    exact ⟨source.record, hrecord, by rw [← hpath]⟩

theorem value_mappedName (m : Mapper) (script : String) (line offset : Nat) :
    ((mappedName script line offset).run m).value =
      if m.canMap script line = true then
        ((m.record? script line offset).bind Record.symbol?,
          ((ask script (Index.recordAt line offset)).run m).value.2)
      else (none, m) := by
  unfold mappedName
  rw [StateT.run_bind, StateT.run_get, pure_bind]
  dsimp only
  split
  · rw [StateT.run_bind, Told.value_bind, value_recordAt]
    rfl
  · rfl

/-! ### Reverse queries -/

/-- The generated lines of all loaded maps of a mapper that come from a line of a source file. -/
def hits (m : Mapper) (file : String) (line : Nat) : List Location :=
  match m with
  | .compiled c => c.index.elim [] fun index => index.answer (Index.reverse file line)
  | .modules t => t.modules.flatMap fun module => module.2.elim [] fun index => index.answer (Index.reverse file line)

theorem value_reverse (m : Mapper) (file : String) (line : Nat) :
    ((reverse file line).run m).value.1 = m.hits file line := by
  cases m with
  | compiled c =>
    obtain ⟨address, index⟩ := c
    cases index <;> rfl
  | modules t => exact t.value_reverse file line

/-- A reverse query is put to each loaded map. -/
theorem index?_reverse (m : Mapper) (file : String) (line : Nat) (other : String) :
    ((reverse file line).run m).value.2.index? other =
      (m.index? other).map fun index => ((Index.reverse file line).run index).value.2 := by
  cases m with
  | compiled c =>
    obtain ⟨address, index⟩ := c
    have start : ((reverse file line).run (.compiled ⟨address, index⟩)).value.2 =
        .compiled ⟨address, index.map fun index => ((Index.reverse file line).run index).value.2⟩ := by
      cases index <;> rfl
    rw [start, index?, index?]
    split <;> rfl
  | modules t => exact t.index?_step_reverse file line other

end Mapper

end LineAtlas
