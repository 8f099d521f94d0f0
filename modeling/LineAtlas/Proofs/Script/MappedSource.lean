import LineAtlas.Proofs.Script.Mapper

/-!
# The parts of a mapped source

A mapped source is made of a record and of what its mapper knows about the source file.  For a compiled script that is
the place in the source files that the position comes from (`value_sourceLocation_of_record?`), which depends on the
stored root; `locate_cases` has the three ways in which this can end.

The key fact: record, path and fault of a mapped source fit together, and fit the place that the script gives for the
position before the call and after it.  The call resolves the definition that is named at the position, and nothing
else changes (`parts_fit`).
-/

namespace LineAtlas

namespace CompiledScript

/-- The compiler added the code; or the root is not known; or the file lies below the root. -/
theorem locate_cases (settings : Settings) (c : CompiledScript) (record : Record) :
    (record.file = none ∧ c.locate settings record = .ok none) ∨
    (∃ file, record.file = some file ∧ settings.get? c.address .root = none ∧
      c.locate settings record = .error (.file .noRoot)) ∨
    (∃ file root, record.file = some file ∧ settings.get? c.address .root = some root ∧
      c.locate settings record = .ok (some ⟨Files.Path.join root file, record.line⟩)) := by
  unfold locate root?
  cases hfile : record.file with
  | none => exact .inl ⟨rfl, rfl⟩
  | some file =>
    cases hroot : settings.get? c.address .root with
    | none => exact .inr (.inl ⟨file, rfl, rfl, rfl⟩)
    | some root => exact .inr (.inr ⟨file, root, rfl, rfl, rfl⟩)

end CompiledScript

namespace Mapper

variable {m : Mapper} {script : String} {line offset : Nat} {source : MappedSource}

/-- A script that is asked where a position comes from, before its mapper was asked or afterwards, locates the record
that the mapper finds. -/
theorem value_sourceLocation_of_record? {c asked : CompiledScript} {record : Record} (settings : Settings)
    (h : (Mapper.compiled c).record? script line offset = some record)
    (hasked : asked = c ∨
      ((ask script (Index.recordAt line offset)).run (.compiled c)).value.2 = .compiled asked) :
    ((CompiledScript.sourceLocation settings line offset).run asked).value.1 = c.locate settings record := by
  obtain ⟨hlater, hrecord⟩ := ask_compiled_of_record? h
  rw [CompiledScript.sourceLocation_run]
  rcases hasked with rfl | hasked
  · rw [hrecord]
    rfl
  · rw [hlater] at hasked
    obtain rfl := compiled.inj hasked
    rw [CompiledScript.recordAt_again, hrecord]
    unfold CompiledScript.locate CompiledScript.root?
    rw [CompiledScript.address_recordAt]
    rfl

/-- The parts of a mapped source fit together.  It has a path or a fault or neither of them.  Modules have the file of
the record for a path, and no fault.  For a compiled script there is a path exactly if the script gives a place for the
position, before the call as after it, and then this is the file of the record below the root that is stored for the
script, with the line of the record; there is a fault exactly if the record has a file and no root is stored, which is
the fault; and there is neither exactly if the record has no file.  The call changes the map of its script, in which
it resolves at most the definition that is named at the position and counts at most one that cannot be decoded. -/
theorem parts_fit (settings : Settings)
    (h : ((mappedSource settings script line offset).run m).value.1 = some source) :
    let left := ((mappedSource settings script line offset).run m).value.2
    m.record? script line offset = some source.record ∧
    (source.path? = none ∨ source.fault? = none) ∧
    (∀ t, m = .modules t → source.path? = source.record.file ∧ source.fault? = none) ∧
    (∀ c asked, m = .compiled c → asked = c ∨ left = .compiled asked →
      let located := ((CompiledScript.sourceLocation settings line offset).run asked).value.1
      (source.path?.isSome = true ↔ ∃ place, located = .ok (some place)) ∧
      (∀ place, located = .ok (some place) → ∃ file root,
        source.record.file = some file ∧ settings.get? c.address .root = some root ∧
        source.path? = some (Files.Path.join root file) ∧ place = ⟨Files.Path.join root file, source.record.line⟩) ∧
      (∀ fault, source.fault? = some fault ↔
        fault = .file .noRoot ∧ source.record.file.isSome = true ∧ settings.get? c.address .root = none) ∧
      (source.path? = none ∧ source.fault? = none ↔ source.record.file = none)) ∧
    (∃ index later, m.index? script = some index ∧ left.index? script = some later ∧
      index.ChangedAt later (index.map.mappingAt? line offset)) ∧
    (∀ other, other ≠ script → left.index? other = m.index? other) ∧
    ((mappedSource settings script line offset).run m).events.length ≤ 1 := by
  intro left
  obtain ⟨hrecord, hpath⟩ := mappedSource_eq_some_iff.1 h
  obtain ⟨record, path⟩ := source
  obtain rfl : path = m.pathOf settings record := hpath
  have hleft : left = ((ask script (Index.recordAt line offset)).run m).value.2 := by
    show ((mappedSource settings script line offset).run m).value.2 = _
    rw [value_mappedSource]
  obtain ⟨index, hindex, -⟩ := Option.bind_eq_some_iff.1 hrecord
  have hchanged := Index.changedAt_recordAt index line offset
  refine ⟨hrecord, ?_, ?_, ?_, ⟨index, _, hindex, ?_, hchanged.1⟩, ?_, ?_⟩
  · unfold MappedSource.path? MappedSource.fault?
    cases m.pathOf settings record with
    | ok path => exact .inr rfl
    | error fault => exact .inl rfl
  · rintro t rfl
    exact ⟨rfl, rfl⟩
  · rintro c asked rfl hasked located
    rw [hleft] at hasked
    have hlocated : located = c.locate settings record := value_sourceLocation_of_record? settings hrecord hasked
    unfold MappedSource.path? MappedSource.fault? pathOf
    dsimp only
    obtain ⟨hfile, hlocate⟩ | ⟨file, hfile, hroot, hlocate⟩ | ⟨file, root, hfile, hroot, hlocate⟩ :=
      c.locate_cases settings record
    · rw [hlocated, hlocate]
      simp [Except.map, Except.toOption, hfile]
    · rw [hlocated, hlocate]
      simp [Except.map, Except.toOption, hfile, hroot, eq_comm]
    · rw [hlocated, hlocate]
      simp [Except.map, Except.toOption, hfile, hroot]
  · rw [hleft, index?_ask, if_pos rfl, hindex, Option.map_some]
  · intro other hother
    rw [hleft, index?_ask, if_neg hother]
  · rw [mappedSource_run, events_ask, hindex, Option.elim_some]
    exact hchanged.2

/-- A compiled script and settings that have a root for it. -/
def rootedSample : CompiledScript × Settings :=
  (⟨"out.js", some (.ofLineMap (ModuleTable.linesSampleMap "out.js"))⟩, ⟨none, [⟨"out.js", none, some "/src"⟩]⟩)

/-- With the root the script gives a place for the position, also after the call; without it there is a fault. -/
theorem parts_fit_sample :
    let m : Mapper := .compiled rootedSample.1
    let record : Record := ⟨0, some "a.js", some 3, none, [], false⟩
    let asked : CompiledScript := ⟨"out.js", some (Index.settled (ModuleTable.linesSampleMap "out.js") {0})⟩
    ((mappedSource rootedSample.2 "out.js" 1 2).run m).value.1 = some ⟨record, .ok (some "/src/a.js")⟩ ∧
    ((mappedSource rootedSample.2 "out.js" 1 2).run m).value.2 = .compiled asked ∧
    ((CompiledScript.sourceLocation rootedSample.2 1 2).run asked).value.1 = .ok (some ⟨"/src/a.js", some 3⟩) ∧
    ((mappedSource .empty "out.js" 1 2).run m).value.1 = some ⟨record, .error (.file .noRoot)⟩ ∧
    record.file.isSome = true ∧ Settings.empty.get? "out.js" .root = none := by
  intro m record asked
  have hfound : m.record? "out.js" 1 2 = some record := rfl
  have hsource : ((mappedSource rootedSample.2 "out.js" 1 2).run m).value.1 =
      some ⟨record, .ok (some "/src/a.js")⟩ := by
    rw [value_mappedSource, hfound]
    rfl
  have hfault : ((mappedSource .empty "out.js" 1 2).run m).value.1 = some ⟨record, .error (.file .noRoot)⟩ := by
    rw [value_mappedSource, hfound]
    rfl
  have hleft : ((mappedSource rootedSample.2 "out.js" 1 2).run m).value.2 = .compiled asked := by
    rw [value_mappedSource, (ask_compiled_of_record? hfound).1, rootedSample, CompiledScript.recordAt_of_some,
      Index.ofLineMap_eq_settled, Index.run_recordAt]
    rfl
  obtain ⟨-, -, -, placed, -⟩ := parts_fit rootedSample.2 hsource
  obtain ⟨hpath, hplace, -, -⟩ := placed rootedSample.1 asked rfl (.inr hleft)
  obtain ⟨place, hlocated⟩ := hpath.1 rfl
  obtain ⟨file, root, hfile, hroot, -, rfl⟩ := hplace place hlocated
  obtain ⟨-, -, -, unplaced, -⟩ := parts_fit .empty hfault
  obtain ⟨-, -, hnoRoot, -⟩ := unplaced rootedSample.1 rootedSample.1 rfl (.inl rfl)
  refine ⟨hsource, hleft, ?_, hfault, ((hnoRoot _).1 rfl).2⟩
  rw [hlocated]
  cases hfile
  cases hroot
  rfl

end Mapper

end LineAtlas
