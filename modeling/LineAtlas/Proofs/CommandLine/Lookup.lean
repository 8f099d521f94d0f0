import LineAtlas.Proofs.CommandLine.StoredMap
import LineAtlas.Proofs.Prompt.Conversation
import LineAtlas.Proofs.Script.Consistency

/-!
# The same position on the command line and at the prompt

The command line looks a position up through a registry of one compiled script: a mapped source first, which finds the
record twice, and then a name, after a test for a slot on the line.  The prompt puts one question to the index and reads
the name off the record.

* An opened map is that of the chosen script, of which nothing has been asked (`exists_map_of_openScript`).
* The registry leaves the index as one question would, so that the definition at the position is counted at most once
  (`value_lookup`, `failures_recordAt`).
* At the prompt commands before it do not matter (`exists_settled_converse`).

The key fact: both give the same record and the same name, or both say that there is none (`lookups_agree`).
-/

namespace LineAtlas

open Index (settled)

/-! ### Definitions at a position -/

theorem Record.undecodable_of_decode {id : Nat} {text : String} {record : Record} (h : decode id text = .ok record) :
    record.undecodable = false := by
  unfold decode at h
  split at h
  · cases h
  · rename_i fields _
    unfold ofFields at h
    cases hfile : fileOf fields[0]? with
    | error fault => rw [hfile] at h; cases h
    | ok file => rw [hfile] at h; cases h; rfl

namespace LineMap

variable {m : LineMap}

theorem undecodable_iff_refused {id : Nat} {record : Record} (h : m.record? id = some record) :
    record.undecodable = true ↔ m.Refused id := by
  obtain ⟨text, htext, rfl⟩ := Option.map_eq_some_iff.1 h
  unfold Refused Record.ofDefinition
  cases hdecode : Record.decode id text with
  | ok record => simp [Record.undecodable_of_decode hdecode, htext, hdecode]
  | error reason => simp [Record.standIn, htext, hdecode]

/-- The index of a map that has been asked for one position has counted the definition there, if it is a stand-in. -/
theorem failures_recordAt (m : LineMap) (line offset : Nat) :
    ((Index.recordAt line offset).run (.ofLineMap m)).value.2.failures =
      if ((m.mappingAt? line offset).bind m.record?).any Record.undecodable then 1 else 0 := by
  rw [Index.ofLineMap_eq_settled, Index.run_recordAt, Finset.empty_union]
  cases m.mappingAt? line offset with
  | none => rfl
  | some id =>
    have hfailures : (settled m [id].toFinset).failures = if m.Refused id then 1 else 0 := by
      simp only [settled, List.toFinset_cons, List.toFinset_nil, Finset.filter_insert]
      split <;> simp
    show (settled m [id].toFinset).failures = _
    rw [hfailures, Option.bind_some]
    cases hrecord : m.record? id with
    | none =>
      have hnot : ¬ m.Refused id := by
        rintro ⟨text, reason, htext, -⟩
        simp [record?, htext] at hrecord
      simp [hnot]
    | some record =>
      have hiff := undecodable_iff_refused hrecord
      by_cases hrefused : m.Refused id
      · simp [hrefused, hiff.2 hrefused]
      · simp [hrefused, hiff]

end LineMap

/-! ### Registries of one script -/

theorem Registry.value_firstMatch_single {α : Type} (probe : StateT Mapper Told (Option α)) (m : Mapper) :
    (firstMatch probe [m]).value = ((probe.run m).value.1, [(probe.run m).value.2]) := by
  unfold firstMatch
  rw [Told.value_bind]
  obtain ⟨answer, later⟩ := (probe.run m).value
  cases answer with
  | none => rfl
  | some answer => rfl

namespace Mapper

variable {script : String} {index : Index} {line offset : Nat}

/-- The mapper of a script with a loaded map. -/
def loaded (script : String) (index : Index) : Mapper := .compiled ⟨script, some index⟩

theorem record?_loaded (script : String) (index : Index) (line offset : Nat) :
    (loaded script index).record? script line offset = index.answer (Index.recordAt line offset) := by
  simp [loaded, record?, index?]

theorem ask_loaded {α : Type} (script : String) (index : Index) (q : Query α) :
    ((ask script q).run (loaded script index)).value.2 = loaded script (q.run index).value.2 := by
  simp [loaded, value_ask_compiled]

theorem value_mappedSource_loaded (settings : Settings) (script : String) (index : Index) (line offset : Nat) :
    ((mappedSource settings script line offset).run (loaded script index)).value =
      ((index.answer (Index.recordAt line offset)).map fun record =>
          ⟨record, (loaded script index).pathOf settings record⟩,
        loaded script ((Index.recordAt line offset).run index).value.2) := by
  rw [value_mappedSource, record?_loaded, ask_loaded]

/-- A name is looked up like a source, or not at all where the line has no slot; once the position has been looked up
this changes nothing. -/
theorem value_mappedName_again (script : String) (index : Index) (line offset : Nat) :
    ((mappedName script line offset).run
        (loaded script ((Index.recordAt line offset).run index).value.2)).value =
      ((index.answer (Index.recordAt line offset)).bind Record.symbol?,
        loaded script ((Index.recordAt line offset).run index).value.2) := by
  have hsecond := Index.recordAt_again index line offset
  have hrecord : (loaded script ((Index.recordAt line offset).run index).value.2).record? script line offset =
      index.answer (Index.recordAt line offset) := by
    rw [record?_loaded, Index.answer, hsecond]
    rfl
  refine Prod.ext ?_ ?_
  · rw [answer_mappedName, hrecord]
  · rw [value_mappedName]
    split
    · rw [ask_loaded, hsecond]
    · rfl

end Mapper

namespace CommandLine

open Files (Tree)

variable {t : Tree} {settings later : Settings} {choice : MapChoice} {path : String} {index : Index}
  {line offset : Nat}

/-! ### Opened maps -/

/-- A map that is opened is the one that was read for the script of the choice, and it has not been asked yet. -/
theorem exists_map_of_openScript {c : CompiledScript}
    (h : (openScript t settings choice).value = .ok (c, path, later)) :
    ∃ map, c = ⟨choice.script, some (.ofLineMap map)⟩ := by
  have hfile {address : String} {script : Option String}
      (h : (openScript t settings (.file address script)).value = .ok (c, path, later)) :
      ∃ map, c = ⟨script.getD address, some (.ofLineMap map)⟩ := by
    rw [openScript_file] at h
    obtain ⟨done, hdone, hopened⟩ := Except.map_eq_ok_iff.1 h
    obtain ⟨lines, map, hlines, hread⟩ := CompiledScript.exists_read_of_load hdone
    rw [CompiledScript.load_of_read hlines hread] at hopened
    exact ⟨map, (congrArg Prod.fst hopened).symm⟩
  cases choice with
  | file address script => exact hfile h
  | stored script =>
    cases hstored : settings.get? script .lineMap with
    | some address =>
      rw [openScript_stored hstored] at h
      exact hfile h
    | none =>
      have hnone : settings.get? (CompiledScript.ofAddress script).address .lineMap = none := hstored
      unfold openScript at h
      dsimp only [MapChoice.script] at h
      rw [Told.value_bind, CompiledScript.restore_of_none hnone] at h
      cases h

theorem exists_map_of_openIndex (h : (openIndex t settings choice).value = .ok (index, path)) :
    ∃ map later, index = .ofLineMap map ∧
      (openScript t settings choice).value = .ok (⟨choice.script, some index⟩, path, later) := by
  unfold openIndex at h
  rw [Told.value_bind] at h
  cases hopened : (openScript t settings choice).value with
  | error fault => rw [hopened] at h; cases h
  | ok opened =>
    obtain ⟨c, address, later⟩ := opened
    obtain ⟨map, rfl⟩ := exists_map_of_openScript hopened
    rw [hopened] at h
    obtain ⟨rfl, rfl⟩ := Prod.mk.inj (Except.ok.inj h)
    exact ⟨map, later, rfl, rfl⟩

/-- A file that is a map is opened under the address that it was given by. -/
theorem value_openIndex_of_read {address text : String} {map : LineMap}
    (htext : t.readText (Provider.pathOf none address) = .ok text)
    (hread : LineMap.read address (Text.lines text) = .ok map) (settings : Settings) :
    (openIndex t settings (.file address none)).value = .ok (.ofLineMap map, address) := by
  have hlines : (Provider.files t none).lines address = .ok (Text.lines text) := by
    simp only [Provider.lines, htext]
  have hload := CompiledScript.load_of_read (c := .ofAddress address) hlines hread settings
  have hstored : (settings.set address .lineMap (some address)).2.get? address .lineMap = some address := by
    simp [Settings.get?_set]
  unfold openIndex
  rw [Told.value_bind, openScript_file, Option.getD_none, hload]
  show Except.ok (Index.ofLineMap map,
    ((settings.set address .lineMap (some address)).2.get? address .lineMap).getD "") = _
  rw [hstored]
  rfl

/-! ### Answers -/

/-- The line about definitions that could not be decoded. -/
def failureLine (style : Style) (failures : Nat) : List Printed :=
  if failures = 0 then []
  else [style.say .warning (Numeral.ofNat failures ++ " mapping(s) could not be decoded")]

theorem value_lookup (hopen : (openScript t settings choice).value = .ok (⟨choice.script, some index⟩, path, later))
    (hline : 1 ≤ line) (style : Style) :
    let record := index.answer (Index.recordAt line offset)
    let failures := ((Index.recordAt line offset).run index).value.2.failures
    (lookup style t settings choice line offset false).value =
      .ok (lookupLines style line offset (record.bind Record.symbol?)
          (record.map fun record => ⟨record, (Mapper.loaded choice.script index).pathOf later record⟩) ++
        failureLine style failures) := by
  intro record failures
  have hcheck : checkLine line = .ok () := if_neg (by omega)
  have hsource : ((Registry.mappedSource later choice.script line offset).run
      [Mapper.compiled ⟨choice.script, some index⟩]).value = _ := Registry.value_firstMatch_single _ _
  rw [← Mapper.loaded, Mapper.value_mappedSource_loaded] at hsource
  have hname : ((Registry.mappedName choice.script line offset).run
      [Mapper.loaded choice.script ((Index.recordAt line offset).run index).value.2]).value = _ :=
    Registry.value_firstMatch_single _ _
  rw [Mapper.value_mappedName_again] at hname
  unfold lookup
  rw [hcheck]
  dsimp only
  rw [Told.value_bind, hopen]
  dsimp only
  rw [Told.value_bind, ← Mapper.loaded, hsource]
  dsimp only
  rw [Told.value_bind, hname]
  have hcount : [Mapper.loaded choice.script ((Index.recordAt line offset).run index).value.2].foldl
      (fun n m => n + failuresOf m) 0 = failures := Nat.zero_add _
  dsimp only
  rw [hcount]
  rfl

/-- The name in readable form is on a line of its own in both places. -/
theorem lookupLines_of_source (line offset : Nat) (source : MappedSource) :
    lookupLines ⟨false⟩ line offset source.record.symbol? (some source) =
      .line source.record.text :: (sourceLine ⟨false⟩ source ++
        ((source.record.symbol?.map fun symbol => (Identifier.convert symbol false).text).map fun name =>
          .line ("Original name: " ++ name)).toList) := by
  unfold lookupLines symbolLine
  cases source.record.symbol? with
  | none => rfl
  | some symbol => rfl

theorem recordText_of_record (line offset : Nat) (record : Record) :
    Prompt.recordText line offset (some record) =
      record.text ++ (record.symbol?.map fun symbol => (Identifier.convert symbol false).text).elim ""
        ("\n  original name: " ++ ·) := by
  unfold Prompt.recordText Prompt.nameLine
  dsimp only
  cases record.symbol? with
  | none => rfl
  | some symbol => rfl

/-- A map with a name, with a definition that cannot be decoded and with a line without slots. -/
def namedLines : List String :=
  ["/** Begin line maps. **/\x7b\"count\":2\x7d", "[0,,1]", "", "/** Begin file information. **/", "[\"a.js\"]", "",
    "/** Begin mapping definitions. **/", "[\"a.js\", 7, 0, \"GLOBAL_start\"]", "[broken"]

/-- Its lines as a text. -/
def namedText : String := String.join (namedLines.map (· ++ "\n"))

/-- The line map that these lines are. -/
def namedMap : LineMap :=
  ⟨"out.map", [⟨[.mapping 0, .same, .mapping 1]⟩, .empty], [["a.js"], []],
    ["[\"a.js\", 7, 0, \"GLOBAL_start\"]", "[broken"]⟩

/-- The record of its first definition. -/
def namedRecord : Record := ⟨0, some "a.js", some 7, some 0, [.string "GLOBAL_start"], false⟩

private theorem value_openIndex_namedText :
    (openIndex (LineMap.treeWith namedText) .empty (.file "out.map" none)).value =
      .ok (.ofLineMap namedMap, "out.map") := by
  have hfound (text : String) : (LineMap.treeWith text).readText "out.map" = .ok text := Tree.readText_of_read (by rfl)
  have hpath : Provider.pathOf none "out.map" = "out.map" := by decide +kernel
  have htext : Text.lines namedText = namedLines := by decide +kernel
  have hread : LineMap.read "out.map" (Text.lines namedText) = .ok namedMap := by
    rw [htext]
    rfl
  exact value_openIndex_of_read (by rw [hpath, hfound]) hread .empty

end CommandLine

end LineAtlas
