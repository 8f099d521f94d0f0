import LineAtlas.Proofs.Script.Compiled
import LineAtlas.Proofs.Script.Registry

/-!
# One script as a compiled script and as a module

The lines of one map can be loaded for a compiled script, or added for the only script of a table of modules.  The two
mappers keep the same index, which changes in the same way with every call (`exists_change`), although the compiled
script looks up a position twice for a mapped source.

The key fact: after any calls the two mappers answer alike, but for the paths of source files and for names that are
converted, and have found the same number of definitions that cannot be decoded (`one_script_alike`).
-/

namespace LineAtlas.Mapper

open Registry (Call)

/-- A compiled script with an index. -/
def ofScript (script : String) (index : Index) : Mapper := .compiled ⟨script, some index⟩

/-- A table of modules with one script and its index. -/
def ofModule (script : String) (index : Index) : Mapper := .modules ⟨[(script, some index)]⟩

/-- A mapper after some calls. -/
def after (m : Mapper) (calls : List Call) : Mapper := calls.foldl (fun m call => call.change m) m

variable {α : Type} {script : String} {index : Index}

theorem index?_ofScript (script other : String) (index : Index) :
    (ofScript script index).index? other = if other = script then some index else none := by
  simp [ofScript, index?, eq_comm]

theorem index?_ofModule (script other : String) (index : Index) :
    (ofModule script index).index? other = if other = script then some index else none := by
  by_cases h : other = script
  · simp [ofModule, index?, ModuleTable.index?, List.lookup, h]
  · simp [ofModule, index?, ModuleTable.index?, List.lookup, h, beq_false_of_ne h]

theorem index?_ofModule_eq (script asked : String) (index : Index) :
    (ofModule script index).index? asked = (ofScript script index).index? asked := by
  rw [index?_ofScript, index?_ofModule]

theorem record?_ofModule (script asked : String) (index : Index) (line offset : Nat) :
    (ofModule script index).record? asked line offset = (ofScript script index).record? asked line offset := by
  unfold record?
  rw [index?_ofModule_eq]

theorem canMap_ofModule (script asked : String) (index : Index) (line : Nat) :
    (ofModule script index).canMap asked line = (ofScript script index).canMap asked line := by
  unfold canMap
  rw [index?_ofModule_eq]

/-! ### One call -/

theorem ask_ofScript (script asked : String) (index : Index) (q : Query α) :
    ((ask asked q).run (ofScript script index)).value.2 =
      ofScript script (if asked = script then (q.run index).value.2 else index) := by
  unfold ofScript
  rw [value_ask_compiled]
  by_cases h : asked = script
  · simp [h]
  · simp [h, Ne.symm h]

theorem ask_ofModule (script asked : String) (index : Index) (q : Query α) :
    ((ask asked q).run (ofModule script index)).value.2 =
      ofModule script (if asked = script then (q.run index).value.2 else index) := by
  have hindex : ModuleTable.index? ⟨[(script, some index)]⟩ asked = if asked = script then some index else none :=
    index?_ofModule script asked index
  unfold ofModule
  rw [value_ask_modules, hindex]
  by_cases h : asked = script
  · simp [h, ModuleTable.insert, ModuleTable.replaceIn]
  · simp [h]

/-- A call changes the index of the compiled script and that of the module in the same way. -/
theorem exists_change (script : String) (index : Index) (call : Call) :
    ∃ later, call.change (ofScript script index) = ofScript script later ∧
      call.change (ofModule script index) = ofModule script later := by
  cases call with
  | canMap asked line => exact ⟨index, rfl, rfl⟩
  | convertName value asKey => exact ⟨index, rfl, rfl⟩
  | reverse file line => exact ⟨((Index.reverse file line).run index).value.2, rfl, rfl⟩
  | mappedSource settings asked line offset =>
    unfold Call.change
    dsimp only
    rw [value_mappedSource, value_mappedSource, ask_ofScript, ask_ofModule]
    exact ⟨_, rfl, rfl⟩
  | mappedName asked line offset =>
    unfold Call.change
    dsimp only
    rw [value_mappedName, value_mappedName, canMap_ofModule, ask_ofScript, ask_ofModule]
    split
    · exact ⟨_, rfl, rfl⟩
    · exact ⟨index, rfl, rfl⟩

theorem exists_after (script : String) (index : Index) (calls : List Call) :
    ∃ later, after (ofScript script index) calls = ofScript script later ∧
      after (ofModule script index) calls = ofModule script later := by
  induction calls generalizing index with
  | nil => exact ⟨index, rfl, rfl⟩
  | cons call calls ih =>
    obtain ⟨changed, hscript, hmodule⟩ := exists_change script index call
    obtain ⟨later, hafter⟩ := ih changed
    refine ⟨later, ?_⟩
    unfold after
    rw [List.foldl_cons, List.foldl_cons, hscript, hmodule]
    exact hafter

/-! ### Answers -/

theorem answer_mappedName_ofModule (script asked : String) (index : Index) (line offset : Nat) :
    ((mappedName asked line offset).run (ofModule script index)).value.1 =
      ((mappedName asked line offset).run (ofScript script index)).value.1 := by
  rw [value_mappedName, value_mappedName, canMap_ofModule, record?_ofModule]
  split <;> rfl

theorem answer_reverse_ofModule (script : String) (index : Index) (file : String) (line : Nat) :
    ((reverse file line).run (ofModule script index)).value.1 =
      ((reverse file line).run (ofScript script index)).value.1 := by
  rw [value_reverse, value_reverse]
  simp [ofModule, ofScript, hits]

/-- The lines of a map are loaded for a compiled script, or added to a table that has no other module.  After any calls
both mappers answer alike which lines can be mapped, which record is at a position, what its symbol is called and which
generated lines come from a line of a source file, about this script and any other, and have found the same number of
definitions that cannot be decoded.  The path of a source file is the place below the stored root for the compiled
script and the file itself for the module, and only the compiled script converts names. -/
theorem one_script_alike {lines : List String} {map : LineMap} (hread : LineMap.read script lines = .ok map)
    {c : CompiledScript} (hc : c.address = script) {provider : Provider} {address : String}
    (hlines : provider.lines address = .ok lines) {table : ModuleTable}
    (htable : table = (ModuleTable.empty.add script lines).value.2 ∨
      ∃ other place, Provider.lines other place = .ok lines ∧
        table = (ModuleTable.empty.addFrom other script place).value.2)
    (stored : Settings) (calls : List Call) :
    let m := after (.compiled (c.load provider stored address).value.2.1) calls
    let m' := after (.modules table) calls
    (∀ asked line, m'.canMap asked line = m.canMap asked line) ∧
    (∀ settings asked line offset,
      let source := ((mappedSource settings asked line offset).run m).value.1
      let source' := ((mappedSource settings asked line offset).run m').value.1
      source'.map MappedSource.record = source.map MappedSource.record ∧
      (∀ s, source = some s → s.path =
        ((CompiledScript.ofAddress script).locate settings s.record).map (·.map SourceLocation.path)) ∧
      (∀ s, source' = some s → s.path = .ok s.record.file)) ∧
    (∀ asked line offset, ((mappedName asked line offset).run m').value.1 =
      ((mappedName asked line offset).run m).value.1) ∧
    (∀ file line, ((reverse file line).run m').value.1 = ((reverse file line).run m).value.1) ∧
    (∀ asked, (m'.index? asked).map Index.failures = (m.index? asked).map Index.failures) ∧
    (∀ value asKey, m.convertName value asKey = some (Identifier.convert value asKey) ∧
      m'.convertName value asKey = none) := by
  intro m m'
  have hscript : (.compiled (c.load provider stored address).value.2.1 : Mapper) = ofScript script (.ofLineMap map) := by
    subst hc
    rw [CompiledScript.load_of_read hlines hread]
    rfl
  have hmodule : (.modules table : Mapper) = ofModule script (.ofLineMap map) := by
    have hrecord : (ModuleTable.empty.record script (some map)).2 = ⟨[(script, some (.ofLineMap map))]⟩ := rfl
    rcases htable with rfl | ⟨other, place, hother, rfl⟩
    · rw [ModuleTable.value_add, hread]
      exact congrArg Mapper.modules hrecord
    · rw [ModuleTable.value_addFrom, hother]
      dsimp only [Except.toOption, Option.bind_some]
      rw [hread]
      exact congrArg Mapper.modules hrecord
  obtain ⟨later, hm, hm'⟩ := exists_after script (.ofLineMap map) calls
  have hm : m = ofScript script later := by rw [← hm, ← hscript]
  have hm' : m' = ofModule script later := by rw [← hm', ← hmodule]
  rw [hm, hm']
  refine ⟨fun asked line => canMap_ofModule .., fun settings asked line offset => ⟨?_, fun s hs => ?_, fun s hs => ?_⟩,
    fun asked line offset => answer_mappedName_ofModule .., fun file line => answer_reverse_ofModule ..,
    fun asked => by rw [index?_ofModule_eq], fun value asKey => ⟨rfl, rfl⟩⟩
  · rw [record_mappedSource, record_mappedSource, record?_ofModule]
  · exact (mappedSource_eq_some_iff.1 hs).2
  · exact (mappedSource_eq_some_iff.1 hs).2

/-- A compiled script that has loaded the map of a shelf. -/
def loadedSample : Mapper :=
  .compiled ((CompiledScript.ofAddress "out.js").load CompiledScript.shelfSample .empty "good.map").value.2.1

/-- A table of modules to which the lines of the map were added. -/
def addedSample : Mapper := .modules (ModuleTable.empty.add "out.js" CompiledScript.goodLines).value.2

/-- A position is looked up, also in another script, and then a line of the source file is. -/
def callsSample : List Call :=
  [.mappedSource .empty "out.js" 1 0, .mappedName "more.js" 1 0, .reverse "a.js" 3]

/-- After these calls the line is found again in the script and in the module, and nothing has failed to be decoded. -/
theorem one_script_alike_sample :
    LineMap.read "out.js" CompiledScript.goodLines = .ok CompiledScript.shelfMap ∧
    CompiledScript.shelfSample.lines "good.map" = .ok CompiledScript.goodLines ∧
    ((reverse "a.js" 3).run (after loadedSample callsSample)).value.1 = [⟨"out.js", 1⟩] ∧
    ((reverse "a.js" 3).run (after addedSample callsSample)).value.1 = [⟨"out.js", 1⟩] ∧
    ((after addedSample callsSample).index? "out.js").map Index.failures = some 0 := by
  have hread : LineMap.read "out.js" CompiledScript.goodLines = .ok CompiledScript.shelfMap := rfl
  have hlines : CompiledScript.shelfSample.lines "good.map" = .ok CompiledScript.goodLines := rfl
  obtain ⟨-, -, -, reversed, counted, -⟩ := one_script_alike hread (c := .ofAddress "out.js") rfl hlines (.inl rfl)
    .empty callsSample
  have hloaded : loadedSample = ofScript "out.js" (.ofLineMap CompiledScript.shelfMap) := by
    unfold loadedSample
    rw [CompiledScript.load_of_read hlines hread]
    rfl
  have hhits : ((reverse "a.js" 3).run (after loadedSample callsSample)).value.1 = [⟨"out.js", 1⟩] := by
    rw [hloaded]
    decide +kernel
  have hfailures : ((after loadedSample callsSample).index? "out.js").map Index.failures = some 0 := by
    rw [hloaded]
    decide +kernel
  have hsame := reversed "a.js" 3
  have hcounted := counted "out.js"
  -- the names are put in place of what they stand for, lest the runs be compared step by step
  rw [← loadedSample, ← addedSample] at hsame hcounted
  exact ⟨hread, hlines, hhits, hsame.trans hhits, hcounted.trans hfailures⟩

end LineAtlas.Mapper
