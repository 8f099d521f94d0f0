import LineAtlas.Proofs.Index.Question
import LineAtlas.Proofs.LineMap.Grammar
import LineAtlas.Proofs.Settings.Blocks
import LineAtlas.Script.Compiled

/-!
# Loading and restoring

A load of a compiled script ends in one of three ways, which the provider and the reader of line maps decide between
them (`load_of_unreadable`, `load_of_refused`, `load_of_read`).  The faults of the reader are never those of a file, and
so a map is dropped exactly when its lines were had and are no map.  A restore is a load of what is stored already: it
leaves the settings as they are (`settings_restore`).

The key facts: the three outcomes, with the rule that a loaded map is always one of its own script, over any steps
(`load_outcomes`); and that a map that was loaded can be restored from the settings as long as nothing else is stored
for its script (`restore_loaded`).
-/

namespace LineAtlas.CompiledScript

variable {provider : Provider} {settings : Settings} {c : CompiledScript} {address : String}

/-! ### Outcomes -/

/-- The value of a load of a map: the lines are had or not, and then they are a map or not. -/
theorem value_loadMap (provider : Provider) (address script : String) :
    (provider.loadMap address script).value =
      match provider.lines address with
      | .error cause => .error (.file cause)
      | .ok lines => LineMap.read script lines := by
  unfold Provider.loadMap
  rw [Told.value_bind]
  cases provider.lines address with
  | error cause => rfl
  | ok lines =>
    dsimp only
    cases LineMap.read script lines <;> rfl

/-- The lines of a map are refused with a fault of their own, never with one of the file that they came from. -/
theorem fault_of_read {script : String} {lines : List String} {fault : Fault}
    (h : LineMap.read script lines = .error fault) :
    (∃ flaw, fault = .format flaw) ∨ ∃ text, fault = .incompatible text := by
  obtain ⟨-, header, -, hheader⟩ | hflaw := LineMap.read_eq_error_cases h
  · exact (LineMap.readHeader_eq_error hheader).symm
  · exact .inl hflaw

private theorem value_load (provider : Provider) (settings : Settings) (c : CompiledScript) (address : String) :
    (c.load provider settings address).value =
      match (provider.loadMap address c.address).value with
      | .ok map =>
        (.ok (), { c with index := some (.ofLineMap map) }, (settings.set c.address .lineMap (some address)).2)
      | .error fault =>
        if fault.isFile then (.error fault, c, settings) else (.error fault, { c with index := none }, settings) := by
  unfold load
  rw [Told.value_bind]
  cases (provider.loadMap address c.address).value with
  | ok map => rfl
  | error fault =>
    dsimp only
    split <;> rfl

theorem load_of_unreadable {cause : FileFault} (h : provider.lines address = .error cause) (settings : Settings)
    (c : CompiledScript) : (c.load provider settings address).value = (.error (.file cause), c, settings) := by
  rw [value_load, value_loadMap, h]
  rfl

theorem load_of_refused {lines : List String} {fault : Fault} (hlines : provider.lines address = .ok lines)
    (hread : LineMap.read c.address lines = .error fault) (settings : Settings) :
    (c.load provider settings address).value = (.error fault, { c with index := none }, settings) := by
  rw [value_load, value_loadMap, hlines]
  dsimp only
  rw [hread]
  obtain ⟨flaw, rfl⟩ | ⟨text, rfl⟩ := fault_of_read hread
  · rfl
  · rfl

theorem load_of_read {lines : List String} {map : LineMap} (hlines : provider.lines address = .ok lines)
    (hread : LineMap.read c.address lines = .ok map) (settings : Settings) :
    (c.load provider settings address).value =
      (.ok (), { c with index := some (.ofLineMap map) }, (settings.set c.address .lineMap (some address)).2) := by
  rw [value_load, value_loadMap, hlines]
  dsimp only
  rw [hread]

/-- A load succeeds only where there are lines that are a map. -/
theorem exists_read_of_load (h : (c.load provider settings address).value.1 = .ok ()) :
    ∃ lines map, provider.lines address = .ok lines ∧ LineMap.read c.address lines = .ok map := by
  cases hlines : provider.lines address with
  | error cause =>
    rw [load_of_unreadable hlines] at h
    cases h
  | ok lines =>
    cases hread : LineMap.read c.address lines with
    | error fault =>
      rw [load_of_refused hlines hread] at h
      cases h
    | ok map => exact ⟨lines, map, rfl, hread⟩

/-- What a load leaves of the settings: they are as they were, or the address is stored for the script. -/
theorem settings_load (provider : Provider) (settings : Settings) (c : CompiledScript) (address : String) :
    (c.load provider settings address).value.2.2 = settings ∨
      (c.load provider settings address).value.2.2 = (settings.set c.address .lineMap (some address)).2 := by
  rw [value_load]
  split
  · exact .inr rfl
  · split
    · exact .inl rfl
    · exact .inl rfl

/-! ### Restores -/

theorem restore_of_none (h : settings.get? c.address .lineMap = none) (provider : Provider) :
    (c.restore provider settings).value = (.ok false, c, settings) := by
  unfold restore
  rw [h]
  rfl

theorem restore_of_some (h : settings.get? c.address .lineMap = some address) (provider : Provider) :
    (c.restore provider settings).value =
      ((c.load provider settings address).value.1.map fun _ => true, (c.load provider settings address).value.2) := by
  unfold restore
  rw [h]
  dsimp only
  rw [Told.value_bind]
  obtain ⟨result, left⟩ := (c.load provider settings address).value
  cases result <;> rfl

/-- A restore stores what is stored already, if it stores anything. -/
theorem settings_restore (provider : Provider) (settings : Settings) (c : CompiledScript) :
    (c.restore provider settings).value.2.2 = settings := by
  cases h : settings.get? c.address .lineMap with
  | none => rw [restore_of_none h]
  | some address =>
    rw [restore_of_some h]
    obtain hload | hload := settings_load provider settings c address
    · exact hload
    · exact hload.trans (Settings.set_eq_self h)

/-! ### Any steps of one script -/

/-- What can happen to a compiled script and the settings.  Each load and restore can meet another provider, since files
and shelves change. -/
inductive Step where
  | load (provider : Provider) (address : String)
  | restore (provider : Provider)
  | clear
  | ask (q : Question)
  /-- A change of the settings by others. -/
  | edit (change : Settings → Settings)

/-- A compiled script and the settings after a step. -/
def step : CompiledScript × Settings → Step → CompiledScript × Settings
  | (c, settings), .load provider address => (c.load provider settings address).value.2
  | (c, settings), .restore provider => (c.restore provider settings).value.2
  | (c, settings), .clear => (c.clear settings).2
  | (c, settings), .ask q => (((ask q.asked).run c).value.2, settings)
  | (c, settings), .edit change => (c, change settings)

/-- A script and the settings after some steps; at first it has no map. -/
def after (script : String) (settings : Settings) (steps : List Step) : CompiledScript × Settings :=
  steps.foldl step (ofAddress script, settings)

/-- A compiled script of an address whose map, if it has one, is a map of that address. -/
structure IsOf (c : CompiledScript) (script : String) : Prop where
  address : c.address = script
  map : ∀ index, c.index = some index → ∃ m s, index = Index.settled m s ∧ m.script = script

theorem IsOf.unloaded {script : String} (h : c.IsOf script) : IsOf { c with index := none } script :=
  ⟨h.address, nofun⟩

theorem IsOf.load {script : String} (h : c.IsOf script) (provider : Provider) (settings : Settings)
    (address : String) : (c.load provider settings address).value.2.1.IsOf script := by
  cases hlines : provider.lines address with
  | error cause => rwa [load_of_unreadable hlines]
  | ok lines =>
    cases hread : LineMap.read c.address lines with
    | error fault =>
      rw [load_of_refused hlines hread]
      exact h.unloaded
    | ok map =>
      rw [load_of_read hlines hread]
      refine ⟨h.address, fun index hindex => ⟨map, ∅, ?_, ?_⟩⟩
      · rw [← Option.some.inj hindex, Index.ofLineMap_eq_settled]
      · rw [(LineMap.isTextOf_of_read hread).1, h.address]

theorem IsOf.restore {script : String} (h : c.IsOf script) (provider : Provider) (settings : Settings) :
    (c.restore provider settings).value.2.1.IsOf script := by
  cases hstored : settings.get? c.address .lineMap with
  | none => rwa [restore_of_none hstored]
  | some address =>
    rw [restore_of_some hstored]
    exact h.load provider settings address

theorem IsOf.ask {script : String} (h : c.IsOf script) (q : Question) :
    ((CompiledScript.ask q.asked).run c).value.2.IsOf script := by
  obtain ⟨address, index⟩ := c
  cases index with
  | none => exact h
  | some index =>
    obtain ⟨m, s, rfl, hm⟩ := h.map index rfl
    refine ⟨h.address, fun index hindex => ⟨m, s ∪ (m.touched q).toFinset, ?_, hm⟩⟩
    have hrun : some (q.asked.run (Index.settled m s)).value.2 = some index := hindex
    rw [Index.run_asked] at hrun
    exact (Option.some.inj hrun).symm

theorem IsOf.step {script : String} (h : c.IsOf script) (settings : Settings) (st : Step) :
    (CompiledScript.step (c, settings) st).1.IsOf script := by
  cases st with
  | load provider address => exact h.load provider settings address
  | restore provider => exact h.restore provider settings
  | clear => exact h.unloaded
  | ask q => exact h.ask q
  | edit change => exact h

theorem isOf_after (script : String) (settings : Settings) (steps : List Step) :
    (after script settings steps).1.IsOf script := by
  induction steps using List.reverseRecOn with
  | nil => exact ⟨rfl, nofun⟩
  | append_singleton steps st ih =>
    unfold after
    rw [List.foldl_append]
    exact ih.step _ st

/-- A load has three outcomes.  Where there are no lines, the fault is one of the file, and the script, its map with
what has been decoded of it, and the settings stay as they are.  Where the lines are no map, the fault is the one that
the reader found, no map is left, and the settings stay as they are.  Where they are a map, that is the map of the
script, undecoded, and its address is stored in the settings, which change nowhere else.  A map that a script has after
any steps is one of its own address. -/
theorem load_outcomes (provider : Provider) (settings : Settings) (c : CompiledScript) (address : String) :
    (∀ cause, provider.lines address = .error cause →
      (c.load provider settings address).value = (.error (.file cause), c, settings)) ∧
    (∀ lines fault, provider.lines address = .ok lines → LineMap.read c.address lines = .error fault →
      (c.load provider settings address).value = (.error fault, ⟨c.address, none⟩, settings) ∧
      ((∃ flaw, fault = .format flaw) ∨ ∃ text, fault = .incompatible text)) ∧
    (∀ lines map, provider.lines address = .ok lines → LineMap.read c.address lines = .ok map →
      ∃ changed, (c.load provider settings address).value =
          (.ok (), ⟨c.address, some (.ofLineMap map)⟩, changed) ∧
        settings.Stored c.address .lineMap (some address) changed) ∧
    (∀ script start steps index, (after script start steps).1.index = some index →
      index.map.script = (after script start steps).1.address ∧ index.map.script = script) := by
  refine ⟨fun cause h => load_of_unreadable h settings c, fun lines fault hlines hread => ?_,
    fun lines map hlines hread => ?_, fun script start steps index hindex => ?_⟩
  · exact ⟨load_of_refused hlines hread settings, fault_of_read hread⟩
  · exact ⟨_, load_of_read hlines hread settings, settings.stored_set c.address .lineMap (some address)⟩
  · have h := isOf_after script start steps
    obtain ⟨m, s, rfl, hm⟩ := h.map index hindex
    exact ⟨hm.trans h.address.symm, hm⟩

/-- The lines of a map for one generated line. -/
def goodLines : List String :=
  ["/** Begin line maps. **/\x7b\"count\": 1\x7d", "[0]", "/** Begin file information. **/", "[\"a.js\"]",
    "/** Begin mapping definitions. **/", "[\"a.js\", 3]"]

/-- A shelf with these lines and with lines that are no map. -/
def shelfSample : Provider := .shelf ⟨[("good.map", goodLines), ("bad.map", ["not a map", "", "", ""])]⟩

/-- The line map on the shelf. -/
def shelfMap : LineMap := ⟨"out.js", [⟨[.mapping 0]⟩], [["a.js"]], ["[\"a.js\", 3]"]⟩

/-- A script whose map has been asked, and settings with two blocks for it. -/
def askedSample : CompiledScript × Settings :=
  (⟨"out.js", some (Index.settled shelfMap {0})⟩,
    ⟨some "json", [⟨"more.js", none, none⟩, ⟨"out.js", some "old.map", some "/src"⟩, ⟨"out.js", none, none⟩]⟩)

/-- A map that is missing, lines that are no map, a map, and a map after a load that failed. -/
theorem load_outcomes_sample :
    (askedSample.1.load shelfSample askedSample.2 "gone.map").value =
      (.error (.file (.unknownText "gone.map")), askedSample) ∧
    (askedSample.1.load shelfSample askedSample.2 "bad.map").value =
      (.error (.format .noHeader), ⟨"out.js", none⟩, askedSample.2) ∧
    (∃ changed, (askedSample.1.load shelfSample askedSample.2 "good.map").value =
        (.ok (), ⟨"out.js", some (.ofLineMap shelfMap)⟩, changed) ∧
      changed.get? "out.js" .lineMap = some "good.map" ∧ changed.get? "out.js" .root = some "/src") ∧
    (∃ index, (after "out.js" .empty [.load shelfSample "good.map", .load shelfSample "gone.map"]).1.index =
        some index ∧ index.map.script = "out.js") := by
  have hread : LineMap.read "out.js" goodLines = .ok shelfMap := rfl
  have hafter : (after "out.js" .empty [.load shelfSample "good.map", .load shelfSample "gone.map"]).1.index =
      some (.ofLineMap shelfMap) := by
    have hgone : shelfSample.lines "gone.map" = .error (.unknownText "gone.map") := rfl
    have hgood : shelfSample.lines "good.map" = .ok goodLines := rfl
    show (((ofAddress "out.js").load shelfSample .empty "good.map").value.2.1.load shelfSample _
      "gone.map").value.2.1.index = _
    rw [load_of_unreadable hgone, load_of_read hgood hread]
  obtain ⟨unreadable, -, -, -⟩ := load_outcomes shelfSample askedSample.2 askedSample.1 "gone.map"
  obtain ⟨-, refused, -, -⟩ := load_outcomes shelfSample askedSample.2 askedSample.1 "bad.map"
  obtain ⟨-, -, loaded, named⟩ := load_outcomes shelfSample askedSample.2 askedSample.1 "good.map"
  obtain ⟨changed, hload, hstored⟩ := loaded goodLines shelfMap rfl hread
  exact ⟨unreadable _ rfl, (refused _ _ rfl rfl).1, ⟨changed, hload, hstored.get? .., hstored.get? ..⟩,
    _, hafter, (named "out.js" .empty _ _ hafter).2⟩

/-! ### Settings in other hands -/

/-- What can happen to the settings while a script is not loaded: values are stored, and other scripts are loaded,
restored and cleared with them. -/
inductive Deed where
  | set (script : String) (key : Settings.Key) (value : Option String)
  | load (c : CompiledScript) (provider : Provider) (address : String)
  | restore (c : CompiledScript) (provider : Provider)
  | clear (c : CompiledScript)

/-- The settings after a deed. -/
def Deed.on (settings : Settings) : Deed → Settings
  | .set script key value => (settings.set script key value).2
  | .load c provider address => (c.load provider settings address).value.2.2
  | .restore c provider => (c.restore provider settings).value.2.2
  | .clear c => (c.clear settings).2.2

/-- A deed that does not concern the line map of a script. -/
def Deed.Spares (script : String) : Deed → Prop
  | .set other key _ => ¬ (other = script ∧ key = .lineMap)
  | .load c _ _ | .restore c _ | .clear c => c.address ≠ script

theorem Deed.Spares.get?_on {script : String} {deed : Deed} (h : deed.Spares script) (settings : Settings) :
    (deed.on settings).get? script .lineMap = settings.get? script .lineMap := by
  have hset {other : String} (hne : other ≠ script) (value : Option String) :
      (settings.set other .lineMap value).2.get? script .lineMap = settings.get? script .lineMap := by
    rw [Settings.get?_set, if_neg fun h => hne h.1.symm]
  cases deed with
  | set other key value =>
    exact (Settings.get?_set ..).trans (if_neg fun hsame => h ⟨hsame.1.symm, hsame.2.symm⟩)
  | load c provider address =>
    obtain hload | hload := settings_load provider settings c address
    · exact congrArg (·.get? script .lineMap) hload
    · exact (congrArg (·.get? script .lineMap) hload).trans (hset h _)
  | restore c provider => exact congrArg (·.get? script .lineMap) (settings_restore provider settings c)
  | clear c => exact hset h none

theorem get?_foldl_on {script : String} {deeds : List Deed} (h : ∀ deed ∈ deeds, deed.Spares script)
    (settings : Settings) :
    (deeds.foldl Deed.on settings).get? script .lineMap = settings.get? script .lineMap := by
  induction deeds generalizing settings with
  | nil => rfl
  | cons deed deeds ih =>
    rw [List.foldl_cons, ih fun d hd => h d (List.mem_cons_of_mem _ hd), (h deed List.mem_cons_self).get?_on]

/-- A map that has been loaded is restored for a new script of its address, undecoded, as long as the provider has the
same lines for it and only other values have been stored since.  No restore changes the settings, whether it finds
nothing stored, loads a map or fails. -/
theorem restore_loaded :
    (∀ (provider later : Provider) (settings : Settings) (c : CompiledScript) (address : String) (deeds : List Deed),
      (c.load provider settings address).value.1 = .ok () → (∀ deed ∈ deeds, deed.Spares c.address) →
      later.lines address = provider.lines address →
      ∃ map, (c.load provider settings address).value.2.1 = ⟨c.address, some (.ofLineMap map)⟩ ∧
        ((ofAddress c.address).restore later
            (deeds.foldl Deed.on (c.load provider settings address).value.2.2)).value.1 = .ok true ∧
        ((ofAddress c.address).restore later
            (deeds.foldl Deed.on (c.load provider settings address).value.2.2)).value.2.1 =
          ⟨c.address, some (.ofLineMap map)⟩) ∧
    (∀ (provider : Provider) (settings : Settings) (c : CompiledScript),
      (c.restore provider settings).value.2.2 = settings) := by
  refine ⟨fun provider later settings c address deeds hload hspares hlater => ?_, settings_restore⟩
  obtain ⟨lines, map, hlines, hread⟩ := exists_read_of_load hload
  have hstored : (deeds.foldl Deed.on (c.load provider settings address).value.2.2).get? c.address .lineMap =
      some address := by
    rw [get?_foldl_on hspares, load_of_read hlines hread]
    exact (Settings.get?_set ..).trans (if_pos ⟨rfl, rfl⟩)
  refine ⟨map, by rw [load_of_read hlines hread], ?_⟩
  rw [restore_of_some (c := ofAddress c.address) hstored,
    load_of_read (c := ofAddress c.address) (hlater.trans hlines) hread]
  exact ⟨rfl, rfl⟩

/-- The root of the script is stored, and another script is loaded from the same map and cleared again. -/
def deedsSample : List Deed :=
  [.set "out.js" .root (some "/work"), .load (ofAddress "more.js") shelfSample "good.map", .clear (ofAddress "more.js")]

/-- The script is loaded in the place of what it had, and restored after these deeds from another shelf. -/
theorem restore_loaded_sample :
    (askedSample.1.load shelfSample askedSample.2 "good.map").value.1 = .ok () ∧
    (∀ deed ∈ deedsSample, deed.Spares "out.js") ∧
    (Provider.shelf ⟨[("good.map", goodLines)]⟩).lines "good.map" = shelfSample.lines "good.map" ∧
    ((ofAddress "out.js").restore (.shelf ⟨[("good.map", goodLines)]⟩) (deedsSample.foldl Deed.on
        (askedSample.1.load shelfSample askedSample.2 "good.map").value.2.2)).value.2.1 =
      ⟨"out.js", some (.ofLineMap shelfMap)⟩ := by
  have hload : (askedSample.1.load shelfSample askedSample.2 "good.map").value =
      (.ok (), ⟨"out.js", some (.ofLineMap shelfMap)⟩, (askedSample.2.set "out.js" .lineMap (some "good.map")).2) :=
    load_of_read (show shelfSample.lines "good.map" = .ok goodLines from rfl) rfl askedSample.2
  have hspares : ∀ deed ∈ deedsSample, deed.Spares "out.js" := by
    simp [deedsSample, Deed.Spares, ofAddress]
  obtain ⟨restored, -⟩ := restore_loaded
  obtain ⟨map, hmap, -, hrestored⟩ := restored shelfSample (.shelf ⟨[("good.map", goodLines)]⟩) askedSample.2
    askedSample.1 "good.map" deedsSample (by rw [hload]) hspares rfl
  rw [← hmap, hload] at hrestored
  exact ⟨by rw [hload], hspares, rfl, hrestored⟩

end LineAtlas.CompiledScript
