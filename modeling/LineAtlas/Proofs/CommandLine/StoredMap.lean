import LineAtlas.Proofs.CommandLine.Saving
import LineAtlas.Proofs.LineMap.Layout
import LineAtlas.Proofs.Script.Compiled

/-!
# Maps that are stored and maps that are given

A map is opened through the settings by a restore, and without them by a load, which stores the address that it is given
in settings of its own.  Where this address is the stored one, both end alike (`openScript_stored`), and a request that
inspects a map sees no more of the choice than what was opened (`answer_congr`).

The key fact: to inspect the map that is stored for a script is to inspect the map at its address (`stored_as_given`).
-/

namespace LineAtlas.CommandLine

open Files (Tree)

variable {t : Tree} {settings : Settings} {script address : String} {choice other : MapChoice}
  {request : MapChoice → Request}

/-! ### Opening a map -/

theorem openScript_file (t : Tree) (settings : Settings) (address : String) (script : Option String) :
    let loaded := ((CompiledScript.ofAddress (script.getD address)).load (.files t none) settings address).value
    (openScript t settings (.file address script)).value =
      loaded.1.map fun _ => (loaded.2.1, (loaded.2.2.get? (script.getD address) .lineMap).getD "", loaded.2.2) := by
  unfold openScript
  rw [Told.value_bind]
  rfl

theorem openScript_stored (h : settings.get? script .lineMap = some address) :
    (openScript t settings (.stored script)).value = (openScript t settings (.file address (some script))).value := by
  have hstored : settings.get? (CompiledScript.ofAddress script).address .lineMap = some address := h
  have hrestored := CompiledScript.restore_of_some hstored (.files t none)
  rw [openScript_file, Option.getD_some]
  unfold openScript
  dsimp only [MapChoice.script]
  rw [Told.value_bind, hrestored]
  -- the restore ends with the fault of the load, or with the word that there was something to load
  cases ((CompiledScript.ofAddress script).load (.files t none) settings address).value.1 with
  | error fault => rfl
  | ok done => rfl

theorem openIndex_congr (h : (openScript t settings choice).value = (openScript t settings other).value) :
    (openIndex t settings choice).value = (openIndex t settings other).value := by
  unfold openIndex
  rw [Told.value_bind, Told.value_bind, h]

/-! ### Requests that inspect a map -/

/-- The requests that inspect one map, by the choice of the map. -/
inductive Inspects : (MapChoice → Request) → Prop where
  | check (json : Bool) : Inspects (.check · json)
  | lookup (line offset : Nat) (json : Bool) : Inspects (.lookup · line offset json)
  | files (line : Nat) (json : Bool) : Inspects (.files · line json)

theorem check_congr (h : (openScript t settings choice).value = (openScript t settings other).value) (style : Style)
    (json : Bool) : (check style t settings choice json).value = (check style t settings other json).value := by
  unfold check
  rw [Told.value_bind, Told.value_bind, openIndex_congr h]

theorem lookup_congr (h : (openScript t settings choice).value = (openScript t settings other).value) (style : Style)
    (line offset : Nat) (json : Bool) :
    (lookup style t settings choice line offset json).value =
      (lookup style t settings other line offset json).value := by
  unfold lookup
  cases checkLine line with
  | error fault => rfl
  | ok valid =>
    dsimp only
    rw [Told.value_bind, Told.value_bind, h]

theorem files_congr (h : (openScript t settings choice).value = (openScript t settings other).value) (style : Style)
    (line : Nat) (json : Bool) :
    (files style t settings choice line json).value = (files style t settings other line json).value := by
  unfold files
  cases checkLine line with
  | error fault => rfl
  | ok valid =>
    dsimp only
    rw [Told.value_bind, Told.value_bind, openIndex_congr h]

theorem answer_congr (hrequest : Inspects request)
    (h : (openScript t settings choice).value = (openScript t settings other).value) (env : Environment)
    (input : ByteArray) (path : String) :
    (answer env t input path settings (request choice)).value =
      (answer env t input path settings (request other)).value := by
  cases hrequest with
  | check json => exact congrArg (·, t) (check_congr h _ _)
  | lookup line offset json => exact congrArg (·, t) (lookup_congr h _ line offset _)
  | files line json => exact congrArg (·, t) (files_congr h _ line _)

/-- The map that is stored for a script is as good as the one at its address.  Where the settings have an address for a
script, requests that inspect its map are answered with the same texts, or fail with the same fault, whether they name
the script alone or the address with it; and so are whole runs, which take the settings from a file. -/
theorem stored_as_given (hrequest : Inspects request) (env : Environment) (t : Tree) (input : ByteArray)
    (script address : String) :
    (∀ (path : String) (settings : Settings), settings.get? script .lineMap = some address →
      (answer env t input path settings (request (.stored script))).value =
        (answer env t input path settings (request (.file address (some script)))).value) ∧
    (∀ (level : Level) (named : Option String),
      (Settings.loadOrDefault t (Settings.defaultPath env t named)).value.get? script .lineMap = some address →
      (Invocation.run env t input ⟨request (.stored script), level, named⟩).value =
        (Invocation.run env t input ⟨request (.file address (some script)), level, named⟩).value) := by
  have hanswer (path : String) (settings : Settings) (h : settings.get? script .lineMap = some address) :=
    answer_congr hrequest (openScript_stored (t := t) h) env input path
  refine ⟨hanswer, fun level named h => ?_⟩
  rw [value_run, value_run, hanswer _ _ h]

/-- Settings with the address of a map. -/
def addressedSample : Settings := ⟨none, [⟨"out.js", some "out.map", some "/src"⟩]⟩

/-- A tree with these settings and no map, in an environment that names none. -/
def addressedTree : Environment × Tree :=
  (⟨false, none, none, none⟩, (Tree.below ["work"]).put ["work", "s.toml"] (.file addressedSample.text.toUTF8))

/-- An invocation with the file of these settings. -/
def addressedInvocation (request : Request) : Invocation := ⟨request, .warn, some "s.toml"⟩

private theorem load_addressedTree : (Settings.loadOrDefault addressedTree.2 "s.toml").value = addressedSample := by
  have hread : addressedTree.2.read "s.toml" = .ok addressedSample.text.toUTF8 := by rfl
  apply Settings.loadOrDefault_of_load
  rw [Settings.load_of_read hread, Settings.ofContent_text]

private theorem fault_addressedInvocation :
    ((addressedInvocation (.check (.file "out.map" (some "out.js")) true)).run addressedTree.1 addressedTree.2
      .empty).value.fault = some (.file (.unreadableMap "out.map" .noEntry)) := by
  have hpath : Settings.defaultPath addressedTree.1 addressedTree.2
      (addressedInvocation (.check (.file "out.map" (some "out.js")) true)).settingsPath = "s.toml" := by rfl
  have hlines : (Provider.files addressedTree.2 none).lines "out.map" =
      .error (.unreadableMap "out.map" .noEntry) := by rfl
  have hload := CompiledScript.load_of_unreadable hlines addressedSample (.ofAddress "out.js")
  have hchecked : (check ⟨false⟩ addressedTree.2 addressedSample (.file "out.map" (some "out.js")) true).value =
      .error (.file (.unreadableMap "out.map" .noEntry)) := by
    unfold check openIndex
    rw [Told.value_bind, Told.value_bind, openScript_file, Option.getD_some, hload]
    rfl
  have hanswer : (answer addressedTree.1 addressedTree.2 .empty "s.toml" addressedSample
      (.check (.file "out.map" (some "out.js")) true)).value =
        (.error (.file (.unreadableMap "out.map" .noEntry)), addressedTree.2) :=
    congrArg (·, addressedTree.2) hchecked
  rw [value_run, hpath, load_addressedTree, addressedInvocation, hanswer]
  rfl

/-- A lookup in a map with a flaw is answered as with the address, and a check of a map that is missing fails as with
the address. -/
theorem stored_as_given_sample :
    Inspects (.lookup · 1 0 false) ∧ Inspects (.check · true) ∧
    addressedSample.get? "out.js" .lineMap = some "out.map" ∧
    (answer addressedTree.1 (LineMap.treeWith LineMap.faultySample) .empty "s.toml" addressedSample
        (.lookup (.stored "out.js") 1 0 false)).value =
      (answer addressedTree.1 (LineMap.treeWith LineMap.faultySample) .empty "s.toml" addressedSample
        (.lookup (.file "out.map" (some "out.js")) 1 0 false)).value ∧
    (Settings.loadOrDefault addressedTree.2 "s.toml").value.get? "out.js" .lineMap = some "out.map" ∧
    ((addressedInvocation (.check (.stored "out.js") true)).run addressedTree.1 addressedTree.2 .empty).value.fault =
      some (.file (.unreadableMap "out.map" .noEntry)) := by
  have hstored : (Settings.loadOrDefault addressedTree.2 "s.toml").value.get? "out.js" .lineMap = some "out.map" := by
    rw [load_addressedTree]
    rfl
  have hlookup := (stored_as_given (.lookup 1 0 false) addressedTree.1 (LineMap.treeWith LineMap.faultySample) .empty
    "out.js" "out.map").1 "s.toml" addressedSample rfl
  have hcheck := (stored_as_given (.check true) addressedTree.1 addressedTree.2 .empty "out.js" "out.map").2 .warn
    (some "s.toml") hstored
  refine ⟨.lookup 1 0 false, .check true, by rfl, hlookup, hstored, ?_⟩
  rw [addressedInvocation, hcheck]
  exact fault_addressedInvocation

end LineAtlas.CommandLine
