import LineAtlas.CommandLine.Reader
import LineAtlas.Proofs.CommandLine.Saving
import LineAtlas.Proofs.Settings.Blocks

/-!
# What stored values become

The two values that a run is given are stored one after the other (`storeBoth`), which is one change of the block of the
script (`changed_storeBoth`).  Values that are stored already change nothing (`storeBoth_of_stored`), and after a run
they are (`storeBoth_again`).  A run that succeeds leaves a file from which the settings are loaded that it has made of
those before (`load_run`).

The key facts: what a run has stored is there in the next one that looks for its settings in the same place, with all
else as it was, and to store it once more changes nothing (`edits_persist`); the next run looks elsewhere where the
directories that were made for the settings of the user hide them (`edits_not_found`).
-/

namespace LineAtlas.CommandLine

open Files (Tree)
open Settings (Block Key)

variable {env : Environment} {t : Tree} {input : ByteArray} {s : Settings} {script : String} {key : Key}
  {value lineMap root : Option String} {invocation : Invocation}

/-! ### Storing the values that are given -/

theorem get?_storeGiven (script : String) (key k : Key) (value : Option String) (s : Settings) :
    (storeGiven script key value s).2.get? script k =
      if k = key then value.or (s.get? script key) else s.get? script k := by
  cases value with
  | none =>
    rw [storeGiven, Option.none_or]
    split
    · rename_i hk
      rw [hk]
    · rfl
  | some v =>
    rw [storeGiven, Settings.get?_set, Option.some_or]
    by_cases hk : k = key
    · rw [if_pos ⟨rfl, hk⟩, if_pos hk]
    · rw [if_neg fun h => hk h.2, if_neg hk]

theorem fst_storeGiven (script : String) (key : Key) (value : Option String) (s : Settings) :
    (storeGiven script key value s).1 = decide (value.or (s.get? script key) ≠ s.get? script key) := by
  cases value with
  | none => exact (decide_eq_false fun h => h rfl).symm
  | some v => exact decide_eq_decide.2 ne_comm

theorem storeGiven_of_stored (h : value.or (s.get? script key) = s.get? script key) :
    storeGiven script key value s = (false, s) := by
  have hchanged := (fst_storeGiven script key value s).trans (decide_eq_false fun hne => hne h)
  cases value with
  | none => rfl
  | some v => exact Prod.ext hchanged (Settings.set_eq_self h.symm)

/-- Stores the values that are given for a script, and says whether one of them differs from the one before. -/
def storeBoth (script : String) (lineMap root : Option String) (s : Settings) : Bool × Settings :=
  let mapStored := storeGiven script .lineMap lineMap s
  let rootStored := storeGiven script .root root mapStored.2
  (mapStored.1 || rootStored.1, rootStored.2)

theorem edited_contextSet (s : Settings) (script : String) (lineMap root : Option String) :
    edited s (.contextSet script lineMap root) =
      if (storeBoth script lineMap root s).1 then some (storeBoth script lineMap root s).2 else none := rfl

theorem storeBoth_of_stored (hmap : lineMap.or (s.get? script .lineMap) = s.get? script .lineMap)
    (hroot : root.or (s.get? script .root) = s.get? script .root) : storeBoth script lineMap root s = (false, s) := by
  unfold storeBoth
  rw [storeGiven_of_stored hmap]
  dsimp only
  rw [storeGiven_of_stored hroot]
  rfl

theorem storeBoth_of_unchanged (h : (storeBoth script lineMap root s).1 = false) :
    storeBoth script lineMap root s = (false, s) := by
  obtain ⟨hmap, hroot⟩ := Bool.or_eq_false_iff.1 h
  rw [fst_storeGiven, decide_eq_false_iff_not, not_not] at hmap hroot
  -- the root is compared in the settings after the first store, which are the same
  rw [storeGiven_of_stored hmap] at hroot
  exact storeBoth_of_stored hmap hroot

theorem storeBoth_again (script : String) (lineMap root : Option String) (s : Settings) :
    storeBoth script lineMap root (storeBoth script lineMap root s).2 =
      (false, (storeBoth script lineMap root s).2) := by
  have hmap : (storeBoth script lineMap root s).2.get? script .lineMap = lineMap.or (s.get? script .lineMap) := by
    unfold storeBoth
    rw [get?_storeGiven, if_neg nofun, get?_storeGiven, if_pos rfl]
  have hroot : (storeBoth script lineMap root s).2.get? script .root = root.or (s.get? script .root) := by
    unfold storeBoth
    rw [get?_storeGiven, if_pos rfl, get?_storeGiven, if_neg nofun]
  apply storeBoth_of_stored
  · rw [hmap, ← Option.or_assoc, Option.or_self]
  · rw [hroot, ← Option.or_assoc, Option.or_self]

/-- The block with the values that are given in the place of its own. -/
def withGiven (lineMap root : Option String) (b : Block) : Block := ⟨b.script, lineMap.or b.lineMap, root.or b.root⟩

/-- Storing the values that are given changes the block of the script, or adds one if any is given. -/
theorem changed_storeBoth (script : String) (lineMap root : Option String) (s : Settings) :
    s.Changed script (withGiven lineMap root) (if lineMap.isSome || root.isSome then [⟨script, lineMap, root⟩] else [])
      (storeBoth script lineMap root s).2 := by
  cases lineMap with
  | none =>
    cases root with
    | none => exact Settings.changed_self fun b _ => rfl
    | some r => exact Settings.changed_change s script (·.set .root (some r))
  | some m =>
    cases root with
    | none => exact Settings.changed_change s script (·.set .lineMap (some m))
    | some r =>
      have hboth : (storeBoth script (some m) (some r) s).2 = s.change script (withGiven (some m) (some r)) :=
        Settings.change_change s script (·.set .root (some r)) fun b => b.script_set .lineMap (some m)
      rw [hboth]
      exact Settings.changed_change s script (withGiven (some m) (some r))

/-! ### Settings from one run to the next -/

theorem getD_edited_contextSet (s : Settings) (script : String) (lineMap root : Option String) :
    (edited s (.contextSet script lineMap root)).getD s = (storeBoth script lineMap root s).2 := by
  rw [edited_contextSet]
  cases hchanged : (storeBoth script lineMap root s).1 with
  | true => rfl
  | false =>
    rw [storeBoth_of_unchanged hchanged]
    rfl

theorem edited_contextClear (s : Settings) (script : String) : edited s (.contextClear script) =
    if s.get? script .lineMap ≠ none then some (s.change script (·.set .lineMap none)) else none := by
  show (if decide _ = true then _ else _) = _
  simp only [decide_eq_true_eq]
  rfl

theorem changed_contextClear (s : Settings) (script : String) :
    s.Changed script (·.set .lineMap none) [] ((edited s (.contextClear script)).getD s) := by
  rw [edited_contextClear]
  cases hblock : s.block? script with
  | none =>
    -- the block that is made for the script is not saved, as nothing is removed from it
    have hnone : s.get? script .lineMap = none := by rw [Settings.get?, hblock, Option.bind_none]
    rw [if_neg fun hne => hne hnone]
    apply Settings.changed_self
    intro b hb
    rw [hblock] at hb
    cases hb
  | some b =>
    have hget : s.get? script .lineMap = b.lineMap := by
      rw [Settings.get?, hblock]
      rfl
    by_cases hstored : b.lineMap = none
    · rw [if_neg fun hne => hne (hget.trans hstored)]
      apply Settings.changed_self
      intro a ha
      obtain rfl : b = a := Option.some.inj (hblock.symm.trans ha)
      rw [← hstored]
      exact b.set_get? .lineMap
    · rw [if_pos (hget ▸ hstored)]
      exact (Settings.changed_change s script (·.set .lineMap none)).of_block? hblock

/-- After a run that succeeds the file loads to the settings that the run has made of those that it had loaded. -/
theorem load_run (hrequest : ∀ map, invocation.request ≠ .interactive map)
    (hload : Settings.load t (Settings.defaultPath env t invocation.settingsPath) = .ok s)
    (hfault : (invocation.run env t input).value.fault = none) :
    Settings.load (invocation.run env t input).value.tree (Settings.defaultPath env t invocation.settingsPath) =
      .ok ((edited s invocation.request).getD s) := by
  rw [tree_run hrequest, Settings.loadOrDefault_of_load hload]
  cases hedited : edited s invocation.request with
  | none => exact hload
  | some saved =>
    rw [value_run, Settings.loadOrDefault_of_load hload] at hfault
    have hsaved := save_of_answer hedited (isOk_of_ofAnswer hfault)
    rw [Option.elim_some, Settings.load_of_read (Settings.read_save hsaved), Settings.ofContent_text, Option.getD_some]

/-- The next run looks for its settings where this one did, unless this one has made something in the place of the file
of the working directory on its way to another. -/
theorem defaultPath_run (hrequest : ∀ map, invocation.request ≠ .interactive map)
    (hfault : (invocation.run env t input).value.fault = none) :
    Settings.defaultPath env (invocation.run env t input).value.tree invocation.settingsPath =
        Settings.defaultPath env t invocation.settingsPath ∨
      Settings.defaultPath env t invocation.settingsPath ≠ Settings.localPath ∧
        t.exists? Settings.localPath = false ∧
        (invocation.run env t input).value.tree.exists? Settings.localPath = true := by
  cases hnamed : invocation.settingsPath.or env.settingsPath with
  | some path => exact .inl (by simp only [Settings.defaultPath, hnamed])
  | none =>
    cases hbefore : t.exists? Settings.localPath with
    | true =>
      have hpath : Settings.defaultPath env t invocation.settingsPath = Settings.localPath := by
        simp only [Settings.defaultPath, hnamed, hbefore, if_true]
      -- the file of the working directory is the one that is saved, if any is
      have hafter : (invocation.run env t input).value.tree.exists? Settings.localPath = true := by
        rw [tree_run hrequest, hpath]
        cases hedited : edited (Settings.loadOrDefault t Settings.localPath).value invocation.request with
        | none => exact hbefore
        | some saved =>
          rw [value_run, hpath] at hfault
          exact Tree.exists?_of_read (Settings.read_save (save_of_answer hedited (isOk_of_ofAnswer hfault)))
      refine .inl ?_
      rw [hpath]
      simp only [Settings.defaultPath, hnamed, hafter, if_true]
    | false =>
      cases hafter : (invocation.run env t input).value.tree.exists? Settings.localPath with
      | true =>
        by_cases hpath : Settings.defaultPath env t invocation.settingsPath = Settings.localPath
        · refine .inl ?_
          rw [hpath]
          simp only [Settings.defaultPath, hnamed, hafter, if_true]
        · exact .inr ⟨hpath, rfl, rfl⟩
      | false => exact .inl (by simp only [Settings.defaultPath, hnamed, hbefore, hafter])

theorem value_run_of_unchanged (hrequest : invocation.request = .contextSet script lineMap root)
    (hload : Settings.load t (Settings.defaultPath env t invocation.settingsPath) = .ok s)
    (hunchanged : (storeBoth script lineMap root s).1 = false) (input : ByteArray) :
    (invocation.run env t input).value = ⟨[Style.say ⟨env.coloured⟩ .info "Nothing to change"], none, t⟩ := by
  have hanswer (style : Style) (path : String) : (contextSet style t s path script lineMap root).value =
      (.ok [style.say .info "Nothing to change"], t) := by
    show (saveIf (storeBoth script lineMap root s).1 _ t path _ _).value = _
    rw [value_saveIf, hunchanged, if_neg Bool.false_ne_true]
  rw [value_run, Settings.loadOrDefault_of_load hload, hrequest, answer, hanswer]
  rfl

/-- What a run has stored is there for the next one.  Where the settings file is missing or can be loaded, a run that is
given a line map or a root for a script and succeeds leaves a file that loads to the settings before with the given
values in the block of the script, or with a new block of these values at the end where there was none; all other
blocks, their order and the form of answers are as they were.  The same run once more has nothing to change, says so and
leaves all files.  In the same way a run that clears a script removes its line map and nothing else, and writes nothing
where none is stored.  The next run looks for its settings where this one did; only where the way to the settings of the
user leads through the place of the file of the working directory, what was made there hides them. -/
theorem edits_persist (env : Environment) (t : Tree) (input : ByteArray) (invocation : Invocation)
    (hload : Settings.load t (Settings.defaultPath env t invocation.settingsPath) = .ok s)
    (hfault : (invocation.run env t input).value.fault = none) :
    let path := Settings.defaultPath env t invocation.settingsPath
    let outcome := (invocation.run env t input).value
    (∀ script lineMap root, invocation.request = .contextSet script lineMap root →
      (∃ after, Settings.load outcome.tree path = .ok after ∧
        s.Changed script (withGiven lineMap root)
          (if lineMap.isSome || root.isSome then [⟨script, lineMap, root⟩] else []) after) ∧
      (∀ again, Settings.defaultPath env outcome.tree invocation.settingsPath = path →
        (invocation.run env outcome.tree again).value =
          ⟨[Style.say ⟨env.coloured⟩ .info "Nothing to change"], none, outcome.tree⟩) ∧
      (Settings.defaultPath env outcome.tree invocation.settingsPath = path ∨
        path ≠ Settings.localPath ∧ t.exists? Settings.localPath = false ∧
          outcome.tree.exists? Settings.localPath = true)) ∧
    (∀ script, invocation.request = .contextClear script →
      (∃ after, Settings.load outcome.tree path = .ok after ∧ s.Changed script (·.set .lineMap none) [] after) ∧
      (s.get? script .lineMap = none → outcome.tree = t)) := by
  intro path outcome
  constructor
  · intro script lineMap root hrequest
    have hinteractive : ∀ map, invocation.request ≠ .interactive map := by
      rw [hrequest]
      exact nofun
    have hafter := load_run hinteractive hload hfault
    rw [hrequest, getD_edited_contextSet] at hafter
    refine ⟨⟨_, hafter, changed_storeBoth script lineMap root s⟩, fun again hpath => ?_,
      defaultPath_run hinteractive hfault⟩
    apply value_run_of_unchanged hrequest
    · rw [hpath]
      exact hafter
    · rw [storeBoth_again]
  · intro script hrequest
    have hinteractive : ∀ map, invocation.request ≠ .interactive map := by
      rw [hrequest]
      exact nofun
    have hafter := load_run hinteractive hload hfault
    rw [hrequest] at hafter
    refine ⟨⟨_, hafter, changed_contextClear s script⟩, fun hnone => ?_⟩
    have hedited : edited s (.contextClear script) = none := by
      rw [edited_contextClear, if_neg fun hne => hne hnone]
    have htree : outcome.tree = _ := tree_run hinteractive
    rw [htree, Settings.loadOrDefault_of_load hload, hrequest, hedited]
    rfl

/-- Settings in which a script has two blocks, of which the second has a line map. -/
def twiceSample : Settings :=
  ⟨some "json", [⟨"a.js", some "a.map", none⟩, ⟨"out.js", none, some "/src"⟩, ⟨"out.js", some "old.map", none⟩]⟩

/-- A tree with these settings, in an environment that names none. -/
def twiceTree : Environment × Tree :=
  (⟨false, none, none, none⟩, (Tree.below ["work"]).put ["work", "s.toml"] (.file twiceSample.text.toUTF8))

/-- An invocation with the file of these settings. -/
def twiceInvocation (request : Request) : Invocation := ⟨request, .warn, some "s.toml"⟩

/-- A request to store a line map in the first of the blocks. -/
def twiceStoring : Request := .contextSet "out.js" (some "out.map") none

private theorem load_twiceTree : Settings.load twiceTree.2 "s.toml" = .ok twiceSample := by
  have hread : twiceTree.2.read "s.toml" = .ok twiceSample.text.toUTF8 := by rfl
  rw [Settings.load_of_read hread, Settings.ofContent_text]

private theorem fault_twiceInvocation {request : Request} (h : request = twiceStoring ∨ request = .contextClear "a.js" ∨
    request = .contextClear "out.js") :
    ((twiceInvocation request).run twiceTree.1 twiceTree.2 .empty).value.fault = none := by
  have hpath : Settings.defaultPath twiceTree.1 twiceTree.2 (twiceInvocation request).settingsPath = "s.toml" := by rfl
  rw [value_run, hpath, Settings.loadOrDefault_of_load load_twiceTree]
  obtain rfl | rfl | rfl := h
  · rfl
  · rfl
  · rfl

/-- A line map is stored in the first block of a script, and again with no effect; that of another script is removed;
and nothing is removed of a script whose first block has no line map. -/
theorem edits_persist_sample :
    Settings.load twiceTree.2 "s.toml" = .ok twiceSample ∧
    ((twiceInvocation twiceStoring).run twiceTree.1 twiceTree.2 .empty).value.fault = none ∧
    (∃ after, Settings.load ((twiceInvocation twiceStoring).run twiceTree.1 twiceTree.2 .empty).value.tree "s.toml" =
        .ok after ∧
      twiceSample.Changed "out.js" (withGiven (some "out.map") none) [⟨"out.js", some "out.map", none⟩] after) ∧
    ((twiceInvocation twiceStoring).run twiceTree.1
        ((twiceInvocation twiceStoring).run twiceTree.1 twiceTree.2 .empty).value.tree .empty).value =
      ⟨[Style.say ⟨false⟩ .info "Nothing to change"], none,
        ((twiceInvocation twiceStoring).run twiceTree.1 twiceTree.2 .empty).value.tree⟩ ∧
    ((twiceInvocation (.contextClear "a.js")).run twiceTree.1 twiceTree.2 .empty).value.fault = none ∧
    (∃ after, Settings.load ((twiceInvocation (.contextClear "a.js")).run twiceTree.1 twiceTree.2 .empty).value.tree
        "s.toml" = .ok after ∧ twiceSample.Changed "a.js" (·.set .lineMap none) [] after) ∧
    ((twiceInvocation (.contextClear "out.js")).run twiceTree.1 twiceTree.2 .empty).value.fault = none ∧
    twiceSample.get? "out.js" .lineMap = none ∧
    ((twiceInvocation (.contextClear "out.js")).run twiceTree.1 twiceTree.2 .empty).value.tree = twiceTree.2 := by
  have hpath (t : Tree) : Settings.defaultPath twiceTree.1 t (some "s.toml") = "s.toml" := by rfl
  have hstored := fault_twiceInvocation (.inl rfl)
  have hcleared := fault_twiceInvocation (.inr (.inl rfl))
  have hkept := fault_twiceInvocation (.inr (.inr rfl))
  have hset := (edits_persist twiceTree.1 twiceTree.2 .empty (twiceInvocation twiceStoring) load_twiceTree
    hstored).1 _ _ _ rfl
  have hclear := (edits_persist twiceTree.1 twiceTree.2 .empty (twiceInvocation (.contextClear "a.js")) load_twiceTree
    hcleared).2 _ rfl
  have hkeep := (edits_persist twiceTree.1 twiceTree.2 .empty (twiceInvocation (.contextClear "out.js")) load_twiceTree
    hkept).2 _ rfl
  -- where the settings are does not depend on the tree, as they are named
  have hagain := hset.2.1 .empty ((hpath _).trans (hpath twiceTree.2).symm)
  exact ⟨load_twiceTree, hstored, hset.1, hagain, hcleared, hclear.1, hkept, by rfl, hkeep.2 rfl⟩

/-- A tree without settings, in an environment that keeps those of the user below the place of the file of the working
directory. -/
def hiddenTree : Environment × Tree :=
  (⟨false, none, some "home", some "/work/.mapping-debug.toml"⟩, Tree.below ["work"])

/-- What `context set --url out.js --source-map out.map` asks for. -/
def hiddenStoring : Invocation := ⟨.contextSet "out.js" (some "out.map") none, .warn, none⟩

/-- What was stored need not be found.  The first run succeeds and makes directories for the settings of the user, the
outermost in the place of the file of the working directory, which the second run takes for its settings: it finds none
in it and fails to save.  A line map in the second block of a script is not found either, and not removed. -/
theorem edits_not_found :
    (read hiddenTree.1 ["context", "set", "--url", "out.js", "--source-map", "out.map"] = .ok hiddenStoring ∧
      Settings.load hiddenTree.2 (Settings.defaultPath hiddenTree.1 hiddenTree.2 none) = .ok .empty ∧
      (hiddenStoring.run hiddenTree.1 hiddenTree.2 .empty).value.fault = none ∧
      let outcome := (hiddenStoring.run hiddenTree.1
        (hiddenStoring.run hiddenTree.1 hiddenTree.2 .empty).value.tree .empty).value
      outcome.printed = [] ∧ outcome.fault = some (.file (.unwritableSettings ".mapping-debug.toml" .isDirectory))) ∧
    read twiceTree.1 ["--settings", "s.toml", "context", "clear", "--url", "out.js"] =
      .ok (twiceInvocation (.contextClear "out.js")) ∧
    Settings.load twiceTree.2 "s.toml" = .ok twiceSample ∧
    ((twiceInvocation (.contextClear "out.js")).run twiceTree.1 twiceTree.2 .empty).value.fault = none ∧
    Settings.load ((twiceInvocation (.contextClear "out.js")).run twiceTree.1 twiceTree.2 .empty).value.tree "s.toml" =
      .ok twiceSample ∧
    ⟨"out.js", some "old.map", none⟩ ∈ twiceSample.blocks := by
  have hpath : Settings.defaultPath twiceTree.1 twiceTree.2 (some "s.toml") = "s.toml" := by rfl
  have hcleared := fault_twiceInvocation (.inr (.inr rfl))
  have hrequest : ∀ map, (twiceInvocation (.contextClear "out.js")).request ≠ .interactive map := nofun
  have hkept : Settings.load ((twiceInvocation (.contextClear "out.js")).run twiceTree.1 twiceTree.2 .empty).value.tree
      (Settings.defaultPath twiceTree.1 twiceTree.2 (some "s.toml")) = .ok twiceSample :=
    load_run (s := twiceSample) hrequest load_twiceTree hcleared
  rw [hpath] at hkept
  exact ⟨⟨by decide +kernel, by rfl, by rfl, by rfl, by rfl⟩, by decide +kernel, load_twiceTree, hcleared, hkept,
    by decide⟩

end LineAtlas.CommandLine
