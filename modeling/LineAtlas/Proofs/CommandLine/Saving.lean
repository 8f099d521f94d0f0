import LineAtlas.CommandLine.Answers
import LineAtlas.Proofs.Settings.Store

/-!
# What runs write

Apart from the history of the prompt a run writes nothing but its settings file, and that only for a request that
changes them: `edited` says to what.  The two requests that store values start from the settings that were loaded, or
from none where the file could not be loaded; then only values that are given make a change (`edited_empty`).

The key fact: a settings file that cannot be loaded keeps its content in every run, but for one that stores given
values, after which it holds these values and nothing else (`run_unloadable`).
-/

namespace LineAtlas.CommandLine

open Files (Tree)

variable {env : Environment} {t : Tree} {input : ByteArray} {path broken : String} {settings s : Settings}
  {request : Request} {content : ByteArray} {fault : Fault}

/-! ### Requests that store values -/

/-- The settings that a request leaves, if it changes them. -/
def edited (settings : Settings) : Request → Option Settings
  | .contextSet script lineMap root =>
    let (mapChanged, settings) := storeGiven script .lineMap lineMap settings
    let (rootChanged, settings) := storeGiven script .root root settings
    if mapChanged || rootChanged then some settings else none
  | .contextClear script =>
    let (changed, _, settings) := (CompiledScript.ofAddress script).clear settings
    if changed then some settings else none
  | _ => none

/-- The settings that hold just what a request gives to be stored. -/
def Request.given? : Request → Option Settings
  | .contextSet script lineMap root =>
    if lineMap.isSome || root.isSome then some ⟨none, [⟨script, lineMap, root⟩]⟩ else none
  | _ => none

/-- Where nothing is stored, nothing can be removed, and what is given is all that there is. -/
theorem edited_empty (request : Request) : edited .empty request = request.given? := by
  cases request with
  | contextSet script lineMap root =>
    cases lineMap <;> cases root <;>
      simp [edited, Request.given?, storeGiven, Settings.set, Settings.get?, Settings.block?, Settings.withBlock,
        Settings.empty, Settings.changeFirst, Settings.Block.set, Settings.Block.empty, Settings.Block.get?]
  | contextClear script => rfl
  | _ => rfl

/-! ### Answers -/

theorem value_saveIf (changed : Bool) (settings : Settings) (t : Tree) (path : String)
    (saved unchanged : Printed) :
    (saveIf changed settings t path saved unchanged).value =
      if changed then ((settings.save t path).value.1.map fun _ => [saved], (settings.save t path).value.2)
      else (.ok [unchanged], t) := by
  unfold saveIf
  split <;> rfl

private theorem tree_saveIf (changed : Bool) (settings : Settings) (t : Tree) (path : String)
    (saved unchanged : Printed) :
    (saveIf changed settings t path saved unchanged).value.2 =
      (if changed then some settings else none).elim t fun s => (s.save t path).value.2 := by
  rw [value_saveIf]
  split <;> rfl

private theorem save_of_saveIf {changed : Bool} {saved unchanged : Printed}
    (h : (if changed then some settings else none) = some s)
    (hanswer : (saveIf changed settings t path saved unchanged).value.1.isOk) : (s.save t path).value.1 = .ok () := by
  obtain ⟨hchanged, hs⟩ := Option.ite_none_right_eq_some.1 h
  obtain rfl := Option.some.inj hs
  rw [value_saveIf, if_pos hchanged] at hanswer
  cases hsave : (settings.save t path).value.1 with
  | ok done => rfl
  | error fault =>
    rw [hsave] at hanswer
    cases hanswer

/-- Unless it starts the prompt, a request leaves all files or saves the settings that it has changed. -/
theorem tree_answer (hrequest : ∀ map, request ≠ .interactive map) :
    (answer env t input path settings request).value.2 =
      (edited settings request).elim t fun s => (s.save t path).value.2 := by
  cases request with
  | contextSet script lineMap root => exact tree_saveIf ..
  | contextClear script => exact tree_saveIf ..
  | interactive map => exact absurd rfl (hrequest map)
  | _ => rfl

/-- A request that changes settings is answered only where they are saved. -/
theorem save_of_answer (h : edited settings request = some s)
    (hanswer : (answer env t input path settings request).value.1.isOk) : (s.save t path).value.1 = .ok () := by
  cases request with
  | contextSet script lineMap root => exact save_of_saveIf h hanswer
  | contextClear script => exact save_of_saveIf h hanswer
  | _ => cases h

/-! ### Runs -/

theorem tree_ofAnswer (style : Style) (tree : Tree) (answered : Except Fault (List Printed)) :
    (Outcome.ofAnswer style tree answered).tree = tree := by
  cases answered <;> rfl

theorem isOk_of_ofAnswer {style : Style} {tree : Tree} {answered : Except Fault (List Printed)}
    (h : (Outcome.ofAnswer style tree answered).fault = none) : answered.isOk := by
  cases answered with
  | ok printed => rfl
  | error fault => cases h

/-- A run answers its request with the settings of its file, or with none where they cannot be loaded. -/
theorem value_run (env : Environment) (t : Tree) (input : ByteArray) (invocation : Invocation) :
    let path := Settings.defaultPath env t invocation.settingsPath
    let answered := (answer env t input path (Settings.loadOrDefault t path).value invocation.request).value
    (invocation.run env t input).value = .ofAnswer ⟨env.coloured⟩ answered.2 answered.1 := rfl

/-- A run leaves all files or saves to its settings file, unless it starts the prompt. -/
theorem tree_run {invocation : Invocation} (hrequest : ∀ map, invocation.request ≠ .interactive map) :
    let path := Settings.defaultPath env t invocation.settingsPath
    (invocation.run env t input).value.tree =
      (edited (Settings.loadOrDefault t path).value invocation.request).elim t fun s => (s.save t path).value.2 := by
  intro path
  rw [value_run, tree_ofAnswer, tree_answer hrequest]

/-- A settings file that cannot be loaded has its content after every run, unless the run is given values to store.  As
such a run starts from no settings, a file that it changes holds then the values that were given, and nothing else; it
does so where the run takes its settings from there and does not fail. -/
theorem run_unloadable (env : Environment) (input : ByteArray) (invocation : Invocation)
    (hread : t.read broken = .ok content) (hload : Settings.load t broken = .error fault)
    (hrequest : ∀ map, invocation.request ≠ .interactive map) :
    let outcome := (invocation.run env t input).value
    (outcome.tree.read broken = .ok content ∨
      ∃ s, invocation.request.given? = some s ∧ outcome.tree.read broken = .ok s.text.toUTF8) ∧
    ∀ s, invocation.request.given? = some s → Settings.defaultPath env t invocation.settingsPath = broken →
      outcome.fault = none → outcome.tree.read broken = .ok s.text.toUTF8 := by
  intro outcome
  have hbroken {path : String} {s : Settings} : Settings.ofContent path content ≠ .ok s := by
    intro hs
    rw [Settings.load_of_read hread, Settings.ofContent_eq_ok_iff.2 (Settings.ofContent_eq_ok_iff.1 hs)] at hload
    cases hload
  have htree : outcome.tree = _ := tree_run hrequest
  rw [htree]
  constructor
  · cases hedited : edited _ invocation.request with
    | none => exact .inl hread
    | some s =>
      refine (Settings.read_save_other s _ hread).imp_right ?_
      rintro ⟨hwritten, hsame⟩
      -- settings that were loaded from a file are not saved to this one, which does not load
      obtain hempty | ⟨found, hfound, hs⟩ := Settings.loadOrDefault_cases t _
      · rw [hempty, edited_empty] at hedited
        exact ⟨s, hedited, hwritten⟩
      · rw [hsame found hfound] at hs
        exact absurd hs hbroken
  · rintro s hgiven rfl hfault
    have hempty : (Settings.loadOrDefault t (Settings.defaultPath env t invocation.settingsPath)).value = .empty := by
      rw [Settings.loadOrDefault, hload]
      rfl
    have hedited := (edited_empty invocation.request).trans hgiven
    rw [← hempty] at hedited
    rw [hedited]
    exact Settings.read_save (save_of_answer hedited (isOk_of_ofAnswer hfault))

/-- Settings whose last text is not closed. -/
def unclosedSample : String :=
  "[output]\nformat = \"json\"\n\n[[context]]\nurl = \"a.js\"\nsource_map = \"a.map\n"

/-- A tree with these settings, in an environment that names none. -/
def unclosedTree : Environment × Tree :=
  (⟨false, none, none, none⟩, (Tree.below ["work"]).put ["work", "s.toml"] (.file unclosedSample.toUTF8))

/-- What `--settings s.toml context set --url out.js --source-map out.map` asks for. -/
def storingSample : Invocation := ⟨.contextSet "out.js" (some "out.map") none, .warn, some "s.toml"⟩

private theorem load_unclosedTree : Settings.load unclosedTree.2 "s.toml" = .error (.settings "s.toml") := by
  have hread : unclosedTree.2.read "s.toml" = .ok unclosedSample.toUTF8 := by rfl
  have hdecoded : String.fromUTF8? unclosedSample.toUTF8 = some unclosedSample := dif_pos unclosedSample.isValidUTF8
  have hrefused : Settings.read unclosedSample = none := by decide +kernel
  rw [Settings.load_of_read hread, Settings.ofContent, hdecoded]
  dsimp only
  rw [hrefused]
  rfl

private theorem value_storingSample :
    let answered := (answer unclosedTree.1 unclosedTree.2 .empty "s.toml" .empty storingSample.request).value
    (storingSample.run unclosedTree.1 unclosedTree.2 .empty).value = .ofAnswer ⟨false⟩ answered.2 answered.1 := by
  have hpath : Settings.defaultPath unclosedTree.1 unclosedTree.2 storingSample.settingsPath = "s.toml" := by rfl
  have hstart : (Settings.loadOrDefault unclosedTree.2 "s.toml").value = .empty := by
    rw [Settings.loadOrDefault, load_unclosedTree]
    rfl
  rw [value_run, hpath, hstart]
  rfl

private theorem fault_storingSample : (storingSample.run unclosedTree.1 unclosedTree.2 .empty).value.fault = none := by
  rw [value_storingSample]
  rfl

/-- What `--settings s.toml context show --url a.js` asks for. -/
def showingSample : Invocation := ⟨.contextShow "a.js", .warn, some "s.toml"⟩

/-- The run that is given a line map replaces the file; one that shows what is stored leaves it. -/
theorem run_unloadable_sample :
    unclosedTree.2.read "s.toml" = .ok unclosedSample.toUTF8 ∧
    Settings.load unclosedTree.2 "s.toml" = .error (.settings "s.toml") ∧
    (∀ map, storingSample.request ≠ .interactive map) ∧
    (storingSample.run unclosedTree.1 unclosedTree.2 .empty).value.tree.read "s.toml" =
      .ok (Settings.text ⟨none, [⟨"out.js", some "out.map", none⟩]⟩).toUTF8 ∧
    (∀ map, showingSample.request ≠ .interactive map) ∧
    (showingSample.run unclosedTree.1 unclosedTree.2 .empty).value.tree.read "s.toml" = .ok unclosedSample.toUTF8 := by
  have hread : unclosedTree.2.read "s.toml" = .ok unclosedSample.toUTF8 := by rfl
  have hstored := (run_unloadable unclosedTree.1 .empty storingSample hread load_unclosedTree nofun).2
  have hshown := (run_unloadable unclosedTree.1 .empty showingSample hread load_unclosedTree nofun).1
  refine ⟨hread, load_unclosedTree, nofun, hstored _ rfl rfl fault_storingSample, nofun, hshown.resolve_right ?_⟩
  rintro ⟨s, hs, -⟩
  cases hs

/-- A settings file that cannot be loaded can lose its content: the last text of this one is not closed, and when the
line map of another script is to be stored, no block of the file is left. -/
theorem unloadable_not_kept :
    read unclosedTree.1 ["--settings", "s.toml", "context", "set", "--url", "out.js", "--source-map", "out.map"] =
      .ok storingSample ∧
    unclosedTree.2.read "s.toml" = .ok unclosedSample.toUTF8 ∧
    Settings.load unclosedTree.2 "s.toml" = .error (.settings "s.toml") ∧
    (storingSample.run unclosedTree.1 unclosedTree.2 .empty).value.tree.read "s.toml" ≠ .ok unclosedSample.toUTF8 := by
  refine ⟨by decide +kernel, by rfl, load_unclosedTree, ?_⟩
  have hrequest : ∀ map, storingSample.request ≠ .interactive map := nofun
  have hreplaced : (storingSample.run unclosedTree.1 unclosedTree.2 .empty).value.tree.read "s.toml" =
      .ok (Settings.text ⟨none, [⟨"out.js", some "out.map", none⟩]⟩).toUTF8 := by
    rw [value_storingSample, tree_ofAnswer, tree_answer hrequest, edited_empty]
    exact Settings.read_save (by rfl)
  rw [hreplaced]
  intro hsame
  exact absurd (Except.ok.inj hsame) (by decide +kernel)

end LineAtlas.CommandLine
