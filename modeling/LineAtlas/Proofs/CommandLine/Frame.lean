import LineAtlas.Proofs.CommandLine.Saving

/-!
# What runs leave alone

A run changes files only by saving settings, and it says so: what it prints then differs from what it prints where there
was nothing to change (`tree_of_unchanged`).

The key fact: runs that ask leave all files as they are, also where they fail; runs that store change the settings file
and missing directories around it at most, and nothing where they say that there was nothing to change
(`asking_writes_nothing`).
-/

namespace LineAtlas.CommandLine

open Files (Tree)

variable {style : Style} {t : Tree} {path : String} {settings : Settings}

/-- A message of success can be told from another one of information, whether colours are on or off. -/
theorem say_success_ne_info {said other : String} (h : said ≠ other) :
    style.say .success said ≠ style.say .info other := by
  intro heq
  have hpainted : Tone.success.paint style.coloured said = Tone.info.paint style.coloured other :=
    (String.append_left_inj _).1 (Printed.answer.inj heq)
  cases hcoloured : style.coloured with
  | false =>
    rw [hcoloured] at hpainted
    exact h hpainted
  | true =>
    have hfront (tone : Tone) (message : String) : (tone.paint true message).toList =
        ("\x1b[38;5;" ++ Numeral.ofNat tone.colour ++ "m").toList ++ (message ++ "\x1b[39m").toList := by
      simp [Tone.paint, String.toList_append]
    have hlists := congrArg String.toList hpainted
    rw [hcoloured, hfront, hfront] at hlists
    exact absurd (List.append_inj_left hlists (by decide)) (by decide)

/-- Where it is said that there was nothing to change, nothing was saved. -/
theorem tree_of_unchanged {changed : Bool} {said other : String} (hne : said ≠ other) :
    let answered := (saveIf changed settings t path (style.say .success said) (style.say .info other)).value
    (Outcome.ofAnswer style answered.2 answered.1).printed = [style.say .info other] → answered.2 = t := by
  intro answered hprinted
  have hanswered : answered = _ := value_saveIf ..
  cases changed with
  | false => rw [hanswered, if_neg Bool.false_ne_true]
  | true =>
    rw [hanswered, if_pos rfl] at hprinted
    cases hsaved : (settings.save t path).value.1 with
    | ok done =>
      rw [hsaved] at hprinted
      exact absurd (List.singleton_inj.1 hprinted) (say_success_ne_info hne)
    | error fault =>
      rw [hsaved] at hprinted
      -- a fault prints nothing, or a complaint
      change (if fault.isIncompatible then [upgradeHint style] else []) = _ at hprinted
      split at hprinted
      · cases List.singleton_inj.1 hprinted
      · cases hprinted

/-- The requests that only ask. -/
def Request.OnlyAsks : Request → Prop
  | .check .. | .lookup .. | .files .. | .reverse .. | .name .. | .contextShow _ => True
  | _ => False

theorem changesOnly_run (env : Environment) (t : Tree) (input : ByteArray) {invocation : Invocation}
    (hrequest : ∀ map, invocation.request ≠ .interactive map) :
    t.ChangesOnly (Settings.defaultPath env t invocation.settingsPath) (invocation.run env t input).value.tree := by
  rw [tree_run hrequest]
  cases edited _ invocation.request with
  | none => exact (Tree.Makes.refl t _).changesOnly
  | some s => exact Settings.changesOnly_save s t _

/-- Runs that ask leave all files as they are, whether they fail or not.  Runs that store settings or clear them change
the settings file and the directories around it that were missing, and nothing else; and they change nothing at all
where they say that there was nothing to change. -/
theorem asking_writes_nothing (env : Environment) (t : Tree) (input : ByteArray) (invocation : Invocation) :
    let path := Settings.defaultPath env t invocation.settingsPath
    let style : Style := ⟨env.coloured⟩
    let outcome := (invocation.run env t input).value
    (invocation.request.OnlyAsks → outcome.tree = t) ∧
    (∀ script lineMap root, invocation.request = .contextSet script lineMap root →
      t.ChangesOnly path outcome.tree ∧
      (outcome.printed = [style.say .info "Nothing to change"] → outcome.tree = t)) ∧
    (∀ script, invocation.request = .contextClear script →
      t.ChangesOnly path outcome.tree ∧
      (outcome.printed = [style.say .info ("No line map stored for " ++ script)] → outcome.tree = t)) := by
  intro path style outcome
  refine ⟨fun hasks => ?_, fun script lineMap root hrequest => ⟨?_, ?_⟩, fun script hrequest => ⟨?_, ?_⟩⟩
  · have hinteractive : ∀ map, invocation.request ≠ .interactive map := by
      intro map heq
      rw [heq] at hasks
      exact hasks
    have hedited : edited (Settings.loadOrDefault t path).value invocation.request = none := by
      cases hrequest : invocation.request with
      | contextSet script lineMap root =>
        rw [hrequest] at hasks
        cases hasks
      | contextClear script =>
        rw [hrequest] at hasks
        cases hasks
      | _ => rfl
    have htree : outcome.tree = _ := tree_run hinteractive
    rw [htree, hedited]
    rfl
  · exact changesOnly_run env t input (by rw [hrequest]; exact nofun)
  · have houtcome : outcome = _ := value_run env t input invocation
    rw [houtcome, hrequest, tree_ofAnswer]
    apply tree_of_unchanged
    intro hsame
    have hfirst := congrArg (·.toList.head?) hsame
    simp [String.toList_append] at hfirst
  · exact changesOnly_run env t input (by rw [hrequest]; exact nofun)
  · have houtcome : outcome = _ := value_run env t input invocation
    rw [houtcome, hrequest, tree_ofAnswer]
    apply tree_of_unchanged
    intro hsame
    have hfirst := congrArg (·.toList.head?) hsame
    simp [String.toList_append] at hfirst

/-- An invocation with a settings file in a directory that is not there yet. -/
def deepSample (request : Request) : Invocation := ⟨request, .warn, some "conf/s.toml"⟩

/-- A check fails and leaves the empty tree; a root is stored in a directory that is made for it; and nothing is left to
be cleared of another script. -/
theorem asking_writes_nothing_sample :
    let run (request : Request) : Outcome := ((deepSample request).run unclosedTree.1 (.below ["work"]) .empty).value
    Request.OnlyAsks (.check (.file "gone.map" none) false) ∧
    (run (.check (.file "gone.map" none) false)).fault ≠ none ∧
    (run (.check (.file "gone.map" none) false)).tree = .below ["work"] ∧
    (run (.contextSet "out.js" none (some "/src"))).tree.node? ["work", "conf"] = some .directory ∧
    Tree.ChangesOnly (.below ["work"]) "conf/s.toml" (run (.contextSet "out.js" none (some "/src"))).tree ∧
    (run (.contextClear "more.js")).printed = [Style.say ⟨false⟩ .info "No line map stored for more.js"] ∧
    (run (.contextClear "more.js")).tree = .below ["work"] := by
  intro run
  have hasked := asking_writes_nothing unclosedTree.1 (.below ["work"]) .empty
    (deepSample (.check (.file "gone.map" none) false))
  have hstored := asking_writes_nothing unclosedTree.1 (.below ["work"]) .empty
    (deepSample (.contextSet "out.js" none (some "/src")))
  have hcleared := asking_writes_nothing unclosedTree.1 (.below ["work"]) .empty (deepSample (.contextClear "more.js"))
  have hprinted : (run (.contextClear "more.js")).printed =
      [Style.say ⟨false⟩ .info "No line map stored for more.js"] := by rfl
  refine ⟨trivial, ?_, hasked.1 trivial, by rfl, (hstored.2.1 _ _ _ rfl).1, hprinted, (hcleared.2.2 _ rfl).2 hprinted⟩
  have hfault : (run (.check (.file "gone.map" none) false)).fault =
      some (.file (.unreadableMap "gone.map" .noEntry)) := by rfl
  rw [hfault]
  exact nofun

end LineAtlas.CommandLine
