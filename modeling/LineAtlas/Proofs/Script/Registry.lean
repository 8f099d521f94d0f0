import LineAtlas.Proofs.Script.Mapper
import LineAtlas.Script.Registry
import Mathlib.Data.List.Perm.Basic

/-!
# Registries in another order

A registry gives the answer of its first mapper that has one.  Where no script has a loaded map in two mappers
(`Separate`) there is only one that can have one, and the order of registration does not count.

The key fact is that a mapper without a map for a script has nothing to say about it and stays as it is (`About`).  So
one call changes all mappers alike in any order (`Separate.value_put`), and its reply does not depend on the order
(`Separate.alike_reply`), but for the order of the generated lines that a reverse query finds.
-/

namespace LineAtlas.Registry

/-- No script has a loaded map in two mappers. -/
def Separate (r : Registry) : Prop :=
  r.Pairwise fun m m' => ∀ script, m.index? script = none ∨ m'.index? script = none

/-- What can be asked of a registry. -/
inductive Call where
  | canMap (script : String) (line : Nat)
  | mappedSource (settings : Settings) (script : String) (line offset : Nat)
  | mappedName (script : String) (line offset : Nat)
  | convertName (value : String) (asKey : Bool)
  | reverse (file : String) (line : Nat)

inductive Reply where
  | truth (b : Bool)
  | source (m : Option MappedSource)
  | name (symbol : Option String)
  | readable (n : ReadableName)
  | lines (places : List Location)

/-- Replies that are the same but for the order of generated lines. -/
inductive Reply.Alike : Reply → Reply → Prop where
  | same (reply : Reply) : Alike reply reply
  | lines {places places' : List Location} (h : places.Perm places') : Alike (.lines places) (.lines places')

/-- Puts a call to a registry. -/
def Call.put : Call → StateT Registry Told Reply
  | canMap script line => return .truth ((← get).canMap script line)
  | mappedSource settings script line offset => .source <$> Registry.mappedSource settings script line offset
  | mappedName script line offset => .name <$> Registry.mappedName script line offset
  | convertName value asKey => return .readable ((← get).convertName value asKey)
  | reverse file line => .lines <$> Registry.reverse file line

/-- The replies to calls that are put to a registry one after the other. -/
def replies (r : Registry) (calls : List Call) : List Reply := ((calls.mapM Call.put).run r).value.1

/-- The registry after some calls. -/
def after (r : Registry) (calls : List Call) : Registry := ((calls.mapM Call.put).run r).value.2

/-! ### First answers -/

/-- Where those of a list that answer give the same answer, the first answer is that of any of them. -/
private theorem findSome?_eq_some_iff_of_agree {α β : Type} {f : α → Option β} {l : List α}
    (h : ∀ a ∈ l, ∀ b ∈ l, ∀ x y, f a = some x → f b = some y → x = y) {x : β} :
    l.findSome? f = some x ↔ ∃ a ∈ l, f a = some x := by
  constructor
  · exact List.exists_of_findSome?_eq_some
  · rintro ⟨a, ha, hx⟩
    cases hfirst : l.findSome? f with
    | none =>
      rw [List.findSome?_eq_none_iff] at hfirst
      rw [hfirst a ha] at hx
      cases hx
    | some y =>
      obtain ⟨b, hb, hy⟩ := List.exists_of_findSome?_eq_some hfirst
      rw [h b hb a ha y x hy hx]

private theorem findSome?_perm_of_agree {α β : Type} {f : α → Option β} {l l' : List α} (hperm : l.Perm l')
    (h : ∀ a ∈ l, ∀ b ∈ l, ∀ x y, f a = some x → f b = some y → x = y) : l'.findSome? f = l.findSome? f := by
  have h' : ∀ a ∈ l', ∀ b ∈ l', ∀ x y, f a = some x → f b = some y → x = y :=
    fun a ha b hb => h a (hperm.mem_iff.2 ha) b (hperm.mem_iff.2 hb)
  ext x
  rw [findSome?_eq_some_iff_of_agree h, findSome?_eq_some_iff_of_agree h']
  simp only [hperm.mem_iff]

/-- A probe to which mappers without a map of a script have nothing to say, and which leaves them as they are. -/
def About {α : Type} (script : String) (probe : StateT Mapper Told (Option α)) : Prop :=
  ∀ m : Mapper, m.index? script = none → (probe.run m).value = (none, m)

theorem about_mappedSource (settings : Settings) (script : String) (line offset : Nat) :
    About script (Mapper.mappedSource settings script line offset) := by
  intro m h
  rw [Mapper.value_mappedSource, Mapper.record?, h, Mapper.ask_of_none h]
  rfl

theorem about_mappedName (script : String) (line offset : Nat) :
    About script (Mapper.mappedName script line offset) := by
  intro m h
  have hcan : m.canMap script line = false := by
    unfold Mapper.canMap
    rw [h]
    rfl
  rw [Mapper.value_mappedName, hcan]
  rfl

variable {r r' : Registry} {α : Type} {script : String} {probe : StateT Mapper Told (Option α)}

/-- Each of separate mappers changes as if it were the only one: those after the first answer have no map to change. -/
theorem Separate.value_firstMatch (h : Separate r) (habout : About script probe) :
    (firstMatch probe r).value =
      (r.findSome? fun m => (probe.run m).value.1, r.map fun m => (probe.run m).value.2) := by
  induction r with
  | nil => rfl
  | cons m r ih =>
    obtain ⟨hm, hr⟩ := List.pairwise_cons.1 h
    unfold firstMatch
    rw [Told.value_bind, List.findSome?_cons, List.map_cons]
    cases hprobe : (probe.run m).value with
    | mk answer changed =>
      cases answer with
      | none =>
        dsimp only
        rw [Told.value_bind, ih hr]
        rfl
      | some answer =>
        have hloaded : m.index? script ≠ none := by
          intro hnone
          rw [habout m hnone] at hprobe
          cases hprobe
        have hrest : r.map (fun m => (probe.run m).value.2) = r := by
          refine (List.map_congr_left fun m' hm' => ?_).trans (List.map_id r)
          exact congrArg Prod.snd (habout m' ((hm m' hm' script).resolve_left hloaded))
        dsimp only
        rw [hrest]
        rfl

/-- The first answer of separate mappers does not depend on their order, since only one of them has an answer. -/
theorem Separate.findSome?_perm (h : Separate r) (hperm : r.Perm r') (habout : About script probe) :
    r'.findSome? (fun m => (probe.run m).value.1) = r.findSome? fun m => (probe.run m).value.1 := by
  have hloaded {m : Mapper} {x : α} (hx : (probe.run m).value.1 = some x) : m.index? script ≠ none := by
    intro hnone
    rw [habout m hnone] at hx
    cases hx
  have hsymm : Std.Symm fun m m' : Mapper => ∀ script, m.index? script = none ∨ m'.index? script = none :=
    ⟨fun _ _ hmaps script => (hmaps script).symm⟩
  refine findSome?_perm_of_agree hperm fun m hm m' hm' x y hx hy => ?_
  by_cases hsame : m = m'
  · subst hsame
    exact Option.some.inj (hx.symm.trans hy)
  · exact ((List.Pairwise.forall h hm hm' hsame script).elim (hloaded hx) (hloaded hy)).elim

/-! ### One call -/

/-- The reply to a call, of which the order of the mappers is not to be seen. -/
def Call.reply (r : Registry) : Call → Reply
  | canMap script line => .truth (r.canMap script line)
  | mappedSource settings script line offset =>
    .source (r.findSome? fun m => ((Mapper.mappedSource settings script line offset).run m).value.1)
  | mappedName script line offset =>
    .name (r.findSome? fun m => ((Mapper.mappedName script line offset).run m).value.1)
  | convertName value asKey => .readable (r.convertName value asKey)
  | reverse file line => .lines (r.flatMap fun m => m.hits file line)

/-- What becomes of a mapper to which a call is put. -/
def Call.change : Call → Mapper → Mapper
  | mappedSource settings script line offset, m => ((Mapper.mappedSource settings script line offset).run m).value.2
  | mappedName script line offset, m => ((Mapper.mappedName script line offset).run m).value.2
  | reverse file line, m => ((Mapper.reverse file line).run m).value.2
  | _, m => m

theorem value_reverse (r : Registry) (file : String) (line : Nat) :
    ((Registry.reverse file line).run r).value =
      (r.flatMap fun m => m.hits file line, r.map fun m => ((Mapper.reverse file line).run m).value.2) := by
  induction r with
  | nil => rfl
  | cons m r ih =>
    have start : ((Registry.reverse file line).run (m :: r)).value =
        (((Mapper.reverse file line).run m).value.1 ++ ((Registry.reverse file line).run r).value.1,
          ((Mapper.reverse file line).run m).value.2 :: ((Registry.reverse file line).run r).value.2) := rfl
    rw [start, ih, Mapper.value_reverse, List.flatMap_cons, List.map_cons]

private theorem value_map_run {α β : Type} (f : α → β) {x : StateT Registry Told α} {answer : α}
    (h : (x.run r).value = (answer, r')) : ((f <$> x).run r).value = (f answer, r') := by
  have start : ((f <$> x).run r).value = (f (x.run r).value.1, (x.run r).value.2) := rfl
  rw [start, h]

/-- A call to separate mappers is put to each of them. -/
theorem Separate.value_put (h : Separate r) (call : Call) :
    (call.put.run r).value = (call.reply r, r.map call.change) := by
  cases call with
  | canMap script line => exact Prod.ext rfl (List.map_id r).symm
  | mappedSource settings script line offset =>
    exact value_map_run Reply.source (h.value_firstMatch (about_mappedSource settings script line offset))
  | mappedName script line offset =>
    exact value_map_run Reply.name (h.value_firstMatch (about_mappedName script line offset))
  | convertName value asKey => exact Prod.ext rfl (List.map_id r).symm
  | reverse file line => exact value_map_run Reply.lines (value_reverse r file line)

/-- No call gives a mapper a map that it did not have, or takes one away. -/
theorem index?_change_eq_none_iff (call : Call) (m : Mapper) (script : String) :
    (call.change m).index? script = none ↔ m.index? script = none := by
  have hask {α : Type} (asked : String) (q : Query α) :
      ((Mapper.ask asked q).run m).value.2.index? script = none ↔ m.index? script = none := by
    rw [Mapper.index?_ask]
    split
    · rename_i hscript
      rw [Option.map_eq_none_iff, hscript]
    · rfl
  cases call with
  | mappedSource settings asked line offset =>
    unfold Call.change
    dsimp only
    rw [Mapper.value_mappedSource]
    exact hask _ _
  | mappedName asked line offset =>
    unfold Call.change
    dsimp only
    rw [Mapper.value_mappedName]
    split
    · exact hask _ _
    · rfl
  | reverse file line =>
    unfold Call.change
    dsimp only
    rw [Mapper.index?_reverse, Option.map_eq_none_iff]
  | _ => rfl

theorem Separate.map_change (h : Separate r) (call : Call) : Separate (r.map call.change) := by
  unfold Separate
  rw [List.pairwise_map]
  simp only [index?_change_eq_none_iff]
  exact h

theorem Separate.perm (h : Separate r) (hperm : r.Perm r') : Separate r' :=
  List.Pairwise.perm h hperm fun hmaps script => (hmaps script).symm

/-! ### Another order -/

theorem canMap_perm (hperm : r.Perm r') (script : String) (line : Nat) :
    r'.canMap script line = r.canMap script line := (hperm.any_eq).symm

/-- All mappers that convert names convert them alike. -/
theorem convertName_perm (hperm : r.Perm r') (value : String) (asKey : Bool) :
    r'.convertName value asKey = r.convertName value asKey := by
  have hconvert (m : Mapper) (n : ReadableName) (h : m.convertName value asKey = some n) :
      n = Identifier.convert value asKey := by
    cases m with
    | compiled c => exact (Option.some.inj h).symm
    | modules t => cases h
  unfold convertName
  rw [findSome?_perm_of_agree hperm fun m _ m' _ n n' hn hn' => (hconvert m n hn).trans (hconvert m' n' hn').symm]

theorem Separate.alike_reply (h : Separate r) (hperm : r.Perm r') (call : Call) :
    (call.reply r').Alike (call.reply r) := by
  cases call with
  | canMap script line =>
    unfold Call.reply
    dsimp only
    rw [canMap_perm hperm]
    exact .same _
  | mappedSource settings script line offset =>
    unfold Call.reply
    dsimp only
    rw [h.findSome?_perm hperm (about_mappedSource settings script line offset)]
    exact .same _
  | mappedName script line offset =>
    unfold Call.reply
    dsimp only
    rw [h.findSome?_perm hperm (about_mappedName script line offset)]
    exact .same _
  | convertName value asKey =>
    unfold Call.reply
    dsimp only
    rw [convertName_perm hperm]
    exact .same _
  | reverse file line => exact .lines (hperm.symm.flatMap_right _)

theorem replies_cons (r : Registry) (call : Call) (calls : List Call) :
    replies r (call :: calls) = (call.put.run r).value.1 :: replies (call.put.run r).value.2 calls := by
  unfold replies
  rw [List.mapM_cons, StateT.run_bind, Told.value_bind]
  rfl

theorem after_cons (r : Registry) (call : Call) (calls : List Call) :
    after r (call :: calls) = after (call.put.run r).value.2 calls := by
  unfold after
  rw [List.mapM_cons, StateT.run_bind, Told.value_bind]
  rfl

/-- Calls are replied to alike in any order of separate mappers, which are then separate mappers in another order. -/
theorem Separate.alike_replies (h : Separate r) (hperm : r.Perm r') (calls : List Call) :
    List.Forall₂ Reply.Alike (replies r' calls) (replies r calls) ∧
      Separate (after r calls) ∧ (after r calls).Perm (after r' calls) := by
  induction calls generalizing r r' with
  | nil => exact ⟨.nil, h, hperm⟩
  | cons call calls ih =>
    have h' := h.perm hperm
    rw [replies_cons, replies_cons, after_cons, after_cons, h.value_put, h'.value_put]
    obtain ⟨hreplies, hafter⟩ := ih (h.map_change call) (hperm.map call.change)
    exact ⟨.cons (h.alike_reply hperm call) hreplies, hafter⟩

/-- Where no script has a loaded map in two mappers the order of registration does not matter: whatever has been asked
of two registries of the same mappers, they have replied alike, and they give the same answers to whatever is asked
next, with the same generated lines in another order. -/
theorem order_does_not_matter (h : Separate r) (hperm : r.Perm r') (calls : List Call) :
    List.Forall₂ Reply.Alike (replies r' calls) (replies r calls) ∧
    (∀ script line, (after r' calls).canMap script line = (after r calls).canMap script line) ∧
    (∀ settings script line offset,
      ((mappedSource settings script line offset).run (after r' calls)).value.1 =
        ((mappedSource settings script line offset).run (after r calls)).value.1) ∧
    (∀ script line offset,
      ((mappedName script line offset).run (after r' calls)).value.1 =
        ((mappedName script line offset).run (after r calls)).value.1) ∧
    (∀ value asKey, (after r' calls).convertName value asKey = (after r calls).convertName value asKey) ∧
    (∀ file line,
      ((reverse file line).run (after r' calls)).value.1.Perm ((reverse file line).run (after r calls)).value.1) := by
  obtain ⟨hreplies, hafter, hperm'⟩ := h.alike_replies hperm calls
  have hafter' := hafter.perm hperm'
  refine ⟨hreplies, canMap_perm hperm', fun settings script line offset => ?_, fun script line offset => ?_,
    convertName_perm hperm', fun file line => ?_⟩
  · have habout := about_mappedSource settings script line offset
    show (firstMatch _ _).value.1 = (firstMatch _ _).value.1
    rw [hafter.value_firstMatch habout, hafter'.value_firstMatch habout]
    exact hafter.findSome?_perm hperm' habout
  · have habout := about_mappedName script line offset
    show (firstMatch _ _).value.1 = (firstMatch _ _).value.1
    rw [hafter.value_firstMatch habout, hafter'.value_firstMatch habout]
    exact hafter.findSome?_perm hperm' habout
  · rw [value_reverse, value_reverse]
    exact hperm'.symm.flatMap_right _

/-- A script and a module with a map each. -/
def sample : Registry :=
  [.compiled ⟨"out.js", some (.ofLineMap (ModuleTable.linesSampleMap "out.js"))⟩,
    .modules ⟨[("lib.js", some (.ofLineMap (ModuleTable.linesSampleMap "lib.js")))]⟩]

theorem separate_sample : Separate sample := by
  unfold Separate sample
  refine List.pairwise_pair.2 fun script => ?_
  by_cases hscript : "out.js" = script
  · subst hscript
    exact .inr rfl
  · exact .inl (if_neg hscript)

/-- Where the module stands before the compiled script it answers for its script as it does behind it, and both
generated lines are found. -/
theorem order_does_not_matter_sample :
    Separate sample ∧ sample.Perm (List.reverse sample) ∧
    ((mappedSource .empty "lib.js" 1 2).run (after (List.reverse sample) [.canMap "out.js" 1])).value.1 =
      some ⟨⟨0, some "a.js", some 3, none, [], false⟩, .ok (some "a.js")⟩ ∧
    ((reverse "a.js" 3).run (after (List.reverse sample) [.canMap "out.js" 1])).value.1.Perm
      [⟨"out.js", 1⟩, ⟨"lib.js", 1⟩] := by
  have hperm : sample.Perm (List.reverse sample) := (List.reverse_perm sample).symm
  obtain ⟨-, -, sources, -, -, lines⟩ := order_does_not_matter separate_sample hperm [.canMap "out.js" 1]
  have hafter : after sample [.canMap "out.js" 1] = sample := rfl
  have hsource : ((mappedSource .empty "lib.js" 1 2).run sample).value.1 =
      some ⟨⟨0, some "a.js", some 3, none, [], false⟩, .ok (some "a.js")⟩ := by
    have hfirst := separate_sample.value_firstMatch (about_mappedSource .empty "lib.js" 1 2)
    simp only [Mapper.value_mappedSource] at hfirst
    show (firstMatch _ _).value.1 = _
    rw [hfirst]
    rfl
  have hhits : (sample.flatMap fun m => m.hits "a.js" 3) = [⟨"out.js", 1⟩, ⟨"lib.js", 1⟩] := by decide +kernel
  have hlines : ((reverse "a.js" 3).run sample).value.1 = [⟨"out.js", 1⟩, ⟨"lib.js", 1⟩] := by
    rw [value_reverse, hhits]
  refine ⟨separate_sample, hperm, ?_, ?_⟩
  · rw [sources, hafter, hsource]
  · have hsame := lines "a.js" 3
    rw [hafter, hlines] at hsame
    exact hsame

end LineAtlas.Registry
