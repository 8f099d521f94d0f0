import LineAtlas.Proofs.CharMap.Resolve
import LineAtlas.Proofs.Script.Registry

/-!
# Answers of a registry that fit together

A registry goes through its mappers anew for each question, and the first answer may be that of another mapper each
time.  Still a position with a record is on a line that can be mapped (`Mapper.canMap_of_record?`), and a name is that
of a record.  No call changes the records that a registry would find (`forall₂_after`).

The key fact: whatever a registry has been asked before, a mapped source means that the line can be mapped and a mapped
name means that there is a mapped source, with that name where only one mapper has a map of the script
(`answers_fit`).
-/

namespace LineAtlas

theorem LineMap.hasMapping_of_mappingAt? {m : LineMap} {line offset id : Nat} (h : m.mappingAt? line offset = some id) :
    m.hasMapping line = true := by
  unfold mappingAt? at h
  obtain ⟨slot, hslot, -⟩ := Option.bind_eq_some_iff.1 h
  obtain ⟨slots, hslots, hresolve⟩ := Option.bind_eq_some_iff.1 hslot
  have hmem := CharMap.mem_slots_of_resolve hresolve
  unfold hasMapping
  rw [hslots, Option.any_some]
  cases hempty : slots.slots with
  | nil =>
    rw [hempty] at hmem
    cases hmem
  | cons first rest => simp [CharMap.isEmpty, hempty]

namespace Mapper

variable {α : Type} {m later last : Mapper} {script : String}

/-- A mapper whose loaded maps are those of another one, with the same records. -/
def SameRecords (m later : Mapper) : Prop :=
  ∀ script, Option.Rel Index.SameRecords (m.index? script) (later.index? script)

theorem SameRecords.refl (m : Mapper) : m.SameRecords m := by
  intro script
  cases m.index? script with
  | none => exact .none
  | some index => exact .some (.refl index)

theorem SameRecords.trans (h : m.SameRecords later) (h' : later.SameRecords last) : m.SameRecords last := by
  intro script
  have hscript := h script
  have hscript' := h' script
  generalize m.index? script = a, later.index? script = b, last.index? script = c at hscript hscript' ⊢
  cases hscript with
  | none =>
    cases hscript'
    exact .none
  | some hab =>
    cases hscript' with
    | some hbc => exact .some (hab.trans hbc)

theorem sameRecords_ask {q : Query α} (hq : Index.Keeps q) (m : Mapper) (script : String) :
    m.SameRecords ((ask script q).run m).value.2 := by
  intro other
  rw [index?_ask]
  split
  · rename_i hother
    rw [hother]
    cases m.index? script with
    | none => exact .none
    | some index => exact .some (hq index)
  · exact SameRecords.refl m other

theorem sameRecords_reverse (m : Mapper) (file : String) (line : Nat) :
    m.SameRecords ((reverse file line).run m).value.2 := by
  intro other
  rw [index?_reverse]
  cases m.index? other with
  | none => exact .none
  | some index => exact .some (Index.keeps_reverse file line index)

theorem sameRecords_mappedSource (settings : Settings) (m : Mapper) (script : String) (line offset : Nat) :
    m.SameRecords ((mappedSource settings script line offset).run m).value.2 := by
  rw [value_mappedSource]
  exact sameRecords_ask (Index.keeps_recordAt line offset) m script

theorem sameRecords_mappedName (m : Mapper) (script : String) (line offset : Nat) :
    m.SameRecords ((mappedName script line offset).run m).value.2 := by
  rw [value_mappedName]
  split
  · exact sameRecords_ask (Index.keeps_recordAt line offset) m script
  · exact .refl m

theorem SameRecords.record?_eq (h : m.SameRecords later) (script : String) (line offset : Nat) :
    later.record? script line offset = m.record? script line offset := by
  have hscript := h script
  unfold record?
  generalize m.index? script = index, later.index? script = changed at hscript ⊢
  cases hscript with
  | none => rfl
  | some hrecords => exact hrecords.answer_recordAt line offset

theorem SameRecords.canMap_eq (h : m.SameRecords later) (script : String) (line : Nat) :
    later.canMap script line = m.canMap script line := by
  have hscript := h script
  unfold canMap
  generalize m.index? script = index, later.index? script = changed at hscript ⊢
  cases hscript with
  | none => rfl
  | some hrecords => simp [hrecords.map]

theorem canMap_of_record? {line offset : Nat} {record : Record} (h : m.record? script line offset = some record) :
    m.canMap script line = true := by
  obtain ⟨index, hindex, hrecord⟩ := Option.bind_eq_some_iff.1 h
  rw [Index.value_recordAt] at hrecord
  obtain ⟨id, hid, -⟩ := Option.bind_eq_some_iff.1 hrecord
  unfold canMap
  rw [hindex, Option.any_some]
  exact LineMap.hasMapping_of_mappingAt? hid

/-- The test for a slot on the line does not hide a name. -/
theorem answer_mappedName (m : Mapper) (script : String) (line offset : Nat) :
    ((mappedName script line offset).run m).value.1 = (m.record? script line offset).bind Record.symbol? := by
  rw [value_mappedName]
  split
  · rfl
  · rename_i hcan
    cases hrecord : m.record? script line offset with
    | none => rfl
    | some record => exact absurd (canMap_of_record? hrecord) hcan

end Mapper

namespace Registry

variable {α : Type} {r later : Registry} {probe : StateT Mapper Told (Option α)}

/-! ### First answers -/

theorem answer_firstMatch (probe : StateT Mapper Told (Option α)) (r : Registry) :
    (firstMatch probe r).value.1 = r.findSome? fun m => (probe.run m).value.1 := by
  induction r with
  | nil => rfl
  | cons m r ih =>
    unfold firstMatch
    rw [Told.value_bind, List.findSome?_cons]
    obtain ⟨answer, changed⟩ := (probe.run m).value
    cases answer with
    | none => exact ih
    | some answer => rfl

theorem forall₂_firstMatch (hprobe : ∀ m : Mapper, m.SameRecords (probe.run m).value.2) (r : Registry) :
    List.Forall₂ Mapper.SameRecords r (firstMatch probe r).value.2 := by
  induction r with
  | nil => exact .nil
  | cons m r ih =>
    have hm := hprobe m
    unfold firstMatch
    rw [Told.value_bind]
    generalize (probe.run m).value = answered at hm ⊢
    obtain ⟨answer, changed⟩ := answered
    cases answer with
    | none => exact .cons hm ih
    | some answer =>
      -- the mappers behind the one that has answered are not asked
      exact .cons hm (List.forall₂_same.2 fun m' _ => .refl m')

theorem record_mappedSource (settings : Settings) (r : Registry) (script : String) (line offset : Nat) :
    ((mappedSource settings script line offset).run r).value.1.map MappedSource.record =
      r.findSome? fun m => m.record? script line offset := by
  have hfirst := answer_firstMatch (Mapper.mappedSource settings script line offset) r
  have hanswer : ((mappedSource settings script line offset).run r).value.1 = _ := hfirst
  rw [hanswer, List.map_findSome?]
  congr 1
  funext m
  exact m.record_mappedSource settings script line offset

theorem answer_mappedName (r : Registry) (script : String) (line offset : Nat) :
    ((mappedName script line offset).run r).value.1 =
      r.findSome? fun m => (m.record? script line offset).bind Record.symbol? := by
  have hfirst := answer_firstMatch (Mapper.mappedName script line offset) r
  simp only [Mapper.answer_mappedName] at hfirst
  exact hfirst

/-! ### Calls before -/

theorem forall₂_put (call : Call) (r : Registry) :
    List.Forall₂ Mapper.SameRecords r (call.put.run r).value.2 := by
  have hsame : List.Forall₂ Mapper.SameRecords r r := List.forall₂_same.2 fun m _ => .refl m
  cases call with
  | canMap script line => exact hsame
  | convertName value asKey => exact hsame
  | mappedSource settings script line offset =>
    exact forall₂_firstMatch (Mapper.sameRecords_mappedSource settings · script line offset) r
  | mappedName script line offset => exact forall₂_firstMatch (Mapper.sameRecords_mappedName · script line offset) r
  | reverse file line =>
    show List.Forall₂ _ r ((Registry.reverse file line).run r).value.2
    rw [value_reverse, List.forall₂_map_right_iff]
    exact List.forall₂_same.2 fun m _ => m.sameRecords_reverse file line

private theorem forall₂_trans {r later last : Registry} (h : List.Forall₂ Mapper.SameRecords r later)
    (h' : List.Forall₂ Mapper.SameRecords later last) : List.Forall₂ Mapper.SameRecords r last := by
  induction h generalizing last with
  | nil => exact h'
  | cons hm _ ih =>
    cases h' with
    | cons hm' hrest => exact .cons (hm.trans hm') (ih hrest)

/-- Whatever is asked of a registry, its mappers have the records that they had. -/
theorem forall₂_after (r : Registry) (calls : List Call) : List.Forall₂ Mapper.SameRecords r (after r calls) := by
  induction calls generalizing r with
  | nil => exact List.forall₂_same.2 fun m _ => .refl m
  | cons call calls ih =>
    rw [after_cons]
    exact forall₂_trans (forall₂_put call r) (ih _)

private theorem findSome?_eq_of_forall₂ {f : Mapper → Option α} (h : List.Forall₂ Mapper.SameRecords r later)
    (hf : ∀ m m', Mapper.SameRecords m m' → f m' = f m) : later.findSome? f = r.findSome? f := by
  induction h with
  | nil => rfl
  | cons hm _ ih => rw [List.findSome?_cons, List.findSome?_cons, hf _ _ hm, ih]

theorem canMap_after (r : Registry) (calls : List Call) (script : String) (line : Nat) :
    (after r calls).canMap script line = r.canMap script line := by
  unfold canMap
  have h := forall₂_after r calls
  generalize after r calls = later at h ⊢
  induction h with
  | nil => rfl
  | cons hm _ ih => rw [List.any_cons, List.any_cons, hm.canMap_eq, ih]

theorem record_mappedSource_after (settings : Settings) (r : Registry) (calls : List Call) (script : String)
    (line offset : Nat) :
    ((mappedSource settings script line offset).run (after r calls)).value.1.map MappedSource.record =
      r.findSome? fun m => m.record? script line offset := by
  rw [record_mappedSource]
  exact findSome?_eq_of_forall₂ (forall₂_after r calls) fun m m' h => h.record?_eq script line offset

theorem mappedName_after (r : Registry) (calls : List Call) (script : String) (line offset : Nat) :
    ((mappedName script line offset).run (after r calls)).value.1 =
      r.findSome? fun m => (m.record? script line offset).bind Record.symbol? := by
  rw [answer_mappedName]
  refine findSome?_eq_of_forall₂ (forall₂_after r calls) fun m m' h => ?_
  rw [h.record?_eq]

/-! ### Answers together -/

/-- Where at most one item of a list can answer, what is made of the first answer is the first thing that is made of an
answer. -/
private theorem findSome?_bind {α β γ : Type} {f : α → Option β} {g : β → Option γ} {p : α → Bool} {l : List α}
    (hf : ∀ a, p a = false → f a = none) (h : l.countP p ≤ 1) :
    (l.findSome? fun a => (f a).bind g) = (l.findSome? f).bind g := by
  induction l with
  | nil => rfl
  | cons a l ih =>
    rw [List.findSome?_cons, List.findSome?_cons]
    rw [List.countP_cons] at h
    cases hfa : f a with
    | none => exact ih (by omega)
    | some b =>
      have ha : p a = true := by
        by_contra hpa
        rw [hf a (by simpa using hpa)] at hfa
        cases hfa
      -- no other item can answer, so that nothing follows where `g` makes nothing of this answer
      have hzero : l.countP p = 0 := by
        rw [if_pos ha] at h
        omega
      have hrest : (l.findSome? fun a => (f a).bind g) = none := by
        rw [List.findSome?_eq_none_iff]
        intro a' ha'
        rw [hf a' (by simpa using List.countP_eq_zero.1 hzero a' ha')]
        rfl
      dsimp only [Option.bind_some]
      cases hgb : g b with
      | none => exact hrest
      | some c => rfl

/-- The answers of a registry about a position fit together, whatever has been asked before each of them.  Where there
is a mapped source the line can be mapped, and where there is a mapped name there is a mapped source.  The name is that
of the first mapper whose record at the position has one, and where at most one mapper has a map of the script it is
the one of the record in the mapped source. -/
theorem answers_fit (r : Registry) (calls₁ calls₂ calls₃ : List Call) (settings : Settings) (script : String)
    (line offset : Nat) :
    let can := (after r calls₁).canMap script line
    let source := ((mappedSource settings script line offset).run (after r calls₂)).value.1
    let name := ((mappedName script line offset).run (after r calls₃)).value.1
    (source.isSome = true → can = true) ∧
    (name.isSome = true → source.isSome = true) ∧
    (name = r.findSome? fun m => (m.record? script line offset).bind Record.symbol?) ∧
    ((r.countP fun m => (m.index? script).isSome) ≤ 1 → name = (source.map MappedSource.record).bind Record.symbol?) := by
  intro can source name
  have hcan : can = r.canMap script line := canMap_after r calls₁ script line
  have hsource : source.map MappedSource.record = r.findSome? fun m => m.record? script line offset :=
    record_mappedSource_after settings r calls₂ script line offset
  have hname : name = r.findSome? fun m => (m.record? script line offset).bind Record.symbol? :=
    mappedName_after r calls₃ script line offset
  have hsome : source.isSome = (r.findSome? fun m => m.record? script line offset).isSome := by
    rw [← hsource, Option.isSome_map]
  refine ⟨fun h => ?_, fun h => ?_, hname, fun h => ?_⟩
  · rw [hsome, List.findSome?_isSome_iff] at h
    obtain ⟨m, hm, hrecord⟩ := h
    obtain ⟨record, hrecord⟩ := Option.isSome_iff_exists.1 hrecord
    rw [hcan]
    exact List.any_eq_true.2 ⟨m, hm, Mapper.canMap_of_record? hrecord⟩
  · rw [hname, List.findSome?_isSome_iff] at h
    obtain ⟨m, hm, hsymbol⟩ := h
    rw [hsome, List.findSome?_isSome_iff]
    refine ⟨m, hm, ?_⟩
    cases hrecord : m.record? script line offset with
    | none => simp [hrecord] at hsymbol
    | some record => rfl
  · rw [hname, hsource]
    refine findSome?_bind (fun m hm => ?_) h
    have hnone : m.index? script = none := by simpa using hm
    rw [Mapper.record?, hnone]
    rfl

/-- A module without a name and a compiled script with one. -/
def namedSample : Registry :=
  [.modules ⟨[("lib.js", some (.ofLineMap (ModuleTable.linesSampleMap "lib.js")))]⟩,
    .compiled ⟨"out.js",
      some (.ofLineMap ⟨"out.js", [⟨[.mapping 0]⟩], [["a.js"]], ["[\"a.js\", 3, 0, \"start\"]"]⟩)⟩]

/-- After a reverse query the name of the position in the compiled script is that of its record, on a line that can be
mapped. -/
theorem answers_fit_sample :
    let can := (after namedSample [.canMap "lib.js" 1]).canMap "out.js" 1
    let source := ((mappedSource .empty "out.js" 1 2).run (after namedSample [.reverse "a.js" 3])).value.1
    let name := ((mappedName "out.js" 1 2).run (after namedSample [])).value.1
    name = some "start" ∧ source.isSome = true ∧ can = true ∧
    (namedSample.countP fun m => (m.index? "out.js").isSome) ≤ 1 ∧
    (source.map MappedSource.record).bind Record.symbol? = some "start" := by
  intro can source name
  obtain ⟨mapped, named, first, only⟩ :=
    answers_fit namedSample [.canMap "lib.js" 1] [.reverse "a.js" 3] [] .empty "out.js" 1 2
  have hname : name = some "start" := first.trans (by decide +kernel)
  have hsource : source.isSome = true := named (Option.isSome_iff_exists.2 ⟨"start", hname⟩)
  have hcount : (namedSample.countP fun m => (m.index? "out.js").isSome) ≤ 1 := by decide +kernel
  exact ⟨hname, hsource, mapped hsource, hcount, (only hcount).symm.trans hname⟩

end Registry

end LineAtlas
