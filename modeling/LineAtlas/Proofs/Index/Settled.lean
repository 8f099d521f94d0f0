import LineAtlas.LineMap.Index
import Mathlib.Data.Finset.Card

/-!
# What an index knows

All that an index has learnt about its line map is which definitions have been decoded.  `settled m s` is the index
over `m` in which exactly the definitions in `s` have been, each with its record or its stand-in, and in which every
definition in `s` that cannot be decoded has been counted once.

* An index of which nothing has been asked is `settled m ∅` (`ofLineMap_eq_settled`).
* Resolving a definition leads from `settled m s` to `settled m (insert id s)`, gives the record that the definition
  stands for, and reports a definition only where it cannot be decoded and is not in `s` (`run_resolve`).
* A point query and a reverse query are runs of such steps over the definitions that they touch (`run_recordAt`,
  `run_reverse`).
-/

namespace LineAtlas

/-! ### Definitions that cannot be decoded -/

/-- The report about a definition, if it cannot be decoded. -/
def LineMap.refusal? (m : LineMap) (id : Nat) : Option Event :=
  m.definitions[id]?.bind fun text =>
    match Record.decode id text with
    | .ok _ => none
    | .error reason => some (.definitionRefused m.script id reason)

/-- A definition that cannot be decoded. -/
def LineMap.Refused (m : LineMap) (id : Nat) : Prop :=
  ∃ text reason, m.definitions[id]? = some text ∧ Record.decode id text = .error reason

namespace LineMap

theorem refusal?_of_error {m : LineMap} {id : Nat} {text : String} {reason : Record.Fault}
    (h : m.definitions[id]? = some text) (hd : Record.decode id text = .error reason) :
    m.refusal? id = some (.definitionRefused m.script id reason) := by
  simp [refusal?, h, hd]

theorem refusal?_of_ok {m : LineMap} {id : Nat} {text : String} {record : Record}
    (h : m.definitions[id]? = some text) (hd : Record.decode id text = .ok record) : m.refusal? id = none := by
  simp [refusal?, h, hd]

theorem refusal?_of_none {m : LineMap} {id : Nat} (h : m.definitions[id]? = none) : m.refusal? id = none := by
  simp [refusal?, h]

theorem isSome_refusal? {m : LineMap} {id : Nat} : (m.refusal? id).isSome = true ↔ m.Refused id := by
  unfold Refused
  cases h : m.definitions[id]? with
  | none => simp [refusal?_of_none h]
  | some text =>
    cases hd : Record.decode id text with
    | ok record => simp [refusal?_of_ok h hd, hd]
    | error reason => simp [refusal?_of_error h hd, hd]

instance (m : LineMap) : DecidablePred m.Refused := fun _ => decidable_of_iff _ isSome_refusal?

theorem refusal?_eq_none {m : LineMap} {id : Nat} (h : ¬ m.Refused id) : m.refusal? id = none := by
  rw [← isSome_refusal?] at h
  simpa using h

theorem Refused.lt {m : LineMap} {id : Nat} (h : m.Refused id) : id < m.definitionCount := by
  obtain ⟨text, _, ht, _⟩ := h
  exact (List.getElem?_eq_some_iff.1 ht).1

/-- The reports on the way when some definitions are resolved one after the other and those in `s` have been before. -/
def refusals (m : LineMap) : Finset Nat → List Nat → List Event
  | _, [] => []
  | s, id :: ids => (if id ∈ s then none else m.refusal? id).toList ++ m.refusals (insert id s) ids

/-- The generated lines that come from a line of a source file, by the records of all mappings that could name it. -/
def hits (m : LineMap) (file : String) (line : Nat) : List Location :=
  (m.mappingsOf file).filterMap fun (generated, id) =>
    if (m.record? id).bind Record.line = some line then some ⟨m.script, generated⟩ else none

end LineMap

namespace Index

/-- What an index answers to a query. -/
def answer {α : Type} (index : Index) (q : Query α) : α := (q.run index).value.1

/-- A definition as it is kept where those in `s` have been decoded. -/
def entryIn (s : Finset Nat) (id : Nat) (text : String) : Entry :=
  if id ∈ s then .decoded (Record.ofDefinition id text) else .raw text

/-- The index in which exactly the definitions in `s` have been decoded. -/
def settled (m : LineMap) (s : Finset Nat) : Index where
  map := m
  entries := (m.definitions.mapIdx (entryIn s)).toArray
  failures := (s.filter m.Refused).card

theorem ofLineMap_eq_settled (m : LineMap) : ofLineMap m = settled m ∅ := by
  have h : m.definitions.mapIdx (entryIn ∅) = m.definitions.map Entry.raw := by
    apply List.ext_getElem?
    intro k
    rw [List.getElem?_mapIdx, List.getElem?_map]
    rfl
  simp [ofLineMap, settled, h]

theorem getElem?_entries_settled (m : LineMap) (s : Finset Nat) (id : Nat) :
    (settled m s).entries[id]? = m.definitions[id]?.map (entryIn s id) := by
  simp [settled]

/-- The decoded definitions of `settled m s` are those in `s`. -/
theorem isDecoded_settled {m : LineMap} {s : Finset Nat} {id : Nat} :
    (settled m s).isDecoded id = true ↔ id ∈ s ∧ id < m.definitionCount := by
  unfold isDecoded LineMap.definitionCount
  rw [getElem?_entries_settled]
  by_cases hid : id < m.definitions.length
  · by_cases hs : id ∈ s <;> simp [hid, hs, entryIn, Entry.isDecoded]
  · simp [hid]

/-! ### One step -/

private theorem entryIn_insert_of_ne {s : Finset Nat} {id k : Nat} (h : k ≠ id) :
    entryIn (insert id s) k = entryIn s k := by
  funext text
  simp [entryIn, h]

private theorem mapIdx_entryIn_insert {texts : List String} {s : Finset Nat} {id : Nat} {text : String}
    (h : texts[id]? = some text) :
    (texts.mapIdx (entryIn s)).set id (.decoded (Record.ofDefinition id text)) =
      texts.mapIdx (entryIn (insert id s)) := by
  apply List.ext_getElem?
  intro k
  rw [List.getElem?_set, List.getElem?_mapIdx, List.getElem?_mapIdx, List.length_mapIdx]
  by_cases hk : id = k
  · subst hk
    have hlt : id < texts.length := (List.getElem?_eq_some_iff.1 h).1
    rw [h]
    simp [hlt, entryIn]
  · rw [entryIn_insert_of_ne (Ne.symm hk)]
    simp [hk]

private theorem card_refused_insert {m : LineMap} {s : Finset Nat} {id : Nat} (h : id ∉ s) :
    ((insert id s).filter m.Refused).card = (s.filter m.Refused).card + if m.Refused id then 1 else 0 := by
  rw [Finset.filter_insert]
  split
  · rw [Finset.card_insert_of_notMem (by simp [h])]
  · rfl

theorem settle_settled {m : LineMap} {s : Finset Nat} {id : Nat} {text : String} (failed : Bool)
    (h : m.definitions[id]? = some text) (hs : id ∉ s) (hf : failed = true ↔ m.Refused id) :
    (settled m s).settle id (Record.ofDefinition id text) failed = settled m (insert id s) := by
  have entries := congrArg List.toArray (mapIdx_entryIn_insert (s := s) h)
  have failures := card_refused_insert (m := m) hs
  simp only [settle, settled, List.setIfInBounds_toArray, entries, failures, Index.mk.injEq, true_and]
  by_cases hr : m.Refused id <;> simp [hr, hf]

/-- An identifier without a definition does not count. -/
theorem settled_insert_of_none {m : LineMap} {s : Finset Nat} {id : Nat} (h : m.definitions[id]? = none) :
    settled m (insert id s) = settled m s := by
  have hr : ¬ m.Refused id := by
    rintro ⟨text, _, ht, _⟩
    simp [h] at ht
  have entries : m.definitions.mapIdx (entryIn (insert id s)) = m.definitions.mapIdx (entryIn s) := by
    apply List.ext_getElem?
    intro k
    rw [List.getElem?_mapIdx, List.getElem?_mapIdx]
    by_cases hk : k = id
    · simp [hk, h]
    · rw [entryIn_insert_of_ne hk]
  simp [settled, entries, Finset.filter_insert, hr]

/-- A definition is decoded when it is first resolved, and reported if that fails. -/
private theorem run_decode {m : LineMap} {s : Finset Nat} {id : Nat} {text : String}
    (h : m.definitions[id]? = some text) (hs : id ∉ s) :
    (decode id text).run (settled m s) =
      ⟨(Record.ofDefinition id text, settled m (insert id s)), (m.refusal? id).toList⟩ := by
  unfold decode
  cases hd : Record.decode id text with
  | ok record =>
    have hr : ¬ m.Refused id := by
      rintro ⟨text', reason, ht, he⟩
      rw [h, Option.some.injEq] at ht
      rw [← ht, hd] at he
      cases he
    have hrecord : Record.ofDefinition id text = record := by simp [Record.ofDefinition, hd]
    rw [← settle_settled false h hs (by simp [hr]), hrecord, LineMap.refusal?_of_ok h hd]
    rfl
  | error reason =>
    have hr : m.Refused id := ⟨text, reason, h, hd⟩
    have hrecord : Record.ofDefinition id text = .standIn id := by simp [Record.ofDefinition, hd]
    rw [← settle_settled true h hs (by simp [hr]), hrecord, LineMap.refusal?_of_error h hd]
    rfl

theorem resolve_run (index : Index) (id : Nat) :
    (resolve id).run index =
      (match index.entries[id]? with
        | none => pure none
        | some (.decoded record) => pure (some record)
        | some (.raw text) => some <$> decode id text : Query (Option Record)).run index := rfl

/-- What resolving a definition answers, leaves behind and reports. -/
theorem run_resolve (m : LineMap) (s : Finset Nat) (id : Nat) :
    (resolve id).run (settled m s) =
      ⟨(m.record? id, settled m (insert id s)), (if id ∈ s then none else m.refusal? id).toList⟩ := by
  rw [resolve_run, getElem?_entries_settled]
  cases h : m.definitions[id]? with
  | none =>
    rw [settled_insert_of_none h, LineMap.refusal?_of_none h, LineMap.record?, h, ite_self]
    rfl
  | some text =>
    rw [LineMap.record?, h]
    by_cases hs : id ∈ s
    · simp only [Option.map_some, entryIn, if_pos hs, Finset.insert_eq_of_mem hs]
      rfl
    · simp only [Option.map_some, entryIn, if_neg hs, StateT.run_map, run_decode h hs, Told.map_mk]

/-! ### Several steps -/

/-- Resolving the definitions that the items of a list name, and keeping what the records say about the items. -/
theorem run_filterMapM_resolve {α β : Type} (m : LineMap) (name : α → Nat) (keep : α → Option Record → Option β)
    (items : List α) (s : Finset Nat) :
    (items.filterMapM fun item => do
      let record ← resolve (name item)
      return keep item record : Query (List β)).run (settled m s) =
      ⟨(items.filterMap fun item => keep item (m.record? (name item)), settled m (s ∪ (items.map name).toFinset)),
        m.refusals s (items.map name)⟩ := by
  -- The set of decoded definitions grows along the list, so the induction is for all of them.
  induction items generalizing s with
  | nil => simp [LineMap.refusals]; rfl
  | cons item items ih =>
    have hs : insert (name item) s ∪ (items.map name).toFinset = s ∪ ((item :: items).map name).toFinset := by
      ext id
      simp only [Finset.mem_union, Finset.mem_insert, List.map_cons, List.toFinset_cons]
      tauto
    rw [List.filterMapM_cons, StateT.run_bind, StateT.run_bind, run_resolve]
    simp only [Told.mk_bind, StateT.run_pure, Told.value_pure, Told.events_pure, List.append_nil]
    cases hk : keep item (m.record? (name item)) with
    | none =>
      simp only [ih, hs, List.filterMap_cons, hk]
      rfl
    | some b =>
      simp only [StateT.run_bind, ih, hs, Told.mk_bind, StateT.run_pure, Told.value_pure, Told.events_pure,
        List.append_nil, List.filterMap_cons, hk]
      rfl

theorem recordAt_run (index : Index) (line offset : Nat) :
    (recordAt line offset).run index =
      (match index.map.mappingAt? line offset with
        | none => pure none
        | some id => resolve id : Query (Option Record)).run index := rfl

/-- What a point query answers, leaves behind and reports. -/
theorem run_recordAt (m : LineMap) (s : Finset Nat) (line offset : Nat) :
    (recordAt line offset).run (settled m s) =
      ⟨((m.mappingAt? line offset).bind m.record?, settled m (s ∪ (m.mappingAt? line offset).toList.toFinset)),
        m.refusals s (m.mappingAt? line offset).toList⟩ := by
  have hmap : (settled m s).map = m := rfl
  rw [recordAt_run, hmap]
  cases m.mappingAt? line offset with
  | none => simp [LineMap.refusals]; rfl
  | some id => simp [run_resolve, LineMap.refusals]

theorem reverse_run (index : Index) (file : String) (line : Nat) :
    (reverse file line).run index =
      ((index.map.mappingsOf file).filterMapM (fun item => do
          let record ← resolve item.2
          return if record.bind Record.line = some line then some ⟨index.map.script, item.1⟩ else none) >>=
        fun hits => do
          tell (.reverseSearched index.map.script file line hits.length)
          return hits : Query (List Location)).run index := rfl

/-- What a reverse query answers, leaves behind and reports. -/
theorem run_reverse (m : LineMap) (s : Finset Nat) (file : String) (line : Nat) :
    (reverse file line).run (settled m s) =
      ⟨(m.hits file line, settled m (s ∪ ((m.mappingsOf file).map Prod.snd).toFinset)),
        m.refusals s ((m.mappingsOf file).map Prod.snd) ++
          [.reverseSearched m.script file line (m.hits file line).length]⟩ := by
  have hmap : (settled m s).map = m := rfl
  rw [reverse_run, hmap, StateT.run_bind, run_filterMapM_resolve, Told.mk_bind]
  rfl

/-! ### Answers -/

theorem answer_resolve (m : LineMap) (s : Finset Nat) (id : Nat) :
    (settled m s).answer (resolve id) = m.record? id := by
  unfold answer
  rw [run_resolve]

theorem answer_recordAt (m : LineMap) (s : Finset Nat) (line offset : Nat) :
    (settled m s).answer (recordAt line offset) = (m.mappingAt? line offset).bind m.record? := by
  unfold answer
  rw [run_recordAt]

theorem answer_reverse (m : LineMap) (s : Finset Nat) (file : String) (line : Nat) :
    (settled m s).answer (reverse file line) = m.hits file line := by
  unfold answer
  rw [run_reverse]

end Index

end LineAtlas
