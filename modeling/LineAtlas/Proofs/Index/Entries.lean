import LineAtlas.Proofs.Index.Settled

/-!
# Entries of an index

An entry stands for a record before it has been decoded and afterwards, for the stand-in where it cannot be.  This is so
in any index, also in one whose entries are not the definitions of its map.

The key facts: resolving a definition gives the record that its entry stands for and changes that entry at most
(`resolve_cases`).  So no query changes what the entries stand for (`Keeps`), and a position that is looked up twice is
found as before, with nothing more to decode or report (`recordAt_again`).
-/

namespace LineAtlas

/-- The record that an entry stands for. -/
def Entry.record (id : Nat) : Entry → Record
  | raw text => .ofDefinition id text
  | decoded record => record

namespace Index

/-- The record that the entry of a definition stands for. -/
def record? (index : Index) (id : Nat) : Option Record := index.entries[id]?.map (Entry.record id)

variable {α β : Type} {index later : Index} {id : Nat} {text : String}

/-! ### Resolving a definition -/

theorem getElem?_entries_settle (index : Index) (id other : Nat) (record : Record) (failed : Bool) :
    (index.settle id record failed).entries[other]? =
      if id = other ∧ id < index.entries.size then some (.decoded record) else index.entries[other]? := by
  unfold settle
  rw [Array.getElem?_setIfInBounds]
  by_cases hid : id = other
  · subst hid
    by_cases hlt : id < index.entries.size
    · simp [hlt]
    · simp [hlt]
  · simp [hid]

theorem record?_settle (h : index.entries[id]? = some (.raw text)) (failed : Bool) (other : Nat) :
    (index.settle id (.ofDefinition id text) failed).record? other = index.record? other := by
  unfold record?
  rw [getElem?_entries_settle]
  split
  · rename_i hid
    rw [← hid.1, h]
    rfl
  · rfl

private theorem run_decode_any (index : Index) (id : Nat) (text : String) :
    ∃ failed events, events.length ≤ 1 ∧ (decode id text).run index =
      ⟨(.ofDefinition id text, index.settle id (.ofDefinition id text) failed), events⟩ := by
  unfold decode Record.ofDefinition
  cases Record.decode id text with
  | ok record => exact ⟨false, [], by simp, rfl⟩
  | error reason => exact ⟨true, [.definitionRefused index.map.script id reason], by simp, rfl⟩

theorem resolve_of_decoded {record : Record} (h : index.entries[id]? = some (.decoded record)) :
    (resolve id).run index = ⟨(some record, index), []⟩ := by
  rw [resolve_run, h]
  rfl

/-- A definition that there is not, or that has been decoded, is resolved without a change; any other is decoded. -/
theorem resolve_cases (index : Index) (id : Nat) :
    (resolve id).run index = ⟨(index.record? id, index), []⟩ ∨
      ∃ text failed events, index.entries[id]? = some (.raw text) ∧ events.length ≤ 1 ∧
        (resolve id).run index =
          ⟨(some (.ofDefinition id text), index.settle id (.ofDefinition id text) failed), events⟩ := by
  cases h : index.entries[id]? with
  | none =>
    left
    rw [resolve_run, record?, h]
    rfl
  | some entry =>
    cases entry with
    | decoded record =>
      left
      rw [resolve_of_decoded h, record?, h]
      rfl
    | raw text =>
      right
      obtain ⟨failed, events, hevents, hdecode⟩ := run_decode_any index id text
      refine ⟨text, failed, events, rfl, hevents, ?_⟩
      rw [resolve_run, h]
      simp only [StateT.run_map, hdecode, Told.map_mk]

theorem value_resolve (index : Index) (id : Nat) : ((resolve id).run index).value.1 = index.record? id := by
  obtain h | ⟨text, failed, events, hraw, -, h⟩ := resolve_cases index id
  · rw [h]
  · rw [h, record?, hraw]
    rfl

theorem resolve_again (index : Index) (id : Nat) :
    (resolve id).run ((resolve id).run index).value.2 = ⟨((resolve id).run index).value, []⟩ := by
  obtain h | ⟨text, failed, events, hraw, -, h⟩ := resolve_cases index id
  · rw [h, h]
  · have hlt : id < index.entries.size := (Array.getElem?_eq_some_iff.1 hraw).1
    have hdecoded : (index.settle id (.ofDefinition id text) failed).entries[id]? =
        some (.decoded (.ofDefinition id text)) := by
      rw [getElem?_entries_settle, if_pos ⟨rfl, hlt⟩]
    rw [h, resolve_of_decoded hdecoded]

/-! ### What queries leave as it is -/

/-- Indexes over one map whose entries stand for the same records. -/
structure SameRecords (index later : Index) : Prop where
  map : later.map = index.map
  record : ∀ id, later.record? id = index.record? id

theorem SameRecords.refl (index : Index) : index.SameRecords index := ⟨rfl, fun _ => rfl⟩

theorem SameRecords.trans {last : Index} (h : index.SameRecords later) (h' : later.SameRecords last) :
    index.SameRecords last :=
  ⟨h'.map.trans h.map, fun id => (h'.record id).trans (h.record id)⟩

/-- A query that does not change what the entries of an index stand for. -/
def Keeps (q : Query α) : Prop := ∀ index : Index, index.SameRecords (q.run index).value.2

theorem Keeps.pure (a : α) : Keeps (Pure.pure a) := fun index => .refl index

theorem Keeps.bind {q : Query α} {f : α → Query β} (hq : Keeps q) (hf : ∀ a, Keeps (f a)) : Keeps (q >>= f) := by
  intro index
  rw [StateT.run_bind, Told.value_bind]
  exact (hq index).trans (hf _ _)

theorem keeps_resolve (id : Nat) : Keeps (resolve id) := by
  intro index
  obtain h | ⟨text, failed, events, hraw, -, h⟩ := resolve_cases index id
  · rw [h]
    exact .refl index
  · rw [h]
    exact ⟨rfl, record?_settle hraw failed⟩

theorem keeps_recordAt (line offset : Nat) : Keeps (recordAt line offset) := by
  intro index
  rw [recordAt_run]
  cases index.map.mappingAt? line offset with
  | none => exact .refl index
  | some id => exact keeps_resolve id index

/-- What holds of returning a value and of one query after another holds of a query that goes over a list. -/
theorem closed_filterMapM {P : ∀ γ : Type, Query γ → Prop} (hpure : ∀ γ (c : γ), P γ (pure c))
    (hbind : ∀ γ δ (q : Query γ) (f : γ → Query δ), P γ q → (∀ c, P δ (f c)) → P δ (q >>= f))
    {f : α → Query (Option β)} (hf : ∀ a, P (Option β) (f a)) (items : List α) :
    P (List β) (items.filterMapM f) := by
  induction items with
  | nil => exact hpure _ []
  | cons item items ih =>
    rw [List.filterMapM_cons]
    refine hbind _ _ _ _ (hf item) fun found => ?_
    cases found with
    | none => exact ih
    | some b => exact hbind _ _ _ _ ih fun rest => hpure _ (b :: rest)

theorem keeps_reverse (file : String) (line : Nat) : Keeps (reverse file line) := by
  intro index
  rw [reverse_run]
  have hitem (item : Nat × Nat) : Keeps (do
      let record ← resolve item.2
      return if record.bind Record.line = some line then some (⟨index.map.script, item.1⟩ : Location) else none) :=
    (keeps_resolve item.2).bind fun record => .pure _
  have hreport (hits : List Location) : Keeps (do
      tell (.reverseSearched index.map.script file line hits.length)
      return hits) := fun later => .refl later
  have hitems := closed_filterMapM (P := fun _ => Keeps) (fun _ => .pure) (fun _ _ _ _ => .bind) hitem
    (index.map.mappingsOf file)
  exact hitems.bind hreport index

/-! ### Positions -/

theorem value_recordAt (index : Index) (line offset : Nat) :
    index.answer (recordAt line offset) = (index.map.mappingAt? line offset).bind index.record? := by
  unfold answer
  rw [recordAt_run]
  cases index.map.mappingAt? line offset with
  | none => rfl
  | some id => exact value_resolve index id

theorem SameRecords.answer_recordAt (h : index.SameRecords later) (line offset : Nat) :
    later.answer (recordAt line offset) = index.answer (recordAt line offset) := by
  rw [value_recordAt, value_recordAt, h.map]
  simp only [funext h.record]

/-- A position that has been looked up is looked up again without a change. -/
theorem recordAt_again (index : Index) (line offset : Nat) :
    (recordAt line offset).run ((recordAt line offset).run index).value.2 =
      ⟨((recordAt line offset).run index).value, []⟩ := by
  have hmap := (keeps_recordAt line offset index).map
  rw [recordAt_run ((recordAt line offset).run index).value.2, hmap, recordAt_run]
  cases index.map.mappingAt? line offset with
  | none => rfl
  | some id => exact resolve_again index id

/-- An index that is as before but for one entry and the count of definitions that could not be decoded, which is the
same or one more. -/
structure ChangedAt (index later : Index) (named : Option Nat) : Prop where
  map : later.map = index.map
  entries : ∀ id, named ≠ some id → later.entries[id]? = index.entries[id]?
  failures_le : index.failures ≤ later.failures
  le_failures : later.failures ≤ index.failures + 1

theorem ChangedAt.refl (index : Index) (named : Option Nat) : index.ChangedAt index named :=
  ⟨rfl, fun _ _ => rfl, Nat.le_refl _, Nat.le_succ _⟩

theorem changedAt_settle (index : Index) (id : Nat) (record : Record) (failed : Bool) :
    index.ChangedAt (index.settle id record failed) (some id) where
  map := rfl
  entries other hother := by
    rw [getElem?_entries_settle, if_neg]
    rintro ⟨rfl, -⟩
    exact hother rfl
  failures_le := by cases failed <;> simp [settle]
  le_failures := by cases failed <;> simp [settle]

/-- A position is looked up by resolving at most the definition that is named there. -/
theorem changedAt_recordAt (index : Index) (line offset : Nat) :
    index.ChangedAt ((recordAt line offset).run index).value.2 (index.map.mappingAt? line offset) ∧
      ((recordAt line offset).run index).events.length ≤ 1 := by
  rw [recordAt_run]
  cases index.map.mappingAt? line offset with
  | none => exact ⟨.refl index none, Nat.zero_le 1⟩
  | some id =>
    obtain h | ⟨text, failed, events, -, hevents, h⟩ := resolve_cases index id
    · dsimp only
      rw [h]
      exact ⟨.refl index _, Nat.zero_le 1⟩
    · dsimp only
      rw [h]
      exact ⟨changedAt_settle index id _ failed, hevents⟩

end Index

end LineAtlas
