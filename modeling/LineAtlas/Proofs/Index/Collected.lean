import LineAtlas.Proofs.Index.Entries

/-!
# Hits behind other hits

A reverse query can be answered by a loop that is given a list and puts each hit behind it: over the generated lines in
order, skipping those without the file or without a character map and ending at the first one with the file whose number
has more than 32 bits, and on a line over the mappings that it names.  The loop counts its hits by how much the list has
grown.

The key facts: a loop that puts what it finds behind a list does what a query for the findings alone does
(`foldlM_eq_filterMapM`), and the lines that the loop goes over name the mappings of the reverse query in their order
(`collectLines_eq`).  So the loop is the reverse query with the given list in front (`reverseInto_eq`), and its count is
that of the hits, the only such count among its reports (`events_reverse`).
-/

namespace LineAtlas

/-- The number of hits that a reverse query reports. -/
def Event.hits? : Event → Option Nat
  | reverseSearched _ _ _ hits => some hits
  | _ => none

/-- The reports that count hits. -/
def searches (events : List Event) : List Event := events.filter fun e => e.hits?.isSome

theorem searches_append (events later : List Event) : searches (events ++ later) = searches events ++ searches later :=
  List.filter_append events later

namespace Index

/-- Resolves a mapping that a generated line names and puts the line behind `out` if the record has the source line. -/
def collectMapping (script : String) (line : Nat) (out : List Location) (named : Nat × Nat) : Query (List Location) := do
  match ← resolve named.2 with
  | none => return out
  | some record => return if record.line = some line then out ++ [⟨script, named.1⟩] else out

/-- Goes over the generated lines after the first `done` ones, which have the given lists of files. -/
def collectLines (m : LineMap) (file : String) (line : Nat) :
    Nat → List (List String) → List Location → Query (List Location)
  | _, [], out => return out
  | done, files :: rest, out =>
    if files.contains file then
      match m.charMaps[done]? with
      | none => collectLines m file line (done + 1) rest out
      | some slots =>
        if Numeral.lineLimit < done + 1 then return out
        else do
          let out ← slots.mappings.foldlM (fun out id => collectMapping m.script line out (done + 1, id)) out
          collectLines m file line (done + 1) rest out
    else collectLines m file line (done + 1) rest out

/-- A reverse query that puts its hits behind a list. -/
def reverseInto (file : String) (line : Nat) (out : List Location) : Query (List Location) := do
  let map := (← get).map
  let found ← collectLines map file line 0 map.fileLists out
  tell (.reverseSearched map.script file line (found.length - out.length))
  return found

/-! ### The loop -/

variable {α β : Type} {m : LineMap} {file : String} {line : Nat}

theorem foldlM_eq_filterMapM {step : List β → α → Query (List β)} {f : α → Query (Option β)}
    (hstep : ∀ out a, step out a = (fun found => out ++ found.toList) <$> f a) (items : List α) (out : List β) :
    items.foldlM step out = (fun found => out ++ found) <$> items.filterMapM f := by
  induction items generalizing out with
  | nil => simp
  | cons a items ih =>
    rw [List.foldlM_cons, List.filterMapM_cons, hstep, bind_map_left, map_bind]
    congr 1
    funext found
    cases found with
    | none => simp [ih]
    | some b => simp [ih]

private theorem collectMapping_eq (script : String) (line : Nat) (out : List Location) (named : Nat × Nat) :
    collectMapping script line out named = (fun found => out ++ found.toList) <$> (do
      let record ← resolve named.2
      return if record.bind Record.line = some line then some ⟨script, named.1⟩ else none) := by
  unfold collectMapping
  rw [map_bind]
  congr 1
  funext record
  cases record with
  | none => simp
  | some record => by_cases h : record.line = some line <;> simp [h]

/-- The mappings named on some generated lines with a file. -/
private def namedOn (file : String) (rows : List ((List String × CharMap) × Nat)) : List (Nat × Nat) :=
  (rows.filter fun (row, line) => row.1.contains file && line ≤ Numeral.lineLimit).flatMap fun (row, line) =>
    row.2.mappings.map fun id => (line, id)

private theorem namedOn_cons (files : List String) (slots : CharMap) (k : Nat)
    (rows : List ((List String × CharMap) × Nat)) :
    namedOn file (((files, slots), k) :: rows) =
      if file ∈ files ∧ k ≤ Numeral.lineLimit then slots.mappings.map (fun id => (k, id)) ++ namedOn file rows
      else namedOn file rows := by
  by_cases h : file ∈ files ∧ k ≤ Numeral.lineLimit
  · simp [namedOn, h]
  · rw [if_neg h]
    rw [not_and_or] at h
    rcases h with h | h <;> simp [namedOn, h]

private theorem namedOn_eq_nil {rows : List (List String × CharMap)} {k : Nat} (h : Numeral.lineLimit < k) :
    namedOn file (rows.zipIdx k) = [] := by
  induction rows generalizing k with
  | nil => rfl
  | cons row rows ih =>
    have hline : ¬ (file ∈ row.1 ∧ k ≤ Numeral.lineLimit) := by omega
    rw [List.zipIdx_cons, namedOn_cons, if_neg hline]
    exact ih (by omega)

/-- The loop goes over the same mappings: no line is left out but those past the last number of 32 bits, and where a line
has no character map none after it has one. -/
theorem collectLines_eq (done : Nat) (lists : List (List String)) (out : List Location) :
    collectLines m file line done lists out =
      (namedOn file ((lists.zip (m.charMaps.drop done)).zipIdx (done + 1))).foldlM (collectMapping m.script line) out := by
  induction lists generalizing done out with
  | nil => rfl
  | cons files lists ih =>
    unfold collectLines
    simp only [ih, List.contains_iff_mem]
    cases hslots : m.charMaps[done]? with
    | none =>
      have hdrop : m.charMaps.drop done = [] := by simpa using hslots
      have hnext : m.charMaps.drop (done + 1) = [] := by
        simp at hslots ⊢
        omega
      simp only [hdrop, hnext, List.zip_nil_right, ite_self]
      rfl
    | some slots =>
      have hdrop : m.charMaps.drop done = slots :: m.charMaps.drop (done + 1) := by
        obtain ⟨hlt, rfl⟩ := List.getElem?_eq_some_iff.1 hslots
        exact List.drop_eq_getElem_cons hlt
      rw [hdrop, List.zip_cons_cons, List.zipIdx_cons, namedOn_cons]
      by_cases hfile : file ∈ files
      · by_cases hline : Numeral.lineLimit < done + 1
        · have hrest : namedOn file ((lists.zip (m.charMaps.drop (done + 1))).zipIdx (done + 1 + 1)) = [] :=
            namedOn_eq_nil (Nat.lt_succ_of_lt hline)
          have hcount : ¬ done + 1 ≤ Numeral.lineLimit := by omega
          simp [hfile, hline, hcount, hrest]
        · have hcount : done + 1 ≤ Numeral.lineLimit := by omega
          simp [hfile, hline, hcount, List.foldlM_map]
      · simp [hfile]

/-- The loop is the reverse query with the given list in front: it leaves the same index and makes the same reports. -/
theorem reverseInto_eq (file : String) (line : Nat) (out : List Location) :
    reverseInto file line out = (fun hits => out ++ hits) <$> reverse file line := by
  have hnamed (m : LineMap) : namedOn file ((m.fileLists.zip (m.charMaps.drop 0)).zipIdx (0 + 1)) = m.mappingsOf file := rfl
  unfold reverseInto reverse
  rw [map_bind]
  congr 1
  funext index
  dsimp only
  rw [collectLines_eq, hnamed, foldlM_eq_filterMapM (collectMapping_eq index.map.script line), bind_map_left, map_bind]
  congr 1
  funext hits
  simp

/-! ### Reports -/

/-- A query that reports no number of hits. -/
def Silent (q : Query α) : Prop := ∀ index : Index, searches (q.run index).events = []

theorem Silent.pure (a : α) : Silent (Pure.pure a) := fun _ => rfl

theorem Silent.bind {q : Query α} {f : α → Query β} (hq : Silent q) (hf : ∀ a, Silent (f a)) : Silent (q >>= f) := by
  intro index
  rw [StateT.run_bind, Told.events_bind, searches_append, hq index, hf _ _, List.append_nil]

theorem silent_resolve (id : Nat) : Silent (resolve id) := by
  intro index
  rw [resolve_run]
  cases index.entries[id]? with
  | none => rfl
  | some entry =>
    cases entry with
    | decoded record => rfl
    | raw text =>
      dsimp only
      rw [StateT.run_map, Told.events_map, decode]
      cases Record.decode id text with
      | ok record => rfl
      | error reason => rfl

/-- The report of a reverse query about its hits. -/
def searchReport (file : String) (line : Nat) (index : Index) : Event :=
  .reverseSearched index.map.script file line (index.answer (reverse file line)).length

/-- A reverse query reports its hits once, at its end. -/
theorem events_reverse (index : Index) (file : String) (line : Nat) :
    ∃ course, ((reverse file line).run index).events = course ++ [searchReport file line index] ∧
      searches course = [] := by
  have hitem (item : Nat × Nat) : Silent (do
      let record ← resolve item.2
      return if record.bind Record.line = some line then some (⟨index.map.script, item.1⟩ : Location) else none) :=
    (silent_resolve item.2).bind fun record => .pure _
  have hitems := closed_filterMapM (P := fun _ => Silent) (fun _ => .pure) (fun _ _ _ _ => .bind) hitem
    (index.map.mappingsOf file)
  refine ⟨_, ?_, hitems index⟩
  unfold searchReport answer
  rw [reverse_run, StateT.run_bind, Told.events_bind]
  rfl

theorem searches_reverse (index : Index) (file : String) (line : Nat) :
    searches ((reverse file line).run index).events = [searchReport file line index] := by
  obtain ⟨course, hevents, hcourse⟩ := events_reverse index file line
  rw [hevents, searches_append, hcourse]
  rfl

end Index

end LineAtlas
