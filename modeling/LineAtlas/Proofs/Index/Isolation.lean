import LineAtlas.Proofs.Index.Eager
import LineAtlas.Proofs.Index.Footprint
import LineAtlas.Proofs.LineMap.Grammar

/-!
# One definition changed

Two line maps agree off `k` if they differ at most in the text of definition `k`.  Their indexes decode the same
definitions in every interview, and nothing but the record of `k` can tell them apart.

* A text that is read is read with any other line in the place of a definition, to a line map that agrees with the first
  off that definition (`exists_read_set`).
* Records other than that of `k` are equal (`AgreeOff.record?_eq`).
* The hits of a reverse query are equal on the generated lines that do not name `k` (`AgreeOff.filter_hits`), and their
  numbers on any line differ by at most the number of times that the line names it (`AgreeOff.countP_hits_le`).
* The numbers of definitions that could not be decoded differ by at most one (`AgreeOff.failures_le`).
-/

namespace LineAtlas

theorem LineMap.atLine?_set_of_ne {α : Type} {rows : List α} {place line : Nat} (h : line ≠ place + 1) (row : α) :
    atLine? (rows.set place row) line = atLine? rows line := by
  unfold atLine?
  by_cases hline : line = 0
  · rw [if_pos hline, if_pos hline]
  · rw [if_neg hline, if_neg hline, List.getElem?_set_ne (by omega)]

namespace LineMap

/-- How often a generated line names a mapping. -/
def namings (m : LineMap) (generated id : Nat) : Nat :=
  (m.charMap? generated).elim 0 fun slots => slots.slots.count (.mapping id)

/-- Line maps that differ at most in one definition. -/
structure AgreeOff (k : Nat) (m m' : LineMap) : Prop where
  script : m'.script = m.script
  charMaps : m'.charMaps = m.charMaps
  fileLists : m'.fileLists = m.fileLists
  definitionCount : m'.definitionCount = m.definitionCount
  definition : ∀ id, id ≠ k → m'.definitions[id]? = m.definitions[id]?

/-! ### Reading -/

/-- Rows are read from a text with another line behind them as they were before. -/
private theorem readRows_set {α : Type} {part : Part} {blank : α} {decode : String → Except RowFault α}
    {lines : List String} {number count k place : Nat} {rows : List α} (hplace : k + count ≤ place) (text : String)
    (h : readRows part blank decode number count (lines.drop k) = .ok rows) :
    readRows part blank decode number count ((lines.set place text).drop k) = .ok rows := by
  rw [readRows_eq_ok_iff fun _ _ => Iff.rfl] at h ⊢
  obtain ⟨hlength, hrows⟩ := h
  refine ⟨hlength, fun l v hv => ?_⟩
  have hl : 1 ≤ l ∧ l ≤ rows.length := isSome_atLine?.1 (Option.isSome_of_eq_some hv)
  rw [atLine?_set_of_ne (by omega)]
  exact hrows l v hv

/-- Any line may stand in the place of a definition. -/
theorem exists_read_set {script : String} {lines : List String} {m : LineMap} (h : read script lines = .ok m) (k : Nat)
    (text : String) : ∃ m', read script (lines.set (2 * m.lineCount + 3 + k) text) = .ok m' ∧ AgreeOff k m m' := by
  obtain ⟨hleast, header, count, hheader, hdeclares, hroom, hbody⟩ := read_eq_ok_iff.1 h
  obtain ⟨charMaps, fileLists, hcharMaps, hmarker, hfileLists, hdefinitions, hm⟩ := readBody_eq_ok_iff.1 hbody
  have hcount : m.lineCount = count := by
    rw [hm]
    exact ((readRows_eq_ok_iff fun _ _ => Iff.rfl).1 hcharMaps).1
  have hset : ((lines.set (2 * count + 3 + k) text).drop (2 * count + 3)).map Text.trim =
      ((lines.drop (2 * count + 3)).map Text.trim).set k (Text.trim text) := by
    rw [List.drop_set, if_neg (by omega), List.map_set, Nat.add_sub_cancel_left]
  rw [hcount]
  refine ⟨⟨script, charMaps, fileLists, _⟩, read_eq_ok_iff.2 ⟨?_, header, count, ?_, hdeclares, ?_,
    readBody_eq_ok_iff.2 ⟨charMaps, fileLists, readRows_set (by omega) text hcharMaps, ?_,
      readRows_set (by omega) text hfileLists, ?_, rfl⟩⟩, ?_⟩
  · rw [List.length_set]
    exact hleast
  · rw [atLine?_set_of_ne (by omega)]
    exact hheader
  · rw [List.length_set]
    exact hroom
  · rw [atLine?_set_of_ne (by omega)]
    exact hmarker
  · rw [atLine?_set_of_ne (by omega)]
    exact hdefinitions
  · subst hm
    refine ⟨rfl, rfl, rfl, ?_, fun id hid => ?_⟩
    · simp only [definitionCount, hset, List.length_set]
    · simp only [hset, List.getElem?_set_ne (Ne.symm hid)]

/-! ### What both maps say -/

namespace AgreeOff

variable {k : Nat} {m m' : LineMap}

theorem symm (h : AgreeOff k m m') : AgreeOff k m' m :=
  ⟨h.script.symm, h.charMaps.symm, h.fileLists.symm, h.definitionCount.symm, fun id hid => (h.definition id hid).symm⟩

theorem mappingAt?_eq (h : AgreeOff k m m') (line offset : Nat) :
    m'.mappingAt? line offset = m.mappingAt? line offset := by
  unfold mappingAt? charMap?
  rw [h.charMaps]

theorem mappingsOf_eq (h : AgreeOff k m m') (file : String) : m'.mappingsOf file = m.mappingsOf file := by
  unfold mappingsOf
  rw [h.charMaps, h.fileLists]

/-- Both maps are asked for the same definitions. -/
theorem touched_eq (h : AgreeOff k m m') (q : Question) : m'.touched q = m.touched q := by
  cases q with
  | recordAt line offset => rw [touched, touched, h.mappingAt?_eq]
  | reverse file line => rw [touched, touched, h.mappingsOf_eq]
  | _ => rfl

theorem touchedBy_eq (h : AgreeOff k m m') (qs : List Question) : m'.touchedBy qs = m.touchedBy qs := by
  unfold touchedBy
  rw [funext h.touched_eq]

theorem record?_eq (h : AgreeOff k m m') {id : Nat} (hid : id ≠ k) : m'.record? id = m.record? id := by
  unfold record?
  rw [h.definition id hid]

/-- A record that is not that of `k` is the same in both maps, and one that is missing is missing in both. -/
theorem record?_eq_of_id_ne (h : AgreeOff k m m') {id : Nat} (hid : (m.record? id).map Record.id ≠ some k) :
    m'.record? id = m.record? id := by
  by_cases hk : id = k
  · cases hrecord : m.record? id with
    | none => rwa [record?_eq_none_iff, h.definitionCount, ← record?_eq_none_iff]
    | some record =>
      rw [hrecord, Option.map_some, id_of_record? hrecord, hk] at hid
      exact absurd rfl hid
  · exact h.record?_eq hk

theorem refused_iff (h : AgreeOff k m m') {id : Nat} (hid : id ≠ k) : m'.Refused id ↔ m.Refused id := by
  unfold Refused
  rw [h.definition id hid]

/-- Of some definitions at most one more cannot be decoded in the one map than in the other. -/
theorem failures_le (h : AgreeOff k m m') (s : Finset Nat) :
    (Index.settled m s).failures ≤ (Index.settled m' s).failures + 1 := by
  have hsub : s.filter m.Refused ⊆ insert k (s.filter m'.Refused) := by
    intro id hid
    obtain ⟨hs, hr⟩ := Finset.mem_filter.1 hid
    by_cases hk : id = k
    · exact Finset.mem_insert.2 (.inl hk)
    · exact Finset.mem_insert.2 (.inr (Finset.mem_filter.2 ⟨hs, (h.refused_iff hk).2 hr⟩))
  calc (s.filter m.Refused).card
      ≤ (insert k (s.filter m'.Refused)).card := Finset.card_le_card hsub
    _ ≤ (s.filter m'.Refused).card + 1 := Finset.card_insert_le _ _

end AgreeOff

/-! ### Hits of reverse queries -/

/-- The hit on a generated line that the record of a mapping gives. -/
private def hit? (m : LineMap) (line : Nat) (named : Nat × Nat) : Option Location :=
  if (m.record? named.2).bind Record.line = some line then some ⟨m.script, named.1⟩ else none

private theorem hits_eq (m : LineMap) (file : String) (line : Nat) :
    m.hits file line = (m.mappingsOf file).filterMap (m.hit? line) := rfl

private theorem line_of_hit? {m : LineMap} {line : Nat} {named : Nat × Nat} {hit : Location}
    (h : m.hit? line named = some hit) : hit.line = named.1 := by
  unfold hit? at h
  split at h
  · cases h
    rfl
  · cases h

private theorem filter_hit?_eq_none {m : LineMap} {line : Nat} {named : Nat × Nat} {p : Location → Bool}
    (h : ∀ hit, hit.line = named.1 → ¬ p hit = true) : (m.hit? line named).filter p = none := by
  rw [Option.filter_eq_none_iff]
  exact fun hit hhit => h hit (line_of_hit? hhit)

private theorem AgreeOff.hit?_eq {k : Nat} {m m' : LineMap} (h : AgreeOff k m m') (line : Nat) {named : Nat × Nat}
    (hk : named.2 ≠ k) : m'.hit? line named = m.hit? line named := by
  unfold hit?
  rw [h.record?_eq hk, h.script]

theorem namings_ne_zero {m : LineMap} {file : String} {generated id : Nat} (h : (generated, id) ∈ m.mappingsOf file) :
    m.namings generated id ≠ 0 := by
  obtain ⟨-, -, slots, hslots, hid⟩ := mem_mappingsOf.1 h
  unfold namings
  rw [hslots, Option.elim_some]
  exact (List.count_pos_iff.2 hid).ne'

/-- On the generated lines that do not name `k` the hits are the same. -/
theorem AgreeOff.filter_hits {k : Nat} {m m' : LineMap} (h : AgreeOff k m m') (file : String) (line : Nat) :
    (m'.hits file line).filter (fun hit => m.namings hit.line k = 0) =
      (m.hits file line).filter fun hit => m.namings hit.line k = 0 := by
  rw [hits_eq, hits_eq, h.mappingsOf_eq, List.filter_filterMap, List.filter_filterMap]
  apply List.filterMap_congr
  rintro ⟨generated, id⟩ hmem
  by_cases hk : id = k
  · subst hk
    -- A line that names `k` is filtered out, whatever the record of `k` says.
    have hout : ∀ hit : Location, hit.line = generated → ¬ decide (m.namings hit.line id = 0) = true := by
      intro hit hline
      rw [hline, decide_eq_true_eq]
      exact namings_ne_zero hmem
    rw [filter_hit?_eq_none hout, filter_hit?_eq_none hout]
  · rw [h.hit?_eq line hk]

private theorem length_filterMap_le {α β : Type} [BEq α] [LawfulBEq α] {f g : α → Option β} {a : α}
    (h : ∀ x, x ≠ a → f x = g x) (l : List α) : (l.filterMap f).length ≤ (l.filterMap g).length + l.count a := by
  induction l with
  | nil => simp
  | cons x l ih =>
    rw [List.filterMap_cons, List.filterMap_cons, List.count_cons]
    by_cases hx : x = a
    · subst hx
      rw [if_pos BEq.rfl]
      cases f x <;> cases g x <;> simp only [List.length_cons] <;> omega
    · rw [if_neg (by simpa using hx), h x hx]
      cases g x <;> simp only [List.length_cons] <;> omega

private theorem count_flatMap_le {α β : Type} [BEq β] [LawfulBEq β] {f : α → List β} {a : α} {b : β} {l : List α}
    (hl : l.Nodup) (h : ∀ x, x ≠ a → b ∉ f x) : (l.flatMap f).count b ≤ (f a).count b := by
  induction l with
  | nil => simp
  | cons x l ih =>
    rw [List.nodup_cons] at hl
    rw [List.flatMap_cons, List.count_append]
    by_cases hx : x = a
    · have hrest : b ∉ l.flatMap f := by
        rw [List.mem_flatMap]
        rintro ⟨y, hy, hb⟩
        exact h y (fun hya => hl.1 (hx.trans hya.symm ▸ hy)) hb
      rw [hx, List.count_eq_zero_of_not_mem hrest]
      omega
    · rw [List.count_eq_zero_of_not_mem (h x hx)]
      have := ih hl.2
      omega

theorem count_mappingsOf_le (m : LineMap) (file : String) (generated id : Nat) :
    (m.mappingsOf file).count (generated, id) ≤ m.namings generated id := by
  have hnodup : (m.linesWith file).Nodup := List.Nodup.filter _ (List.nodup_range' _)
  rw [mappingsOf_eq]
  refine (count_flatMap_le (a := generated) hnodup fun line hline hmem => ?_).trans ?_
  · cases hslots : m.charMap? line with
    | none => simp [hslots] at hmem
    | some slots =>
      rw [hslots, Option.elim_some, List.mem_map] at hmem
      obtain ⟨_, -, hpair⟩ := hmem
      exact hline (congrArg Prod.fst hpair)
  · unfold namings
    cases m.charMap? generated with
    | none => simp
    | some slots =>
      rw [Option.elim_some, Option.elim_some, List.count_map_of_injective _ _ (Prod.mk_right_injective generated),
        CharMap.count_mappings]

/-- On a generated line there are at most as many more hits in the one map as the line names `k`. -/
theorem AgreeOff.countP_hits_le {k : Nat} {m m' : LineMap} (h : AgreeOff k m m') (file : String)
    (line generated : Nat) :
    (m.hits file line).countP (fun hit => hit.line = generated) ≤
      (m'.hits file line).countP (fun hit => hit.line = generated) + m.namings generated k := by
  rw [List.countP_eq_length_filter, List.countP_eq_length_filter, hits_eq, hits_eq, h.mappingsOf_eq,
    List.filter_filterMap, List.filter_filterMap]
  refine (length_filterMap_le (a := (generated, k)) (fun named hne => ?_) _).trans
    (Nat.add_le_add_left (m.count_mappingsOf_le file generated k) _)
  by_cases hk : named.2 = k
  · -- The record of `k` matters on other lines only.
    have hline : named.1 ≠ generated := fun hl => hne (Prod.ext hl hk)
    have hout : ∀ hit : Location, hit.line = named.1 → ¬ decide (hit.line = generated) = true := by
      intro hit hhit
      rw [hhit, decide_eq_true_eq]
      exact hline
    rw [filter_hit?_eq_none hout, filter_hit?_eq_none hout]
  · rw [h.hit?_eq line hk]

/-- Where a text is read, it is read with any other line in the place of a definition as well, to a line map that says
the same of the generated lines.  After any interview both indexes give the same records except for that definition, and
the same hits on the generated lines that do not name it.  On any line the numbers of hits differ by at most the number
of times that the line names it, and the numbers of definitions that could not be decoded by at most one. -/
theorem changed_definition_stays_local {script : String} {lines : List String} {m : LineMap}
    (h : read script lines = .ok m) (k : Nat) (text : String) :
    ∃ m', read script (lines.set (2 * m.lineCount + 3 + k) text) = .ok m' ∧
      m'.script = m.script ∧ m'.charMaps = m.charMaps ∧ m'.fileLists = m.fileLists ∧
      m'.lineCount = m.lineCount ∧ m'.definitionCount = m.definitionCount ∧
      ∀ qs,
        (∀ id, ((m.indexAfter qs).answer (Index.resolve id)).map Record.id ≠ some k →
          (m'.indexAfter qs).answer (Index.resolve id) = (m.indexAfter qs).answer (Index.resolve id)) ∧
        (∀ line offset, ((m.indexAfter qs).answer (Index.recordAt line offset)).map Record.id ≠ some k →
          (m'.indexAfter qs).answer (Index.recordAt line offset) =
            (m.indexAfter qs).answer (Index.recordAt line offset)) ∧
        (∀ file line,
          ((m'.indexAfter qs).answer (Index.reverse file line)).filter (fun hit => m.namings hit.line k = 0) =
            ((m.indexAfter qs).answer (Index.reverse file line)).filter fun hit => m.namings hit.line k = 0) ∧
        (∀ file line generated,
          ((m.indexAfter qs).answer (Index.reverse file line)).countP (fun hit => hit.line = generated) ≤
            ((m'.indexAfter qs).answer (Index.reverse file line)).countP (fun hit => hit.line = generated) +
              m.namings generated k ∧
          ((m'.indexAfter qs).answer (Index.reverse file line)).countP (fun hit => hit.line = generated) ≤
            ((m.indexAfter qs).answer (Index.reverse file line)).countP (fun hit => hit.line = generated) +
              m.namings generated k) ∧
        (m.indexAfter qs).failures ≤ (m'.indexAfter qs).failures + 1 ∧
        (m'.indexAfter qs).failures ≤ (m.indexAfter qs).failures + 1 := by
  obtain ⟨m', hread, hagree⟩ := exists_read_set h k text
  refine ⟨m', hread, hagree.script, hagree.charMaps, hagree.fileLists, congrArg List.length hagree.charMaps,
    hagree.definitionCount, fun qs => ?_⟩
  simp only [indexAfter_eq_settled, hagree.touchedBy_eq, Index.answer_resolve, Index.answer_recordAt,
    Index.answer_reverse, hagree.mappingAt?_eq]
  refine ⟨fun id hid => hagree.record?_eq_of_id_ne hid, fun line offset hid => ?_, hagree.filter_hits,
    fun file line generated => ⟨hagree.countP_hits_le file line generated, ?_⟩, hagree.failures_le _,
    hagree.symm.failures_le _⟩
  · cases hat : m.mappingAt? line offset with
    | none => rfl
    | some id =>
      rw [hat, Option.bind_some] at hid
      exact hagree.record?_eq_of_id_ne hid
  · have hnamings : m'.namings generated k = m.namings generated k := by
      unfold namings charMap?
      rw [hagree.charMaps]
    rw [← hnamings]
    exact hagree.symm.countP_hits_le file line generated

/-- A text with two definitions, both named on the first generated line and one on each of the others. -/
def neighboursSample : List String :=
  ["/** Begin line maps. **/ \x7b\"count\": 3\x7d", "[0,,1]", "[1]", "[0]", "/** Begin file information. **/", "[\"a.js\"]",
    "[\"a.js\"]", "[\"a.js\"]", "/** Begin mapping definitions. **/", "[\"a.js\", 3, 1]", "[\"a.js\", 3, 2]"]

/-- The line map that this text describes. -/
def neighboursMap : LineMap :=
  ⟨"out.js", [⟨[.mapping 0, .same, .mapping 1]⟩, ⟨[.mapping 1]⟩, ⟨[.mapping 0]⟩], [["a.js"], ["a.js"], ["a.js"]],
    ["[\"a.js\", 3, 1]", "[\"a.js\", 3, 2]"]⟩

/-- A marker in the place of the first definition leaves the record of the second as it is, at its position and by its
identifier, with the hit on the line that names only the second, and no more than one hit is lost on the line that names
both. -/
theorem changed_definition_stays_local_sample :
    read "out.js" neighboursSample = .ok neighboursMap ∧
    ((neighboursMap.indexAfter [.record 0]).answer (Index.resolve 1)).map Record.id ≠ some 0 ∧
    ((neighboursMap.indexAfter [.record 0]).answer (Index.recordAt 1 2)).map Record.id ≠ some 0 ∧
    ∃ m', read "out.js" (neighboursSample.set 9 Part.definitions.marker) = .ok m' ∧ m'.definitionCount = 2 ∧
      (m'.indexAfter [.record 0]).answer (Index.resolve 1) = some ⟨1, some "a.js", some 3, some 2, [], false⟩ ∧
      (m'.indexAfter [.record 0]).answer (Index.recordAt 1 2) = some ⟨1, some "a.js", some 3, some 2, [], false⟩ ∧
      ((m'.indexAfter [.record 0]).answer (Index.reverse "a.js" 3)).filter
        (fun hit => neighboursMap.namings hit.line 0 = 0) = [⟨"out.js", 2⟩] ∧
      2 ≤ ((m'.indexAfter [.record 0]).answer (Index.reverse "a.js" 3)).countP (fun hit => hit.line = 1) + 1 ∧
      (m'.indexAfter [.record 0]).failures ≤ 1 := by
  have hread : read "out.js" neighboursSample = .ok neighboursMap := rfl
  have hrecord : (neighboursMap.indexAfter [.record 0]).answer (Index.resolve 1) =
      some ⟨1, some "a.js", some 3, some 2, [], false⟩ := by cbv
  have hposition : (neighboursMap.indexAfter [.record 0]).answer (Index.recordAt 1 2) =
      some ⟨1, some "a.js", some 3, some 2, [], false⟩ := by cbv
  have hid : ((neighboursMap.indexAfter [.record 0]).answer (Index.resolve 1)).map Record.id ≠ some 0 := by
    rw [hrecord]
    decide
  have hat : ((neighboursMap.indexAfter [.record 0]).answer (Index.recordAt 1 2)).map Record.id ≠ some 0 := by
    rw [hposition]
    decide
  have hhits : (neighboursMap.indexAfter [.record 0]).answer (Index.reverse "a.js" 3) =
      [⟨"out.js", 1⟩, ⟨"out.js", 1⟩, ⟨"out.js", 2⟩, ⟨"out.js", 3⟩] := by cbv
  have hcount : (neighboursMap.indexAfter [.record 0]).failures = 0 := by decide +kernel
  obtain ⟨m', hread', -, -, -, -, hdefinitions, hqs⟩ := changed_definition_stays_local hread 0 Part.definitions.marker
  obtain ⟨hrecords, hpositions, hothers, hlost, -, hfailures⟩ := hqs [.record 0]
  refine ⟨hread, hid, hat, m', hread', hdefinitions, (hrecords 1 hid).trans hrecord, (hpositions 1 2 hat).trans hposition,
    ?_, ?_, ?_⟩
  · rw [hothers, hhits]
    decide
  · have hboth := (hlost "a.js" 3 1).1
    rwa [hhits] at hboth
  · rwa [hcount] at hfailures

end LineMap

end LineAtlas
