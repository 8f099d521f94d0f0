import LineAtlas.Prompt.Executor
import LineAtlas.Proofs.Index.Settled

/-!
# Conversations at the prompt

A conversation puts the commands of a prompt to one index, one after the other.  A query is steady over a line map if
every index over that map, whatever it has decoded, answers it alike and is an index over that map afterwards.  Steady
queries can be chained (`Steady.bind`), and every command but `info` is a chain of steady queries
(`exists_steady_answer?`).  So its answer in a conversation is the answer that it has as the first command
(`getElem?_converse`).
-/

namespace LineAtlas

open Index (settled)

/-- A query that all indexes over a line map answer alike. -/
def LineMap.Steady {α : Type} (m : LineMap) (q : Query α) (a : α) : Prop :=
  ∀ s, ∃ s', (q.run (settled m s)).value = (a, settled m s')

namespace LineMap

variable {α β : Type} {m : LineMap}

theorem Steady.pure (a : α) : m.Steady (Pure.pure a) a := fun s => ⟨s, rfl⟩

theorem Steady.bind {q : Query α} {f : α → Query β} {a : α} {b : β} (hq : m.Steady q a) (hf : m.Steady (f a) b) :
    m.Steady (q >>= f) b := by
  intro s
  obtain ⟨s', h⟩ := hq s
  obtain ⟨s'', h'⟩ := hf s'
  refine ⟨s'', ?_⟩
  rw [StateT.run_bind, Told.value_bind, h]
  exact h'

theorem Steady.exists_bind {q : Query α} {f : α → Query β} {a : α} (hq : m.Steady q a)
    (hf : ∃ b, m.Steady (f a) b) : ∃ b, m.Steady (q >>= f) b := by
  obtain ⟨b, hb⟩ := hf
  exact ⟨b, hq.bind hb⟩

theorem Steady.answer_eq {q : Query α} {a : α} (hq : m.Steady q a) (s : Finset Nat) : (settled m s).answer q = a := by
  obtain ⟨s', h⟩ := hq s
  rw [Index.answer, h]

/-- A query about the line map alone. -/
theorem steady_ofMap (f : LineMap → α) : m.Steady (do return f (← get).map) (f m) := fun s => ⟨s, rfl⟩

theorem steady_recordAt (line offset : Nat) :
    m.Steady (Index.recordAt line offset) ((m.mappingAt? line offset).bind m.record?) := by
  intro s
  rw [Index.run_recordAt]
  exact ⟨_, rfl⟩

theorem steady_reverse (file : String) (line : Nat) : m.Steady (Index.reverse file line) (m.hits file line) := by
  intro s
  rw [Index.run_reverse]
  exact ⟨_, rfl⟩

end LineMap

namespace Prompt

/-- The answer to a command; there is none to a command that is not about the index. -/
def said (c : Command) : Query (Option String) :=
  match answer? c with
  | none => return none
  | some q => some <$> q

/-- Puts commands to one index one after the other. -/
def converse (cs : List Command) : Query (List (Option String)) := cs.mapM said

variable {m : LineMap}

/-- What is said of a position with the given record. -/
def recordText (line offset : Nat) : Option Record → String
  | some record => record.text ++ nameLine record
  | none => "No mapping for line " ++ Numeral.ofNat line ++ " offset " ++ Numeral.ofNat offset

theorem steady_lookup (line offset : Nat) :
    m.Steady (lookup line offset) (recordText line offset ((m.mappingAt? line offset).bind m.record?)) := by
  refine (m.steady_recordAt line offset).bind ?_
  cases (m.mappingAt? line offset).bind m.record? with
  | none => exact .pure _
  | some record => exact .pure _

theorem exists_steady_answer? {c : Command} {q : Query String} (hq : answer? c = some q) (hc : c ≠ .info) :
    ∃ text, m.Steady q text := by
  cases c with
  | lookup line offset =>
    obtain rfl := Option.some.inj hq
    exact ⟨_, steady_lookup line offset⟩
  | reverse file line =>
    obtain rfl := Option.some.inj hq
    refine (m.steady_reverse file line).exists_bind ?_
    cases m.hits file line <;> exact ⟨_, .pure _⟩
  | line line =>
    obtain rfl := Option.some.inj hq
    exact ⟨_, m.steady_ofMap fun map => lineText map line⟩
  | files line =>
    obtain rfl := Option.some.inj hq
    exact ⟨_, m.steady_ofMap fun map => filesText map line⟩
  | name value asKey =>
    obtain rfl := Option.some.inj hq
    exact ⟨_, .pure _⟩
  | info => exact absurd rfl hc
  | _ => cases hq

/-- Only `info` tells how many definitions have been found undecodable so far. -/
theorem exists_steady_said {c : Command} (hc : c ≠ .info) : ∃ text, m.Steady (said c) text := by
  unfold said
  cases h : answer? c with
  | none => exact ⟨none, .pure _⟩
  | some q =>
    obtain ⟨text, hq⟩ := exists_steady_answer? (m := m) h hc
    show ∃ answer, m.Steady (some <$> q) answer
    rw [map_eq_pure_bind]
    exact ⟨some text, hq.bind (.pure _)⟩

/-- After any command the index is one over the same line map. -/
theorem exists_settled_said (c : Command) (s : Finset Nat) :
    ∃ s', ((said c).run (settled m s)).value.2 = settled m s' := by
  by_cases hc : c = .info
  · subst hc
    exact ⟨s, rfl⟩
  · obtain ⟨text, h⟩ := exists_steady_said (m := m) hc
    obtain ⟨s', h⟩ := h s
    exact ⟨s', by rw [h]⟩

theorem later_converse_cons (c : Command) (cs : List Command) (index : Index) :
    ((converse (c :: cs)).run index).value.2 = ((converse cs).run ((said c).run index).value.2).value.2 := by
  unfold converse
  rw [List.mapM_cons]
  rfl

theorem converse_singleton_run {c : Command} {q : Query String} (h : answer? c = some q) (index : Index) :
    (converse [c]).run index = (fun found => ([some found.1], found.2)) <$> q.run index := by
  simp [converse, said, h]

theorem value_converse_append (cs cs' : List Command) (index : Index) :
    ((converse (cs ++ cs')).run index).value.2 =
      ((converse cs').run ((converse cs).run index).value.2).value.2 := by
  induction cs generalizing index with
  | nil => rfl
  | cons c cs ih => rw [List.cons_append, later_converse_cons, later_converse_cons, ih]

theorem events_converse_append (cs cs' : List Command) (index : Index) :
    ((converse (cs ++ cs')).run index).events =
      ((converse cs).run index).events ++ ((converse cs').run ((converse cs).run index).value.2).events := by
  unfold converse
  rw [List.mapM_append, StateT.run_bind, Told.events_bind, StateT.run_bind, Told.events_bind]
  simp

/-- After a conversation too. -/
theorem exists_settled_converse (cs : List Command) (s : Finset Nat) :
    ∃ s', ((converse cs).run (settled m s)).value.2 = settled m s' := by
  induction cs generalizing s with
  | nil => exact ⟨s, rfl⟩
  | cons c cs ih =>
    obtain ⟨s', h⟩ := exists_settled_said (m := m) c s
    rw [later_converse_cons, h]
    exact ih s'

private theorem answer_converse_cons (c : Command) (cs : List Command) (index : Index) :
    index.answer (converse (c :: cs)) =
      index.answer (said c) :: ((said c).run index).value.2.answer (converse cs) := by
  unfold Index.answer converse
  rw [List.mapM_cons]
  rfl

private theorem getElem?_converse_settled {c : Command} (hc : c ≠ .info) (cs : List Command) (k : Nat)
    (hk : cs[k]? = some c) (s : Finset Nat) :
    ((settled m s).answer (converse cs))[k]? = some ((settled m ∅).answer (said c)) := by
  -- The commands before it, `info` among them, change at most which definitions have been decoded.
  induction cs generalizing k s with
  | nil => simp at hk
  | cons c' cs ih =>
    rw [answer_converse_cons]
    cases k with
    | zero =>
      obtain rfl : c' = c := by simpa using hk
      obtain ⟨text, h⟩ := exists_steady_said (m := m) hc
      rw [h.answer_eq, h.answer_eq]
      rfl
    | succ k =>
      obtain ⟨s', h⟩ := exists_settled_said (m := m) c' s
      rw [h, List.getElem?_cons_succ]
      exact ih k (by simpa using hk) s'

/-- A command other than `info` is answered in a conversation as if it came first. -/
theorem getElem?_converse (m : LineMap) {c : Command} (hc : c ≠ .info) {cs : List Command} {k : Nat}
    (hk : cs[k]? = some c) :
    ((Index.ofLineMap m).answer (converse cs))[k]? = some ((Index.ofLineMap m).answer (said c)) := by
  rw [Index.ofLineMap_eq_settled]
  exact getElem?_converse_settled hc cs k hk ∅

end Prompt

end LineAtlas
