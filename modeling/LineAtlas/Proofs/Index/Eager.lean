import Mathlib
import LineAtlas.Proofs.Index.Question
import LineAtlas.Proofs.Prompt.Conversation

/-!
# Lazy and eager decoding

An index decodes a definition when a question first needs its record, a `Table` decodes all of them at the start.  No
question can tell the two apart, whatever was asked before, and no command of a prompt but `info` can: a question is
answered as the table answers it (`Index.answer_asked`), and so are those of an interview (`Index.answer_interview`).
-/

namespace LineAtlas

open Index (settled)

theorem Record.id_of_decode {id : Nat} {text : String} {record : Record} (h : decode id text = .ok record) :
    record.id = id := by
  unfold decode at h
  split at h
  · cases h
  · unfold ofFields at h
    rename_i fields _
    cases hf : fileOf fields[0]? with
    | error fault => rw [hf] at h; cases h
    | ok file => rw [hf] at h; cases h; rfl

theorem Record.id_ofDefinition (id : Nat) (text : String) : (ofDefinition id text).id = id := by
  unfold ofDefinition
  split
  · rename_i record h
    exact id_of_decode h
  · rfl

namespace LineMap

theorem id_of_record? {m : LineMap} {id : Nat} {record : Record} (h : m.record? id = some record) : record.id = id := by
  obtain ⟨text, _, rfl⟩ := Option.map_eq_some_iff.1 h
  exact Record.id_ofDefinition id text

theorem record?_eq_none_iff {m : LineMap} {id : Nat} : m.record? id = none ↔ m.definitionCount ≤ id := by
  unfold record? definitionCount
  rw [Option.map_eq_none_iff, List.getElem?_eq_none_iff]

end LineMap

theorem Index.answer_asked (m : LineMap) (s : Finset Nat) (q : Question) :
    (settled m s).answer q.asked = (Table.ofLineMap m).answer q := by
  unfold answer
  rw [run_asked]

theorem Index.answer_interview (m : LineMap) (s : Finset Nat) (qs : List Question) :
    (settled m s).answer (interview qs) = qs.map (Table.ofLineMap m).answer := by
  unfold answer
  rw [run_interview]

/-- The answers of an index are those of the table of its line map: throughout an interview, and to a single question
after any interview as before it.  A record carries the identifier of its definition, and there is none where there is
no definition.  A command of a prompt other than `info` is answered in a conversation as if it came first. -/
theorem LineMap.lazy_eq_eager (m : LineMap) :
    (∀ qs, (Index.ofLineMap m).answer (Index.interview qs) = qs.map (Table.ofLineMap m).answer) ∧
    (∀ qs (q : Question), (m.indexAfter qs).answer q.asked = (Index.ofLineMap m).answer q.asked) ∧
    (∀ qs id record, (m.indexAfter qs).answer (Index.resolve id) = some record → record.id = id) ∧
    (∀ qs line offset record, (m.indexAfter qs).answer (Index.recordAt line offset) = some record →
      m.mappingAt? line offset = some record.id) ∧
    (∀ qs id, (m.indexAfter qs).answer (Index.resolve id) = none ↔ m.definitionCount ≤ id) ∧
    (∀ (cs : List Prompt.Command) (k : Nat) c, cs[k]? = some c → c ≠ .info →
      ((Index.ofLineMap m).answer (Prompt.converse cs))[k]? = some ((Index.ofLineMap m).answer (Prompt.said c))) := by
  refine ⟨fun qs => ?_, fun qs q => ?_, fun qs id record h => ?_, fun qs line offset record h => ?_, fun qs id => ?_,
    fun cs k c hk hc => Prompt.getElem?_converse m hc hk⟩
  · rw [Index.ofLineMap_eq_settled, Index.answer_interview]
  · rw [m.indexAfter_eq_settled, Index.ofLineMap_eq_settled, Index.answer_asked, Index.answer_asked]
  · rw [m.indexAfter_eq_settled, Index.answer_resolve] at h
    exact id_of_record? h
  · rw [m.indexAfter_eq_settled, Index.answer_recordAt] at h
    obtain ⟨id, hid, hrecord⟩ := Option.bind_eq_some_iff.1 h
    rw [hid, id_of_record? hrecord]
  · rw [m.indexAfter_eq_settled, Index.answer_resolve]
    exact record?_eq_none_iff

/-- The broken definition of the sample, asked for again after `info` has counted it. -/
theorem LineMap.lazy_eq_eager_sample :
    (sample.indexAfter [.reverse "a.js" 3]).answer (Index.resolve 1) = some (.standIn 1) ∧ (Record.standIn 1).id = 1 ∧
    (sample.indexAfter [.record 1]).answer (Index.recordAt 3 0) = some (.standIn 1) ∧
    sample.mappingAt? 3 0 = some (Record.standIn 1).id ∧
    (Prompt.Command.lookup 3 0) ≠ .info ∧
    ((Index.ofLineMap sample).answer (Prompt.converse [.lookup 3 0, .info, .lookup 3 0]))[2]? =
      some ((Index.ofLineMap sample).answer (Prompt.said (.lookup 3 0))) := by
  obtain ⟨-, -, ids, positions, -, commands⟩ := sample.lazy_eq_eager
  have hid : (sample.indexAfter [.reverse "a.js" 3]).answer (Index.resolve 1) = some (.standIn 1) := by cbv
  have hat : (sample.indexAfter [.record 1]).answer (Index.recordAt 3 0) = some (.standIn 1) := by
    cbv
  have hc : Prompt.Command.lookup 3 0 ≠ .info := by decide
  exact ⟨hid, ids _ _ _ hid, hat, positions _ _ _ _ hat, hc, commands _ 2 _ rfl hc⟩

end LineAtlas
