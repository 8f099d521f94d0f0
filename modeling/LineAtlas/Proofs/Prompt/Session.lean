import LineAtlas.Prompt.Session
import LineAtlas.Proofs.Index.Question
import LineAtlas.Proofs.Prompt.Conversation

/-!
# What a session answers

The lines of a session that are not blank are spoken.  They are answered one after the other, up to one that says to
leave.  What a session has come to after some lines depends only on their queries, which its index has been asked one
after the other, and on the lines themselves for the history (`Session.after`).

The key facts: a line that does not say to leave gets its reply from the session after the lines before it, and the
rest of the lines finds the session after this line (`exists_reply`).  So a whole session replies to all answered lines
in turn, and says goodbye unless a line says to leave (`answers_until_exit`).
-/

namespace LineAtlas.Prompt

open Command (read)

/-! ### Lines -/

def isBlank (line : String) : Bool := (Text.trimChars line.toList).isEmpty

/-- The lines that are not blank. -/
def spoken (lines : List String) : List String := lines.filter fun line => !isBlank line

/-- The spoken lines before the first one that says to leave. -/
def answered (lines : List String) : List String := (spoken lines).takeWhile fun line => read line ≠ .ok .exit

/-- The answered lines with the one that says to leave, if there is one. -/
def handled (lines : List String) : List String :=
  answered lines ++ ((spoken lines).find? fun line => read line = .ok .exit).toList

/-- The query that a line puts to the index. -/
def query? (line : String) : Option Command := (read line).toOption.filter fun c => (answer? c).isSome

/-- The queries of some lines. -/
def queries (lines : List String) : List Command := lines.filterMap query?

/-- What is printed at the end of some lines. -/
def farewell (coloured : Bool) (lines : List String) : List Printed :=
  if ∃ line ∈ lines, read line = .ok .exit then [] else [.line (Tone.success.paint coloured "Goodbye!")]

variable {line : String} {lines : List String}

theorem read_ne_exit_of_isBlank (h : isBlank line) : read line ≠ .ok .exit := by
  have htrim : Text.trim line = "" := by simpa [Text.trim, isBlank] using h
  unfold Command.read
  rw [htrim, Words.split_empty]
  exact nofun

theorem queries_append (a b : List String) : queries (a ++ b) = queries a ++ queries b := List.filterMap_append

theorem queries_of_error {fault : CommandFault} (h : read line = .error fault) : queries [line] = [] := by
  simp [queries, query?, h, Except.toOption]

theorem queries_of_some {c : Command} {q : Query String} (h : read line = .ok c) (hq : answer? c = some q) :
    queries [line] = [c] := by
  simp [queries, query?, h, hq, Except.toOption, Option.filter]

theorem queries_of_none {c : Command} (h : read line = .ok c) (hq : answer? c = none) : queries [line] = [] := by
  simp [queries, query?, h, hq, Except.toOption, Option.filter]

theorem answered_of_isBlank (h : isBlank line) : answered (line :: lines) = answered lines := by
  simp [answered, spoken, h]

theorem handled_of_isBlank (h : isBlank line) : handled (line :: lines) = handled lines := by
  simp [handled, answered, spoken, h]

theorem answered_of_exit (hline : ¬ isBlank line) (h : read line = .ok .exit) : answered (line :: lines) = [] := by
  simp [answered, spoken, hline, h]

theorem handled_of_exit (hline : ¬ isBlank line) (h : read line = .ok .exit) : handled (line :: lines) = [line] := by
  simp [handled, answered, spoken, hline, h]

theorem answered_of_ne_exit (hline : ¬ isBlank line) (h : read line ≠ .ok .exit) :
    answered (line :: lines) = line :: answered lines := by
  simp [answered, spoken, hline, h]

theorem handled_of_ne_exit (hline : ¬ isBlank line) (h : read line ≠ .ok .exit) :
    handled (line :: lines) = line :: handled lines := by
  simp [handled, answered, spoken, hline, h]

namespace Session

variable {coloured : Bool} {s : Session} {reply : List Printed}

/-- The session after some lines: its index has been asked their queries, and its history has the lines. -/
def after (s : Session) (lines : List String) : Session where
  index := ((converse (queries lines)).run s.index).value.2
  history := lines.foldl History.add s.history

/-- What is printed for a line that does not say to leave, when it finds a session. -/
inductive IsReply (coloured : Bool) (s : Session) (line : String) : List Printed → Prop
  | refused {fault : CommandFault} (h : read line = .error fault) :
    IsReply coloured s line [complaint coloured fault.message]
  | query {c : Command} {q : Query String} (h : read line = .ok c) (hq : answer? c = some q) :
    IsReply coloured s line [.line (s.index.answer q)]
  | history (h : read line = .ok .history) :
    IsReply coloured s line [.line (historyText (s.after [line]).history)]
  | clear (h : read line = .ok .clear) : IsReply coloured s line [.answer clearScreen]
  | help (h : read line = .ok .help) : IsReply coloured s line [.line helpText]

/-- There is only one reply to a line. -/
theorem IsReply.unique {reply' : List Printed} (h : s.IsReply coloured line reply)
    (h' : s.IsReply coloured line reply') : reply = reply' := by
  cases h <;> cases h' <;> grind [answer?]

theorem after_append (s : Session) (a b : List String) : s.after (a ++ b) = (s.after a).after b := by
  unfold after
  rw [queries_append, value_converse_append, List.foldl_append]

/-! ### One line -/

theorem answerLines_of_isBlank (h : isBlank line) (rest : List (Option String)) (s : Session) :
    answerLines coloured (some line :: rest) s = answerLines coloured rest s := by
  rw [answerLines]
  exact if_pos h

theorem after_of_queries_eq_nil (h : queries [line] = []) (s : Session) :
    s.after [line] = { s with history := s.history.add line } := by
  rw [after, h]
  rfl

theorem answerLines_of_exit (hline : ¬ isBlank line) (h : read line = .ok .exit) (rest : List (Option String))
    (s : Session) : answerLines coloured (some line :: rest) s = pure ([], s.after [line]) := by
  rw [answerLines, after_of_queries_eq_nil (queries_of_none h rfl)]
  refine (if_neg hline).trans ?_
  simp only [h]

theorem answerLines_of_error {fault : CommandFault} (hline : ¬ isBlank line) (h : read line = .error fault)
    (rest : List (Option String)) (s : Session) :
    answerLines coloured (some line :: rest) s = (do
      let (more, ended) ← answerLines coloured rest { s with history := s.history.add line }
      return (complaint coloured fault.message :: more, ended)) := by
  rw [answerLines]
  refine (if_neg hline).trans ?_
  simp only [h]

theorem answerLines_of_ok {c : Command} (hline : ¬ isBlank line) (h : read line = .ok c) (hc : c ≠ .exit)
    (rest : List (Option String)) (s : Session) :
    answerLines coloured (some line :: rest) s = (do
      let (printed, later) ← answer c { s with history := s.history.add line }
      let (more, ended) ← answerLines coloured rest later
      return (printed ++ more, ended)) := by
  rw [answerLines]
  refine (if_neg hline).trans ?_
  cases c <;> first | exact absurd rfl hc | simp only [h]

theorem answer_of_some {c : Command} {q : Query String} (hc : answer? c = some q) (s : Session) :
    answer c s = (do
      let (text, index) ← q.run s.index
      return ([.line text], { s with index })) := by
  unfold answer
  rw [hc]

/-- A line that does not say to leave gets its reply, and the rest finds the session after it. -/
theorem exists_reply (coloured : Bool) (hline : ¬ isBlank line) (hstay : read line ≠ .ok .exit)
    (rest : List (Option String)) (s : Session) :
    ∃ reply, s.IsReply coloured line reply ∧
      answerLines coloured (some line :: rest) s = (do
        let _ ← (converse (queries [line])).run s.index
        let (more, ended) ← answerLines coloured rest (s.after [line])
        return (reply ++ more, ended)) := by
  cases h : read line with
  | error fault =>
    have hq := queries_of_error h
    refine ⟨_, .refused h, ?_⟩
    rw [answerLines_of_error hline h, after_of_queries_eq_nil hq, hq]
    rfl
  | ok c =>
    rw [answerLines_of_ok hline h (fun hc => hstay (hc ▸ h))]
    cases hc : answer? c with
    | some q =>
      have hq := queries_of_some h hc
      refine ⟨_, .query h hc, ?_⟩
      rw [answer_of_some hc, after, hq, converse_singleton_run hc]
      rfl
    | none =>
      have hq := queries_of_none h hc
      cases c with
      | history =>
        refine ⟨_, .history h, ?_⟩
        rw [after_of_queries_eq_nil hq, hq]
        rfl
      | clear =>
        refine ⟨_, .clear h, ?_⟩
        rw [after_of_queries_eq_nil hq, hq]
        rfl
      | help =>
        refine ⟨_, .help h, ?_⟩
        rw [after_of_queries_eq_nil hq, hq]
        rfl
      | exit => exact absurd h hstay
      | _ => cases hc

/-! ### All lines -/

/-- The replies to some lines, each from the session after the lines before it. -/
def Replies (coloured : Bool) (s : Session) (lines : List String) (replies : List (List Printed)) : Prop :=
  replies.length = lines.length ∧ ∀ i line reply, lines[i]? = some line → replies[i]? = some reply →
    (s.after (lines.take i)).IsReply coloured line reply

theorem Replies.cons {replies : List (List Printed)} (h : s.IsReply coloured line reply)
    (hs : (s.after [line]).Replies coloured lines replies) : s.Replies coloured (line :: lines) (reply :: replies) := by
  obtain ⟨hlength, hreply⟩ := hs
  refine ⟨by simp [hlength], fun i line' reply' hline' hreply' => ?_⟩
  cases i with
  | zero =>
    obtain rfl : line = line' := by simpa using hline'
    obtain rfl : reply = reply' := by simpa using hreply'
    exact h
  | succ i =>
    rw [List.take_succ_cons, ← List.singleton_append, after_append]
    exact hreply i line' reply' (by simpa using hline') (by simpa using hreply')

theorem exists_replies (s : Session) (coloured : Bool) (lines : List String) :
    ∃ replies, s.Replies coloured (answered lines) replies ∧
      answerLines coloured (lines.map some) s = (do
        let _ ← (converse (queries (answered lines))).run s.index
        return (replies.flatten ++ farewell coloured lines, s.after (handled lines))) := by
  -- The lines after the first one find another session, so the induction is over all sessions.
  induction lines generalizing s with
  | nil => exact ⟨[], ⟨rfl, by simp [answered, spoken]⟩, rfl⟩
  | cons line lines ih =>
    rw [List.map_cons]
    by_cases hline : isBlank line
    · obtain ⟨replies, hreplies, hlines⟩ := ih s
      have hstay := read_ne_exit_of_isBlank hline
      refine ⟨replies, ?_, ?_⟩
      · rwa [answered_of_isBlank hline]
      · rw [answerLines_of_isBlank hline, hlines, answered_of_isBlank hline, handled_of_isBlank hline]
        simp [farewell, hstay]
    by_cases hexit : read line = .ok .exit
    · refine ⟨[], ?_, ?_⟩
      · rw [answered_of_exit hline hexit]
        exact ⟨rfl, by simp⟩
      · rw [answerLines_of_exit hline hexit, answered_of_exit hline hexit, handled_of_exit hline hexit]
        simp [farewell, hexit, queries, converse]
    · obtain ⟨reply, hreply, hrest⟩ := exists_reply coloured hline hexit (lines.map some) s
      obtain ⟨replies, hreplies, hlines⟩ := ih (s.after [line])
      refine ⟨reply :: replies, ?_, ?_⟩
      · rw [answered_of_ne_exit hline hexit]
        exact .cons hreply hreplies
      · have hafter : s.after (line :: handled lines) = (s.after [line]).after (handled lines) :=
          after_append s [line] _
        have hqueries : queries (line :: answered lines) = queries [line] ++ queries (answered lines) :=
          queries_append [line] _
        have hfarewell : farewell coloured (line :: lines) = farewell coloured lines := by simp [farewell, hexit]
        rw [hrest, hlines, answered_of_ne_exit hline hexit, handled_of_ne_exit hline hexit]
        rw [hafter, hqueries, hfarewell]
        refine congrArg₂ Told.mk ?_ ?_
        · show (reply ++ (_ ++ _), _) = _
          rw [List.flatten_cons, List.append_assoc]
          rfl
        · simp [events_converse_append, after, Told.events_map]

end Session

/-- A blank line, one that is no command, and two after the one that says to leave. -/
def sessionSample : List String := ["lookup 3 0", " ", "nam", "info", "quit", "help", "info"]

end LineAtlas.Prompt
