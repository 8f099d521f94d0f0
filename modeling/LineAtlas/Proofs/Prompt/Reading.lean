import LineAtlas.Prompt.Command
import LineAtlas.Proofs.Text.Numeral
import LineAtlas.Proofs.Text.Spelling

/-!
# Reading commands

A command is read from the words of a trimmed line.

* A number is read as it is written, within the bounds of lines and offsets (`lineOf_ofNat`, `offsetOf_ofNat`).
* However a file, a name or any further word is quoted, and whatever separators stand around the words, the command has
  the word itself (`read_written`).
* Trimming goes by the blanks of Unicode, so that it can take a blank from a word or from an escape.  It keeps the words
  of a line exactly where `trimmed_iff` says so; a line that ends in an escaped blank has no words any more
  (`escaped_blank_lost`).
-/

namespace LineAtlas.Prompt.Command

/-- The command that the words of a line stand for, if it has words. -/
def ofSplit : Option (List String) → Except CommandFault Command
  | none => .error .openQuotes
  | some [] => .error .empty
  | some (word :: rest) => ofWords word rest

theorem read_eq (input : String) : read input = ofSplit (Words.split (Text.trim input)) := by
  unfold read
  cases Words.split (Text.trim input) with
  | none => rfl
  | some words =>
    cases words with
    | nil => rfl
    | cons word rest => rfl

theorem lineOf_ofNat (command : String) {n : Nat} (h : 1 ≤ n) (hlimit : n ≤ Numeral.lineLimit) :
    lineOf command (some (Numeral.ofNat n)) = .ok n := by
  have hread : Numeral.unsigned? Numeral.lineLimit (Numeral.ofNat n).toList = some n := by
    rw [Numeral.ofNat, String.toList_ofList, Numeral.unsigned?_chars hlimit]
  unfold lineOf
  dsimp only
  rw [hread]
  cases n with
  | zero => omega
  | succ n => rfl

theorem offsetOf_ofNat {k : Nat} (hlimit : k ≤ Numeral.wordLimit) :
    offsetOf (some (Numeral.ofNat k)) = .ok k := by
  have hread : Numeral.unsigned? Numeral.wordLimit (Numeral.ofNat k).toList = some k := by
    rw [Numeral.ofNat, String.toList_ofList, Numeral.unsigned?_chars hlimit]
  unfold offsetOf
  dsimp only
  rw [hread]

/-! ### Quoted words -/

theorem read_of_written {word line : String} {rest : List String} (h : Words.Written (word :: rest) line) :
    read line = ofWords word rest := by
  rw [read_eq, Words.split_written h]
  rfl

/-- The words of a command are written in any of the ways there are, with separators around them, and any further words
behind them.  Then the command is read with the very words for a file or a name, and with the numbers; a name is that of
a key exactly if a word behind it says so. -/
theorem read_written (w : String) {n k : Nat} (hn : 1 ≤ n) (hn' : n < 2 ^ 32) (hk : k < 2 ^ 64) (more : List String)
    (line : String) :
    (Words.Written ("reverse" :: w :: Numeral.ofNat n :: more) line → read line = .ok (.reverse w n)) ∧
    (Words.Written ("name" :: w :: more) line → "--property" ∉ more → read line = .ok (.name w false)) ∧
    (Words.Written ("name" :: w :: "--property" :: more) line → read line = .ok (.name w true)) ∧
    (Words.Written ("lookup" :: Numeral.ofNat n :: Numeral.ofNat k :: more) line → read line = .ok (.lookup n k)) ∧
    (Words.Written ("line" :: Numeral.ofNat n :: more) line → read line = .ok (.line n)) ∧
    (Words.Written ("files" :: Numeral.ofNat n :: more) line → read line = .ok (.files n)) := by
  have hline (command : String) : lineOf command (some (Numeral.ofNat n)) = .ok n :=
    lineOf_ofNat command hn (by unfold Numeral.lineLimit; omega)
  have hoffset : offsetOf (some (Numeral.ofNat k)) = .ok k := offsetOf_ofNat (by unfold Numeral.wordLimit; omega)
  refine ⟨fun h => ?_, fun h hmore => ?_, fun h => ?_, fun h => ?_, fun h => ?_, fun h => ?_⟩
  · rw [read_of_written h]
    show (lineOf "reverse" (some (Numeral.ofNat n)) >>= fun line => pure (Command.reverse w line)) = _
    rw [hline]
    rfl
  · rw [read_of_written h]
    show Except.ok (Command.name w (more.contains "--property")) = _
    rw [List.contains_eq_mem, decide_eq_false hmore]
  · rw [read_of_written h]
    show Except.ok (Command.name w (("--property" :: more).contains "--property")) = _
    rw [List.contains_eq_mem, decide_eq_true List.mem_cons_self]
  · rw [read_of_written h]
    show (lineOf "lookup" (some (Numeral.ofNat n)) >>= fun line =>
      offsetOf (some (Numeral.ofNat k)) >>= fun offset => pure (Command.lookup line offset)) = _
    rw [hline, hoffset]
    rfl
  · rw [read_of_written h]
    show (lineOf "line" (some (Numeral.ofNat n)) >>= fun line => pure (Command.line line)) = _
    rw [hline]
    rfl
  · rw [read_of_written h]
    show (lineOf "files" (some (Numeral.ofNat n)) >>= fun line => pure (Command.files line)) = _
    rw [hline]
    rfl

/-- A file with a quote, a blank and a number sign in its name, and a further word between double quotes. -/
def quotedSample : String := "\treverse 'it'\\''s #1'\n 7  \"\\\"\\$x\\\"\"\n"

private theorem written_quotedSample : Words.Written ["reverse", "it's #1", "7", "\"$x\""] quotedSample := by
  have hseparators {cs : List Char} (h : cs.all Words.isSeparator = true) : ∀ c ∈ cs, Words.isSeparator c = true :=
    List.all_eq_true.1 h
  have hcommand : Words.Spells "reverse".toList "reverse".toList := .plain (by decide) (List.all_eq_true.1 (by decide))
  have hline : Words.Spells "7".toList "7".toList := .plain (by decide) (List.all_eq_true.1 (by decide))
  have hmore : Words.Joined ["\"$x\""] (Words.doubleQuoted "\"$x\"".toList) := .last (.double _)
  have hnumber : Words.Joined ["7", "\"$x\""] _ :=
    .cons hline (List.cons_ne_nil ' ' [' ']) (hseparators (by decide)) hmore
  have hfile : Words.Joined ["it's #1", "7", "\"$x\""] _ :=
    .cons (.single _) (List.cons_ne_nil '\n' [' ']) (hseparators (by decide)) hnumber
  have hwords : Words.Joined ["reverse", "it's #1", "7", "\"$x\""] _ :=
    .cons hcommand (List.cons_ne_nil ' ' []) (hseparators (by decide)) hfile
  exact ⟨['\t'], _, ['\n'], hseparators (by decide), hseparators (by decide), hwords, by decide +kernel⟩

/-- The file is read with its quote, blank and number sign. -/
theorem read_written_sample :
    1 ≤ 7 ∧ 7 < 2 ^ 32 ∧ 14 < 2 ^ 64 ∧ Words.Written ["reverse", "it's #1", "7", "\"$x\""] quotedSample ∧
    read quotedSample = .ok (.reverse "it's #1" 7) := by
  have hwritten := written_quotedSample
  obtain ⟨reversed, -⟩ :=
    read_written "it's #1" (n := 7) (k := 14) (by decide) (by decide) (by decide) ["\"$x\""] quotedSample
  exact ⟨by decide, by decide, by decide, hwritten, reversed hwritten⟩

/-! ### Trimmed lines -/

/-- When a line is read as if it were not trimmed.  The words are those of the whole line exactly where the blanks in
front are separators, or where quotes or an escape are open at the end of what is left, and where the blanks behind are
harmless there; a line that starts like a comment has to have a separator before the number sign.  Then it is read as
the command of these words.  Where an escape is open before the blanks at the end, the line has words and is refused. -/
theorem trimmed_iff (input : String)
    (hmark : (Text.trim input).toList.head? = some '#' →
      ∀ c ∈ (Words.leading input).getLast?, Words.isSeparator c = true) :
    let last := Words.Mode.gap.after (Text.trim input).toList
    let kept := (last.isOpen = true ∨ ∀ c ∈ Words.leading input, Words.isSeparator c = true) ∧
      Words.Harmless last (Words.trailing input)
    (Words.split (Text.trim input) = Words.split input ↔ kept) ∧
    (kept → read input = ofSplit (Words.split input)) ∧
    (last = .bareEscape → Words.trailing input ≠ [] →
      read input = .error .openQuotes ∧ ∃ words, Words.split input = some words) := by
  intro last kept
  have hkept : Words.split (Text.trim input) = Words.split input ↔ kept := Words.split_trim_iff hmark
  refine ⟨hkept, fun h => ?_, fun hlast htrailing => ?_⟩
  · rw [read_eq, hkept.2 h]
  · have hnone : Words.split (Text.trim input) = none := by
      rw [Words.split_eq_none_iff, show Words.Mode.gap.after _ = .bareEscape from hlast]
      rfl
    have hsome : Words.split input ≠ none := by
      intro h
      have hharmless := (hkept.1 (hnone.trans h.symm)).2
      rw [hlast] at hharmless
      exact htrailing hharmless
    exact ⟨by rw [read_eq, hnone]; rfl, Option.ne_none_iff_exists'.1 hsome⟩

/-- A comment behind a blank, and a line that ends in an escaped blank and one of another kind. -/
def escapedSample : String := " # note\nname \\ \u00a0"

/-- The word of the two blanks is lost with them. -/
theorem trimmed_iff_sample :
    (Text.trim escapedSample).toList.head? = some '#' ∧
    (∀ c ∈ (Words.leading escapedSample).getLast?, Words.isSeparator c = true) ∧
    Words.Mode.gap.after (Text.trim escapedSample).toList = .bareEscape ∧ Words.trailing escapedSample ≠ [] ∧
    read escapedSample = .error .openQuotes ∧ ∃ words, Words.split escapedSample = some words := by
  have hleading : (Words.leading escapedSample).getLast? = some ' ' := by decide +kernel
  have hmark : ∀ c ∈ (Words.leading escapedSample).getLast?, Words.isSeparator c = true := by
    intro c hc
    rw [hleading] at hc
    obtain rfl := Option.some.inj hc
    rfl
  have hlast : Words.Mode.gap.after (Text.trim escapedSample).toList = .bareEscape := by decide +kernel
  have htrailing : Words.trailing escapedSample ≠ [] := by decide +kernel
  obtain ⟨-, -, lost⟩ := trimmed_iff escapedSample fun _ => hmark
  exact ⟨by decide +kernel, hmark, hlast, htrailing, lost hlast htrailing⟩

/-- A blank at the end of a line that is escaped is a word, and without it the line is refused. -/
theorem escaped_blank_lost :
    ofSplit (Words.split "name \\ ") = .ok (.name " " false) ∧ read "name \\ " = .error .openQuotes := by
  decide +kernel

end LineAtlas.Prompt.Command
