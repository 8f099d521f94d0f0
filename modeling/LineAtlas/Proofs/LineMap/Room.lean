import LineAtlas.Proofs.LineMap.Faults
import LineAtlas.Proofs.LineMap.Layout

/-!
# Room for the declared lines

A text has room for the number of generated lines that its header declares if it has a header, two markers and two lines
for each of them.  `guardedRead` reads line by line, counts how many lines it has read, and stops where a line would be
looked at that is not there, a difference would fall below zero, room would be asked for more items than the text has
lines, or more items would come than room was asked for.

The key facts: where there is room each step of the guarded reading finds its line (`run_next`), so that a part is read
as the reader reads it (`run_nextPart`), and the guarded reading ends as the reader does (`guardedRead_eq`).
-/

namespace LineAtlas.LineMap

/-- Why a guarded reading stops. -/
inductive Stop where
  /-- The text is at fault. -/
  | fault (cause : Fault)
  /-- A line was looked at that is not there. -/
  | noLine
  /-- A difference fell below zero. -/
  | belowZero
  /-- Room was asked for more items than the text has lines. -/
  | tooMuchRoom
  /-- More items came than room was asked for. -/
  | noRoomLeft

/-- A step of a guarded reading.  Its state is the number of lines that have been read. -/
abbrev GuardedReading (α : Type) := StateT Nat (Except Stop) α

/-- A flaw of the text stops a reading. -/
def Flaw.stop (flaw : Flaw) : Stop := .fault (.format flaw)

/-- The difference of two numbers of lines. -/
def difference (whole part : Nat) : Except Stop Nat := if part ≤ whole then .ok (whole - part) else .error .belowZero

/-- Asks for room and gives what there is then. -/
def reserve (lines : List String) (items : Nat) : Except Stop Nat :=
  if items ≤ lines.length then .ok items else .error .tooMuchRoom

/-- Puts an item into the room that is left, and gives what is left then. -/
def place (room : Nat) : Except Stop Nat := if 0 < room then .ok (room - 1) else .error .noRoomLeft

namespace GuardedReading

/-- The lines that have not been read. -/
def remaining (lines : List String) : GuardedReading (List String) := do
  let read ← get
  return lines.drop (min read lines.length)

/-- Takes the next line, without the blanks around it. -/
def next (lines : List String) (expected : String) : GuardedReading String := do
  let read ← get
  match lines[read]? with
  | none => throw (Flaw.stop (.ended expected (read + 1)))
  | some line =>
    set (read + 1)
    return Text.trim line

/-- Takes the marker before a part. -/
def nextMarker (lines : List String) (part : Part) : GuardedReading Unit := do
  let found ← next lines part.marker
  let number ← get
  if found ≠ part.marker then throw (Flaw.stop (.wrongMarker part number found))

/-- Takes the next row of a part. -/
def nextRow {α : Type} (lines : List String) (part : Part) (blank : α) (decode : String → Except RowFault α) :
    GuardedReading α := do
  let row ← next lines part.name
  let number ← get
  (readRow part blank decode number row).mapError Flaw.stop

/-- Takes rows of a part, one after the other, and puts them into the room that is left. -/
def nextRows {α : Type} (lines : List String) (part : Part) (blank : α) (decode : String → Except RowFault α) :
    Nat → Nat → GuardedReading (List α)
  | _, 0 => return []
  | room, count + 1 => do
    let row ← nextRow lines part blank decode
    let left ← place room
    let rows ← nextRows lines part blank decode left count
    return row :: rows

/-- Takes the rows of a part, with room for as many as there can be. -/
def nextPart {α : Type} (lines : List String) (part : Part) (blank : α) (decode : String → Except RowFault α)
    (count : Nat) : GuardedReading (List α) := do
  let rest ← remaining lines
  let room ← reserve lines (min count rest.length)
  nextRows lines part blank decode room count

/-- Takes the lines behind the header. -/
def nextBody (script : String) (lines : List String) (count : Nat) : GuardedReading LineMap := do
  let charMaps ← nextPart lines .charMaps .empty (fun s => (CharMap.read s).mapError .charMap) count
  nextMarker lines .fileLists
  let fileLists ← nextPart lines .fileLists [] (fun s => (Json.readStrings s).mapError .fileList) count
  nextMarker lines .definitions
  let rest ← remaining lines
  let _ ← reserve lines rest.length
  return { script, charMaps, fileLists, definitions := rest.map Text.trim }

end GuardedReading

/-- Reads a line map for a script line by line, with a guard at each step that could go wrong. -/
def guardedRead (script : String) (lines : List String) : Except Stop LineMap := do
  if lines.length < leastLines then throw (Flaw.stop (.tooShort lines.length))
  match lines[0]? with
  | none => throw .noLine
  | some header =>
    let count ← (readHeader header).mapError Stop.fault
    let behind ← difference lines.length 3
    if behind / 2 < count then throw (Flaw.stop (.noRoom count (behind / 2)))
    (GuardedReading.nextBody script lines count).run' 1

/-! ### One step -/

namespace GuardedReading

/-- What a step of the reader comes to in a guarded reading that has read a number of lines after it. -/
def after {α : Type} (read : Nat) (x : Except Flaw α) : Except Stop (α × Nat) := (x.mapError Flaw.stop).map (·, read)

theorem after_bind {α β : Type} {x : Except Flaw α} {f : α → Except Flaw β} {g : α × Nat → Except Stop (β × Nat)}
    {read behind : Nat} (h : ∀ a, x = .ok a → g (a, read) = after behind (f a)) :
    after read x >>= g = after behind (x >>= f) := by
  cases x with
  | error flaw => rfl
  | ok a => exact h a rfl

section Steps

variable {lines : List String} {read : Nat}

theorem run_next (expected : String) (h : read < lines.length) :
    (next lines expected).run read = pure (Text.trim lines[read], read + 1) := by
  have hline : lines[read]? = some lines[read] := List.getElem?_eq_getElem h
  unfold next
  rw [StateT.run_bind, StateT.run_get, pure_bind]
  simp only [hline]
  rfl

theorem run_nextMarker (part : Part) (h : read < lines.length) :
    (nextMarker lines part).run read = after (read + 1) (checkMarker part (read + 1) (lines.drop read)) := by
  have hmarker : checkMarker part (read + 1) (lines.drop read) =
      if Text.trim lines[read] = part.marker then .ok ()
      else .error (.wrongMarker part (read + 1) (Text.trim lines[read])) := by
    rw [List.drop_eq_getElem_cons h]
    rfl
  unfold nextMarker
  rw [StateT.run_bind, run_next _ h, pure_bind, StateT.run_bind, StateT.run_get, pure_bind, hmarker]
  by_cases hfound : Text.trim lines[read] = part.marker
  · rw [if_pos hfound, if_neg (not_not_intro hfound)]
    rfl
  · rw [if_neg hfound, if_pos hfound]
    rfl

variable {α : Type} {part : Part} {blank : α} {decode : String → Except RowFault α} {count : Nat}

theorem run_nextRow (h : read < lines.length) :
    (nextRow lines part blank decode).run read =
      after (read + 1) (readRow part blank decode (read + 1) lines[read]) := by
  unfold nextRow
  rw [StateT.run_bind, run_next _ h, pure_bind, StateT.run_bind, StateT.run_get, pure_bind, ← readRow_trim lines[read]]
  dsimp only
  cases readRow part blank decode (read + 1) (Text.trim lines[read]) <;> rfl

/-- Rows are taken from the lines in their places, up to the first that cannot be read, and there is room for them. -/
theorem run_nextRows {room : Nat} (h : read + count ≤ lines.length) (hroom : count ≤ room) :
    (nextRows lines part blank decode room count).run read =
      after (read + count) ((((lines.drop read).take count).zipIdx (read + 1)).mapM
        fun (line, k) => readRow part blank decode k line) := by
  induction count generalizing read room with
  | zero => rfl
  | succ count ih =>
    have hlines : (lines.drop read).take (count + 1) = lines[read] :: (lines.drop (read + 1)).take count := by
      rw [List.drop_eq_getElem_cons (by omega), List.take_succ_cons]
    have hend : read + (count + 1) = read + 1 + count := by omega
    have hleft : place room = .ok (room - 1) := if_pos (by omega)
    unfold nextRows
    rw [StateT.run_bind, run_nextRow (by omega), hlines, List.zipIdx_cons, List.mapM_cons, hend, hleft]
    refine after_bind fun row _ => ?_
    show StateT.run (nextRows lines part blank decode (room - 1) count >>= fun rows => pure (row :: rows)) _ = _
    rw [StateT.run_bind, ih (by omega) (by omega)]
    exact after_bind fun rows _ => rfl

theorem readRows_of_le {number : Nat} (h : count ≤ lines.length) :
    readRows part blank decode number count lines =
      ((lines.take count).zipIdx number).mapM fun (line, k) => readRow part blank decode k line := by
  unfold readRows
  cases hrows : ((lines.take count).zipIdx number).mapM fun (line, k) => readRow part blank decode k line with
  | error flaw => rfl
  | ok rows =>
    have hlength : min count lines.length = rows.length := by
      simpa using (Except.mapM_eq_ok_iff.1 hrows).length_eq
    show (if rows.length < count then throw _ else pure rows) = _
    rw [if_neg (by omega)]
    rfl

/-- Where there are lines enough, a part is read as the reader reads it, with no more room than there are lines. -/
theorem run_nextPart (h : read + count ≤ lines.length) :
    (nextPart lines part blank decode count).run read =
      after (read + count) (readRows part blank decode (read + 1) count (lines.drop read)) := by
  have hdrop : (lines.drop (min read lines.length)).length = lines.length - read := by
    rw [List.length_drop, Nat.min_eq_left (by omega)]
  have hreserve : reserve lines (min count (lines.length - read)) = .ok count := by
    rw [Nat.min_eq_left (by omega)]
    exact if_pos (by omega)
  unfold nextPart remaining
  rw [StateT.run_bind, StateT.run_bind, StateT.run_get, pure_bind, StateT.run_pure, pure_bind, hdrop, hreserve,
    readRows_of_le (by rw [List.length_drop]; omega), ← run_nextRows h (Nat.le_refl count)]
  rfl

/-- Where there is room, the lines behind the header are read as the reader reads them. -/
theorem run_nextBody (script : String) (h : 2 * count + 3 ≤ lines.length) :
    (nextBody script lines count).run 1 = after (2 * count + 3) (readBody script count (lines.drop 1)) := by
  unfold nextBody readBody
  rw [StateT.run_bind, run_nextPart (by omega)]
  refine after_bind fun charMaps _ => ?_
  rw [StateT.run_bind, run_nextMarker _ (by omega), List.drop_drop, show 1 + count + 1 = count + 2 by omega]
  refine after_bind fun _ _ => ?_
  rw [StateT.run_bind, run_nextPart (by omega), List.drop_drop, show 1 + (count + 1) = count + 2 by omega]
  refine after_bind fun fileLists _ => ?_
  rw [StateT.run_bind, run_nextMarker _ (by omega), List.drop_drop, show count + 2 + count = 2 * count + 2 by omega,
    show 1 + (2 * count + 1) = 2 * count + 2 by omega]
  refine after_bind fun _ _ => ?_
  have hrest : (lines.drop (min (2 * count + 3) lines.length)).length ≤ lines.length := by
    rw [List.length_drop]
    omega
  unfold remaining reserve
  rw [StateT.run_bind, StateT.run_bind, StateT.run_get, pure_bind, StateT.run_pure, pure_bind, if_pos hrest,
    Nat.min_eq_left h, List.drop_drop, show 1 + (2 * count + 2) = 2 * count + 3 by omega]
  rfl

end Steps

end GuardedReading

/-! ### The whole text -/

/-- A guarded reading ends as the reader does: none of its guards ever stops it. -/
theorem guardedRead_eq (script : String) (lines : List String) :
    guardedRead script lines = (read script lines).mapError .fault := by
  by_cases hleast : lines.length < 4
  · rw [read_of_short script hleast]
    unfold guardedRead
    rw [if_pos (show lines.length < leastLines from hleast)]
    rfl
  · obtain ⟨header, hheader, hread⟩ := read_of_least script (Nat.not_lt.1 hleast)
    rw [atLine?_of_pos _ (Nat.le_refl 1)] at hheader
    have hdifference : difference lines.length 3 = .ok (lines.length - 3) := if_pos (by omega)
    unfold guardedRead
    rw [if_neg (show ¬ lines.length < leastLines from hleast), hread, hdifference]
    simp only [hheader]
    cases readHeader header with
    | error fault => rfl
    | ok count =>
      dsimp only
      by_cases hroom : (lines.length - 3) / 2 < count
      · rw [if_pos hroom]
        show (if (lines.length - 3) / 2 < count then _ else _ : Except Stop LineMap) = _
        rw [if_pos hroom]
        rfl
      · rw [if_neg hroom]
        show (if (lines.length - 3) / 2 < count then _ else _ : Except Stop LineMap) = _
        rw [if_neg hroom]
        show Prod.fst <$> (GuardedReading.nextBody script lines count).run 1 = _
        rw [GuardedReading.run_nextBody script (by omega)]
        cases readBody script count (lines.drop 1) <;> rfl

/-- A text does not end among its rows or before its markers: it is refused before, when it has too few lines. -/
theorem read_ne_ended (script : String) (lines : List String) (expected : String) (number : Nat) :
    read script lines ≠ .error (.format (.ended expected number)) := by
  intro h
  obtain hshort | hheader | ⟨-, header, count, -, -, ⟨-, hroom⟩ | ⟨-, hfirst⟩⟩ := read_eq_format_cases h
  · cases hshort
  · cases hheader
  · cases hroom
  · obtain ⟨k, line, -, -, hflaw, -⟩ := firstFlaw?_eq_some_iff.1 hfirst
    cases line?_of_flawAt? hflaw

theorem read_eq_noRoom_iff {script : String} {lines : List String} {declared room : Nat} :
    read script lines = .error (.format (.noRoom declared room)) ↔
      4 ≤ lines.length ∧ (∃ header, atLine? lines 1 = some header ∧ Declares header declared) ∧
        lines.length < 3 + 2 * declared ∧ room = (lines.length - 3) / 2 := by
  constructor
  · intro h
    obtain hshort | hheader | ⟨hleast, header, count, hheader, hdeclares, ⟨hless, hroom⟩ | ⟨-, hfirst⟩⟩ :=
      read_eq_format_cases h
    · cases hshort
    · cases hheader
    · cases hroom
      exact ⟨hleast, ⟨header, hheader, hdeclares⟩, hless, rfl⟩
    · obtain ⟨k, line, -, -, hflaw, -⟩ := firstFlaw?_eq_some_iff.1 hfirst
      cases line?_of_flawAt? hflaw
  · rintro ⟨hleast, ⟨header, hheader, hdeclares⟩, hless, rfl⟩
    rw [read_of_declares script hleast hheader hdeclares, if_pos hless]

/-- A text whose header declares a number of generated lines is refused for want of room exactly if three lines and
twice that number are more than it has.  No text ends where another line should stand, and a reading in which every
difference, every line that is looked at and all room that is asked for is guarded ends as the reader does, so that no
guard stops it. -/
theorem room_check_exact (script : String) (lines : List String) :
    (∀ header count, 4 ≤ lines.length → atLine? lines 1 = some header → Declares header count →
      ((∃ declared room, read script lines = .error (.format (.noRoom declared room))) ↔
        lines.length < 3 + 2 * count)) ∧
    (∀ declared room, read script lines = .error (.format (.noRoom declared room)) ↔
      4 ≤ lines.length ∧ (∃ header, atLine? lines 1 = some header ∧ Declares header declared) ∧
        lines.length < 3 + 2 * declared ∧ room = (lines.length - 3) / 2) ∧
    (∀ expected number, read script lines ≠ .error (.format (.ended expected number))) ∧
    guardedRead script lines = (read script lines).mapError .fault := by
  refine ⟨fun header count hleast hheader hdeclares => ⟨?_, fun hless => ?_⟩, fun declared room => read_eq_noRoom_iff,
    read_ne_ended script lines, guardedRead_eq script lines⟩
  · rintro ⟨declared, room, h⟩
    obtain ⟨-, ⟨first, hfirst, hdeclared⟩, hless, -⟩ := read_eq_noRoom_iff.1 h
    obtain rfl : header = first := Option.some.inj (hheader.symm.trans hfirst)
    obtain rfl : count = declared :=
      Except.ok.inj ((readHeader_eq_ok_iff.2 hdeclares).symm.trans (readHeader_eq_ok_iff.2 hdeclared))
    exact hless
  · exact ⟨count, _, read_eq_noRoom_iff.2 ⟨hleast, ⟨header, hheader, hdeclares⟩, hless, rfl⟩⟩

/-- A text of four lines whose header declares the largest number there can be. -/
def crowdedSample : List String :=
  ["/** Begin line maps. **/\x7b\"count\":18446744073709551615\x7d", "/** Begin file information. **/",
    "/** Begin mapping definitions. **/", ""]

/-- Twice the largest number has more bits than the number itself, and the text is refused all the same. -/
theorem room_check_exact_sample :
    4 ≤ crowdedSample.length ∧
    atLine? crowdedSample 1 = some "/** Begin line maps. **/\x7b\"count\":18446744073709551615\x7d" ∧
    Declares "/** Begin line maps. **/\x7b\"count\":18446744073709551615\x7d" 18446744073709551615 ∧
    crowdedSample.length < 3 + 2 * 18446744073709551615 ∧
    ∃ declared room, read "out.js" crowdedSample = .error (.format (.noRoom declared room)) := by
  have hdeclares : Declares "/** Begin line maps. **/\x7b\"count\":18446744073709551615\x7d" 18446744073709551615 :=
    readHeader_eq_ok_iff.1 rfl
  obtain ⟨refused, -⟩ := room_check_exact "out.js" crowdedSample
  have hless : crowdedSample.length < 3 + 2 * 18446744073709551615 := by decide
  exact ⟨by decide, rfl, hdeclares, hless, (refused _ _ (by decide) rfl hdeclares).2 hless⟩

end LineAtlas.LineMap
