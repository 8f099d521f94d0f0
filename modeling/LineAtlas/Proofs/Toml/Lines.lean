import LineAtlas.Proofs.Text.Search
import LineAtlas.Proofs.Toml.Written
import LineAtlas.Toml.Document

/-!
# Written TOML files

A file is written line by line, and `Reads` says of a text which statements its lines make, with any bound that its
length allows.  Lines can be put in front of a text that is read: empty ones, named texts, and headers with one or two
brackets, as long as their keys need no quotes (`IsBare`).  Statements that name values are gathered under the header
before them (`sectionsOf_append`), and a table takes values under new names in their order (`insertAll_of_nodup`).
-/

namespace LineAtlas.Toml

variable {cs rest : List Char} {key : String} {statements : List Statement}

/-! ### Keys -/

/-- A key that is written without quotes. -/
def IsBare (key : String) : Prop := key.toList ≠ [] ∧ ∀ c ∈ key.toList, isKeyChar c = true

instance (key : String) : Decidable (IsBare key) :=
  decidable_of_iff ((!key.toList.isEmpty && key.toList.all isKeyChar) = true) (by simp [IsBare])

private theorem dropBlanks_cons {c : Char} (h : isBlank c = false) (cs : List Char) :
    dropBlanks (c :: cs) = c :: cs := by
  rw [dropBlanks, List.dropWhile_cons, h, if_neg Bool.false_ne_true]

private theorem ne_of_isKeyChar {c d : Char} (hc : isKeyChar c = true) (hd : isKeyChar d = false) : c ≠ d := by
  rintro rfl
  exact Bool.false_ne_true (hd.symm.trans hc)

private theorem isBlank_of_isKeyChar {c : Char} (h : isKeyChar c = true) : isBlank c = false := by
  have hspace : c ≠ ' ' := ne_of_isKeyChar h rfl
  have htab : c ≠ '\t' := ne_of_isKeyChar h rfl
  simp [isBlank, hspace, htab]

/-- A bare key is read up to what cannot belong to it. -/
theorem readKey_append (hkey : IsBare key) (rest : List Char) (hstop : ∀ c ∈ rest.head?, isKeyChar c = false)
    (hpoint : (dropBlanks rest).head? ≠ some '.') : readKey (key.toList ++ rest) = some ([key], dropBlanks rest) := by
  obtain ⟨hne, hchars⟩ := hkey
  have hkeep : dropBlanks (key.toList ++ rest) = key.toList ++ rest := by
    obtain ⟨c, tail, hc⟩ := List.exists_cons_of_ne_nil hne
    rw [hc] at hchars ⊢
    exact dropBlanks_cons (isBlank_of_isKeyChar (hchars c List.mem_cons_self)) _
  have hspan : (key.toList ++ rest).span isKeyChar = (key.toList, rest) := Text.span_append hchars hstop
  have hpart : readKeyPart (key.toList ++ rest) = some (key.toList, rest) := by
    obtain ⟨c, tail, hc⟩ := List.exists_cons_of_ne_nil hne
    have hplain : isKeyChar c = true := hchars c (hc ▸ List.mem_cons_self)
    have hdouble : c ≠ '"' := ne_of_isKeyChar hplain rfl
    have hsingle : c ≠ '\'' := ne_of_isKeyChar hplain rfl
    rw [hc, List.cons_append] at hspan ⊢
    unfold readKeyPart
    dsimp only
    rw [hspan]
    simp [hdouble, hsingle]
  show readKeyParts (78 + 1) (key.toList ++ rest) = _
  rw [readKeyParts, hkeep, hpart]
  dsimp only
  split
  · rename_i tail hdot
    rw [hdot] at hpoint
    exact absurd rfl hpoint
  · rw [String.ofList_toList]

/-! ### Lines -/

/-- The lines of a text make some statements, whatever greater number of lines is allowed. -/
def Reads (cs : List Char) (statements : List Statement) : Prop :=
  ∀ bound, cs.length < bound → readLines bound cs = some statements

theorem Reads.nil : Reads [] [] := by
  intro bound hbound
  cases bound with
  | zero => cases hbound
  | succ bound => rfl

theorem Reads.blank (h : Reads cs statements) : Reads ('\n' :: cs) statements := by
  intro bound hbound
  cases bound with
  | zero => cases hbound
  | succ bound => exact h bound (Nat.lt_of_succ_lt_succ hbound)

/-- A text that begins with none of the characters that end or precede a line, and is read as a statement up to the end
of its line. -/
theorem Reads.line {c : Char} {statement : Statement} (h : Reads rest statements)
    (hopens : isBlank c = false ∧ c ≠ '#' ∧ c ≠ '\n' ∧ c ≠ '\r') (hlength : rest.length ≤ cs.length)
    (hread : readStatement (c :: cs) = some (statement, '\n' :: rest)) : Reads (c :: cs) (statement :: statements) := by
  obtain ⟨hblank, hcomment, hline, hreturn⟩ := hopens
  have hend : lineEnd? (c :: cs) = none := by
    unfold lineEnd?
    rw [dropBlanks_cons hblank]
    split <;> simp_all
  intro bound hbound
  cases bound with
  | zero => cases hbound
  | succ bound =>
    have hrest : rest.length < bound := by
      rw [List.length_cons] at hbound
      omega
    rw [readLines, dropBlanks_cons hblank]
    dsimp only
    rw [hend]
    dsimp only
    rw [hread]
    show (readLines bound rest).map _ = _
    rw [h bound hrest]
    rfl

private theorem opens_of_isKeyChar {c : Char} (h : isKeyChar c = true) :
    isBlank c = false ∧ c ≠ '#' ∧ c ≠ '\n' ∧ c ≠ '\r' :=
  ⟨isBlank_of_isKeyChar h, ne_of_isKeyChar h rfl, ne_of_isKeyChar h rfl, ne_of_isKeyChar h rfl⟩

/-- A line with a bare key and a value. -/
theorem Reads.named {value : List Char} {v : Value} (h : Reads rest statements) (hkey : IsBare key)
    (hvalue : ∀ c ∈ value.head?, isBlank c = false)
    (hread : readValue (value ++ '\n' :: rest) = some (v, '\n' :: rest)) :
    Reads (key.toList ++ ' ' :: '=' :: ' ' :: (value ++ '\n' :: rest)) (.pair [key] v :: statements) := by
  obtain ⟨c, tail, hc⟩ := List.exists_cons_of_ne_nil hkey.1
  have hchar : isKeyChar c = true := hkey.2 c (hc ▸ List.mem_cons_self)
  have hpair := readKey_append hkey (' ' :: '=' :: ' ' :: (value ++ '\n' :: rest))
    (fun d hd => by cases hd; rfl) fun h => absurd (Option.some.inj h) (by decide)
  have hstatement (cs : List Char) : readStatement (c :: cs) =
      (readPair readValue (c :: cs)).map fun found => (.pair found.1.1 found.1.2, found.2) := by
    have hbracket : c ≠ '[' := ne_of_isKeyChar hchar rfl
    unfold readStatement
    split
    · rename_i heq
      exact absurd (List.cons.inj heq).1 hbracket
    · rfl
  have hafter : dropBlanks (' ' :: (value ++ '\n' :: rest)) = value ++ '\n' :: rest := by
    show dropBlanks (value ++ '\n' :: rest) = _
    cases value with
    | nil => rfl
    | cons d value => exact dropBlanks_cons (hvalue d rfl) _
  rw [hc, List.cons_append] at hpair ⊢
  refine h.line (opens_of_isKeyChar hchar) ?_ ?_
  · simp only [List.length_append, List.length_cons]
    omega
  · rw [hstatement, readPair, hpair]
    show ((readValue (dropBlanks (' ' :: _))).map _).map _ = _
    rw [hafter, hread]
    rfl

theorem toList_writeLine (key value : String) :
    (writeLine key value).toList = key.toList ++ ' ' :: '=' :: ' ' :: (writeChars value.toList ++ ['\n']) := by
  simp only [writeLine, writeText, String.toList_append, String.toList_ofList, List.append_assoc]
  rfl

/-- A line that names a text. -/
theorem Reads.writeLine (h : Reads rest statements) (hkey : IsBare key) (value : String) :
    Reads ((writeLine key value).toList ++ rest) (.pair [key] (.text value) :: statements) := by
  have hread := readValue_writeChars value.toList ('\n' :: rest) nofun nofun
  obtain ⟨quote, body, hbody, hquote, -⟩ := readText_writeChars value.toList ('\n' :: rest) nofun nofun
  have hfirst : ∀ c ∈ (writeChars value.toList).head?, isBlank c = false := by
    intro c hc
    rw [hbody] at hc
    obtain rfl := Option.some.inj hc
    obtain rfl | rfl := hquote <;> rfl
  rw [String.ofList_toList] at hread
  have hnamed := h.named hkey hfirst hread
  rw [toList_writeLine]
  simpa only [List.append_assoc, List.cons_append, List.nil_append] using hnamed

/-- A header in brackets. -/
theorem Reads.table (h : Reads rest statements) (hkey : IsBare key) :
    Reads ('[' :: (key.toList ++ ']' :: '\n' :: rest)) (.table [key] :: statements) := by
  obtain ⟨c, tail, hc⟩ := List.exists_cons_of_ne_nil hkey.1
  have hbracket : c ≠ '[' := ne_of_isKeyChar (hkey.2 c (hc ▸ List.mem_cons_self)) rfl
  have hread := readKey_append hkey (']' :: '\n' :: rest) (fun d hd => by cases hd; rfl)
    fun h => absurd (Option.some.inj h) (by decide)
  refine h.line ⟨rfl, by decide⟩ ?_ ?_
  · simp only [List.length_append, List.length_cons]
    omega
  · show readHeader (key.toList ++ ']' :: '\n' :: rest) = _
    rw [hc, List.cons_append] at hread ⊢
    unfold readHeader
    split
    · rename_i heq
      exact absurd (List.cons.inj heq).1 hbracket
    · rw [hread]
      rfl

/-- A header in double brackets. -/
theorem Reads.element (h : Reads rest statements) (hkey : IsBare key) :
    Reads ('[' :: '[' :: (key.toList ++ ']' :: ']' :: '\n' :: rest)) (.element [key] :: statements) := by
  have hread := readKey_append hkey (']' :: ']' :: '\n' :: rest) (fun d hd => by cases hd; rfl)
    fun h => absurd (Option.some.inj h) (by decide)
  refine h.line ⟨rfl, by decide⟩ ?_ ?_
  · simp only [List.length_append, List.length_cons]
    omega
  · show readHeader ('[' :: (key.toList ++ ']' :: ']' :: '\n' :: rest)) = _
    rw [readHeader, hread]
    rfl

theorem readStatements_of_reads {s : String} (h : Reads s.toList statements) (hmark : s.toList.head? ≠ some '\ufeff') :
    readStatements s = some statements := by
  unfold readStatements
  split
  · rename_i heq
    rw [heq] at hmark
    exact absurd rfl hmark
  · exact h _ (Nat.lt_succ_self _)

/-! ### Tables -/

/-- The statements that give bare names to values. -/
def Fields.assignments (fields : Fields) : List Statement := fields.map fun (name, v) => .pair [name] v

/-- The named values of a section, by bare names. -/
def Fields.pairs (fields : Fields) : List (List String × Value) := fields.map fun (name, v) => ([name], v)

/-- Named values belong to the header before them. -/
theorem sectionsOf_append (fields : Fields) (statements : List Statement) :
    sectionsOf (fields.assignments ++ statements) =
      (fields.pairs ++ (sectionsOf statements).1, (sectionsOf statements).2) := by
  induction fields with
  | nil => rfl
  | cons field fields ih =>
    show sectionsOf (.pair _ _ :: (Fields.assignments fields ++ statements)) = _
    rw [sectionsOf, ih]
    rfl

/-- New names are added in their order. -/
theorem insertAll_of_nodup {fields added : Fields} (origin : Origin)
    (h : ((fields ++ added).map Prod.fst).Nodup) :
    Fields.insertAll origin fields added.pairs = some (fields ++ added) := by
  induction added generalizing fields with
  | nil => rw [List.append_nil]; rfl
  | cons field added ih =>
    obtain ⟨name, v⟩ := field
    have hnew : fields.lookup name = none := by
      rw [List.lookup_eq_none_iff]
      intro other hother
      rw [List.map_append, List.nodup_append] at h
      simpa using Ne.symm (h.2.2 other.1 (List.mem_map_of_mem hother) name List.mem_cons_self)
    have hinsert : insertAt [name] v false origin fields = some (fields ++ [(name, v)]) := by
      rw [insertAt, hnew]
      rfl
    show (insertAt [name] v false origin fields).bind
      (fun fields => Fields.insertAll origin fields (Fields.pairs added)) = _
    rw [hinsert, Option.bind_some, ih, List.append_assoc]
    · rfl
    · rwa [List.append_assoc]

end LineAtlas.Toml
