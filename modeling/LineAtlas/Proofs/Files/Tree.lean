import LineAtlas.Files.Tree
import LineAtlas.Proofs.Outcome

/-!
# What paths lead to as a tree changes

On its way a path passes through directories only, and so it leads to the same place in any tree that has the same
directories and perhaps others (`Keeps.locate`).  Making directories leaves all that stands in a tree, also where it
fails, and adds only what its paths lead to (`makes_makeDirectories`); writing a file leaves the directories.

The key facts: what is written to a path is read from it (`read_of_write`); what another path leads to is read as
before, unless both paths lead to one place (`read_of_write_other`); and nothing else changes than the file and the
directories that were made for it (`changesOnly_of_write`).
-/

namespace LineAtlas.Files.Tree

variable {t u v : Tree} {path other : String} {place : Place} {node : Node} {content before : ByteArray}

/-- Every directory of a tree is one of another, which has the same working directory. -/
structure Keeps (t u : Tree) : Prop where
  workingDirectory : u.workingDirectory = t.workingDirectory
  directory : ∀ place, t.node? place = some .directory → u.node? place = some .directory

/-- Whatever stands in a tree stands in another, which has the same working directory. -/
structure Grows (t u : Tree) : Prop where
  workingDirectory : u.workingDirectory = t.workingDirectory
  node : ∀ place node, t.node? place = some node → u.node? place = some node

theorem Grows.refl (t : Tree) : t.Grows t := ⟨rfl, fun _ _ h => h⟩

theorem Grows.trans (htu : t.Grows u) (huv : u.Grows v) : t.Grows v where
  workingDirectory := huv.workingDirectory.trans htu.workingDirectory
  node place node h := huv.node place node (htu.node place node h)

theorem Grows.keeps (h : t.Grows u) : t.Keeps u := ⟨h.workingDirectory, fun place => h.node place .directory⟩

/-- A tree grows where something is put in a place of its own. -/
theorem Grows.put (hfree : t.node? place = none) (node : Node) : t.Grows (t.put place node) where
  workingDirectory := rfl
  node other found h := by
    have hne : other ≠ place := by
      rintro rfl
      rw [hfree] at h
      cases h
    rwa [node?_put_ne t node hne]

theorem Keeps.put (hplace : t.node? place ≠ some .directory) (node : Node) : t.Keeps (t.put place node) where
  workingDirectory := rfl
  directory other h := by
    have hne : other ≠ place := by
      rintro rfl
      exact hplace h
    rwa [node?_put_ne t node hne]

/-! ### Paths -/

private theorem Keeps.step (h : t.Keeps u) {piece : String} {next : Place} (hstep : t.step place piece = .ok next) :
    u.step place piece = .ok next := by
  unfold Tree.step at hstep ⊢
  split at hstep
  · cases hstep
  · cases hstep
  · rename_i hdirectory
    rwa [h.directory place hdirectory]

private theorem Keeps.steps (h : t.Keeps u) {pieces : List String} {start : Place}
    (hsteps : pieces.foldlM t.step start = .ok place) : pieces.foldlM u.step start = .ok place := by
  induction pieces generalizing start with
  | nil => exact hsteps
  | cons piece pieces ih =>
    rw [List.foldlM_cons, Except.bind_eq_ok_iff] at hsteps ⊢
    obtain ⟨next, hstep, hrest⟩ := hsteps
    exact ⟨next, h.step hstep, ih hrest⟩

theorem Keeps.follow (h : t.Keeps u) {pieces : List String} (hfollow : t.follow path pieces = .ok place) :
    u.follow path pieces = .ok place := by
  unfold Tree.follow at hfollow ⊢
  rw [h.workingDirectory]
  split at hfollow
  · cases hfollow
  split at hfollow
  · cases hfollow
  split at hfollow
  · cases hfollow
  rename_i hnul hempty hlong
  rw [if_neg hnul, if_neg hempty, if_neg hlong]
  exact h.steps hfollow

theorem Keeps.locate (h : t.Keeps u) (hlocate : t.locate path = .ok place) : u.locate path = .ok place :=
  h.follow hlocate

/-- The slashes at the end of a path lead from a directory to itself. -/
theorem locate_of_locateNew (h : t.locateNew path = .ok place) (hdirectory : t.node? place = some .directory) :
    t.locate path = .ok place := by
  obtain ⟨slashes, hpieces, hslashes⟩ :
      ∃ slashes, Path.pieces path = namedPieces path ++ slashes ∧ ∀ piece ∈ slashes, piece = "" := by
    refine ⟨((Path.pieces path).reverse.takeWhile (· = "")).reverse, ?_, ?_⟩
    · rw [namedPieces, ← List.reverse_append, List.takeWhile_append_dropWhile, List.reverse_reverse]
    · intro piece hpiece
      have hall := List.all_eq_true.1 List.all_takeWhile piece (List.mem_reverse.1 hpiece)
      exact of_decide_eq_true hall
  have hstay : slashes.foldlM t.step place = .ok place := by
    clear hpieces
    induction slashes with
    | nil => rfl
    | cons piece slashes ih =>
      have hstep : t.step place piece = .ok place := by simp [Tree.step, hdirectory, hslashes piece]
      rw [List.foldlM_cons, hstep]
      exact ih fun p hp => hslashes p (List.mem_cons_of_mem _ hp)
  unfold locateNew follow at h
  unfold locate follow
  split at h
  · cases h
  split at h
  · cases h
  split at h
  · cases h
  rename_i hnul hempty hlong
  rw [if_neg hnul, if_neg hempty, if_neg hlong, hpieces, List.foldlM_append, h]
  exact hstay

theorem read_eq_ok_iff : t.read path = .ok content ↔
    ∃ place, t.locate path = .ok place ∧ t.node? place = some (.file content) := by
  unfold read
  cases t.locate path with
  | error e => simp
  | ok place =>
    cases hnode : t.node? place with
    | none => simp [hnode]
    | some node => cases node <;> simp [hnode]

theorem exists?_of_read (h : t.read path = .ok content) : t.exists? path = true := by
  obtain ⟨place, hlocate, hnode⟩ := read_eq_ok_iff.1 h
  rw [exists?, find?, hlocate]
  dsimp only
  rw [hnode, Option.isSome_some]

theorem readText_of_read {text : String} (h : t.read path = .ok text.toUTF8) : t.readText path = .ok text := by
  have hdecoded : String.fromUTF8? text.toUTF8 = some text := dif_pos text.isValidUTF8
  rw [readText, h]
  dsimp only
  rw [hdecoded]

/-- Only the place that a path leads to counts for what is read. -/
theorem read_congr (h : t.locate path = t.locate other) : t.read path = t.read other := by
  rw [read, read, h]

theorem Grows.read (h : t.Grows u) (hread : t.read path = .ok content) : u.read path = .ok content := by
  obtain ⟨place, hlocate, hnode⟩ := read_eq_ok_iff.1 hread
  exact read_eq_ok_iff.2 ⟨place, h.keeps.locate hlocate, h.node place _ hnode⟩

/-! ### Making directories -/

/-- A tree that has grown by directories only, and only by such to which some paths lead now. -/
structure Makes (t : Tree) (paths : List String) (u : Tree) : Prop extends t.Grows u where
  made : ∀ place, t.node? place = none → u.node? place ≠ none →
    u.node? place = some .directory ∧ ∃ path ∈ paths, u.locate path = .ok place

variable {paths : List String}

theorem Makes.refl (t : Tree) (paths : List String) : t.Makes paths t := ⟨.refl t, fun _ h hne => absurd h hne⟩

theorem Makes.trans (htu : t.Makes paths u) (huv : u.Makes paths v) : t.Makes paths v where
  toGrows := htu.toGrows.trans huv.toGrows
  made place hfree hne := by
    by_cases hmiddle : u.node? place = none
    · exact huv.made place hmiddle hne
    · obtain ⟨hdirectory, path, hpath, hlocate⟩ := htu.made place hfree hmiddle
      exact ⟨huv.node place _ hdirectory, path, hpath, huv.toGrows.keeps.locate hlocate⟩

theorem Makes.mono {more : List String} (h : t.Makes paths u) (hsubset : paths ⊆ more) : t.Makes more u where
  toGrows := h.toGrows
  made place hfree hne := by
    obtain ⟨hdirectory, path, hpath, hlocate⟩ := h.made place hfree hne
    exact ⟨hdirectory, path, hsubset hpath, hlocate⟩

theorem makes_of_makeDirectory (h : t.makeDirectory path = .ok u) : t.Makes [path] u := by
  unfold makeDirectory at h
  split at h
  · cases h
  rename_i place hlocate
  split at h
  · cases h
  rename_i hsome
  cases h
  have hfree : t.node? place = none := Option.not_isSome_iff_eq_none.1 hsome
  have hgrows : t.Grows (t.put place .directory) := .put hfree .directory
  have hplace : (t.put place .directory).node? place = some .directory := by
    apply node?_put_self
    rintro rfl
    cases hfree
  refine ⟨hgrows, fun other hother hne => ?_⟩
  by_cases heq : other = place
  · subst heq
    exact ⟨hplace, path, List.mem_singleton_self path, locate_of_locateNew (hgrows.keeps.follow hlocate) hplace⟩
  · rw [node?_put_ne t .directory heq] at hne
    exact absurd hother hne

theorem makes_settleDirectory (t : Tree) (path : String) : t.Makes [path] (t.settleDirectory path).2 := by
  unfold settleDirectory
  split
  · rename_i made h
    exact makes_of_makeDirectory h
  · exact .refl t _

theorem makes_makeChain (t : Tree) (paths : List String) : t.Makes paths (t.makeChain paths).2 := by
  induction paths with
  | nil => exact .refl t _
  | cons path outer ih =>
    have hpath : [path] ⊆ path :: outer := List.cons_subset_cons path (List.nil_subset outer)
    have houter := ih.mono (List.subset_cons_self path outer)
    unfold makeChain
    split
    · exact .refl t _
    split
    · split
      · rename_i e made h
        rwa [h] at houter
      · rename_i made h
        rw [h] at houter
        exact houter.trans ((makes_settleDirectory made path).mono hpath)
    · exact (makes_settleDirectory t path).mono hpath

theorem makes_makeDirectories (t : Tree) (path : String) :
    t.Makes (path :: Path.ancestors path) (t.makeDirectories path).2 :=
  makes_makeChain t _

/-! ### Writing files -/

private theorem namedPieces_of_length_le (h : (Path.pieces path).length ≤ (namedPieces path).length) :
    namedPieces path = Path.pieces path := by
  have hsuffix := List.dropWhile_suffix (l := (Path.pieces path).reverse) (· = "")
  have hall := hsuffix.eq_of_length_le (by simpa [namedPieces] using h)
  rw [namedPieces, hall, List.reverse_reverse]

/-- A file is written to the place that its path leads to, which is no directory. -/
theorem write_eq_ok (h : t.write path content = .ok u) :
    ∃ place, t.locate path = .ok place ∧ t.node? place ≠ some .directory ∧ u = t.put place (.file content) := by
  unfold write at h
  split at h
  · cases h
  rename_i place hlocate
  split at h
  · cases h
  rename_i hslash
  rw [locateNew, namedPieces_of_length_le (Nat.le_of_not_lt hslash)] at hlocate
  split at h
  · cases h
  rename_i hdirectory
  cases h
  exact ⟨place, hlocate, hdirectory, rfl⟩

theorem read_of_write (h : t.write path content = .ok u) : u.read path = .ok content := by
  obtain ⟨place, hlocate, hdirectory, rfl⟩ := write_eq_ok h
  have hroot : place ≠ [] := by
    rintro rfl
    exact hdirectory rfl
  exact read_eq_ok_iff.2 ⟨place, (Keeps.put hdirectory _).locate hlocate, node?_put_self t _ hroot⟩

/-- Another path still leads to what it led to, unless it leads to the file that is written. -/
theorem read_of_write_other (h : t.write path content = .ok u) (hread : t.read other = .ok before) :
    u.read other = .ok before ∨ u.read other = .ok content ∧ t.read path = t.read other := by
  obtain ⟨place, hlocate, hdirectory, rfl⟩ := write_eq_ok h
  obtain ⟨found, hother, hnode⟩ := read_eq_ok_iff.1 hread
  have hkeeps : t.Keeps (t.put place (.file content)) := .put hdirectory _
  by_cases hplace : found = place
  · subst hplace
    have hsame : (t.put found (.file content)).locate other = (t.put found (.file content)).locate path :=
      (hkeeps.locate hother).trans (hkeeps.locate hlocate).symm
    exact .inr ⟨(read_congr hsame).trans (read_of_write h), read_congr (hlocate.trans hother.symm)⟩
  · refine .inl (read_eq_ok_iff.2 ⟨found, hkeeps.locate hother, ?_⟩)
    rwa [node?_put_ne t _ hplace]

/-! ### What a written file changes -/

/-- The paths of the directory of a file and of those around it. -/
def around (path : String) : List String := (Path.parent? path).elim [] fun parent => parent :: Path.ancestors parent

/-- A tree that differs from another in a file to which a path leads now, and in directories around it that were
missing, and nowhere else. -/
structure ChangesOnly (t : Tree) (path : String) (u : Tree) : Prop where
  workingDirectory : u.workingDirectory = t.workingDirectory
  node : ∀ place, u.node? place = t.node? place ∨
    (t.node? place ≠ some .directory ∧ (∃ content, u.node? place = some (.file content)) ∧ u.locate path = .ok place) ∨
    t.node? place = none ∧ u.node? place = some .directory ∧ ∃ dir ∈ around path, u.locate dir = .ok place

theorem Makes.changesOnly (h : t.Makes (around path) u) : t.ChangesOnly path u where
  workingDirectory := h.workingDirectory
  node place := by
    cases hbefore : t.node? place with
    | some node => exact .inl (h.node place node hbefore)
    | none =>
      by_cases hafter : u.node? place = none
      · exact .inl hafter
      · obtain ⟨hdirectory, hdir⟩ := h.made place hbefore hafter
        exact .inr (.inr ⟨rfl, hdirectory, hdir⟩)

theorem changesOnly_of_write (hmade : t.Makes (around path) u) (h : u.write path content = .ok v) :
    t.ChangesOnly path v := by
  obtain ⟨place, hlocate, hdirectory, rfl⟩ := write_eq_ok h
  have hkeeps : u.Keeps (u.put place (.file content)) := .put hdirectory _
  have hroot : place ≠ [] := by
    rintro rfl
    exact hdirectory rfl
  refine ⟨hmade.workingDirectory, fun other => ?_⟩
  by_cases heq : other = place
  · subst heq
    have hfile : t.node? other ≠ some .directory := fun h => hdirectory (hmade.node other _ h)
    exact .inr (.inl ⟨hfile, ⟨content, node?_put_self u _ hroot⟩, hkeeps.locate hlocate⟩)
  · rw [node?_put_ne u _ heq]
    -- the directories are still where they were before the file was written
    obtain hsame | ⟨-, ⟨before, hbefore⟩, hpath⟩ | ⟨hfree, hmade, dir, hdir, hlocated⟩ := hmade.changesOnly.node other
    · exact .inl hsame
    · rw [hlocate] at hpath
      exact absurd (Except.ok.inj hpath).symm heq
    · exact .inr (.inr ⟨hfree, hmade, dir, hdir, hkeeps.locate hlocated⟩)

end LineAtlas.Files.Tree
