import LineAtlas.Proofs.Files.Tree
import LineAtlas.Proofs.Settings.Written
import LineAtlas.Settings.Store

/-!
# Saved settings

A save makes the directories that are missing and, where it succeeds, then writes one file (`save_cases`); a load of a
file depends on nothing but what is read from it (`load_of_read`).

The key fact: settings that have been saved are loaded as they were, whatever they hold (`load_save`).
-/

namespace LineAtlas.Settings

open Files (Tree)

variable {t : Tree} {path : String}

/-! ### Loading -/

/-- What the content of a settings file says. -/
def ofContent (path : String) (content : ByteArray) : Except Fault Settings :=
  match String.fromUTF8? content with
  | none => .error (.file (.unreadableSettings path .notText))
  | some text => (read text).elim (.error (.settings path)) .ok

theorem load_of_read {content : ByteArray} (h : t.read path = .ok content) : load t path = ofContent path content := by
  unfold load ofContent
  rw [if_pos (Tree.exists?_of_read h), Tree.readText, h]
  dsimp only
  cases String.fromUTF8? content with
  | none => rfl
  | some text =>
    dsimp only
    cases read text <;> rfl

theorem ofContent_eq_ok_iff {content : ByteArray} {s : Settings} : ofContent path content = .ok s ↔
    ∃ text, String.fromUTF8? content = some text ∧ read text = some s := by
  unfold ofContent
  cases String.fromUTF8? content with
  | none => simp
  | some text =>
    dsimp only
    cases hread : read text <;> simp [hread]

theorem ofContent_text (path : String) (s : Settings) : ofContent path s.text.toUTF8 = .ok s :=
  ofContent_eq_ok_iff.2 ⟨s.text, dif_pos s.text.isValidUTF8, read_text s⟩

theorem loadOrDefault_of_load {s : Settings} (h : load t path = .ok s) : (loadOrDefault t path).value = s := by
  unfold loadOrDefault
  rw [h]
  rfl

/-- The settings that are used where a load may fail are those of a file, or there are none. -/
theorem loadOrDefault_cases (t : Tree) (path : String) : (loadOrDefault t path).value = .empty ∨
    ∃ content, t.read path = .ok content ∧ ofContent path content = .ok (loadOrDefault t path).value := by
  unfold loadOrDefault
  cases hload : load t path with
  | error fault => exact .inl rfl
  | ok s =>
    cases hread : t.read path with
    | ok content => exact .inr ⟨content, rfl, load_of_read hread ▸ hload⟩
    | error e =>
      unfold load at hload
      rw [Tree.readText, hread] at hload
      split at hload
      · cases hload
      · exact .inl (Except.ok.inj hload).symm

/-! ### Saving -/

theorem makes_makeParent (t : Tree) (path : String) : t.Makes (Tree.around path) (makeParent t path).2 := by
  unfold makeParent
  split
  · exact .refl t _
  · rename_i parent hparent
    have haround : Tree.around path = parent :: Files.Path.ancestors parent := by
      rw [Tree.around, (Option.filter_eq_some_iff.1 hparent).1, Option.elim_some]
    have hmakes := t.makes_makeDirectories parent
    rw [haround]
    split <;> rename_i hmade <;> rwa [hmade] at hmakes

/-- A save that fails has made directories at most; one that succeeds has then written the settings. -/
theorem save_cases (s : Settings) (t : Tree) (path : String) :
    (∃ fault, (s.save t path).value.1 = .error fault) ∧ t.Makes (Tree.around path) (s.save t path).value.2 ∨
    (s.save t path).value.1 = .ok () ∧
      ∃ made, t.Makes (Tree.around path) made ∧ made.write path s.text.toUTF8 = .ok (s.save t path).value.2 := by
  have hmakes := makes_makeParent t path
  unfold save
  split
  · rename_i fault made hmade
    rw [hmade] at hmakes
    exact .inl ⟨⟨fault, rfl⟩, hmakes⟩
  · rename_i made hmade
    rw [hmade] at hmakes
    split
    · exact .inl ⟨⟨_, rfl⟩, hmakes⟩
    · rename_i written hwritten
      exact .inr ⟨rfl, made, hmakes, hwritten⟩

/-- A save changes at most the file and directories around it that were missing, also where it fails. -/
theorem changesOnly_save (s : Settings) (t : Tree) (path : String) : t.ChangesOnly path (s.save t path).value.2 := by
  obtain ⟨-, hmakes⟩ | ⟨-, made, hmakes, hwritten⟩ := save_cases s t path
  · exact hmakes.changesOnly
  · exact Tree.changesOnly_of_write hmakes hwritten

/-- After a save the file holds the settings as text. -/
theorem read_save {s : Settings} (h : (s.save t path).value.1 = .ok ()) :
    (s.save t path).value.2.read path = .ok s.text.toUTF8 := by
  obtain ⟨⟨fault, hfault⟩, -⟩ | ⟨-, made, -, hwritten⟩ := save_cases s t path
  · rw [hfault] at h
    cases h
  · exact Tree.read_of_write hwritten

/-- A save leaves what is read from another path, or it replaces the file there, and then that is what was read from
the path of the save, if anything was. -/
theorem read_save_other {other : String} {before : ByteArray} (s : Settings) (path : String)
    (h : t.read other = .ok before) : (s.save t path).value.2.read other = .ok before ∨
      (s.save t path).value.2.read other = .ok s.text.toUTF8 ∧
        ∀ content, t.read path = .ok content → content = before := by
  obtain ⟨-, hmakes⟩ | ⟨-, made, hmakes, hwritten⟩ := save_cases s t path
  · exact .inl (hmakes.toGrows.read h)
  · refine (Tree.read_of_write_other hwritten (hmakes.toGrows.read h)).imp_right ?_
    rintro ⟨hother, hsame⟩
    refine ⟨hother, fun content hcontent => ?_⟩
    rw [hmakes.toGrows.read h, hmakes.toGrows.read hcontent] at hsame
    exact Except.ok.inj hsame

/-- Settings survive a save and a load: for any format and blocks, with several for one script, with or without their
values, and with any texts in them, a load from the path of a save that succeeded gives the settings that were saved. -/
theorem load_save (s : Settings) (t : Tree) (path : String) (h : (s.save t path).value.1 = .ok ()) :
    load (s.save t path).value.2 path = .ok s := by
  rw [load_of_read (read_save h), ofContent_text]

/-- Settings with two blocks for one script, and with texts in which quotes, line ends and control characters stand. -/
def nastySample : Settings :=
  ⟨some "\n\"\"\"''' \\", [⟨"a\tb", some "", none⟩, ⟨"a\tb", none, some "\r\n\u0001'\"é"⟩]⟩

/-- The settings are saved below directories that are not there yet. -/
theorem load_save_sample :
    (nastySample.save (.below ["work"]) "conf/deep/s.toml").value.1 = .ok () ∧
    load (nastySample.save (.below ["work"]) "conf/deep/s.toml").value.2 "conf/deep/s.toml" = .ok nastySample := by
  have hsaved : (nastySample.save (.below ["work"]) "conf/deep/s.toml").value.1 = .ok () := by rfl
  exact ⟨hsaved, load_save nastySample (.below ["work"]) "conf/deep/s.toml" hsaved⟩

end LineAtlas.Settings
