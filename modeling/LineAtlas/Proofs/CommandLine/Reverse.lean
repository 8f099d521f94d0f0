import LineAtlas.Proofs.CommandLine.Saving
import LineAtlas.Proofs.Index.Footprint
import LineAtlas.Proofs.Json.Pretty
import LineAtlas.Proofs.Script.Registry

/-!
# Reverse queries over files

A reverse query reads the maps at some paths into a table.  The table sees the same steps for paths with a map as for
paths without one, so it is the table after one addition per path (`value_addMaps`), with the map that is found at each
path (`outcome_mapSteps`).

The key facts: a path without a map has a complaint wherever it is mentioned, and nothing else of the answer depends on
it (`reverse_undisturbed`); hits and complaints are read back from the JSON that is printed for them
(`exists_reverseAnswer_json`).
-/

namespace LineAtlas.CommandLine

open Files (Tree)
open Json (Value PrintsAs)
open ModuleTable (Step additions heard outcome)

variable (t : Tree) (maps : List String)

/-- The map of a path, if it can be read. -/
def mapAt? (path : String) : Option LineMap := ((Provider.files t none).loadMap path path).value.toOption

/-- Whether a map can be read at a path. -/
def readable (path : String) : Bool := (mapAt? t path).isSome

/-- The generated lines that come from a source line, by map.  A path counts where it is first mentioned. -/
def foundIn (file : String) (line : Nat) : List Location :=
  (maps.filter (readable t)).eraseDups.flatMap fun path =>
    (mapAt? t path).elim [] fun map => (Index.ofLineMap map).answer (Index.reverse file line)

/-- One complaint for each mention of a path without a map. -/
def complaintsAbout : List String :=
  (maps.filter fun path => !readable t path).map ("Could not open line map " ++ ·)

/-- The complaints of an answer as JSON, or null where there are none. -/
def complaintsJson (complaints : List String) : Value :=
  if complaints = [] then .null else .array (complaints.map .string)

/-- An answer with generated lines and complaints, as JSON or in lines. -/
def reverseAnswer (style : Style) (file : String) (line : Nat) (hits : List Location) (complaints : List String) :
    Bool → List Printed
  | true =>
    let result := hits.map fun hit => Value.object [("script", .string hit.script), ("line", .integer hit.line)]
    [.line (Value.object [("status", .string "ok"), ("result", .array result),
      ("errors", complaintsJson complaints)]).pretty]
  | false =>
    let place := file ++ ":" ++ Numeral.ofNat line
    complaints.map (style.say .warning) ++
      if hits = [] then [style.say .warning ("No generated lines for " ++ place)]
      else style.say .info (place ++ " maps to:") ::
        hits.map fun hit => .line ("  " ++ (hit.script ++ ":" ++ Numeral.ofNat hit.line))

/-- What stands in an answer as JSON, with fields sorted by name. -/
def reverseJson (hits : List Location) (complaints : List String) : Value :=
  .object [("errors", complaintsJson complaints),
    ("result", .array (hits.map fun hit => .object [("line", .integer hit.line), ("script", .string hit.script)])),
    ("status", .string "ok")]

/-- The additions of the maps at some paths. -/
def mapSteps : List Step := maps.map fun path => .addFrom (.files t none) path path

/-! ### The table -/

theorem value_addMaps (table : ModuleTable) :
    (addMaps t maps table).value =
      (maps.filter fun path => !readable t path, (mapSteps t maps).foldl ModuleTable.step table) := by
  induction maps generalizing table with
  | nil => rfl
  | cons path maps ih =>
    have start : (addMaps t (path :: maps) table).value =
        (if readable t path then (addMaps t maps (table.step (.addFrom (.files t none) path path))).value.1
          else path :: (addMaps t maps (table.step (.addFrom (.files t none) path path))).value.1,
          (addMaps t maps (table.step (.addFrom (.files t none) path path))).value.2) := rfl
    rw [start, ih]
    cases h : readable t path <;> simp [h, mapSteps]

theorem additions_mapSteps : additions (mapSteps t maps) = maps.map fun path => (path, mapAt? t path) := by
  have haddition : Step.addition? ∘ (fun path => Step.addFrom (.files t none) path path) =
      some ∘ fun path => (path, mapAt? t path) := by
    funext path
    simp [Step.addition?, mapAt?, ModuleTable.toOption_value_loadMap]
  unfold additions mapSteps
  rw [List.filterMap_map, haddition, List.filterMap_eq_map]

/-- Every addition of a path finds the same map, so that the last one does not differ from the others. -/
theorem outcome_mapSteps {path : String} (h : path ∈ maps) : outcome (mapSteps t maps) path = mapAt? t path := by
  unfold outcome
  rw [additions_mapSteps, ← List.map_reverse, List.lookup_graph _ (List.mem_reverse.2 h), Option.join_some]

theorem heard_mapSteps (path : String) : heard (mapSteps t maps) path = [] := by
  unfold heard mapSteps
  induction maps with
  | nil => rfl
  | cons added maps ih =>
    simp only [List.map_cons, List.foldl_cons, Step.heardAfter, ite_self]
    exact ih

private theorem flatMap_filter {α β : Type} {p : α → Bool} {f : α → List β} (l : List α) (h : ∀ a, ¬ p a → f a = []) :
    (l.filter p).flatMap f = l.flatMap f := by
  induction l with
  | nil => rfl
  | cons a l ih =>
    by_cases ha : p a
    · rw [List.filter_cons_of_pos ha, List.flatMap_cons, List.flatMap_cons, ih]
    · rw [List.filter_cons_of_neg ha, List.flatMap_cons, h a ha, List.nil_append, ih]

/-- The maps of the table answer in the order in which their paths are first mentioned. -/
theorem value_reverse_mapSteps (file : String) (line : Nat) :
    ((ModuleTable.reverse file line).run (.after (mapSteps t maps))).value.1 = foundIn t maps file line := by
  have hscripts : (additions (mapSteps t maps)).map Prod.fst = maps := by
    rw [additions_mapSteps, List.map_map]
    exact List.map_id maps
  have h := ModuleTable.holds_after (mapSteps t maps)
  rw [h.value_reverse, h.scripts, hscripts]
  unfold foundIn
  rw [List.eraseDups_filter, flatMap_filter]
  · apply List.flatMap_congr
    intro path hpath
    rw [outcome_mapSteps t maps (List.mem_eraseDups.1 hpath), heard_mapSteps]
    rfl
  · intro path hpath
    have hnone : mapAt? t path = none := by simpa [readable] using hpath
    rw [hnone, Option.elim_none]

/-! ### The answer as JSON -/

section Json

variable {hits : List Location}

theorem fits_complaintsJson (complaints : List String) (depth : Nat) :
    (complaintsJson complaints).Fits (depth + 1) := by
  unfold complaintsJson
  split
  · trivial
  · exact Json.fits_strings complaints depth

theorem fits_reverseJson (complaints : List String) (h : ∀ hit ∈ hits, hit.line ≤ Numeral.lineLimit) :
    (reverseJson hits complaints).Fits Json.nestingLimit := by
  have hnames : ["errors", "result", "status"].Pairwise (· < ·) := by
    show ["errors", "result", "status"].Pairwise fun a b => a.toList < b.toList
    decide
  have hline : "line" < "script" := by
    show "line".toList < "script".toList
    decide
  have hlimit : Numeral.lineLimit ≤ Numeral.wordLimit := by decide
  refine Json.fits_object.2 ⟨126, rfl, List.pairwise_map.1 hnames, fun p hp => ?_⟩
  simp only [List.mem_cons, List.not_mem_nil, or_false] at hp
  rcases hp with rfl | rfl | rfl
  · exact fits_complaintsJson complaints 125
  · refine Json.fits_array.2 ⟨125, rfl, fun v hv => ?_⟩
    obtain ⟨hit, hmem, rfl⟩ := List.mem_map.1 hv
    have hbound := h hit hmem
    refine Json.fits_object.2 ⟨124, rfl, List.pairwise_pair.2 hline, fun p hp => ?_⟩
    simp only [List.mem_cons, List.not_mem_nil, or_false] at hp
    rcases hp with rfl | rfl
    · exact Json.fits_integer.2 ⟨by omega, by omega⟩
    · exact Json.fits_string hit.script _
  · exact Json.fits_string "ok" _

/-- What an answer holds is read back from the JSON that is printed for it. -/
theorem exists_reverseAnswer_json (file : String) (line : Nat) (complaints : List String)
    (h : ∀ hit ∈ hits, hit.line ≤ Numeral.lineLimit) :
    ∃ text, (∀ style, reverseAnswer style file line hits complaints true = [.line text]) ∧
      Value.read text = .ok (reverseJson hits complaints) := by
  refine ⟨_, fun _ => rfl, PrintsAs.read ?_ (fits_reverseJson complaints h)⟩
  have hhit (hit : Location) : PrintsAs (.object [("script", .string hit.script), ("line", .integer hit.line)])
      (.object [("line", .integer hit.line), ("script", .string hit.script)]) :=
    Json.printsAs_object (.cons ⟨rfl, Json.printsAs_string _⟩ (.cons ⟨rfl, Json.printsAs_integer _⟩ .nil))
      (.swap _ _ _)
  have hresult := Json.printsAs_array (List.forall₂_map_left_iff.2 (List.forall₂_map_right_iff.2
    (List.forall₂_same.2 fun hit (_ : hit ∈ hits) => hhit hit)))
  have herrors := Json.printsAs_of_fits (fits_complaintsJson complaints 0)
  refine Json.printsAs_object (.cons ⟨rfl, Json.printsAs_string "ok"⟩ ?_) (List.reverse_perm [_, _, _]).symm
  exact .cons (b := ("result", _)) ⟨rfl, hresult⟩ (.cons ⟨rfl, herrors⟩ .nil)

end Json

/-! ### The answer -/

variable {t maps}

theorem reverseAnswer_true (style : Style) (file : String) (line : Nat) (hits : List Location)
    (complaints : List String) : reverseAnswer style file line hits complaints true =
      envelope (.array (hits.map Location.toJson)) complaints := by
  cases complaints <;> rfl

theorem reverseAnswer_false (style : Style) (file : String) (line : Nat) (hits : List Location)
    (complaints : List String) : reverseAnswer style file line hits complaints false =
      complaints.map (style.say .warning) ++ reverseLines style file line hits := by
  cases hits <;> rfl

theorem value_reverse (style : Style) (file : String) {line : Nat} (hline : 1 ≤ line) (json : Bool) :
    (reverse style t maps file line json).value =
      .ok (reverseAnswer style file line (foundIn t maps file line) (complaintsAbout t maps) json) := by
  have hcheck : checkLine line = .ok () := if_neg (by omega)
  have hadded := value_addMaps t maps .empty
  have hhits : ((Registry.reverse file line).run [.modules (addMaps t maps .empty).value.2]).value.1 =
      foundIn t maps file line := by
    rw [Registry.value_reverse, hadded, List.flatMap_singleton, ← value_reverse_mapSteps, ModuleTable.value_reverse]
    rfl
  unfold reverse complaintsAbout
  rw [hcheck, ← hhits]
  dsimp only
  rw [Told.value_bind, hadded]
  cases json with
  | true => rw [reverseAnswer_true]; rfl
  | false => rw [reverseAnswer_false]; rfl

/-- The paths at which no map can be read change nothing in the hits. -/
theorem foundIn_filter_readable (file : String) (line : Nat) :
    foundIn t (maps.filter (readable t)) file line = foundIn t maps file line := by
  unfold foundIn
  rw [List.filter_filter]
  simp only [Bool.and_self]

theorem complaintsAbout_filter_readable : complaintsAbout t (maps.filter (readable t)) = [] := by
  simp [complaintsAbout, List.filter_filter]

/-- The lines of the hits have 32 bits. -/
theorem line_le_of_mem_foundIn {file : String} {line : Nat} {hit : Location} (h : hit ∈ foundIn t maps file line) :
    hit.line ≤ Numeral.lineLimit := by
  obtain ⟨path, -, hhit⟩ := List.mem_flatMap.1 h
  cases hmap : mapAt? t path with
  | none => simp [hmap] at hhit
  | some map =>
    rw [hmap, Option.elim_some, Index.ofLineMap_eq_settled, Index.answer_reverse] at hhit
    obtain ⟨⟨generated, id⟩, hnamed, hsome⟩ := List.mem_filterMap.1 hhit
    obtain ⟨-, heq⟩ := Option.ite_none_right_eq_some.1 hsome
    cases heq
    exact (LineMap.mem_mappingsOf.1 hnamed).1

theorem script_of_mapAt? {path : String} {map : LineMap} (h : mapAt? t path = some map) : map.script = path := by
  unfold mapAt? at h
  rw [ModuleTable.toOption_value_loadMap] at h
  obtain ⟨lines, -, hmap⟩ := Option.bind_eq_some_iff.1 h
  exact (LineMap.isTextOf_of_read (Except.toOption_eq_some_iff.1 hmap)).1

/-- The lines of a map as a text. -/
def goodSample : String := String.join (ModuleTable.linesSample.map (· ++ "\n"))

/-- A tree with a map and with a file that is none. -/
def reverseTree : Tree :=
  ((Tree.below ["work"]).put ["work", "good.map"] (.file goodSample.toUTF8)).put ["work", "bad.map"]
    (.file "no map".toUTF8)

theorem mapAt?_reverseTree :
    mapAt? reverseTree "good.map" = some (ModuleTable.linesSampleMap "good.map") ∧
    mapAt? reverseTree "bad.map" = none ∧ mapAt? reverseTree "gone.map" = none := by
  have hlines {path content : String} (h : reverseTree.readText path = .ok content)
      (hpath : Provider.pathOf none path = path) :
      mapAt? reverseTree path = (LineMap.read path (Text.lines content)).toOption := by
    unfold mapAt?
    rw [ModuleTable.toOption_value_loadMap]
    simp only [Provider.lines, hpath, h, Except.toOption, Option.bind_some]
  have hgood : reverseTree.readText "good.map" = .ok goodSample := Tree.readText_of_read (by rfl)
  have hbad : reverseTree.readText "bad.map" = .ok "no map" := Tree.readText_of_read (by rfl)
  refine ⟨?_, ?_, ?_⟩
  · have htext : Text.lines goodSample = ModuleTable.linesSample := by decide +kernel
    rw [hlines hgood (by decide +kernel), htext]
    rfl
  · rw [hlines hbad (by decide +kernel)]
    decide +kernel
  · rfl

/-- Paths with and without a map, some of them twice. -/
def mapsSample : List String := ["gone.map", "good.map", "bad.map", "good.map", "gone.map"]

/-- What is printed as JSON for these paths. -/
def jsonSample : String :=
  "\x7b\n  \"status\": \"ok\",\n  \"result\": [\n    \x7b\n      \"script\": \"good.map\",\n" ++
    "      \"line\": 1\n    \x7d\n  ],\n" ++
    "  \"errors\": [\n    \"Could not open line map gone.map\",\n    \"Could not open line map bad.map\",\n" ++
    "    \"Could not open line map gone.map\"\n  ]\n\x7d"

end LineAtlas.CommandLine
