import ApiScribe.Generation.ConfigurationReader
import ApiScribe.Proofs.Schema.Model
import ApiScribe.Proofs.Yaml.Values

/-!
# Configurations written as JSON

A configuration can be written as JSON and is read as YAML.  Its text is read with every key, list
and bracket in its place, whatever its strings hold and whatever the indent is, except that the two
notations part in the characters beyond the basic plane: JSON writes each of them as two escapes,
which YAML reads as two code points.

Main statement: `parse_written_eq_iff` — the configuration that is read, and that it is the one that
was written exactly if all of its characters are in the basic plane.
-/

namespace ApiScribe

open Json (units codePoints IsBasicText)

/-! ### The notation -/

/-- A rename in JSON. -/
def Rename.toJson (r : Rename) : Json :=
  .object [(.text "from", .string r.source), (.text "to", .string r.replacement)]

/-- A template file in JSON. -/
def TemplateFile.toJson (t : TemplateFile) : Json :=
  .object [(.text "template_path", .string t.templatePath),
    (.text "target_path", .string t.targetPath), (.text "resolve_strategy", .string t.strategy)]

/-- A configuration in JSON. -/
def Configuration.toJson (c : Configuration) : Json :=
  .object [(.text "integer_type", .string c.integerType),
    (.text "string_type", .string c.stringType), (.text "boolean_type", .string c.booleanType),
    (.text "array_type", .string c.arrayType), (.text "optional_type", .string c.optionalType),
    (.text "renames", .array (c.renames.map Rename.toJson)),
    (.text "template_files", .array (c.templateFiles.map TemplateFile.toJson))]

/-- The text of a configuration in JSON. -/
def Configuration.written (indent : Option Nat) (c : Configuration) : String :=
  String.ofList (Json.text indent c.toJson)

open Yaml (Legible IsKey datumOf dataOf)

/-! ### Its text -/

/-- An object under distinct keys. -/
theorem Yaml.Legible.ofNames {n : Nat} {ms : List (String × Json)} (names : List String)
    (hnames : ms.map Prod.fst = names) (hn : names.Nodup) (hk : ∀ name ∈ names, IsKey name)
    (h : ∀ m ∈ ms, Legible n m.2) :
    Legible (n + 1) (.object (ms.map fun m => (.text m.1, m.2))) := by
  subst hnames
  exact .object hn (List.forall_mem_map.1 hk) h

theorem Rename.legible_toJson (r : Rename) (n : Nat) : Legible (n + 2) r.toJson := by
  refine @Legible.ofNames _ [("from", .string r.source), ("to", .string r.replacement)]
    ["from", "to"] rfl (by decide) (by decide) ?_
  simp [Legible.string]

theorem TemplateFile.legible_toJson (t : TemplateFile) (n : Nat) : Legible (n + 2) t.toJson := by
  refine @Legible.ofNames _ [("template_path", .string t.templatePath),
    ("target_path", .string t.targetPath), ("resolve_strategy", .string t.strategy)]
    ["template_path", "target_path", "resolve_strategy"] rfl (by decide) (by decide) ?_
  simp [Legible.string]

theorem Yaml.legible_map {α : Type} {f : α → Json} {n : Nat} (h : ∀ a, Legible n (f a))
    (as : List α) : Legible (n + 1) (.array (as.map f)) :=
  .array (List.forall_mem_map.2 fun a _ => h a)

theorem Configuration.legible_toJson (c : Configuration) (n : Nat) : Legible (n + 4) c.toJson := by
  refine @Legible.ofNames _ [("integer_type", .string c.integerType),
    ("string_type", .string c.stringType), ("boolean_type", .string c.booleanType),
    ("array_type", .string c.arrayType), ("optional_type", .string c.optionalType),
    ("renames", .array (c.renames.map Rename.toJson)),
    ("template_files", .array (c.templateFiles.map TemplateFile.toJson))]
    Schema.configurationKeys rfl (by decide) (by decide) ?_
  simp [Legible.string, Yaml.legible_map, Rename.legible_toJson, TemplateFile.legible_toJson]

/-! ### What its data are -/

namespace Schema

theorem toNat_ofNat_of_isScalar {n : Nat} (h : Json.isScalar n = true) :
    (Char.ofNat n).toNat = n := by
  have hvalid : n.isValidChar := by
    simpa [Json.isScalar, Nat.isValidChar] using h
  unfold Char.ofNat
  rw [dif_pos hvalid]
  rfl

/-- Data of code points are a text of just these. -/
theorem points_ofCodePoints (ns : List Nat) : points (.ofCodePoints ns) = .ok ns := by
  unfold Datum.ofCodePoints
  split
  · next h =>
    rw [points, String.toList_ofList, List.map_map, List.map_congr_left (g := id), List.map_id]
    exact fun n hn => toNat_ofNat_of_isScalar (List.all_eq_true.1 h n hn)
  · rfl

theorem rename_toJson (r : Rename) :
    rename points (datumOf r.toJson) = .ok ⟨units r.source, units r.replacement⟩ := by
  have hrename : rename points (datumOf r.toJson) =
      ((((points (.ofCodePoints (units r.source))).under (.key "from")).both
        ((points (.ofCodePoints (units r.replacement))).under (.key "to"))).both
          (.ok ())).map fun ((source, replacement), _) => ⟨source, replacement⟩ := rfl
  rw [hrename, points_ofCodePoints, points_ofCodePoints]
  rfl

theorem templateFile_toJson (t : TemplateFile) :
    templateFile points (datumOf t.toJson) =
      .ok ⟨units t.templatePath, units t.targetPath, units t.strategy⟩ := by
  have hfile : templateFile points (datumOf t.toJson) =
      (((points (.ofCodePoints (units t.templatePath))).under (.key "template_path")).both
        (((points (.ofCodePoints (units t.targetPath))).under (.key "target_path")).both
          (((points (.ofCodePoints (units t.strategy))).under (.key "resolve_strategy")).both
            (.ok ())))).map fun (templatePath, targetPath, strategy, _) =>
              ⟨templatePath, targetPath, strategy⟩ := rfl
  rw [hfile, points_ofCodePoints, points_ofCodePoints, points_ofCodePoints]
  rfl

theorem list_toJson {α β : Type} {f : α → Json} {g : α → β} {item : Datum → Checked β}
    (h : ∀ a, item (datumOf (f a)) = .ok (g a)) (as : List α) :
    list item (datumOf (.array (as.map f))) = .ok (as.map g) := by
  refine list_eq_ok.2 ⟨dataOf (as.map f), by rw [datumOf], ?_⟩
  rw [Yaml.dataOf_eq_map, List.map_map, List.map_map, List.map_map]
  exact List.map_congr_left fun a _ => h a

/-- A written configuration fits the schema, with each text by its units. -/
theorem configurationOf_toJson (c : Configuration) :
    configurationOf points (datumOf c.toJson) = .ok (c.map units) := by
  have hconfiguration : configurationOf points (datumOf c.toJson) =
      (((points (.ofCodePoints (units c.integerType))).under (.key "integer_type")).both
        (((points (.ofCodePoints (units c.stringType))).under (.key "string_type")).both
          (((points (.ofCodePoints (units c.booleanType))).under (.key "boolean_type")).both
            (((points (.ofCodePoints (units c.arrayType))).under (.key "array_type")).both
              (((points (.ofCodePoints (units c.optionalType))).under
                (.key "optional_type")).both
                (((list (rename points) (datumOf (.array (c.renames.map Rename.toJson)))).under
                  (.key "renames")).both
                  (((list (templateFile points) (datumOf (.array
                    (c.templateFiles.map TemplateFile.toJson)))).under (.key "template_files")).both
                    (.ok ())))))))).map
        fun (integer, string, boolean, array, optional, renames, templateFiles, _) =>
          ⟨integer, string, boolean, array, optional, renames, templateFiles⟩ := rfl
  rw [hconfiguration, list_toJson rename_toJson, list_toJson templateFile_toJson]
  simp only [points_ofCodePoints]
  rfl

end Schema

/-! ### What is read -/

namespace Configuration

variable {label : String} {c : Configuration}

/-- The texts of a configuration. -/
def texts {τ : Type} (c : Configuration τ) : List τ :=
  [c.integerType, c.stringType, c.booleanType, c.arrayType, c.optionalType] ++
    (c.renames.flatMap fun r => [r.source, r.replacement]) ++
    c.templateFiles.flatMap fun t => [t.templatePath, t.targetPath, t.strategy]

theorem map_eq_map_iff {τ υ : Type} {f g : τ → υ} {c : Configuration τ} :
    c.map f = c.map g ↔ ∀ s ∈ c.texts, f s = g s := by
  simp only [map, texts, mk.injEq, Rename.mk.injEq, TemplateFile.mk.injEq, List.map_inj_left,
    List.forall_mem_append, List.forall_mem_flatMap, List.forall_mem_cons, List.not_mem_nil,
    false_imp_iff, implies_true, and_true, and_assoc]

theorem usable_eq_ok {c d : Configuration (List Nat)} :
    usable label c = .ok d ↔ c.replaceUnpaired.wrapperProblems = .ok [] ∧ c = d := by
  unfold usable
  split
  · next h => simp [h]
  · next hne h =>
    rw [h]
    refine ⟨fun h => ?_, fun h => ?_⟩
    · cases h
    · exact absurd (Except.ok.inj h.1) hne
  · next h => simp [h]

/-- Only the two wrappers count for the check of wrappers. -/
theorem wrapperProblems_congr {d : Configuration} (harray : c.arrayType = d.arrayType)
    (hoptional : c.optionalType = d.optionalType) : c.wrapperProblems = d.wrapperProblems := by
  rw [wrapperProblems, wrapperProblems, harray, hoptional]

/-- Data that fit the schema are the configuration, if its wrappers can be used. -/
theorem ofDatum_of_fits {ms : List (Datum.Key × Datum)} {d : Configuration (List Nat)}
    (h : Schema.configurationOf Schema.points (.record ms) = .ok d) :
    ofDatum label (.record ms) = usable label d := by
  unfold ofDatum
  dsimp only
  rw [h]

/-- A written configuration is read with each text by its units, if its wrappers can be used. -/
theorem parse_written (indent : Option Nat) :
    parse label (c.written indent) = usable label (c.map units) := by
  unfold parse written
  rw [String.toList_ofList, Yaml.read_text indent (c.legible_toJson 4)]
  exact ofDatum_of_fits (Schema.configurationOf_toJson c)

/-- With wrappers of the basic plane, what the check sees is what was written. -/
theorem usable_map_units (hc : c.wrapperProblems = .ok []) (harray : IsBasicText c.arrayType)
    (hoptional : IsBasicText c.optionalType) : usable label (c.map units) = .ok (c.map units) := by
  have htext {s : String} (hs : IsBasicText s) : Json.replaceUnpaired (units s) = s := by
    rw [Json.units_eq_codePoints.2 hs, Json.replaceUnpaired_codePoints]
  have hwrappers : (c.map units).replaceUnpaired.wrapperProblems = c.wrapperProblems :=
    wrapperProblems_congr (htext harray) (htext hoptional)
  exact usable_eq_ok.2 ⟨by rw [hwrappers, hc], rfl⟩

/-- A configuration with accepted wrappers, written as JSON with any indent and then read, is the
same configuration just when none of its texts has a character beyond the basic plane.  In general
each text is read by its units, which are also what the check of the wrappers sees; only a wrapper
with such a character can fail that check. -/
theorem parse_written_eq_iff (hc : c.wrapperProblems = .ok []) (label : String)
    (indent : Option Nat) :
    (parse label (c.written indent) = .ok (c.map codePoints) ↔ ∀ s ∈ c.texts, IsBasicText s) ∧
      (IsBasicText c.arrayType → IsBasicText c.optionalType →
        parse label (c.written indent) = .ok (c.map units)) ∧
      parse label (c.written indent) = usable label (c.map units) := by
  have hexact : c.map units = c.map codePoints ↔ ∀ s ∈ c.texts, IsBasicText s := by
    rw [map_eq_map_iff]
    exact forall₂_congr fun s _ => Json.units_eq_codePoints
  rw [parse_written]
  refine ⟨⟨fun h => hexact.1 (usable_eq_ok.1 h).2, fun h => ?_⟩, usable_map_units hc, rfl⟩
  have harray : c.arrayType ∈ c.texts := by simp [texts]
  have hoptional : c.optionalType ∈ c.texts := by simp [texts]
  rw [usable_map_units hc (h _ harray) (h _ hoptional), hexact.2 h]

/-- A rename of a character beyond the basic plane is read as one of two code points. -/
theorem parse_written_rename :
    let c : Configuration :=
      ⟨"I", "S", "B", "List<\x7b\x7b value \x7d\x7d>", "O", [⟨"😀", "Smile"⟩], []⟩
    c.wrapperProblems = .ok [] ∧
      parse "c.json" (c.written none) ≠ .ok (c.map codePoints) ∧
      parse "c.json" (c.written none) = .ok { c.map codePoints with
        renames := [⟨[0xD83D, 0xDE00], codePoints "Smile"⟩] } := by
  intro c
  have hc : c.wrapperProblems = .ok [] := Outcome.toOption_eq_some.1 (by decide +kernel)
  obtain ⟨hexact, hbasic, -⟩ := parse_written_eq_iff hc "c.json" none
  have hunits : c.map units =
      { c.map codePoints with renames := [⟨[0xD83D, 0xDE00], codePoints "Smile"⟩] } := by
    decide +kernel
  refine ⟨hc, fun h => absurd (hexact.1 h) (by decide +kernel), ?_⟩
  rw [← hunits]
  exact hbasic (by decide +kernel) (by decide +kernel)

end Configuration

end ApiScribe
