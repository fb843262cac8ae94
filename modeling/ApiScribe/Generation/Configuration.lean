import ApiScribe.Schema.Datum

/-!
# Configurations

A configuration says how types are written in the target language, which identifiers are renamed
and which template files make which files.  Wrappers, renames and target paths are templates.  The
notation of a configuration can spell texts that are no Unicode text, so a configuration is one of
texts of any type.
-/

namespace ApiScribe

/-- An identifier and the template of its replacement. -/
structure Rename (τ : Type := String) where
  source : τ
  replacement : τ
  deriving DecidableEq, Repr, Inhabited

/-- A template file, the template of the names of the files it makes, and the name of the
strategy by which it makes them. -/
structure TemplateFile (τ : Type := String) where
  templatePath : τ
  targetPath : τ
  strategy : τ
  deriving DecidableEq, Repr, Inhabited

/-- How code is generated. -/
structure Configuration (τ : Type := String) where
  integerType : τ
  stringType : τ
  booleanType : τ
  arrayType : τ
  optionalType : τ
  renames : List (Rename τ) := []
  templateFiles : List (TemplateFile τ) := []
  deriving DecidableEq, Repr, Inhabited

namespace Configuration

variable {τ υ : Type}

/-- The configuration with each text changed. -/
def map (f : τ → υ) (c : Configuration τ) : Configuration υ where
  integerType := f c.integerType
  stringType := f c.stringType
  booleanType := f c.booleanType
  arrayType := f c.arrayType
  optionalType := f c.optionalType
  renames := c.renames.map fun r => ⟨f r.source, f r.replacement⟩
  templateFiles := c.templateFiles.map fun t => ⟨f t.templatePath, f t.targetPath, f t.strategy⟩

/-- The configuration in which a lone surrogate is replaced. -/
def replaceUnpaired (c : Configuration (List Nat)) : Configuration := c.map Json.replaceUnpaired

end Configuration

namespace Schema

variable {τ : Type}

/-- A rename.  The identifier stands under `from`; without that key, under `from_`. -/
def rename (text : Datum → Checked τ) : Datum → Checked (Rename τ) :=
  record fun members =>
    let key := if (Datum.member? "from" members).isNone && (Datum.member? "from_" members).isSome
      then "from_" else "from"
    (((required key text members).both (required "to" text members)).both
      (noOtherKeys [key, "to"] members)).map
      fun ((source, replacement), _) => ⟨source, replacement⟩

/-- A template file. -/
def templateFile (text : Datum → Checked τ) : Datum → Checked (TemplateFile τ) :=
  record fun members =>
    ((required "template_path" text members).both
      ((required "target_path" text members).both
        ((required "resolve_strategy" text members).both
          (noOtherKeys ["template_path", "target_path", "resolve_strategy"] members)))).map
      fun (templatePath, targetPath, strategy, _) => ⟨templatePath, targetPath, strategy⟩

/-- The keys of a configuration. -/
def configurationKeys : List String :=
  ["integer_type", "string_type", "boolean_type", "array_type", "optional_type", "renames",
    "template_files"]

/-- A configuration with texts of any type. -/
def configurationOf (text : Datum → Checked τ) : Datum → Checked (Configuration τ) :=
  record fun members =>
    ((required "integer_type" text members).both
      ((required "string_type" text members).both
        ((required "boolean_type" text members).both
          ((required "array_type" text members).both
            ((required "optional_type" text members).both
              ((listOrEmpty "renames" (rename text) members).both
                ((listOrEmpty "template_files" (templateFile text) members).both
                  (noOtherKeys configurationKeys members)))))))).map
      fun (integer, string, boolean, array, optional, renames, templateFiles, _) =>
        ⟨integer, string, boolean, array, optional, renames, templateFiles⟩

/-- A configuration in which a lone surrogate is replaced. -/
def configuration (d : Datum) : Checked Configuration :=
  (configurationOf points d).map Configuration.replaceUnpaired

end Schema
end ApiScribe
