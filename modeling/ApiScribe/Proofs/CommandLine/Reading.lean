import ApiScribe.Proofs.CommandLine.Interruptions
import ApiScribe.Proofs.FileTree.Aside

/-!
# Stages that read files beside a leaf

A stage that reads files is told a leaf that it does not read at most by the words with which it
rejects a path: where nothing was, a file may be in the way now.  `Alike` leaves these words out.
Configurations and sets of templates are read alike with and without the leaf
(`Configuration.alike_fromFile`, `TemplateSet.alike_ofConfiguration`).
-/

namespace ApiScribe

variable {ε α β : Type}

/-- Two outcomes of a stage are the same, or both are rejections. -/
def Alike (x x' : Except (Failure ε) α) : Prop :=
  x' = x ∨ (∃ e, x = .error (.rejected e)) ∧ ∃ e, x' = .error (.rejected e)

namespace Alike

variable {x x' : Except (Failure ε) α}

theorem refl (x : Except (Failure ε) α) : Alike x x := .inl rfl

theorem bind {f f' : α → Except (Failure ε) β} (h : Alike x x') (hf : ∀ a, Alike (f a) (f' a)) :
    Alike (x >>= f) (x' >>= f') := by
  rcases h with rfl | ⟨⟨e, rfl⟩, e', rfl⟩
  · cases x' with
    | error e => exact .refl _
    | ok a => exact hf a
  · exact .inr ⟨⟨e, rfl⟩, e', rfl⟩

/-- Steps that are alike for each item are alike for all items in order. -/
theorem foldlM {f f' : β → α → Except (Failure ε) β} {as : List α}
    (h : ∀ a ∈ as, ∀ b, Alike (f b a) (f' b a)) (b : β) :
    Alike (as.foldlM f b) (as.foldlM f' b) := by
  induction as generalizing b with
  | nil => exact .refl _
  | cons a as ih =>
    obtain ⟨ha, has⟩ := List.forall_mem_cons.1 h
    rw [List.foldlM_cons, List.foldlM_cons]
    exact (ha b).bind fun b => ih has b

end Alike

variable {t t' : FileTree} {p : Path} {place : Place} {bytes : List UInt8}

/-- A stage with words for every refusal reads a path alike that does not lead to the leaf. -/
theorem alike_readText {words : FileError → Failure ε}
    (hwords : ∀ r shown, ∃ e, words (.refused r shown) = .rejected e)
    (hlaid : FileTree.Laid t place (.file bytes) t') (hp : t.locate p ≠ .ok place) :
    Alike ((t.readText p).mapError words) ((t'.readText p).mapError words) := by
  rcases hlaid.readText hp with h | ⟨⟨_, hread, r, shown, rfl⟩, _, hread', r', shown', rfl⟩
  · rw [h]
    exact .refl _
  · obtain ⟨e, he⟩ := hwords r shown
    obtain ⟨e', he'⟩ := hwords r' shown'
    rw [hread, hread']
    exact .inr ⟨⟨e, congrArg Except.error he⟩, e', congrArg Except.error he'⟩

/-- The configuration is read alike, unless the leaf is its file. -/
theorem Configuration.alike_fromFile (hlaid : FileTree.Laid t place (.file bytes) t')
    (hp : t.locate p ≠ .ok place) : Alike (fromFile t p) (fromFile t' p) := by
  have hwords (r : Refusal) (shown : String) :
      ∃ e, fileWords p (.refused r shown) = .rejected e := by
    cases r <;> exact ⟨_, rfl⟩
  rw [fromFile_eq, fromFile_eq]
  exact (alike_readText hwords hlaid hp).bind fun _ => .refl _

/-- The templates are read alike, unless the leaf is one of their files. -/
theorem TemplateSet.alike_ofConfiguration {directory : Path} {c : Configuration}
    (hlaid : FileTree.Laid t place (.file bytes) t')
    (hp : ∀ file ∈ c.templateFiles,
      t.locate (directory.seenFrom (Path.ofText file.templatePath)) ≠ .ok place) :
    Alike (ofConfiguration t directory c) (ofConfiguration t' directory c) := by
  have hregister : ∀ file ∈ c.templateFiles, ∀ sources,
      Alike (Sources.registerTemplateFile t directory sources file)
        (Sources.registerTemplateFile t' directory sources file) := by
    intro file hfile sources
    have hread : Alike (Sources.readTemplate t directory file.templatePath)
        (Sources.readTemplate t' directory file.templatePath) :=
      alike_readText (fun _ _ => ⟨_, rfl⟩) hlaid (hp file hfile)
    unfold Sources.registerTemplateFile
    dsimp only
    split
    · exact .inr ⟨⟨_, rfl⟩, _, rfl⟩
    · exact hread.bind fun _ => .refl _
  have hsources : Alike (Sources.ofConfiguration t directory c)
      (Sources.ofConfiguration t' directory c) :=
    (Alike.foldlM hregister _).bind fun _ => .refl _
  exact hsources.bind fun _ => .refl _

end ApiScribe
