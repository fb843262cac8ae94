import ApiScribe.Interruption
import ApiScribe.Proofs.FileTree.Endings

/-!
# Null characters in the way of a change

Changing files fails with a refusal, or because a path has a null character (`Ordinary`).  When a
file is stored, the null character counts only if nothing is refused before it is met
(`fails_store_iff`).
-/

namespace ApiScribe

/-- An error is a refusal, or it is a null character that there is. -/
def FileError.Ordinary (null : Prop) (e : FileError) : Prop :=
  e.IsRefusal ∨ e = .nullCharacter ∧ null

theorem FileError.Ordinary.mono {null null' : Prop} {e : FileError} (h : e.Ordinary null)
    (himp : null → null') : e.Ordinary null' :=
  h.imp_right fun ⟨he, hnull⟩ => ⟨he, himp hnull⟩

theorem FileError.Ordinary.isRefusal {null : Prop} {e : FileError} (h : e.Ordinary null)
    (hnull : ¬ null) : e.IsRefusal :=
  h.resolve_right fun hn => hnull hn.2

/-- The part of a path above a name is a path with fewer characters. -/
theorem Path.null_mem_text_of_prefix {p : Path} {part : List String} (hp : part <+: p.names)
    (h : '\x00' ∈ (⟨p.slashes, part⟩ : Path).text.toList) : '\x00' ∈ p.text.toList := by
  obtain ⟨name, hn, hc⟩ := Path.null_mem_text.1 h
  exact Path.null_mem_text.2 ⟨name, hp.subset hn, hc⟩

namespace FileTree

variable {t t' : FileTree} {p : Path} {bytes : List UInt8} {e : FileError}

theorem ordinary_of_locate (h : t.locate p = .error e) :
    e.Ordinary ('\x00' ∈ p.text.toList) := by
  by_cases hnull : '\x00' ∈ p.text.toList
  · rw [locate_of_null hnull] at h
    cases h
    exact .inr ⟨rfl, hnull⟩
  · exact .inl (isRefusal_of_locate hnull h)

/-- What goes on from where a path leads and is only refused fails with ordinary errors. -/
theorem ordinary_of_locate_bind {α : Type} {f : Place → Except FileError α}
    (hf : ∀ place e, f place = .error e → e.IsRefusal) (h : (t.locate p >>= f) = .error e) :
    e.Ordinary ('\x00' ∈ p.text.toList) := by
  rcases Outcome.bind_eq_error.1 h with h | ⟨place, -, h⟩
  · exact ordinary_of_locate h
  · exact .inl (hf place e h)

theorem ordinary_of_read (h : t.read p = .error e) : e.Ordinary ('\x00' ∈ p.text.toList) := by
  refine ordinary_of_locate_bind (fun place e h => ?_) h
  split at h <;> cases h <;> exact ⟨_, _, rfl⟩

theorem ordinary_of_makeDirectory (h : t.makeDirectory p = .error e) :
    e.Ordinary ('\x00' ∈ p.text.toList) := by
  refine ordinary_of_locate_bind (fun place e h => ?_) h
  split at h <;> cases h
  exact ⟨_, _, rfl⟩

theorem ordinary_of_write (h : t.write p bytes = .error e) :
    e.Ordinary ('\x00' ∈ p.text.toList) := by
  refine ordinary_of_locate_bind (fun place e h => ?_) h
  split at h <;> cases h
  exact ⟨_, _, rfl⟩

theorem ordinary_of_clearDirectory (h : t.clearDirectory p = .error e) :
    e.Ordinary ('\x00' ∈ p.text.toList) := by
  refine ordinary_of_locate_bind (fun place e h => ?_) h
  split at h <;> cases h <;> exact ⟨_, _, rfl⟩

theorem ordinary_of_removeDirectory (h : t.removeDirectory p = .error e) :
    e.Ordinary ('\x00' ∈ p.text.toList) := by
  refine ordinary_of_locate_bind (fun place e h => ?_) h
  -- a directory is removed if it is empty, and is not the top
  split at h
  · cases h
    exact ⟨_, _, rfl⟩
  · cases h
    exact ⟨_, _, rfl⟩
  · split at h <;> cases h
    exact ⟨_, _, rfl⟩

namespace Action

/-- All errors of an action are ordinary. -/
abbrev AlwaysOrdinary {α : Type} (null : Prop) (x : Action α) : Prop :=
  Holds (fun _ => True) (FileError.Ordinary null) x

variable {α : Type} {null : Prop}

theorem AlwaysOrdinary.mono {null' : Prop} {x : Action α} (hx : AlwaysOrdinary null x)
    (himp : null → null') : AlwaysOrdinary null' x :=
  fun t ht => ⟨(hx t ht).1, fun e he => ((hx t ht).2 e he).mono himp⟩

theorem Fails.ordinary {x : Action α} (hx : AlwaysOrdinary null x) (h : Fails x t e t') :
    e.Ordinary null := by
  apply (hx t trivial).2
  rw [h]

theorem Succeeds.not_fails {x : Action α} {a : α} (h : Succeeds x t a t') :
    ¬ ∃ t'', Fails x t e t'' := by
  rintro ⟨t'', h'⟩
  cases h.symm.trans h'

/-- The error of an action, in the words of a stage, is an interruption exactly if the action meets
a null character. -/
theorem Fails.interrupted_iff {ε β : Type} {words : String → ε} {i : Interruption} {x : Action α}
    (h : Fails x t e t') (hx : AlwaysOrdinary null x) :
    (.error (Failure.ofFile words e) : Except (Failure ε) β) = .error (.interrupted i) ↔
      (∃ t', Fails x t .nullCharacter t') ∧ i = .nullCharacter := by
  rcases h.ordinary hx with ⟨r, shown, rfl⟩ | ⟨rfl, -⟩
  · constructor
    · intro hi
      cases hi
    · rintro ⟨⟨t'', h'⟩, -⟩
      cases h.symm.trans h'
  · constructor
    · intro hi
      cases hi
      exact ⟨⟨t', h⟩, rfl⟩
    · rintro ⟨-, rfl⟩
      rfl

theorem alwaysOrdinary_ofStep {f : FileTree → Except FileError FileTree}
    (h : ∀ t e, f t = .error e → e.Ordinary null) : AlwaysOrdinary null (ofStep f) :=
  holds_ofStep fun t _ => ⟨fun _ _ => trivial, h t⟩

theorem alwaysOrdinary_makeDirectories {existing : Bool} :
    AlwaysOrdinary ('\x00' ∈ p.text.toList) (makeDirectories existing p) :=
  holds_makeDirectories fun _ hpart _ _ =>
    ⟨fun _ _ => trivial, fun _ he =>
      (ordinary_of_makeDirectory he).mono (Path.null_mem_text_of_prefix hpart)⟩

theorem alwaysOrdinary_removeTree : AlwaysOrdinary ('\x00' ∈ p.text.toList) (removeTree p) :=
  (alwaysOrdinary_ofStep fun _ _ => ordinary_of_clearDirectory).bind fun _ =>
    alwaysOrdinary_ofStep fun _ _ => ordinary_of_removeDirectory

theorem alwaysOrdinary_store : AlwaysOrdinary ('\x00' ∈ p.text.toList) (store p bytes) := by
  have hparent (h : '\x00' ∈ p.parent.text.toList) : '\x00' ∈ p.text.toList :=
    Path.null_mem_text_of_prefix (List.dropLast_prefix _) h
  have hmake : AlwaysOrdinary _ (makeDirectories true p.parent) := alwaysOrdinary_makeDirectories
  exact (hmake.mono hparent).bind fun _ => alwaysOrdinary_ofStep fun _ _ => ordinary_of_write

/-- A null character is met when directories are made exactly if it is in their path. -/
theorem fails_makeDirectories_iff {existing : Bool} :
    (∃ t', Fails (makeDirectories existing p) t .nullCharacter t') ↔ '\x00' ∈ p.text.toList := by
  constructor
  · rintro ⟨t', h⟩
    rcases h.ordinary alwaysOrdinary_makeDirectories with ⟨r, shown, he⟩ | ⟨-, h⟩
    · cases he
    · exact h
  · intro h
    exact ⟨t, fails_makeDirectories_of_null h⟩

/-- A null character in the path of a file counts: it is in the part above the file, or the
directories above the file are there or can be made. -/
def NullCounts (t : FileTree) (p : Path) : Prop :=
  '\x00' ∈ p.parent.text.toList ∨
    '\x00' ∈ p.text.toList ∧ ∃ t', Succeeds (makeDirectories true p.parent) t () t'

theorem fails_store_iff (bytes : List UInt8) :
    (∃ t', Fails (store p bytes) t .nullCharacter t') ↔ NullCounts t p := by
  -- the first alternative is that of the directories, the second that of the file
  unfold store NullCounts
  simp only [fails_bind]
  rw [exists_or, fails_makeDirectories_iff]
  apply or_congr_right
  constructor
  · rintro ⟨t', u, t₁, hs, hf⟩
    rcases hf.ordinary (alwaysOrdinary_ofStep fun _ _ => ordinary_of_write) with
      ⟨r, shown, he⟩ | ⟨-, h⟩
    · cases he
    · exact ⟨h, t₁, hs⟩
  · rintro ⟨h, t₁, hs⟩
    exact ⟨t₁, (), t₁, hs, fails_ofStep (write_of_null h)⟩

end Action
end FileTree
end ApiScribe
