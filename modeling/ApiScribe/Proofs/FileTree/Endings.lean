import ApiScribe.Proofs.FileTree.Actions

/-!
# What actions leave, however they end

An action that fails keeps what it did before.  `Holds P Q x` says of an action `x` that the tree
keeps the property `P` whether `x` succeeds or not, and that `x` fails with errors of `Q` only.  An
action is made of single operations, and each of them puts at most one leaf where no directory was
(`Laid`), so the single operations are all that has to be looked at:

* `holds_store` — what the making of directories and the writing of one file keep, storing keeps;
* `holds_file` — a file, once it is there, stays one;
* `Succeeds.stored` — after a success the file is there.
-/

namespace ApiScribe

/-- The error is an operation that the system refuses. -/
def FileError.IsRefusal (e : FileError) : Prop := ∃ r shown, e = .refused r shown

namespace FileTree

open Place (ofNames)

variable {t t' : FileTree} {p : Path} {place : Place} {bytes : List UInt8}

/-! ### Where a path has led -/

/-- A short name is entered in a directory; it leads down, or up if there is a directory above. -/
theorem enter_eq_ok_iff {name : String} {place' : Place} :
    t.enter place name = .ok place' ↔ t.entryAt? place = some .directory ∧
      name.utf8ByteSize ≤ nameLimit ∧ (name = Path.up → place ≠ []) ∧
        place' = Place.step place name := by
  constructor
  · intro h
    unfold enter at h
    unfold Place.step
    split at h
    · cases h
    · cases h
    · next entries he =>
      refine ⟨entryAt?_eq_directory.2 ⟨entries, he⟩, ?_⟩
      split at h
      · next hup =>
        subst hup
        split at h
        · cases h
        · next htop =>
          cases h
          exact ⟨by decide, fun _ => htop, (if_pos rfl).symm⟩
      · next hup =>
        split at h
        · cases h
        · next hshort =>
          cases h
          exact ⟨Nat.not_lt.1 hshort, fun he => absurd he hup, (if_neg hup).symm⟩
  · rintro ⟨hdir, hshort, hstays, rfl⟩
    exact enter_of_directory hdir hshort hstays

theorem eq_foldl_of_follow {names : List String} {place' : Place}
    (h : t.follow place names = .ok place') : place' = names.foldl Place.step place := by
  induction names generalizing place with
  | nil =>
    cases h
    rfl
  | cons name names ih =>
    rw [follow] at h
    split at h
    · next inner hi =>
      obtain ⟨-, -, -, rfl⟩ := enter_eq_ok_iff.1 hi
      exact ih h
    · cases h

/-- The walk ends where it started, at a directory, or in one. -/
theorem ending_of_follow {names : List String} {place' : Place}
    (h : t.follow place names = .ok place') :
    place' = place ∨ t.entryAt? place' = some .directory ∨
      ∃ above name, place' = above ++ [name] ∧ t.entryAt? above = some .directory := by
  induction names generalizing place with
  | nil =>
    cases h
    exact .inl rfl
  | cons name names ih =>
    rw [follow] at h
    split at h
    · next inner hi =>
      rcases ih h with rfl | hend
      · obtain ⟨hdir, -, -, hstep⟩ := enter_eq_ok_iff.1 hi
        rw [Place.step] at hstep
        split at hstep
        · -- two dots lead to a directory above one that is there
          rcases List.eq_nil_or_concat place with rfl | ⟨above, last, rfl⟩
          · exact .inl hstep
          · rw [List.concat_eq_append] at hstep hdir
            rw [List.dropLast_concat] at hstep
            subst hstep
            refine .inr (.inl (entryAt?_of_append (List.cons_ne_nil last []) ?_))
            rw [hdir]
            exact Option.some_ne_none _
        · exact .inr (.inr ⟨place, name, hstep, hdir⟩)
      · exact .inr hend
    · cases h

/-- A path that leads somewhere has no null character, is not too long and not absolute, and leads
where its names do. -/
theorem locate_eq_ok_iff : t.locate p = .ok place ↔ '\x00' ∉ p.text.toList ∧
    p.text.utf8ByteSize < pathLimit ∧ p.isAbsolute = false ∧ t.follow [] p.names = .ok place := by
  unfold locate
  by_cases hnull : '\x00' ∈ p.text.toList
  · simp [hnull]
  · by_cases hsize : p.text.utf8ByteSize < pathLimit
    · by_cases habsolute : p.isAbsolute = true
      · simp [hnull, hsize, habsolute, Nat.not_le.2 hsize]
      · simp [hnull, hsize, habsolute, Nat.not_le.2 hsize, Outcome.mapError_eq_ok]
    · simp [hnull, hsize, Nat.not_lt.1 hsize]

theorem eq_ofNames_of_locate (h : t.locate p = .ok place) : place = ofNames p.names := by
  obtain ⟨-, -, -, hf⟩ := locate_eq_ok_iff.1 h
  exact eq_foldl_of_follow hf

/-- An absolute path leads out of the tree. -/
theorem isAbsolute_of_locate (h : t.locate p = .ok place) : p.isAbsolute = false :=
  (locate_eq_ok_iff.1 h).2.2.1

/-- Names that led somewhere are short, stay in the tree and pass directories only. -/
theorem walk_of_follow {names : List String} (h : t.follow [] names = .ok place) :
    (∀ name ∈ names, name.utf8ByteSize ≤ nameLimit) ∧
      (∀ above, above ++ [Path.up] <+: names → ofNames above ≠ []) ∧
      ∀ place, Place.Passes names place → t.entryAt? place = some .directory := by
  induction names using List.reverseRecOn generalizing place with
  | nil =>
    refine ⟨List.forall_mem_nil _, ?_, fun place hp => absurd hp Place.not_passes_nil⟩
    intro above hp
    exact absurd (List.prefix_nil.1 hp) (List.concat_ne_nil _ _)
  | append_singleton names name ih =>
    rw [follow_append] at h
    cases hf : t.follow [] names with
    | error r =>
      rw [hf] at h
      cases h
    | ok inner =>
      rw [hf] at h
      obtain rfl : inner = ofNames names := eq_foldl_of_follow hf
      have hlast : t.follow (ofNames names) [name] = .ok place := h
      rw [follow] at hlast
      split at hlast
      · next hi =>
        obtain ⟨hshort, hstays, hpasses⟩ := ih hf
        obtain ⟨hdir, hname, hup, -⟩ := enter_eq_ok_iff.1 hi
        refine ⟨List.forall_mem_append.2 ⟨hshort, List.forall_mem_singleton.2 hname⟩, ?_, ?_⟩
        · intro above hp
          rcases List.prefix_concat_iff.1 hp with he | hp
          · obtain ⟨rfl, hlast⟩ := List.append_inj' he rfl
            exact hup (List.singleton_inj.1 hlast).symm
          · exact hstays above hp
        · intro place hp
          rcases Place.visits_iff.1 (Place.passes_concat.1 hp) with hp | rfl
          · exact hpasses place hp
          · exact hdir
      · cases hlast

/-- A path that led somewhere can be walked and passes directories only. -/
theorem walkable_of_locate (h : t.locate p = .ok place) : p.slashes = 0 ∧ Walkable p.names ∧
    ∀ place, Place.Passes p.names place → t.entryAt? place = some .directory := by
  obtain ⟨slashes, names⟩ := p
  obtain ⟨hnull, hsize, hrelative, hf⟩ := locate_eq_ok_iff.1 h
  obtain rfl : slashes = 0 := by simpa [Path.isAbsolute] using hrelative
  obtain ⟨hshort, hstays, hpasses⟩ := walk_of_follow hf
  exact ⟨rfl, ⟨⟨hnull, hsize, hshort⟩, hstays⟩, hpasses⟩

/-- Without a null character a path is only refused. -/
theorem isRefusal_of_locate (hnull : '\x00' ∉ p.text.toList) {e : FileError}
    (h : t.locate p = .error e) : e.IsRefusal := by
  unfold locate at h
  rw [if_neg (by simpa using hnull)] at h
  split at h
  · cases h
    exact ⟨_, _, rfl⟩
  · split at h
    · cases h
      exact ⟨_, _, rfl⟩
    · cases hf : t.follow [] p.names with
      | ok place =>
        rw [hf] at h
        cases h
      | error r =>
        rw [hf] at h
        cases h
        exact ⟨_, _, rfl⟩

theorem locate_of_null (hnull : '\x00' ∈ p.text.toList) : t.locate p = .error .nullCharacter := by
  unfold locate
  rw [if_pos (by simpa using hnull)]

/-! ### Single operations -/

/-- A leaf is at a place where no directory was, and nothing else has changed. -/
structure Laid (t : FileTree) (place : Place) (leaf : Entry) (t' : FileTree) : Prop where
  free : t.entryAt? place ≠ some .directory
  here : t'.entryAt? place = some leaf
  elsewhere : ∀ other, other ≠ place → t'.entryAt? other = t.entryAt? other

theorem laid_put (new : FileTree) (h : t.locate p = .ok place)
    (hfree : t.entryAt? place ≠ some .directory)
    (hleaf : ∀ n below, new.entryAt? (n :: below) = none) :
    Laid t place new.top (t.put place new) := by
  obtain ⟨-, -, -, hf⟩ := locate_eq_ok_iff.1 h
  rcases ending_of_follow hf with rfl | hdir | ⟨above, name, rfl, habove⟩
  · -- at the top there is a file that is replaced
    refine ⟨hfree, by rw [put]; rfl, ?_⟩
    intro other hother
    obtain ⟨n, below, rfl⟩ := List.exists_cons_of_ne_nil hother
    rw [put, hleaf]
    by_contra hsome
    exact hfree (entryAt?_of_append (List.cons_ne_nil n below) (Ne.symm hsome))
  · exact absurd hdir hfree
  · exact ⟨hfree, entryAt?_put_self habove,
      fun other hother => entryAt?_put_leaf habove hfree hleaf hother⟩

/-- A directory is made where nothing was. -/
theorem laid_of_makeDirectory (h : t.makeDirectory p = .ok t') :
    t.entryAt? (ofNames p.names) = none ∧ Laid t (ofNames p.names) .directory t' := by
  unfold makeDirectory at h
  obtain ⟨place, hp, h⟩ := Outcome.bind_eq_ok.1 h
  rw [← eq_ofNames_of_locate hp]
  split at h
  · cases h
  · next hnone =>
    cases h
    have hfree := entryAt?_eq_none.2 hnone
    refine ⟨hfree, laid_put empty hp ?_ fun _ _ => rfl⟩
    rw [hfree]
    exact (Option.some_ne_none _).symm

theorem makeDirectory_of_null (hnull : '\x00' ∈ p.text.toList) :
    t.makeDirectory p = .error .nullCharacter := by
  unfold makeDirectory
  rw [locate_of_null hnull]
  rfl

theorem write_of_null (hnull : '\x00' ∈ p.text.toList) :
    t.write p bytes = .error .nullCharacter := by
  unfold write
  rw [locate_of_null hnull]
  rfl

/-- A file is written where no directory was. -/
theorem laid_of_write (h : t.write p bytes = .ok t') :
    '\x00' ∉ p.text.toList ∧ Laid t (ofNames p.names) (.file bytes) t' := by
  unfold write at h
  obtain ⟨place, hp, h⟩ := Outcome.bind_eq_ok.1 h
  rw [← eq_ofNames_of_locate hp]
  refine ⟨(locate_eq_ok_iff.1 hp).1, ?_⟩
  split at h
  · cases h
  · next hdir =>
    cases h
    refine laid_put (.file bytes) hp ?_ fun _ _ => rfl
    intro hd
    obtain ⟨entries, he⟩ := entryAt?_eq_directory.1 hd
    exact hdir entries he

namespace Action

variable {α β : Type} {P : FileTree → Prop} {Q : FileError → Prop}

/-! ### What an action keeps -/

/-- After the action the tree has a property however the action ended, and an error is of a kind. -/
def HoldsAt (P : FileTree → Prop) (Q : FileError → Prop) (x : Action α) (t : FileTree) : Prop :=
  P (x.run.run t).2 ∧ ∀ e, (x.run.run t).1 = .error e → Q e

/-- Trees keep a property through the action however it ends, and errors are of a kind. -/
def Holds (P : FileTree → Prop) (Q : FileError → Prop) (x : Action α) : Prop :=
  ∀ t, P t → HoldsAt P Q x t

/-- The same of a single operation, which leaves the tree alone when it fails. -/
def HoldsOnce (P : FileTree → Prop) (Q : FileError → Prop)
    (f : FileTree → Except FileError FileTree) : Prop :=
  ∀ t, P t → (∀ t', f t = .ok t' → P t') ∧ ∀ e, f t = .error e → Q e

theorem holdsAt_pure {a : α} (h : P t) : HoldsAt P Q (pure a) t := by
  refine ⟨h, ?_⟩
  intro e he
  cases he

theorem holdsAt_set (h : P t') : HoldsAt P Q (set t') t := by
  refine ⟨h, ?_⟩
  intro e he
  cases he

theorem holdsAt_throw {e : FileError} (h : P t) (he : Q e) :
    HoldsAt P Q (throw e : Action α) t := by
  refine ⟨h, ?_⟩
  intro e' h'
  cases h'
  exact he

/-- What comes after a look at the tree is done on that tree. -/
theorem holdsAt_get_bind {f : FileTree → Action α} :
    HoldsAt P Q (get >>= f) t ↔ HoldsAt P Q (f t) t := Iff.rfl

theorem HoldsAt.bind {x : Action α} {f : α → Action β} (hx : HoldsAt P Q x t)
    (hf : ∀ a, Holds P Q (f a)) : HoldsAt P Q (x >>= f) t := by
  obtain ⟨hP, hQ⟩ := hx
  unfold HoldsAt
  rcases hr : x.run.run t with ⟨e | a, t₁⟩
  · rw [hr] at hP hQ
    rw [Outcome.run_bind_of_error hr]
    refine ⟨hP, ?_⟩
    intro e' he
    cases he
    exact hQ e rfl
  · rw [hr] at hP
    rw [Outcome.run_bind_of_ok hr]
    exact hf a t₁ hP

theorem Holds.bind {x : Action α} {f : α → Action β} (hx : Holds P Q x)
    (hf : ∀ a, Holds P Q (f a)) : Holds P Q (x >>= f) :=
  fun t h => (hx t h).bind hf

theorem holds_ofStep {f : FileTree → Except FileError FileTree} (h : HoldsOnce P Q f) :
    Holds P Q (ofStep f) := by
  intro t hP
  unfold ofStep
  rw [holdsAt_get_bind]
  split
  · next t' hf => exact holdsAt_set ((h t hP).1 t' hf)
  · next e hf => exact holdsAt_throw hP ((h t hP).2 e hf)

theorem holds_makeDirectory {existing : Bool}
    (h : HoldsOnce P Q fun t => t.makeDirectory p) : Holds P Q (makeDirectory existing p) := by
  intro t hP
  unfold makeDirectory
  rw [holdsAt_get_bind]
  split
  · next t' hf => exact holdsAt_set ((h t hP).1 t' hf)
  · next e hf =>
    split
    · exact holdsAt_pure hP
    · exact holdsAt_throw hP ((h t hP).2 e hf)

/-- What the making of each directory on the way keeps, the making of all of them keeps. -/
theorem holds_makeDirectoriesOf {slashes : Nat} {existing : Bool} {above : List String}
    (h : ∀ part, part <+: above.reverse →
      HoldsOnce P Q fun t => t.makeDirectory ⟨slashes, part⟩) :
    Holds P Q (makeDirectoriesOf slashes existing above) := by
  induction above generalizing existing with
  | nil => exact holds_makeDirectory (h [] List.nil_prefix)
  | cons name above ih =>
    have hself := h _ (List.prefix_refl _)
    have habove : Holds P Q (makeDirectoriesOf slashes true above) := by
      apply ih
      intro part hp
      apply h part
      rw [List.reverse_cons]
      exact hp.trans (List.prefix_append _ _)
    intro t hP
    unfold makeDirectoriesOf
    rw [holdsAt_get_bind]
    split
    · -- the first try was without effect, so what is above is made in the same tree
      exact (habove t hP).bind fun _ => holds_makeDirectory hself
    · exact holds_makeDirectory hself t hP

theorem holds_makeDirectories {existing : Bool} (h : ∀ part, part <+: p.names →
      HoldsOnce P Q fun t => t.makeDirectory ⟨p.slashes, part⟩) :
    Holds P Q (makeDirectories existing p) := by
  apply holds_makeDirectoriesOf
  rw [List.reverse_reverse]
  exact h

/-- What the making of each directory above a file and the writing of the file keep, storing the
file keeps. -/
theorem holds_store (h : ∀ part, part <+: p.names.dropLast →
      HoldsOnce P Q fun t => t.makeDirectory ⟨p.slashes, part⟩)
    (hwrite : HoldsOnce P Q fun t => t.write p bytes) : Holds P Q (store p bytes) :=
  (holds_makeDirectories h).bind fun _ => holds_ofStep hwrite

/-! ### Files that stay -/

/-- A directory is made where nothing was, and a file is written in place of a file at most, so a
file stays a file. -/
theorem holds_file (place : Place) (p : Path) (bytes : List UInt8) :
    Holds (fun t => ∃ bytes, t.entryAt? place = some (.file bytes)) (fun _ => True)
      (store p bytes) := by
  apply holds_store
  · rintro part - t ⟨old, hold⟩
    refine ⟨?_, fun _ _ => trivial⟩
    intro t' ht'
    obtain ⟨hnone, hlaid⟩ := laid_of_makeDirectory ht'
    refine ⟨old, ?_⟩
    rw [hlaid.elsewhere place, hold]
    -- the file is there, and the directory is made where nothing is
    rintro rfl
    rw [hnone] at hold
    cases hold
  · rintro t ⟨old, hold⟩
    refine ⟨?_, fun _ _ => trivial⟩
    intro t' ht'
    obtain ⟨-, hlaid⟩ := laid_of_write ht'
    by_cases he : place = ofNames p.names
    · exact ⟨bytes, he ▸ hlaid.here⟩
    · refine ⟨old, ?_⟩
      rw [hlaid.elsewhere place he, hold]

/-! ### What a success shows -/

theorem Succeeds.exists_of_bind {x : Action α} {f : α → Action β} {b : β}
    (h : Succeeds (x >>= f) t b t') : ∃ a t₁, Succeeds x t a t₁ ∧ Succeeds (f a) t₁ b t' :=
  Outcome.run_bind_eq_ok.1 h

theorem Succeeds.eq_ok_of_ofStep {f : FileTree → Except FileError FileTree}
    (h : Succeeds (ofStep f) t () t') : f t = .ok t' := by
  unfold ofStep at h
  rw [succeeds_get_bind] at h
  split at h
  · next t₁ hf =>
    cases h
    exact hf
  · cases h

/-- After a file was stored it is at its place, and its path has no null character. -/
theorem Succeeds.stored (h : Succeeds (store p bytes) t () t') :
    '\x00' ∉ p.text.toList ∧ t'.entryAt? (ofNames p.names) = some (.file bytes) := by
  obtain ⟨-, t₁, -, hs⟩ := h.exists_of_bind
  obtain ⟨hnull, hlaid⟩ := laid_of_write hs.eq_ok_of_ofStep
  exact ⟨hnull, hlaid.here⟩

/-! ### Null characters -/

/-- The action fails on a tree with an error, and leaves another tree. -/
def Fails (x : Action α) (t : FileTree) (e : FileError) (t' : FileTree) : Prop :=
  x.run.run t = (.error e, t')

theorem Succeeds.bind_fails {x : Action α} {f : α → Action β} {t₁ : FileTree} {a : α}
    {e : FileError} (hx : Succeeds x t a t₁) (hf : Fails (f a) t₁ e t') :
    Fails (x >>= f) t e t' :=
  Outcome.run_bind_eq_error.2 (.inr ⟨a, t₁, hx, hf⟩)

theorem Fails.bind {x : Action α} {f : α → Action β} {e : FileError} (hx : Fails x t e t') :
    Fails (x >>= f) t e t' :=
  Outcome.run_bind_of_error hx f

/-- An action of two parts fails in the first, or in the second after the first. -/
theorem fails_bind {x : Action α} {f : α → Action β} {e : FileError} : Fails (x >>= f) t e t' ↔
    Fails x t e t' ∨ ∃ a t₁, Succeeds x t a t₁ ∧ Fails (f a) t₁ e t' :=
  Outcome.run_bind_eq_error

theorem fails_get_bind {f : FileTree → Action α} {e : FileError} :
    Fails (get >>= f) t e t' ↔ Fails (f t) t e t' := Iff.rfl

theorem fails_ofStep {f : FileTree → Except FileError FileTree} {e : FileError}
    (h : f t = .error e) : Fails (ofStep f) t e t := by
  unfold ofStep
  rw [fails_get_bind, h]
  rfl

theorem fails_makeDirectory_of_null {existing : Bool} (hnull : '\x00' ∈ p.text.toList) :
    Fails (makeDirectory existing p) t .nullCharacter t := by
  have hhas : t.hasDirectory p = false := by
    unfold hasDirectory
    rw [locate_of_null hnull]
  unfold makeDirectory
  rw [fails_get_bind, makeDirectory_of_null hnull, hhas, Bool.and_false]
  rfl

theorem fails_makeDirectories_of_null {existing : Bool} (hnull : '\x00' ∈ p.text.toList) :
    Fails (makeDirectories existing p) t .nullCharacter t := by
  obtain ⟨slashes, names⟩ := p
  have hfails : ∀ above, above.reverse = names →
      Fails (makeDirectoriesOf slashes existing above) t .nullCharacter t := by
    rintro above rfl
    cases above with
    | nil => exact fails_makeDirectory_of_null hnull
    | cons name above =>
      -- no induction: the first try fails, and not for want of a directory above
      unfold makeDirectoriesOf
      dsimp only
      rw [fails_get_bind, makeDirectory_of_null hnull]
      exact fails_makeDirectory_of_null hnull
  exact hfails _ (List.reverse_reverse names)

end Action
end FileTree
end ApiScribe
