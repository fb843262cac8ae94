import ApiScribe.FileTree.Basic

/-!
# What there is at a place

A change at a place shows above it, in the directories that hold it, and below it.  `entryAt?`
leaves out what is below: it says of a place only whether a file with certain bytes or a directory
is there.  Seen this way a change is local (`entryAt?_put_elsewhere`, `entryAt?_erase_elsewhere`).
-/

namespace ApiScribe.FileTree

/-- What there is at a place, without what is below it. -/
inductive Entry where
  | file (bytes : List UInt8)
  | directory
  deriving DecidableEq, Repr

/-- A tree without what is below its top. -/
def top : FileTree → Entry
  | .file bytes => .file bytes
  | .directory _ => .directory

/-- What there is at a place of a tree. -/
def entryAt? (t : FileTree) (place : Place) : Option Entry := (t.find? place).map top

variable {t new : FileTree} {place other : Place} {name : String}

/-! ### Places in a tree -/

theorem find?_append (t : FileTree) (place below : Place) :
    t.find? (place ++ below) = (t.find? place).bind fun inner => inner.find? below := by
  induction place generalizing t with
  | nil => rfl
  | cons n place ih =>
    cases t with
    | file bytes => rfl
    | directory entries =>
      rw [List.cons_append, find?, find?]
      cases entries.lookup n with
      | none => rfl
      | some inner => exact ih inner

/-- A place below a directory is a place of the entry that its first name leads to. -/
theorem entryAt?_cons {entries : List (String × FileTree)} :
    (directory entries).entryAt? (name :: other) =
      (entries.lookup name).bind fun inner => inner.entryAt? other := by
  rw [entryAt?, find?]
  cases entries.lookup name <;> rfl

theorem entryAt?_eq_none : t.entryAt? place = none ↔ t.find? place = none := by
  rw [entryAt?, Option.map_eq_none_iff]

theorem entryAt?_eq_directory :
    t.entryAt? place = some .directory ↔ ∃ entries, t.find? place = some (.directory entries) := by
  rw [entryAt?, Option.map_eq_some_iff]
  constructor
  · rintro ⟨inner, hi, ht⟩
    cases inner with
    | file bytes => cases ht
    | directory entries => exact ⟨entries, hi⟩
  · rintro ⟨entries, hi⟩
    exact ⟨_, hi, rfl⟩

/-- Above something there are only directories. -/
theorem entryAt?_of_append {below : Place} (hne : below ≠ [])
    (h : t.entryAt? (place ++ below) ≠ none) : t.entryAt? place = some .directory := by
  rw [Ne, entryAt?_eq_none, find?_append] at h
  rw [entryAt?_eq_directory]
  cases hp : t.find? place with
  | none =>
    rw [hp] at h
    exact absurd rfl h
  | some inner =>
    cases inner with
    | directory entries => exact ⟨entries, rfl⟩
    | file bytes =>
      rw [hp] at h
      cases below with
      | nil => exact absurd rfl hne
      | cons n below => exact absurd rfl h

/-- Where nothing is, nothing is below. -/
theorem entryAt?_append_of_none (h : t.entryAt? place = none) (below : Place) :
    t.entryAt? (place ++ below) = none := by
  rw [entryAt?_eq_none] at h ⊢
  rw [find?_append, h]
  rfl

/-! ### Putting something into a directory -/

theorem entryAt?_put_append (h : t.entryAt? place = some .directory) (below : Place) :
    (t.put (place ++ [name]) new).entryAt? (place ++ [name] ++ below) = new.entryAt? below := by
  obtain ⟨entries, he⟩ := entryAt?_eq_directory.1 h
  rw [entryAt?, entryAt?, find?_append, find?_put_self he]
  rfl

/-- What is neither at the place nor below it stays. -/
theorem entryAt?_put_elsewhere (h : t.entryAt? place = some .directory)
    (hn : ¬ place ++ [name] <+: other) :
    (t.put (place ++ [name]) new).entryAt? other = t.entryAt? other := by
  induction place generalizing t other with
  | nil =>
    obtain ⟨entries, he⟩ := entryAt?_eq_directory.1 h
    cases he
    cases other with
    | nil => rfl
    | cons n other =>
      have hne : n ≠ name := by
        rintro rfl
        exact hn ⟨other, rfl⟩
      rw [List.nil_append, put, entryAt?_cons, entryAt?_cons, lookup_withEntry, if_neg hne]
  | cons m place ih =>
    cases t with
    | file bytes =>
      obtain ⟨entries, he⟩ := entryAt?_eq_directory.1 h
      cases he
    | directory entries =>
      cases other with
      | nil => rfl
      | cons n other =>
        rw [List.cons_append, put, entryAt?_cons, entryAt?_cons, lookup_withEntry]
        by_cases hnm : n = m
        · -- the way is the same by one name, and goes on in the entry of that name
          subst hnm
          rw [entryAt?_cons, Option.bind_eq_some_iff] at h
          obtain ⟨inner, hl, hi⟩ := h
          rw [if_pos rfl, hl]
          apply ih hi
          rintro ⟨rest, rfl⟩
          exact hn ⟨rest, rfl⟩
        · rw [if_neg hnm]

/-! ### Taking something away -/

theorem erase_cons {entries : List (String × FileTree)} {n : String} (hne : place ≠ []) :
    (directory entries).erase (n :: place) =
      match entries.lookup n with
      | some inner => .directory (withEntry n (inner.erase place) entries)
      | none => .directory entries := by
  cases place with
  | nil => exact absurd rfl hne
  | cons m place => rfl

/-- What is neither at the place nor below it stays. -/
theorem entryAt?_erase_elsewhere (hn : ¬ place <+: other) :
    (t.erase place).entryAt? other = t.entryAt? other := by
  induction place generalizing t other with
  | nil => exact absurd (List.nil_prefix) hn
  | cons m place ih =>
    cases t with
    | file bytes => rfl
    | directory entries =>
      cases other with
      | nil =>
        by_cases hp : place = []
        · subst hp
          rfl
        · rw [erase_cons hp]
          cases entries.lookup m <;> rfl
      | cons n other =>
        by_cases hp : place = []
        · subst hp
          have hne : n ≠ m := by
            rintro rfl
            exact hn ⟨other, rfl⟩
          rw [erase, entryAt?_cons, entryAt?_cons, lookup_withoutEntry, if_neg hne]
        · rw [erase_cons hp]
          cases hl : entries.lookup m with
          | none => rfl
          | some inner =>
            dsimp only
            rw [entryAt?_cons, entryAt?_cons, lookup_withEntry]
            by_cases hnm : n = m
            · -- the entry of the name is kept, and something below it taken away
              subst hnm
              rw [if_pos rfl, hl]
              apply ih
              rintro ⟨rest, rfl⟩
              exact hn ⟨rest, rfl⟩
            · rw [if_neg hnm]

theorem entryAt?_erase_self (hne : place ≠ []) : (t.erase place).entryAt? place = none := by
  induction place generalizing t with
  | nil => exact absurd rfl hne
  | cons m place ih =>
    cases t with
    | file bytes => rfl
    | directory entries =>
      by_cases hp : place = []
      · subst hp
        rw [erase, entryAt?_cons, lookup_withoutEntry, if_pos rfl]
        rfl
      · rw [erase_cons hp]
        cases hl : entries.lookup m with
        | none =>
          dsimp only
          rw [entryAt?_cons, hl]
          rfl
        | some inner =>
          dsimp only
          rw [entryAt?_cons, lookup_withEntry, if_pos rfl]
          exact ih hp

end ApiScribe.FileTree
