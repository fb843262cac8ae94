import Mathlib.Order.Bounds.Basic
import ApiScribe.Document.Table
import ApiScribe.Text.Split

/-!
# What a cell says

The grammar reads a cell from left to right, one `Array of` after the other.  What it reads can be
said at once: as many arrays as there are words for them at the start of the text without blanks,
around a base (`ofCompact_markers`), which is a primitive type if the rest is a word for one
(`Primitive`), and otherwise a reference.

Main statements: `parse_eq_inArrays` — the type of a cell in this form; `parse_padded_eq_iff` —
blanks around a cell never count, unless the cell names an entity (`IsName`), whose name they become
a part of.
-/

namespace ApiScribe.TypeDescriptor

/-! ### Words of the grammar -/

/-- The word that stands before the element of an array. -/
def arrayMarker : List Char := "Arrayof".toList

/-- The word for an array, so many times. -/
def markers : Nat → List Char
  | 0 => []
  | n + 1 => arrayMarker ++ markers n

/-- The words for primitive types. -/
inductive Primitive : List Char → TypeDescriptor → Prop
  | integer : Primitive "Integer".toList .integer
  | string : Primitive "String".toList .string
  | boolean : Primitive "Boolean".toList .boolean
  | integerOrString : Primitive "IntegerorString".toList .string

/-- What a text stands for that does not start with the word for an array: the primitive type of a
word for one, otherwise the reference of a name. -/
inductive Base (name : String) (cs : List Char) : TypeDescriptor → Prop
  | primitive {t : TypeDescriptor} (h : Primitive cs t) : Base name cs t
  | reference (h : ∀ t, ¬ Primitive cs t) : Base name cs (.reference name)

/-- So many arrays around a type. -/
def inArrays : Nat → TypeDescriptor → TypeDescriptor
  | 0, t => t
  | n + 1, t => .array (inArrays n t)

theorem primitive?_eq_some {cs : List Char} {t : TypeDescriptor} :
    primitive? cs = some t ↔ Primitive cs t := by
  constructor
  · intro h
    unfold primitive? at h
    split at h
    · next hcs => cases h; exact hcs ▸ .integer
    split at h
    · next hcs => cases h; exact hcs ▸ .string
    split at h
    · next hcs => cases h; exact hcs ▸ .boolean
    split at h
    · next hcs => cases h; exact hcs ▸ .integerOrString
    · cases h
  · intro h
    cases h <;> decide

theorem primitive?_eq_none {cs : List Char} : primitive? cs = none ↔ ∀ t, ¬ Primitive cs t := by
  simp only [← primitive?_eq_some, Option.eq_none_iff_forall_ne_some, ne_eq]

theorem base_primitive? (name : String) (cs : List Char) :
    Base name cs ((primitive? cs).getD (.reference name)) := by
  cases h : primitive? cs with
  | none => exact .reference (primitive?_eq_none.1 h)
  | some t => exact .primitive (primitive?_eq_some.1 h)

/-! ### Arrays -/

theorem ofCompact_arrayMarker (written cs : List Char) :
    ofCompact written (arrayMarker ++ cs) = .array (ofCompact cs cs) :=
  ofCompact.eq_1 written cs

theorem ofCompact_of_not_array {written cs : List Char} (h : ¬ arrayMarker <+: cs) :
    ofCompact written cs = (primitive? cs).getD (.reference (String.ofList written)) := by
  refine ofCompact.eq_2 written cs ?_
  rintro element rfl
  exact h (List.prefix_append arrayMarker element)

/-- Each word for an array makes one; from the first one on, a reference has the name that is left,
not the one that was written. -/
theorem ofCompact_markers (n : Nat) (written cs : List Char) :
    ofCompact written (markers n ++ cs) =
      inArrays n (ofCompact (if n = 0 then written else cs) cs) := by
  induction n generalizing written with
  | zero => rfl
  | succ n ih =>
    have hname : (if n = 0 then markers n ++ cs else cs) = cs := by
      cases n <;> rfl
    rw [markers, List.append_assoc, ofCompact_arrayMarker, ih, hname]
    rfl

/-- A text is some words for arrays and a rest that does not start with one more. -/
theorem exists_eq_markers (cs : List Char) :
    ∃ n rest, cs = markers n ++ rest ∧ ¬ arrayMarker <+: rest := by
  suffices h : ∀ written : List Char, ∃ n rest, cs = markers n ++ rest ∧ ¬ arrayMarker <+: rest from
    h cs
  intro written
  -- by the recursion of the grammar, which takes one word at a time off the text
  induction written, cs using ofCompact.induct with
  | case1 written element ih =>
    obtain ⟨n, rest, hel, hrest⟩ := ih
    exact ⟨n + 1, rest, congrArg (arrayMarker ++ ·) hel, hrest⟩
  | case2 written cs hcs =>
    refine ⟨0, cs, rfl, ?_⟩
    rintro ⟨element, rfl⟩
    exact hcs element rfl

theorem markers_add (m n : Nat) : markers (m + n) = markers m ++ markers n := by
  induction m with
  | zero => rw [Nat.zero_add]; rfl
  | succ m ih => rw [Nat.succ_add, markers, markers, ih, List.append_assoc]

/-- The words before such a rest are the most that the text starts with. -/
theorem isGreatest_markers {n : Nat} {cs : List Char} (h : ¬ arrayMarker <+: cs) :
    IsGreatest {m | ∃ rest, markers n ++ cs = markers m ++ rest} n := by
  refine ⟨⟨cs, rfl⟩, ?_⟩
  rintro m ⟨rest, hm⟩
  by_contra hlt
  obtain ⟨k, rfl⟩ := Nat.exists_eq_add_of_lt (Nat.lt_of_not_le hlt)
  rw [Nat.add_assoc, markers_add, List.append_assoc, List.append_cancel_left_eq] at hm
  refine h ⟨markers k ++ rest, ?_⟩
  rw [hm, ← List.append_assoc]
  rfl

/-! ### The type of a cell -/

theorem ofCell_eq_inArrays {cell : List Char} {n : Nat} {rest : List Char}
    (h : Text.withoutBlanks cell = markers n ++ rest) (hrest : ¬ arrayMarker <+: rest) :
    ofCell cell = inArrays n ((primitive? rest).getD
      (.reference (String.ofList (if n = 0 then cell else rest)))) := by
  rw [ofCell, h, ofCompact_markers, ofCompact_of_not_array hrest]

theorem parse_eq (cell qualifier : String) :
    parse cell qualifier =
      if "Optional".toList <+: Text.withoutBlanks qualifier.toList then
        .optional (ofCell cell.toList)
      else ofCell cell.toList := by
  unfold parse qualifies
  simp only [Text.startsWith_iff]
  rfl

theorem isBlank_of_mem_withoutBlanks {cs : List Char} {c : Char} (h : c ∈ Text.withoutBlanks cs) :
    Text.isBlank c = false := by
  unfold Text.withoutBlanks at h
  simpa using (List.mem_filter.1 h).2

/-- The type of every cell.  Its text without blanks is the word for an array as often as possible
and a rest; the type is so many arrays around what the rest stands for, in an optional exactly if
the qualifier without its blanks starts with `Optional`.  A reference has the name in the rest, but
outside of arrays it is the cell as it is written.  Fields and parameters have this same type of
their two cells. -/
theorem parse_eq_inArrays (cell qualifier : String) :
    (∃ n rest base,
      IsGreatest {m | ∃ rest, Text.withoutBlanks cell.toList = markers m ++ rest} n ∧
      Text.withoutBlanks cell.toList = markers n ++ rest ∧
      (∀ c ∈ rest, Text.isBlank c = false) ∧
      Base (if n = 0 then cell else String.ofList rest) rest base ∧
      parse cell qualifier =
        if "Optional".toList <+: Text.withoutBlanks qualifier.toList then
          .optional (inArrays n base)
        else inArrays n base) ∧
    (∀ field, (DtoRow.mk field cell qualifier).toMember.type = parse cell qualifier) ∧
    ∀ parameter description,
      (MethodRow.mk parameter cell qualifier description).toMember.type = parse cell qualifier := by
  refine ⟨?_, fun _ => rfl, fun _ _ => rfl⟩
  obtain ⟨n, rest, hcell, hrest⟩ := exists_eq_markers (Text.withoutBlanks cell.toList)
  have hname : String.ofList (if n = 0 then cell.toList else rest) =
      if n = 0 then cell else String.ofList rest := by
    split
    · exact String.ofList_toList
    · rfl
  refine ⟨n, rest, _, ?_, hcell, ?_, base_primitive? _ rest, ?_⟩
  · rw [hcell]
    exact isGreatest_markers hrest
  · intro c hc
    exact isBlank_of_mem_withoutBlanks (hcell ▸ List.mem_append_right _ hc)
  · rw [parse_eq, ofCell_eq_inArrays hcell hrest, hname]

example : parse "Array of Ar ray of\tChat Member" "Optional. The members" =
    .optional (inArrays 2 (.reference "ChatMember")) := by decide +kernel

/-! ### Blanks around a cell -/

/-- The cell names an entity: without its blanks it is no word for a primitive type and does not
start with the word for an array. -/
structure IsName (cell : List Char) : Prop where
  notPrimitive : ∀ t, ¬ Primitive (Text.withoutBlanks cell) t
  notArray : ¬ arrayMarker <+: Text.withoutBlanks cell

theorem isName_iff {cell : List Char} :
    IsName cell ↔ primitive? (Text.withoutBlanks cell) = none ∧
      ¬ arrayMarker <+: Text.withoutBlanks cell := by
  rw [primitive?_eq_none]
  exact ⟨fun h => ⟨h.notPrimitive, h.notArray⟩, fun h => ⟨h.1, h.2⟩⟩

instance (cell : List Char) : Decidable (IsName cell) := decidable_of_iff _ isName_iff.symm

section
variable {cell cell' : List Char}

/-- A name is taken as it is written, with its blanks. -/
theorem ofCell_of_isName (h : IsName cell) : ofCell cell = .reference (String.ofList cell) := by
  rw [ofCell, ofCompact_of_not_array h.notArray, primitive?_eq_none.2 h.notPrimitive]
  rfl

/-- Of all other cells only the text without blanks counts. -/
theorem ofCell_congr (h : ¬ IsName cell)
    (hcells : Text.withoutBlanks cell = Text.withoutBlanks cell') :
    ofCell cell = ofCell cell' := by
  unfold ofCell
  rw [← hcells]
  by_cases harray : arrayMarker <+: Text.withoutBlanks cell
  · obtain ⟨element, helement⟩ := harray
    rw [← helement, ofCompact_arrayMarker, ofCompact_arrayMarker]
  · rw [ofCompact_of_not_array harray, ofCompact_of_not_array harray]
    cases hp : primitive? (Text.withoutBlanks cell) with
    | none => exact absurd (isName_iff.2 ⟨hp, harray⟩) h
    | some t => rfl

/-- Cells that differ in blanks at most have one type exactly if they are no names, or do not
differ. -/
theorem ofCell_eq_iff (hcells : Text.withoutBlanks cell = Text.withoutBlanks cell') :
    ofCell cell = ofCell cell' ↔ ¬ IsName cell ∨ cell = cell' := by
  constructor
  · intro h
    by_cases hname : IsName cell
    · have hname' : IsName cell' := by
        rw [isName_iff, ← hcells]
        exact isName_iff.1 hname
      rw [ofCell_of_isName hname, ofCell_of_isName hname', reference.injEq, String.ofList_inj] at h
      exact .inr h
    · exact .inl hname
  · rintro (h | rfl)
    · exact ofCell_congr h hcells
    · rfl

end

theorem withoutBlanks_of_blank {cs : List Char} (h : ∀ c ∈ cs, Text.isBlank c = true) :
    Text.withoutBlanks cs = [] := by
  unfold Text.withoutBlanks
  rw [List.filter_eq_nil_iff]
  intro c hc
  simp [h c hc]

theorem toList_eq_padded_iff {cell before after : String} :
    cell.toList = (before ++ cell ++ after).toList ↔ before = "" ∧ after = "" := by
  constructor
  · intro h
    have hlength := congrArg List.length h
    rw [String.toList_append, String.toList_append, List.length_append,
      List.length_append] at hlength
    have hbefore : before.toList.length = 0 := by omega
    have hafter : after.toList.length = 0 := by omega
    exact ⟨String.toList_eq_nil_iff.1 (List.length_eq_zero_iff.1 hbefore),
      String.toList_eq_nil_iff.1 (List.length_eq_zero_iff.1 hafter)⟩
  · rintro ⟨rfl, rfl⟩
    rw [String.empty_append, String.append_empty]

/-- Blanks around a cell leave its type alone, at every depth and whatever the qualifier, unless the
cell names an entity: then they are a part of the name, so that the reference is another one. -/
theorem parse_padded_eq_iff (cell qualifier : String) {before after : String}
    (hbefore : ∀ c ∈ before.toList, Text.isBlank c = true)
    (hafter : ∀ c ∈ after.toList, Text.isBlank c = true) :
    (parse (before ++ cell ++ after) qualifier = parse cell qualifier ↔
      ¬ IsName cell.toList ∨ before = "" ∧ after = "") ∧
    (IsName cell.toList →
      parse (before ++ cell ++ after) qualifier =
        if "Optional".toList <+: Text.withoutBlanks qualifier.toList then
          .optional (.reference (before ++ cell ++ after))
        else .reference (before ++ cell ++ after)) := by
  have hcells : Text.withoutBlanks cell.toList =
      Text.withoutBlanks (before ++ cell ++ after).toList := by
    rw [String.toList_append, String.toList_append, Text.withoutBlanks_append,
      Text.withoutBlanks_append, withoutBlanks_of_blank hbefore, withoutBlanks_of_blank hafter,
      List.nil_append, List.append_nil]
  have hsame : parse (before ++ cell ++ after) qualifier = parse cell qualifier ↔
      ofCell cell.toList = ofCell (before ++ cell ++ after).toList := by
    rw [parse_eq, parse_eq, eq_comm]
    split
    · rw [optional.injEq]
    · rfl
  refine ⟨?_, ?_⟩
  · rw [hsame, ofCell_eq_iff hcells, toList_eq_padded_iff]
  · intro h
    have hname : IsName (before ++ cell ++ after).toList := by
      rw [isName_iff, ← hcells]
      exact isName_iff.1 h
    rw [parse_eq, ofCell_of_isName hname, String.ofList_toList]

/-- In an indented cell `Foo` names another entity than `Foo` does. -/
theorem parse_padded_eq_iff_name :
    (∀ c ∈ "\n  ".toList, Text.isBlank c = true) ∧ (∀ c ∈ "\n".toList, Text.isBlank c = true) ∧
    IsName "Foo".toList ∧ parse ("\n  " ++ "Foo" ++ "\n") "" = .reference "\n  Foo\n" ∧
    parse ("\n  " ++ "Foo" ++ "\n") "" ≠ parse "Foo" "" := by
  have hbefore : ∀ c ∈ "\n  ".toList, Text.isBlank c = true := List.all_eq_true.1 (by decide)
  have hafter : ∀ c ∈ "\n".toList, Text.isBlank c = true := List.all_eq_true.1 (by decide)
  have hname : IsName "Foo".toList := by decide
  obtain ⟨hiff, hreference⟩ := parse_padded_eq_iff "Foo" "" hbefore hafter
  refine ⟨hbefore, hafter, hname, ?_, ?_⟩
  · rw [hreference hname]
    decide
  · rw [ne_eq, hiff]
    rintro (h | ⟨h, -⟩)
    · exact h hname
    · exact absurd h (by decide)

end ApiScribe.TypeDescriptor
