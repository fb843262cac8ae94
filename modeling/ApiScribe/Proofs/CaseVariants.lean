import ApiScribe.Model.Names

/-!
# How the spellings of an identifier agree

Two of the spellings change the first character only, between an ASCII letter and the other case of
it, and the third starts with that letter as a small one.  So a spelling of a spelling is nothing
new, and which of the spellings it is made from never counts (`spellings_agree`).  What becomes of a
character is told by its number (`toNat_toLower`, `toNat_toUpper`).

The snake-case spelling can be read back as long as the identifier has no underscores of its own:
each underscore then stands before what was a capital (`unsnake_snakeRest`).  Only the first
character does not say what it was.  Two identifiers without underscores hence share a snake-case
spelling exactly if they share a camel-case one (`snake_eq_snake_iff`), that is if they are equal up
to the case of that character (`toCamelCase_eq_iff`).
-/

namespace ApiScribe.Names

/-! ### The case of a character -/

section
variable {c : Char}

theorem isUpper_iff : c.isUpper = true ↔ 'A' ≤ c ∧ c ≤ 'Z' := by
  show decide ('A' ≤ c ∧ c ≤ 'Z') = true ↔ _
  exact decide_eq_true_iff

theorem isUpper_iff_toNat : c.isUpper = true ↔ 65 ≤ c.toNat ∧ c.toNat ≤ 90 := isUpper_iff

/-- The small letter of a capital comes 32 places after it. -/
theorem toNat_toLower (c : Char) :
    c.toLower.toNat = if 65 ≤ c.toNat ∧ c.toNat ≤ 90 then c.toNat + 32 else c.toNat := by
  have hval : c.val.toNat = c.toNat := rfl
  unfold Char.toLower
  simp only [ge_iff_le, UInt32.le_iff_toNat_le, UInt32.reduceToNat, Char.reduceVal, hval]
  split
  · show (c.val + 32).toNat = c.toNat + 32
    simp only [UInt32.toNat_add, UInt32.reduceToNat, hval]
    omega
  · rfl

/-- The capital of a small letter comes 32 places before it. -/
theorem toNat_toUpper (c : Char) :
    c.toUpper.toNat = if 97 ≤ c.toNat ∧ c.toNat ≤ 122 then c.toNat - 32 else c.toNat := by
  have hval : c.val.toNat = c.toNat := rfl
  unfold Char.toUpper
  simp only [UInt32.le_iff_toNat_le, UInt32.reduceToNat, Char.reduceVal, hval]
  split
  · -- the difference of the two is taken round the end of the numbers
    show (c.val + 4294967264).toNat = c.toNat - 32
    simp only [UInt32.toNat_add, UInt32.reduceToNat, hval]
    omega
  · rfl

theorem toLower_toLower : c.toLower.toLower = c.toLower := by
  rw [← Char.toNat_inj]
  grind [toNat_toLower]

theorem toLower_toUpper : c.toUpper.toLower = c.toLower := by
  rw [← Char.toNat_inj]
  grind [toNat_toLower, toNat_toUpper]

theorem toUpper_toLower : c.toLower.toUpper = c.toUpper := by
  rw [← Char.toNat_inj]
  grind [toNat_toLower, toNat_toUpper]

theorem toUpper_toUpper : c.toUpper.toUpper = c.toUpper := by
  rw [← Char.toNat_inj]
  grind [toNat_toUpper]

theorem isUpper_toLower (c : Char) : c.toLower.isUpper = false := by
  rw [Bool.eq_false_iff, Ne, isUpper_iff_toNat, toNat_toLower]
  split <;> omega

theorem toLower_of_not_isUpper (h : ¬ c.isUpper = true) : c.toLower = c := by
  rw [← Char.toNat_inj, toNat_toLower, if_neg (mt isUpper_iff_toNat.2 h)]

theorem toNat_toLower_of_isUpper (h : c.isUpper = true) : c.toLower.toNat = c.toNat + 32 := by
  rw [toNat_toLower, if_pos (isUpper_iff_toNat.1 h)]

theorem toUpper_toLower_of_isUpper (h : c.isUpper = true) : c.toLower.toUpper = c := by
  rw [toUpper_toLower, ← Char.toNat_inj, toNat_toUpper, if_neg]
  have hcapital := isUpper_iff_toNat.1 h
  omega

end

/-! ### Spellings of spellings -/

section
variable (cs : List Char)

@[simp] theorem snake_camel : snake (camel cs) = snake cs := by
  cases cs with
  | nil => rfl
  | cons c cs => rw [camel, snake, snake, toLower_toLower]

@[simp] theorem snake_capitalCamel : snake (capitalCamel cs) = snake cs := by
  cases cs with
  | nil => rfl
  | cons c cs => rw [capitalCamel, snake, snake, toLower_toUpper]

@[simp] theorem camel_capitalCamel : camel (capitalCamel cs) = camel cs := by
  cases cs with
  | nil => rfl
  | cons c cs => rw [capitalCamel, camel, camel, toLower_toUpper]

@[simp] theorem capitalCamel_camel : capitalCamel (camel cs) = capitalCamel cs := by
  cases cs with
  | nil => rfl
  | cons c cs => rw [camel, capitalCamel, capitalCamel, toUpper_toLower]

@[simp] theorem camel_camel : camel (camel cs) = camel cs := by
  cases cs with
  | nil => rfl
  | cons c cs => rw [camel, camel, toLower_toLower]

@[simp] theorem capitalCamel_capitalCamel : capitalCamel (capitalCamel cs) = capitalCamel cs := by
  cases cs with
  | nil => rfl
  | cons c cs => rw [capitalCamel, capitalCamel, toUpper_toUpper]

end

/-! ### Capitals -/

/-- No character is an ASCII capital. -/
def NoCapital (cs : List Char) : Prop := ∀ c ∈ cs, c.isUpper = false

theorem noCapital_cons {c : Char} {cs : List Char} :
    NoCapital (c :: cs) ↔ c.isUpper = false ∧ NoCapital cs :=
  List.forall_mem_cons

theorem noCapital_snakeRest (cs : List Char) : NoCapital (snakeRest cs) := by
  induction cs with
  | nil => exact List.forall_mem_nil _
  | cons c cs ih =>
    rw [snakeRest]
    split
    · exact noCapital_cons.2 ⟨rfl, noCapital_cons.2 ⟨isUpper_toLower c, ih⟩⟩
    · next hc => exact noCapital_cons.2 ⟨Bool.eq_false_iff.2 hc, ih⟩

theorem noCapital_snake (cs : List Char) : NoCapital (snake cs) := by
  cases cs with
  | nil => exact List.forall_mem_nil _
  | cons c cs =>
    exact noCapital_cons.2 ⟨isUpper_toLower c, noCapital_snakeRest cs⟩

theorem snakeRest_of_noCapital {cs : List Char} (h : NoCapital cs) : snakeRest cs = cs := by
  induction cs with
  | nil => rfl
  | cons c cs ih =>
    obtain ⟨hc, hcs⟩ := noCapital_cons.1 h
    rw [snakeRest, if_neg (Bool.eq_false_iff.1 hc), ih hcs]

/-- Without capitals there is nothing to spell. -/
theorem snake_of_noCapital {cs : List Char} (h : NoCapital cs) : snake cs = cs := by
  cases cs with
  | nil => rfl
  | cons c cs =>
    obtain ⟨hc, hcs⟩ := noCapital_cons.1 h
    rw [snake, snakeRest_of_noCapital hcs, toLower_of_not_isUpper (Bool.eq_false_iff.1 hc)]

@[simp] theorem snake_snake (cs : List Char) : snake (snake cs) = snake cs :=
  snake_of_noCapital (noCapital_snake cs)

/-- Each capital has an underscore of its own. -/
theorem length_snakeRest (cs : List Char) :
    (snakeRest cs).length = cs.length + cs.countP Char.isUpper := by
  induction cs with
  | nil => rfl
  | cons c cs ih =>
    rw [snakeRest, List.countP_cons]
    split
    · rw [List.length_cons, List.length_cons, List.length_cons, ih]
      omega
    · rw [List.length_cons, List.length_cons, ih]
      omega

theorem length_snake (cs : List Char) :
    (snake cs).length = cs.length + cs.tail.countP Char.isUpper := by
  cases cs with
  | nil => rfl
  | cons c cs =>
    rw [snake, List.length_cons, List.length_cons, length_snakeRest, List.tail_cons]
    omega

/-- The spellings of an identifier agree with each other.  Which one a snake-case spelling is made
from does not count, nor does it for the two others, and a spelling is its own.  In snake case there
are no ASCII capitals, and as many characters more as there were capitals behind the first
character. -/
theorem spellings_agree (x : String) :
    toSnakeCase (toCamelCase x) = toSnakeCase x ∧
    toSnakeCase (toCapitalCamelCase x) = toSnakeCase x ∧
    toCamelCase (toCapitalCamelCase x) = toCamelCase x ∧
    toCapitalCamelCase (toCamelCase x) = toCapitalCamelCase x ∧
    toSnakeCase (toSnakeCase x) = toSnakeCase x ∧
    toCamelCase (toCamelCase x) = toCamelCase x ∧
    toCapitalCamelCase (toCapitalCamelCase x) = toCapitalCamelCase x ∧
    (∀ c ∈ (toSnakeCase x).toList, ¬ ('A' ≤ c ∧ c ≤ 'Z')) ∧
    (toSnakeCase x).length =
      x.length + x.toList.tail.countP fun c => decide ('A' ≤ c ∧ c ≤ 'Z') := by
  unfold toSnakeCase toCamelCase toCapitalCamelCase
  simp only [String.toList_ofList, snake_camel, snake_capitalCamel, camel_capitalCamel,
    capitalCamel_camel, snake_snake, camel_camel, capitalCamel_capitalCamel, true_and]
  constructor
  · intro c hc
    rw [← isUpper_iff, noCapital_snake _ c hc]
    exact Bool.false_ne_true
  · have hcapital : (fun c : Char => decide ('A' ≤ c ∧ c ≤ 'Z')) = Char.isUpper := by
      funext c
      rw [Bool.eq_iff_iff, decide_eq_true_iff, isUpper_iff]
    rw [hcapital, String.length_ofList, length_snake, String.length_toList]

/-! ### Reading a snake-case spelling back -/

/-- The letter after an underscore as a capital, without the underscore. -/
def unsnake : List Char → List Char
  | '_' :: c :: cs => c.toUpper :: unsnake cs
  | c :: cs => c :: unsnake cs
  | [] => []

theorem unsnake_cons {c : Char} (h : c ≠ '_') (cs : List Char) :
    unsnake (c :: cs) = c :: unsnake cs :=
  unsnake.eq_2 c cs fun _ _ hc _ => h hc

/-- Underscores that are not in the identifier tell where the capitals were. -/
theorem unsnake_snakeRest {cs : List Char} (h : '_' ∉ cs) : unsnake (snakeRest cs) = cs := by
  induction cs with
  | nil => rfl
  | cons c cs ih =>
    have hrest := ih (List.not_mem_of_not_mem_cons h)
    rw [snakeRest]
    split
    · next hc => rw [unsnake, toUpper_toLower_of_isUpper hc, hrest]
    · rw [unsnake_cons (List.ne_of_not_mem_cons h).symm, hrest]

section
variable {cs ds : List Char} (hcs : '_' ∉ cs) (hds : '_' ∉ ds)
include hcs hds

theorem snakeRest_inj : snakeRest cs = snakeRest ds ↔ cs = ds := by
  constructor
  · intro h
    rw [← unsnake_snakeRest hcs, h, unsnake_snakeRest hds]
  · rintro rfl
    rfl

/-- Of identifiers without underscores, the spellings in snake case and in camel case lose the same:
the case of the first character. -/
theorem snake_eq_snake_iff : snake cs = snake ds ↔ camel cs = camel ds := by
  cases cs with
  | nil =>
    cases ds with
    | nil => exact iff_of_true rfl rfl
    | cons d ds => exact iff_of_false (List.cons_ne_nil _ _).symm (List.cons_ne_nil _ _).symm
  | cons c cs =>
    cases ds with
    | nil => exact iff_of_false (List.cons_ne_nil _ _) (List.cons_ne_nil _ _)
    | cons d ds =>
      rw [snake, snake, camel, camel, List.cons.injEq, List.cons.injEq,
        snakeRest_inj (List.not_mem_of_not_mem_cons hcs) (List.not_mem_of_not_mem_cons hds)]

end

/-! ### Equal up to the case of the first character -/

/-- An ASCII capital and its small letter, which comes 32 places after it. -/
def IsCapitalOf (c d : Char) : Prop := ('A' ≤ c ∧ c ≤ 'Z') ∧ d.toNat = c.toNat + 32

/-- The characters are equal, or one ASCII letter in both cases. -/
def SameLetter (c d : Char) : Prop := c = d ∨ IsCapitalOf c d ∨ IsCapitalOf d c

/-- The texts are equal, or begin with one ASCII letter in both cases and go on alike. -/
def SameUpToFirstCase (x y : String) : Prop :=
  x = y ∨ ∃ c d rest, x.toList = c :: rest ∧ y.toList = d :: rest ∧ SameLetter c d

/-- The small letter of a capital is its spelling in small letters. -/
theorem isCapitalOf_iff {c d : Char} : IsCapitalOf c d ↔ c.isUpper = true ∧ c.toLower = d := by
  unfold IsCapitalOf
  rw [← isUpper_iff]
  refine and_congr_right fun h => ?_
  rw [← toNat_toLower_of_isUpper h, Char.toNat_inj, eq_comm]

theorem toLower_inj_of_isUpper {c d : Char} (hc : c.isUpper = true) (hd : d.isUpper = true)
    (h : c.toLower = d.toLower) : c = d := by
  have hnat := congrArg Char.toNat h
  rw [toNat_toLower_of_isUpper hc, toNat_toLower_of_isUpper hd] at hnat
  exact Char.toNat_inj.1 (Nat.add_right_cancel hnat)

theorem sameLetter_iff {c d : Char} : SameLetter c d ↔ c.toLower = d.toLower := by
  unfold SameLetter
  rw [isCapitalOf_iff, isCapitalOf_iff]
  constructor
  · rintro (rfl | ⟨-, rfl⟩ | ⟨-, rfl⟩)
    · rfl
    · exact toLower_toLower.symm
    · exact toLower_toLower
  · intro h
    -- only of one capital and one small letter are the cases different
    by_cases hc : c.isUpper = true
    · by_cases hd : d.isUpper = true
      · exact .inl (toLower_inj_of_isUpper hc hd h)
      · exact .inr (.inl ⟨hc, h.trans (toLower_of_not_isUpper hd)⟩)
    · rw [toLower_of_not_isUpper hc] at h
      by_cases hd : d.isUpper = true
      · exact .inr (.inr ⟨hd, h.symm⟩)
      · exact .inl (h.trans (toLower_of_not_isUpper hd))

/-- The spelling in camel case loses the case of the first character, and nothing else. -/
theorem toCamelCase_eq_iff {x y : String} :
    toCamelCase x = toCamelCase y ↔ SameUpToFirstCase x y := by
  unfold toCamelCase SameUpToFirstCase
  rw [String.ofList_inj, ← String.toList_inj]
  cases hx : x.toList with
  | nil =>
    cases hy : y.toList with
    | nil => exact iff_of_true rfl (.inl rfl)
    | cons d ds => simp [camel]
  | cons c cs =>
    cases hy : y.toList with
    | nil => simp [camel]
    | cons d ds =>
      rw [camel, camel, List.cons.injEq, ← sameLetter_iff]
      constructor
      · rintro ⟨hletter, rfl⟩
        exact .inr ⟨c, d, cs, rfl, rfl, hletter⟩
      · rintro (h | ⟨_, _, _, h, h', hletter⟩)
        · cases h
          exact ⟨.inl rfl, rfl⟩
        · cases h
          cases h'
          exact ⟨hletter, rfl⟩

instance (x y : String) : Decidable (SameUpToFirstCase x y) :=
  decidable_of_iff _ toCamelCase_eq_iff

theorem toSnakeCase_eq_iff {x y : String} (hx : '_' ∉ x.toList) (hy : '_' ∉ y.toList) :
    toSnakeCase x = toSnakeCase y ↔ toCamelCase x = toCamelCase y := by
  unfold toSnakeCase toCamelCase
  rw [String.ofList_inj, String.ofList_inj, snake_eq_snake_iff hx hy]

end ApiScribe.Names
