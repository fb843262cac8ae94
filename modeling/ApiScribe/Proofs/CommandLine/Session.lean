import ApiScribe.CommandLine.Session

/-!
# Steps of a session

What a session does with the files and what it prints, step by step.  A step yields a value or ends
the run, and leaves a console either way; `yields_bind` and `ends_bind` put steps together.
-/

namespace ApiScribe.CommandLine.Session

variable {α β ε : Type} {c c' c'' : Console} {e : Ending}

/-- The session goes on with a value. -/
def Yields (m : Session α) (c : Console) (a : α) (c' : Console) : Prop := m.run.run c = (.ok a, c')

/-- The session ends the run. -/
def Ends (m : Session α) (c : Console) (e : Ending) (c' : Console) : Prop :=
  m.run.run c = (.error e, c')

theorem yields_bind {m : Session α} {f : α → Session β} {b : β} : Yields (m >>= f) c b c'' ↔
    ∃ a c', Yields m c a c' ∧ Yields (f a) c' b c'' :=
  Outcome.run_bind_eq_ok

theorem ends_bind {m : Session α} {f : α → Session β} : Ends (m >>= f) c e c'' ↔
    Ends m c e c'' ∨ ∃ a c', Yields m c a c' ∧ Ends (f a) c' e c'' :=
  Outcome.run_bind_eq_error

/-! ### Single steps -/

theorem yields_pure {a b : α} : Yields (pure a) c b c' ↔ b = a ∧ c' = c := by
  constructor
  · intro h
    cases h
    exact ⟨rfl, rfl⟩
  · rintro ⟨rfl, rfl⟩
    rfl

theorem not_ends_pure {a : α} : ¬ Ends (pure a) c e c' := by
  intro h
  cases h

theorem not_yields_throw {e : Ending} {a : α} : ¬ Yields (throw e) c a c' := by
  intro h
  cases h

theorem ends_throw {e' : Ending} : Ends (throw e' : Session α) c e c' ↔ e = e' ∧ c' = c := by
  constructor
  · intro h
    cases h
    exact ⟨rfl, rfl⟩
  · rintro ⟨rfl, rfl⟩
    rfl

theorem yields_note {line : String} {u : Unit} :
    Yields (note line) c u c' ↔ c' = { c with err := c.err ++ line ++ "\n" } := by
  constructor
  · intro h
    cases h
    rfl
  · rintro rfl
    rfl

theorem not_ends_note {line : String} : ¬ Ends (note line) c e c' := by
  intro h
  cases h

theorem yields_print {line : String} {u : Unit} :
    Yields (print line) c u c' ↔ c' = { c with out := c.out ++ line ++ "\n" } := by
  constructor
  · intro h
    cases h
    rfl
  · rintro rfl
    rfl

theorem not_ends_print {line : String} : ¬ Ends (print line) c e c' := by
  intro h
  cases h

/-- The console with the report of an error. -/
def reported (message : String) (c : Console) : Console :=
  { c with err := c.err ++ ("Error: " ++ message) ++ "\n" }

variable {message : ε → String} {x : Except (Failure ε) α} {a : α}

theorem yields_ofStage : Yields (ofStage message x) c a c' ↔ x = .ok a ∧ c' = c := by
  cases x with
  | ok b =>
    rw [ofStage, yields_pure, Except.ok.injEq, eq_comm]
  | error failure =>
    cases failure <;>
    · constructor
      · intro h
        cases h
      · rintro ⟨h, -⟩
        cases h

/-- A stage without a result ends the run: with a report if it rejects its input, and without a
code if it is interrupted. -/
theorem ends_ofStage : Ends (ofStage message x) c e c' ↔
    (∃ r, x = .error (.rejected r) ∧ e = .exit 1 ∧ c' = reported (message r) c) ∨
      ∃ i, x = .error (.interrupted i) ∧ e = .interrupted i ∧ c' = c := by
  cases x with
  | ok b =>
    constructor
    · intro h
      cases h
    · rintro (⟨r, h, -⟩ | ⟨i, h, -⟩) <;> cases h
  | error failure =>
    cases failure with
    | rejected r =>
      constructor
      · intro h
        cases h
        exact .inl ⟨r, rfl, rfl, rfl⟩
      · rintro (⟨r', h, rfl, rfl⟩ | ⟨i, h, -⟩) <;> cases h
        rfl
    | interrupted i =>
      constructor
      · intro h
        cases h
        exact .inr ⟨i, rfl, rfl, rfl⟩
      · rintro (⟨r, h, -⟩ | ⟨i', h, rfl, rfl⟩) <;> cases h
        rfl

theorem yields_reading {stage : FileTree → Except (Failure ε) α} :
    Yields (reading message stage) c a c' ↔ stage c.files = .ok a ∧ c' = c :=
  yields_ofStage

variable {stage : FileTree → Except (Failure ε) α × FileTree}

theorem yields_writing : Yields (writing message stage) c a c' ↔
    (stage c.files).1 = .ok a ∧ c' = { c with files := (stage c.files).2 } :=
  yields_ofStage

theorem ends_writing_of_interrupted {i : Interruption} {t : FileTree}
    (h : stage c.files = (.error (.interrupted i), t)) :
    Ends (writing message stage) c (.interrupted i) { c with files := t } := by
  have hwriting : (writing message stage).run.run c =
      (ofStage message (stage c.files).1).run.run { c with files := (stage c.files).2 } := rfl
  unfold Ends
  rw [hwriting, h]
  rfl

theorem yields_pathOf {value : String} {p : Path} :
    Yields (pathOf value) c p c' ↔ value ≠ "--" ∧ p = Path.ofText value ∧ c' = c := by
  unfold pathOf
  split
  · next h => simp [not_yields_throw, h]
  · next h => simp [yields_pure, h]

theorem ends_pathOf {value : String} :
    Ends (pathOf value) c e c' ↔ value = "--" ∧ e = .interrupted .missingPath ∧ c' = c := by
  unfold pathOf
  split
  · next h => simp [ends_throw, h]
  · next h => simp [not_ends_pure, h]

/-! ### Interruptions -/

/-- The session ends without a code. -/
def Interrupted (m : Session α) (c : Console) (i : Interruption) : Prop :=
  ∃ c', Ends m c (.interrupted i) c'

variable {i : Interruption}

theorem interrupted_bind {m : Session α} {f : α → Session β} : Interrupted (m >>= f) c i ↔
    Interrupted m c i ∨ ∃ a c', Yields m c a c' ∧ Interrupted (f a) c' i := by
  unfold Interrupted
  simp only [ends_bind]
  constructor
  · rintro ⟨c'', h | ⟨a, c', hm, h⟩⟩
    · exact .inl ⟨c'', h⟩
    · exact .inr ⟨a, c', hm, c'', h⟩
  · rintro (⟨c'', h⟩ | ⟨a, c', hm, c'', h⟩)
    · exact ⟨c'', .inl h⟩
    · exact ⟨c'', .inr ⟨a, c', hm, h⟩⟩

theorem not_interrupted_pure {a : α} : ¬ Interrupted (pure a) c i :=
  fun ⟨_, h⟩ => not_ends_pure h

theorem not_interrupted_note {line : String} : ¬ Interrupted (note line) c i :=
  fun ⟨_, h⟩ => not_ends_note h

theorem not_interrupted_print {line : String} : ¬ Interrupted (print line) c i :=
  fun ⟨_, h⟩ => not_ends_print h

theorem interrupted_throw {i' : Interruption} :
    Interrupted (throw (.interrupted i') : Session α) c i ↔ i = i' := by
  simp [Interrupted, ends_throw]

theorem interrupted_ofStage :
    Interrupted (ofStage message x) c i ↔ x = .error (.interrupted i) := by
  constructor
  · rintro ⟨c', h⟩
    rcases ends_ofStage.1 h with ⟨r, -, he, -⟩ | ⟨i', hx, he, -⟩
    · cases he
    · cases he
      exact hx
  · intro h
    exact ⟨c, ends_ofStage.2 (.inr ⟨i, h, rfl, rfl⟩)⟩

theorem interrupted_reading {stage : FileTree → Except (Failure ε) α} :
    Interrupted (reading message stage) c i ↔ stage c.files = .error (.interrupted i) :=
  interrupted_ofStage

theorem interrupted_writing :
    Interrupted (writing message stage) c i ↔ (stage c.files).1 = .error (.interrupted i) :=
  interrupted_ofStage

theorem interrupted_pathOf {value : String} :
    Interrupted (pathOf value) c i ↔ value = "--" ∧ i = .missingPath := by
  simp [Interrupted, ends_pathOf]

/-! ### Generating code -/

/-- The directory of templates that is named, or that of the configuration. -/
def templatesOf (templates : Option String) (configuration : Path) : Session Path :=
  match templates with
  | some directory => pathOf directory
  | none => pure configuration.parent

/-- The stages of generating code, once all paths are known. -/
def generateAt (document heading : String) (configuration templates directory : Path) :
    Session Unit := do
  let c ← reading ConfigurationError.message (Configuration.fromFile · configuration)
  let api ← load document heading
  let set ← reading ResolveError.message (TemplateSet.ofConfiguration · templates c)
  let files ← ofStage ResolveError.message (targetFiles c set api)
  let _ ← writing WriteError.message (files.writeTree directory)
  print ("Generated " ++ toString files.size ++ " file(s) in '" ++ directory.text ++ "'.")

theorem generate_eq (document heading configuration : String) (templates : Option String)
    (output : String) : generate document heading configuration templates output =
      (pathOf configuration >>= fun configuration =>
        templatesOf templates configuration >>= fun templates =>
        pathOf output >>= fun directory =>
        generateAt document heading configuration templates directory) := by
  cases templates <;> rfl

end ApiScribe.CommandLine.Session
