import ApiScribe.Proofs.CaseVariants
import ApiScribe.Proofs.Resolution.Collisions

/-!
# Filenames in snake case

Snake case is the spelling that filenames are mostly made of.  If it is a template file for each
entity that names its files so, then which entities share a filename can be read off their names:
those that are equal up to the case of the first character, as long as no name has an underscore
(`Resolver.snakeCase_collides_iff`).
-/

namespace ApiScribe.Resolver

open Names

/-- One template file for each entity succeeds exactly if the filenames are distinct. -/
theorem resolve_ok_iff_nodup {μ : Type} {r : Resolver μ} {api : Api} {memory : μ} {s : Strategy}
    {template : TemplateFile} {f : String → String} {views : Views}
    (hforEach : s.isForEach = true)
    (hnames : ∀ name ∈ s.entityNames api, r.renderer.has (Renderer.renameName name) = false)
    (hviews : (r.views api memory).outcome = .ok views)
    (hfiles : ∀ view ∈ entities s views, ∀ name,
      view.member? "name" = some (Names.of name).toData →
        r.NamesFile template.templatePath (.record [(s.item, view)]) (f name))
    (hstrategy : template.strategy = s.name)
    (htemplates : r.configuration.templateFiles = [template]) :
    (∃ files, (r.resolve api memory).outcome = .ok files) ↔
      ((s.entityNames api).map f).Nodup := by
  rw [outcome_resolve_single htemplates hstrategy hviews]
  rcases batch_names (forall₂_namesFile hforEach hnames hviews hfiles) .empty
    (r.views api memory).memory with
    ⟨hnodup, files, after, hbatch, -⟩ | ⟨filename, hfirst, hbatch⟩
  · rw [hbatch]
    exact iff_of_true ⟨files, rfl⟩ hnodup
  · rw [hbatch]
    refine iff_of_false ?_ hfirst.not_nodup
    rintro ⟨files, h⟩
    cases h

/-- Names without underscores have distinct spellings exactly if no two are equal up to the case of
the first character. -/
theorem nodup_map_toSnakeCase_iff {f : String → String} (hf : Function.Injective f)
    {names : List String} (hnames : ∀ name ∈ names, '_' ∉ name.toList) :
    (names.map fun name => f (toSnakeCase name)).Nodup ↔
      names.Pairwise fun x y => ¬ SameUpToFirstCase x y := by
  rw [List.Nodup, List.pairwise_map]
  refine List.Pairwise.iff_of_mem fun {x y} hx hy => ?_
  rw [ne_eq, hf.eq_iff, toSnakeCase_eq_iff (hnames x hx) (hnames y hy), toCamelCase_eq_iff]

/-- Two identifiers without underscores share their snake-case spelling exactly if they share their
camel-case spelling, and that is if they are equal up to the ASCII case of their first characters.

So let a single template file be rendered for each entity, let no entity be renamed and no name have
an underscore, and let the renderer make the filename, one to one, of the snake-case spelling that
it finds in the view.  Then the run succeeds exactly if no two names are equal up to that case. -/
theorem snakeCase_collides_iff :
    (∀ x y : String, '_' ∉ x.toList → '_' ∉ y.toList →
      (toSnakeCase x = toSnakeCase y ↔ toCamelCase x = toCamelCase y) ∧
      (toCamelCase x = toCamelCase y ↔ SameUpToFirstCase x y)) ∧
    ∀ (μ : Type) (r : Resolver μ) (api : Api) (memory : μ) (s : Strategy)
      (template : TemplateFile) (f : String → String) (views : Views),
      s.isForEach = true → template.strategy = s.name →
      r.configuration.templateFiles = [template] →
      (∀ name ∈ s.entityNames api,
        '_' ∉ name.toList ∧ r.renderer.has (Renderer.renameName name) = false) →
      (r.views api memory).outcome = .ok views →
      Function.Injective f →
      (∀ view ∈ entities s views, ∀ name,
        view.member? "name" = some (Names.of name).toData →
          r.NamesFile template.templatePath (.record [(s.item, view)])
            (f (Names.of name).snakeCase)) →
      ((∃ files, (r.resolve api memory).outcome = .ok files) ↔
        (s.entityNames api).Pairwise fun x y => ¬ SameUpToFirstCase x y) := by
  refine ⟨fun x y hx hy => ⟨toSnakeCase_eq_iff hx hy, toCamelCase_eq_iff⟩, ?_⟩
  intro μ r api memory s template f views hforEach hstrategy htemplates hnames hviews hf hfiles
  rw [resolve_ok_iff_nodup hforEach (fun name hname => (hnames name hname).2) hviews hfiles
    hstrategy htemplates]
  exact nodup_map_toSnakeCase_iff hf fun name hname => (hnames name hname).1

/-- The filename for a DTO: its snake-case spelling, with an ending. -/
def snakeFilename (data : Data) : String :=
  match ((data.member? "dto").bind (Data.member? "name")).bind (Data.member? "snake_case") with
  | some (.text s) => s ++ ".py"
  | _ => ""

/-- A resolver for one template file that is rendered for each DTO and named after it. -/
def snakeNaming : Resolver Unit where
  configuration := ⟨"I", "S", "L", "A", "O", [], [⟨"t", "x", "FOR_EACH_DTO"⟩]⟩
  renderer := .ofAnswers (fun _ => false) fun name data =>
    .ok ⟨if name = "t_name" then snakeFilename data else "", data⟩

theorem namesFile_snakeNaming {view : Data} {name : String}
    (h : view.member? "name" = some (Names.of name).toData) :
    snakeNaming.NamesFile "t" (.record [("dto", view)]) (toSnakeCase name ++ ".py") := by
  have hname : snakeFilename (.record [("dto", view)]) = toSnakeCase name ++ ".py" := by
    have hdto : (Data.record [("dto", view)]).member? "dto" = some view := rfl
    rw [snakeFilename, hdto, Option.bind_some, h]
    rfl
  exact ⟨fun _ => ⟨_, rfl, hname⟩, fun _ _ _ _ => ⟨_, rfl⟩⟩

/-- `UserId` has one spelling with `userId`, and another one than `Userid`: of the files for these
two pairs the former collide. -/
theorem snakeCase_collides_iff_userId :
    toSnakeCase "UserId" = toSnakeCase "userId" ∧ toSnakeCase "UserId" ≠ toSnakeCase "Userid" ∧
    (¬ ∃ files, (snakeNaming.resolve ⟨[⟨"UserId", []⟩, ⟨"userId", []⟩], []⟩ ()).outcome =
      .ok files) ∧
    ∃ files, (snakeNaming.resolve ⟨[⟨"UserId", []⟩, ⟨"Userid", []⟩], []⟩ ()).outcome =
      .ok files := by
  have hspelled := snakeCase_collides_iff.1
  have hresolve (first second : String) (hfirst : '_' ∉ first.toList)
      (hsecond : '_' ∉ second.toList) :
      (∃ files, (snakeNaming.resolve ⟨[⟨first, []⟩, ⟨second, []⟩], []⟩ ()).outcome =
        .ok files) ↔ [first, second].Pairwise fun x y => ¬ SameUpToFirstCase x y := by
    obtain ⟨views, hviews⟩ : ∃ views,
        (snakeNaming.views ⟨[⟨first, []⟩, ⟨second, []⟩], []⟩ ()).outcome = .ok views := ⟨_, rfl⟩
    refine snakeCase_collides_iff.2 Unit snakeNaming _ () .eachDto _ (· ++ ".py") views rfl rfl rfl
      ?_ hviews (fun _ _ h => (String.append_left_inj _).1 h)
      fun _ _ _ h => namesFile_snakeNaming h
    intro name hname
    rcases List.mem_pair.1 hname with rfl | rfl
    · exact ⟨hfirst, rfl⟩
    · exact ⟨hsecond, rfl⟩
  refine ⟨?_, ?_, ?_, ?_⟩
  · rw [(hspelled _ _ (by decide) (by decide)).1]
    decide
  · rw [ne_eq, (hspelled _ _ (by decide) (by decide)).1]
    decide
  · rw [hresolve _ _ (by decide) (by decide)]
    decide
  · rw [hresolve _ _ (by decide) (by decide)]
    decide

end ApiScribe.Resolver
