import ApiScribe.Proofs.Closed.Methods

/-!
# Filters and generators are closed

A filter is put together from closed steps like a method.  A generator is at work on items that it
draws itself, so its steps are closed for any number of them.
-/

namespace ApiScribe.Template.Eval

variable [Known]

/-! ### Filters on numbers -/

instance closed_toInteger (v fallback base : Value) : Closed (toInteger v fallback base) := by
  unfold toInteger
  repeat' first | infer_instance | refine .bind fun _ => ?_ | split

instance closed_toFraction (v fallback : Value) : Closed (toFraction v fallback) := by
  unfold toFraction
  repeat' first | infer_instance | refine .bind fun _ => ?_ | split

instance closed_absolute (v : Value) : Closed (absolute v) := by
  unfold absolute
  split <;> infer_instance

instance closed_roundNearest (v precision : Value) : Closed (roundNearest v precision) := by
  unfold roundNearest
  split <;> infer_instance

instance closed_roundTo (up : Bool) (v precision : Value) : Closed (roundTo up v precision) := by
  unfold roundTo
  refine .bind fun _ => .bind fun _ => ?_
  split <;> infer_instance

instance closed_round (v precision method : Value) : Closed (round v precision method) := by
  unfold round
  split <;> infer_instance

/-! ### Filters on sequences -/

instance closed_firstItem (v : Value) : Closed (firstItem v) := by
  unfold firstItem
  infer_instance

instance closed_lastItem (v : Value) : Closed (lastItem v) := by
  unfold lastItem
  infer_instance

instance closed_reverseItems (v : Value) : Closed (reverseItems v) := by
  unfold reverseItems
  repeat' first | infer_instance | refine .bind fun _ => ?_ | split

instance closed_sortAttributes (path : Value) : Closed (sortAttributes path) := by
  unfold sortAttributes
  split <;> infer_instance

instance closed_sort (v descending caseMatters path : Value) :
    Closed (sort v descending caseMatters path) := by
  unfold sort
  infer_instance

instance closed_extremeFrom (op : CompareOp) (key : Value → Eval Value) [∀ v, Closed (key v)]
    (place fuel : Nat) (best : Value × Value) : Closed (extremeFrom op key place fuel best) := by
  induction fuel generalizing best with
  | zero => exact closed_pure _
  | succ fuel ih =>
    refine .bind fun next => ?_
    cases next with
    | none => exact closed_pure _
    | some item => exact .bind fun k => .bind fun before => ih _

instance closed_extreme (op : CompareOp) (v caseMatters path : Value) :
    Closed (extreme op v caseMatters path) := by
  unfold extreme
  refine .bind fun _ => .bind fun _ => ?_
  split <;> infer_instance

instance closed_sum (v path start : Value) : Closed (sum v path start) := by
  unfold sum
  infer_instance

instance closed_sortPairs (v caseMatters by_ descending : Value) :
    Closed (sortPairs v caseMatters by_ descending) := by
  unfold sortPairs
  refine .bind fun _ => .bind fun _ => ?_
  split <;> infer_instance

instance closed_groupRuns (items : List (Value × Value)) : Closed (groupRuns items) := by
  induction items with
  | nil => exact closed_pure _
  | cons item items ih =>
    refine .bind fun groups => ?_
    cases groups <;> infer_instance

instance closed_groupBy (v path fallback caseMatters : Value) :
    Closed (groupBy v path fallback caseMatters) := by
  unfold groupBy
  refine .bind fun caseMatters => .bind fun parts => .bind fun items => .bind fun keyed => ?_
  refine .bind fun sorted => .bind fun groups => .andThen (.mapM (fun group => ?_) _) fun _ => ?_
  · obtain ⟨key, items⟩ := group
    dsimp only
    split <;> infer_instance
  · infer_instance

instance closed_anyItem (v : Value) : Closed (anyItem v) := by
  unfold anyItem
  repeat' first | infer_instance | refine .bind fun _ => ?_ | split

/-! ### Filters on texts -/

instance closed_charsOf (v : Value) : Closed (charsOf v) := by
  unfold charsOf
  infer_instance

instance closed_asText (v : Value) : Closed (asText v) := by
  unfold asText
  split <;> infer_instance

instance closed_endLine (v newline : Value) : Closed (endLine v newline) := by
  unfold endLine
  repeat' first | infer_instance | refine .bind fun _ => ?_ | split

instance closed_indent (v width first blank : Value) : Closed (indent v width first blank) := by
  unfold indent
  repeat' first | infer_instance | refine .bind fun _ => ?_ | split

instance closed_replaceText (v old new count : Value) : Closed (replaceText v old new count) := by
  unfold replaceText
  split <;> infer_instance

instance closed_joinItems (v separator path : Value) : Closed (joinItems v separator path) := by
  unfold joinItems
  infer_instance

instance closed_formatText (v : Value) (args : Actuals) : Closed (formatText v args) := by
  unfold formatText
  infer_instance

/-! ### Filters -/

instance closed_later (name : String) (args : Actuals) : Closed (later name args) := by
  unfold later
  infer_instance

instance closed_unsupportedFilter (name : String) : Closed (unsupportedFilter name) := by
  unfold unsupportedFilter
  infer_instance

instance closed_withOne (name : String) (f : Value → Eval Value) [∀ a, Closed (f a)]
    (values : List Value) : Closed (withOne name f values) := by
  unfold withOne
  split <;> infer_instance

instance closed_withTwo (name : String) (f : Value → Value → Eval Value) [∀ a b, Closed (f a b)]
    (values : List Value) : Closed (withTwo name f values) := by
  unfold withTwo
  split <;> infer_instance

instance closed_withThree (name : String) (f : Value → Value → Value → Eval Value)
    [∀ a b c, Closed (f a b c)] (values : List Value) : Closed (withThree name f values) := by
  unfold withThree
  split <;> infer_instance

instance closed_withFour (name : String) (f : Value → Value → Value → Value → Eval Value)
    [∀ a b c d, Closed (f a b c d)] (values : List Value) : Closed (withFour name f values) := by
  unfold withFour
  split <;> infer_instance

instance closed_namedAttribute (v key : Value) : Closed (namedAttribute v key) := by
  unfold namedAttribute
  repeat' first | infer_instance | refine .bind fun _ => ?_ | split

instance closed_textMethod (name : String) (args : List Value) (v : Value) :
    Closed (textMethod name args v) := by
  unfold textMethod
  infer_instance

instance closed_orElse (v fallback always : Value) : Closed (orElse v fallback always) := by
  unfold orElse
  split <;> infer_instance

instance closed_runFilter (name : String) (values : List Value) :
    Closed (runFilter name values) := by
  unfold runFilter
  split <;> infer_instance

instance closed_applyFilter (name : String) (v : Value) (args : Actuals) :
    Closed (applyFilter name v args) := by
  unfold applyFilter
  repeat' first | infer_instance | refine .bind fun _ => ?_ | split

instance closed_unknownName (kind : String) (v : Value) : Closed (unknownName kind v) := by
  unfold unknownName
  infer_instance

instance closed_applyNamedFilter (filter v : Value) (args : Actuals) :
    Closed (applyNamedFilter filter v args) := by
  unfold applyNamedFilter
  split <;> infer_instance

instance closed_runNamedTest (test v : Value) (args : Actuals) :
    Closed (runNamedTest test v args) := by
  unfold runNamedTest
  split <;> infer_instance

/-! ### Generators -/

instance closed_columns (v count fallback : Value) : Closed (columns v count fallback) := by
  unfold columns
  infer_instance

instance closed_pairCursor (v : Value) : Closed (pairCursor v) := by
  unfold pairCursor
  split <;> infer_instance

instance closed_mapTask (args : Actuals) : Closed (mapTask args) := by
  unfold mapTask
  repeat' first | infer_instance | refine .bind fun _ => ?_ | split

instance closed_keepTask (wanted ofAttribute : Bool) (args : Actuals) :
    Closed (keepTask wanted ofAttribute args) := by
  unfold keepTask
  split
  · split <;> infer_instance
  · infer_instance

instance closed_workOn (v : Value) (task : Eval Task) [Closed task] : Closed (workOn v task) := by
  unfold workOn
  infer_instance

instance closed_start (filter : String) (args : Actuals) : Closed (start filter args) := by
  unfold start
  split <;> infer_instance

instance closed_passes (test : Option Value) (args : Actuals) (part : Value) :
    Closed (passes test args part) := by
  unfold passes
  split <;> infer_instance

section
variable (condition : Frame → Target → Expr → Value → Eval (Option Value))
  [∀ f t e v, Closed (condition f t e v)]

instance Task.closed_step (task : Task) (item : Value) :
    Closed (Task.step condition task item) := by
  unfold Task.step
  repeat' first | infer_instance | refine .bind fun _ => ?_ | split

instance Task.closed_finish (task : Task) : Closed (Task.finish task) := by
  unfold Task.finish
  repeat' first | infer_instance | refine .bind fun _ => ?_ | split

instance closed_work (source fuel : Nat) (task : Task) :
    Closed (work condition source fuel task) := by
  induction fuel generalizing task with
  | zero => exact closed_pure _
  | succ fuel ih =>
    refine .bind fun next => ?_
    cases next with
    | none => exact .bind fun _ => closed_pure _
    | some item =>
      -- an item may be passed over, which is the only way back into the recursion
      refine .bind fun step => ?_
      cases step with
      | skip task => exact ih task
      | yield v task => exact closed_pure _

instance closed_proceed (c : Cursor) (place : Nat) : Closed (proceed condition c place) := by
  unfold proceed
  repeat' first | infer_instance | refine .bind fun _ => ?_ | split

instance closed_pullCursor (place : Nat) : Closed (pullCursor condition place) := by
  unfold pullCursor
  repeat' first | infer_instance | refine .bind fun _ => ?_ | split

end

end ApiScribe.Template.Eval
