import ApiScribe.Proofs.Closed.Basic
import ApiScribe.Proofs.Traversal
import ApiScribe.Proofs.Utf8
import ApiScribe.Template.Check

/-!
# Templates with one placeholder

A template of the form `before`, placeholder for `value`, `after`, in which the literal texts have
no brace and no carriage return, is rendered to `before`, the text of `value` and `after`.  Nothing
of the text is read as a template, escaped or left out, since it does not take part in any step but
the last one.

The steps are followed one by one: tokens (`tokenize_around`), tree and checks (`compile_around`),
and the run, which leaves the variables and prints the texts (`runRoot_around`).  The main statement
is `render_around`.
-/

namespace ApiScribe.Template

open Text

/-- Text that stands for itself in a template. -/
structure IsLiteral (cs : List Char) : Prop where
  brace : '\x7b' ∉ cs
  carriageReturn : '\r' ∉ cs

/-- The placeholder for `value`, as it is written. -/
def placeholder : String := "\x7b\x7b value \x7d\x7d"

/-- The source of a template around the placeholder. -/
def sourceAround (before after : List Char) : List Char :=
  before ++ placeholder.toList ++ after

variable {before after : List Char}

/-! ### Tokens -/

namespace Lexer

theorem cutTag_of_not_mem {cs : List Char} (h : '\x7b' ∉ cs) : cutTag cs = none := by
  fun_induction cutTag cs with
  | case1 => rfl
  | case2 => rfl
  | case3 c d cs hc => exact absurd (hc.1 ▸ List.mem_cons_self) h
  | case4 c d cs _ ih =>
    rw [ih fun hm => h (List.mem_cons_of_mem _ hm)]
    rfl

/-- A text is cut at the first brace, if it opens a tag. -/
theorem cutTag_append {mark : Char} (h : '\x7b' ∉ before)
    (hmark : mark = '\x7b' ∨ mark = '%' ∨ mark = '#') (after : List Char) :
    cutTag (before ++ '\x7b' :: mark :: after) = some (before, mark, after) := by
  induction before with
  | nil => rw [List.nil_append, cutTag, if_pos ⟨rfl, hmark⟩]
  | cons c before ih =>
    rw [List.mem_cons, not_or] at h
    have hrest := ih h.2
    cases hb : before ++ '\x7b' :: mark :: after with
    | nil => simp at hb
    | cons d rest =>
      rw [hb] at hrest
      rw [List.cons_append, hb, cutTag, if_neg fun hc => h.1 hc.1.symm, hrest]
      rfl

theorem linesTo_append (before rest : List Char) :
    linesTo (before ++ rest) rest = before.count '\n' := by
  simp [linesTo]

/-- Inside of the placeholder there is the name, between blanks. -/
theorem run_value (size fuel line : Nat) (rest : List Char) :
    run size (fuel + 4) (.tag .printEnd) line [] false (" value \x7d\x7d".toList ++ rest) =
      ⟨⟨line, .name "value"⟩ :: ⟨line, .printEnd⟩ :: (run size fuel .text line [] false rest).items,
        (run size fuel .text line [] false rest).fault⟩ := by
  let named (t : Tokens) : Tokens := ⟨⟨line, .name "value"⟩ :: t.items, t.fault⟩
  let ended (t : Tokens) : Tokens := ⟨⟨line, .printEnd⟩ :: t.items, t.fault⟩
  have hfirst : run size (fuel + 4) (.tag .printEnd) line [] false
      (" value \x7d\x7d".toList ++ rest) =
      run size (fuel + 3) (.tag .printEnd) line [] false ("value \x7d\x7d".toList ++ rest) := rfl
  have hname : run size (fuel + 3) (.tag .printEnd) line [] false
      ("value \x7d\x7d".toList ++ rest) =
      named (run size (fuel + 2) (.tag .printEnd)
        (line +
          linesTo ("value".toList ++ (" \x7d\x7d".toList ++ rest)) (" \x7d\x7d".toList ++ rest))
        [] false (" \x7d\x7d".toList ++ rest)) := rfl
  have hlast : run size (fuel + 2) (.tag .printEnd) line [] false (" \x7d\x7d".toList ++ rest) =
      run size (fuel + 1) (.tag .printEnd) line [] false ("\x7d\x7d".toList ++ rest) := rfl
  have hend : run size (fuel + 1) (.tag .printEnd) line [] false ("\x7d\x7d".toList ++ rest) =
      ended (run size fuel .text (line + linesTo ("\x7d\x7d".toList ++ rest) rest) [] false rest) :=
    rfl
  -- neither the name nor the closing mark has a line end
  have hlines : "value".toList.count '\n' = 0 ∧ "\x7d\x7d".toList.count '\n' = 0 := by decide
  rw [hfirst, hname, linesTo_append, hlines.1, Nat.add_zero line, hlast, hend, linesTo_append,
    hlines.2, Nat.add_zero line]

end Lexer

theorem tokenize_around (hbefore : IsLiteral before) (hafter : IsLiteral after) :
    ∃ line, tokenize true (sourceAround before after) =
      ⟨Lexer.dataToken 1 before ++
        [⟨line, .printBegin⟩, ⟨line, .name "value"⟩, ⟨line, .printEnd⟩] ++
        Lexer.dataToken line after, none⟩ := by
  have hreturn : '\r' ∉ sourceAround before after := by
    unfold sourceAround
    rw [List.mem_append, List.mem_append, not_or, not_or]
    exact ⟨⟨hbefore.carriageReturn, by decide⟩, hafter.carriageReturn⟩
  have hlength : (sourceAround before after).length.succ =
      before.length + after.length + 6 + 4 + 1 + 1 := by
    have hplaceholder : placeholder.toList.length = 11 := by decide
    rw [sourceAround, List.length_append, List.length_append, hplaceholder]
    omega
  have hsource : sourceAround before after =
      before ++ '\x7b' :: '\x7b' :: (" value \x7d\x7d".toList ++ after) := by
    rw [sourceAround, List.append_assoc]
    rfl
  have hrest : ∀ size fuel line, Lexer.run size (fuel + 1) .text line [] false after =
      ⟨Lexer.dataToken line after, none⟩ := by
    intro size fuel line
    rw [Lexer.run, Lexer.cutTag_of_not_mem hafter.brace]
  refine ⟨1 + before.count '\n', ?_⟩
  unfold tokenize Lexer.normalize
  rw [unifyLineEnds_eq_self hreturn, if_pos rfl]
  dsimp only
  rw [hlength, hsource, Lexer.run, Lexer.cutTag_append hbefore.brace (.inl rfl)]
  have hsign : Lexer.stripSign (" value \x7d\x7d".toList ++ after) =
      (none, " value \x7d\x7d".toList ++ after) := rfl
  dsimp only
  rw [hsign]
  dsimp only
  rw [if_neg (by decide), if_pos rfl, Lexer.run_value, hrest]
  simp [Lexer.textBefore]

/-! ### The compiled template -/

/-- The pieces of output of a literal text. -/
def literalPieces (cs : List Char) : List Piece :=
  if cs.isEmpty then [] else [.data (String.ofList cs)]

/-- The template around the placeholder. -/
def around (before after : List Char) : Compiled where
  body := [.output (literalPieces before ++ .print (.name "value") :: literalPieces after)]
  blocks := []
  needed := ["value"]

theorem parse_around (hbefore : IsLiteral before) (hafter : IsLiteral after) :
    parse true (sourceAround before after) = .ok (around before after).body := by
  obtain ⟨line, htokens⟩ := tokenize_around hbefore hafter
  unfold parse
  rw [htokens]
  -- which tokens there are is known once it is known which literal texts are empty
  cases before <;> cases after <;> rfl

theorem check_around (before after : List Char) :
    (check false (around before after).body).run {} =
      .ok (((around before after).body, []), { needed := ["value"] }) := by
  cases before <;> cases after <;> rfl

/-- A template around the placeholder is well formed. -/
theorem compile_around (hbefore : IsLiteral before) (hafter : IsLiteral after) :
    compile .rendering (sourceAround before after) = .ok (around before after) := by
  unfold compile
  rw [decide_eq_true rfl, parse_around hbefore hafter]
  show (check false (around before after).body).run {} >>= _ = _
  rw [check_around]
  rfl

/-! ### Running the template -/

open Eval

/-- The only variable is looked up in the data. -/
def valueScope : Scope := [⟨[("value", .data)], []⟩]

theorem scope_around (before after : List Char) :
    Scope.ofTemplate (around before after).body = valueScope := by
  cases before <;> cases after <;> rfl

/-- The variables once `value` has its text. -/
def valueActivation (v : String) : Activation := ⟨0, none, [((0, "value"), .text v)], none⟩

/-- Where the body runs. -/
def valueFrame (name : String) (context activation : Nat) : Frame :=
  { scope := valueScope, activation, context, template := name, toplevel := true }

/-- The heap with one more activation. -/
def Heap.withActivation (h : Heap) (a : Activation) : Heap :=
  { h with activations := h.activations.push a }

/-- The heap after texts were printed. -/
def Heap.withPrinted (h : Heap) (texts : List String) : Heap :=
  { h with printed := (texts.map Printed.text).reverse ++ h.printed }

/-- The texts that a literal text is printed as. -/
def literalTexts (cs : List Char) : List String :=
  if cs.isEmpty then [] else [String.ofList cs]

/-- The texts that the template prints. -/
def textsAround (before after : List Char) (v : String) : List String :=
  literalTexts before ++ v :: literalTexts after

theorem join_literalTexts (cs : List Char) (texts : List String) :
    String.join (literalTexts cs ++ texts) = String.ofList cs ++ String.join texts := by
  cases cs with
  | nil => simp [literalTexts]
  | cons c cs => simp [literalTexts, String.join_cons]

theorem join_textsAround (before after : List Char) (v : String) :
    String.join (textsAround before after v) =
      String.ofList before ++ v ++ String.ofList after := by
  rw [textsAround, join_literalTexts, String.join_cons, ← List.append_nil (literalTexts after),
    join_literalTexts, String.join_nil, String.append_empty, String.append_assoc]

section
variable {m : Machine} {h h' : Heap} {v name : String} {context : Nat}

theorem enterBody_value {c : Context} (hc : h.contexts[context]? = some c)
    (hfind : find? m.globals c "value" = some (.text v)) :
    enterBody (valueFrame name context h.activations.size) m (h.withActivation {}) =
      (.ok (), h.withActivation (valueActivation v)) := by
  have hset : setVariable (valueFrame name context h.activations.size) "value" (.text v) m
      (h.withActivation {}) = (.ok (), h.withActivation (valueActivation v)) := by
    have hat : activationAt h.activations.size m (h.withActivation {}) =
        (.ok {}, h.withActivation {}) := by
      show (Except.ok ((h.activations.push {}).getD h.activations.size default), _) = _
      simp
    unfold setVariable
    show (activationAt h.activations.size >>= _) m _ = _
    rw [bind_of_ok hat]
    show (Except.ok (), _) = _
    simp [Heap.withActivation, valueActivation, valueFrame, valueScope, Frame.level, assign,
      Array.setIfInBounds, Array.set_push]
  have hcontext : contextAt context m (h.withActivation {}) = (.ok c, h.withActivation {}) :=
    (contextAt_eq_ok context).2 ⟨hc, rfl⟩
  have hlookup : lookUp c "value" m (h.withActivation {}) =
      (.ok (some (.text v)), h.withActivation {}) := by
    rw [← hfind]
    rfl
  unfold enterBody
  dsimp only [valueFrame, valueScope]
  rw [bind_of_ok hcontext, List.forIn_cons]
  simp only [List.forIn_nil, bind_assoc, pure_bind]
  rw [bind_of_ok hlookup]
  exact bind_of_ok hset _

theorem readVariable_value {activation : Nat}
    (hat : h.activations.getD activation default = valueActivation v) :
    readVariable (valueFrame name context activation) "value" m h = (.ok (.text v), h) := by
  have hlookup : lookupVariable? (valueFrame name context activation) 0 "value" m h =
      (.ok (some (.text v)), h) := by
    show (Except.ok (variableIn? h.activations 0 "value" (h.activations.size + 1) activation), h)
      = _
    rw [variableIn?, hat]
    rfl
  exact bind_of_ok hlookup _

/-- A literal text is printed before what comes next. -/
theorem printPieces_literal_cons (f : Frame) (cs : List Char) (e : Expr) (rest : List Piece) :
    printPieces f none (literalPieces cs ++ .print e :: rest) m h =
      (do print (← display (← e.eval f .none)); printPieces f none rest : Eval Unit) m
        (h.withPrinted (literalTexts cs)) := by
  cases cs <;> rfl

theorem printPieces_literal (f : Frame) (cs : List Char) :
    printPieces f none (literalPieces cs) m h = (.ok (), h.withPrinted (literalTexts cs)) := by
  cases cs <;> rfl

theorem execAll_around {activation : Nat}
    (hat : h.activations.getD activation default = valueActivation v) :
    execAll (valueFrame name context activation) (around before after).body m h =
      (.ok (), h.withPrinted (textsAround before after v)) := by
  have hread : readVariable (valueFrame name context activation) "value" m
      (h.withPrinted (literalTexts before)) =
        (.ok (.text v), h.withPrinted (literalTexts before)) :=
    readVariable_value hat
  have hdisplay : display (.text v) m (h.withPrinted (literalTexts before)) =
      (.ok v, h.withPrinted (literalTexts before)) := rfl
  have hprint : print v m (h.withPrinted (literalTexts before)) =
      (.ok (), (h.withPrinted (literalTexts before)).withPrinted [v]) := rfl
  have hpieces : printPieces (valueFrame name context activation) none
      (literalPieces before ++ .print (.name "value") :: literalPieces after) m h =
        (.ok (), h.withPrinted (textsAround before after v)) := by
    rw [printPieces_literal_cons, Expr.eval, bind_of_ok hread, bind_of_ok hdisplay,
      bind_of_ok hprint, printPieces_literal]
    simp [Heap.withPrinted, textsAround]
  rw [around, execAll, execAll, Stmt.exec]
  exact bind_of_ok hpieces _

/-- What a run of the template does: one more activation, and the texts are printed. -/
theorem runRoot_around (ht : m.template? name = some (around before after)) {c : Context}
    (hc : h.contexts[context]? = some c) (hfind : find? m.globals c "value" = some (.text v)) :
    runRoot name context m h = (.ok (),
      (h.withActivation (valueActivation v)).withPrinted (textsAround before after v)) := by
  have htemplate : template? name m h = (.ok (some (around before after)), h) := by
    rw [← ht]
    rfl
  have hnew : newActivation {} m h = (.ok h.activations.size, h.withActivation {}) := rfl
  have hextends : anyExtends (around before after).body = false := by
    cases before <;> rfl
  have hat : (h.withActivation (valueActivation v)).activations.getD h.activations.size default =
      valueActivation v := by
    simp [Heap.withActivation]
  have hparent : activationAt h.activations.size m
      ((h.withActivation (valueActivation v)).withPrinted (textsAround before after v)) =
        (.ok (valueActivation v),
          (h.withActivation (valueActivation v)).withPrinted (textsAround before after v)) := by
    show (Except.ok ((h.withActivation _).activations.getD h.activations.size default), _) = _
    rw [hat]
  unfold runRoot
  rw [bind_of_ok htemplate]
  dsimp only
  rw [bind_of_ok hnew, scope_around, hextends]
  -- the template does not ask for its blocks
  show (enterBody (valueFrame name context h.activations.size) >>= _) m _ = _
  rw [bind_of_ok (enterBody_value hc hfind)]
  show (execAll (valueFrame name context h.activations.size) _ >>= _) m _ = _
  rw [bind_of_ok (execAll_around hat), bind_of_ok hparent]
  rfl

/-! ### Rendering -/

theorem within_of_ok {α : Type} {x : Eval α} {a : α} {frames : Nat}
    (hdepth : h.depth + frames ≤ frameLimit)
    (hx : x m { h with depth := h.depth + frames } = (.ok a, h')) :
    within frames x m h = (.ok a, { h' with depth := h.depth }) := by
  unfold within
  rw [if_neg (Nat.not_lt.2 hdepth), hx]

theorem joinPrinted_texts (texts : List String) :
    joinPrinted (texts.map Printed.text) = .ok (String.join texts) := by
  refine Outcome.bind_eq_ok.2 ⟨texts, Outcome.mapM_eq_ok.2 ?_, rfl⟩
  generalize 0 = k
  induction texts generalizing k with
  | nil => exact .nil
  | cons s texts ih => exact .cons rfl (ih (k + 1))

theorem captureText_of_ok {x : Eval Unit} {texts : List String}
    (hx : x m { h with printed := [] } = (.ok (), h'))
    (hprinted : h'.printed = (texts.map Printed.text).reverse) :
    captureText x m h = (.ok (String.join texts), { h' with printed := h.printed }) := by
  have hcapture : capture x m h =
      (.ok (texts.map Printed.text), { h' with printed := h.printed }) := by
    unfold capture
    rw [hx]
    show (Except.ok h'.printed.reverse, _) = _
    rw [hprinted, List.reverse_reverse]
  unfold captureText
  rw [bind_of_ok hcapture, joinPrinted_texts]
  rfl

end

/-- A rendering leaves no frame in use. -/
theorem depth_kept (h : Heap) : h.kept.depth = 0 := by
  unfold Heap.kept
  split <;> rfl

/-- The data of the placeholder. -/
def valueData (v : String) : Data := .record [("value", .text v)]

/-- A template around the placeholder is rendered to its literal texts around the text of `value`,
whatever earlier renderings have left. -/
theorem render_around {templates : String → Option Compiled} {name : String} {memory : Memory}
    (ht : templates name = some (around before after)) (hidle : memory.depth = 0) (v : String) :
    ∃ memory' : Memory, memory'.depth = 0 ∧ render templates name (valueData v) memory =
      (.ok ⟨String.ofList before ++ v ++ String.ofList after, valueData v⟩, memory') := by
  let m := Machine.ofDepth function? templates machineDepth
  let context : Context := { name := name, given := [("value", .text v)] }
  let h : Heap := { memory with contexts := memory.contexts.push context }
  have hgiven : givenBy (valueData v) m memory = (.ok [("value", .text v)], memory) := rfl
  have hcontext : contextFor name [("value", .text v)] m memory =
      (.ok memory.contexts.size, h) := by
    have htemplate : template? name m memory = (.ok (some (around before after)), memory) := by
      rw [← ht]
      rfl
    have hblocks : blocksByName name m memory = (.ok [], memory) := by
      unfold blocksByName
      rw [bind_of_ok htemplate]
      rfl
    unfold contextFor
    rw [bind_of_ok hblocks]
    rfl
  have hat : h.contexts[memory.contexts.size]? = some context := Array.getElem?_push_size
  -- a frame for the call, and one for the template inside of it
  obtain ⟨h', hrun, hprinted⟩ : ∃ h' : Heap,
      within 1 (runTemplate name memory.contexts.size) m { h with printed := [] } = (.ok (), h') ∧
        h'.printed = ((textsAround before after v).map Printed.text).reverse := by
    have hroot := runRoot_around (m := Machine.ofDepth function? templates (frameLimit + 1))
      (v := v) (h := { h with printed := [], depth := memory.depth + 1 + 1 }) ht hat rfl
    have hinner := within_of_ok (h := { h with printed := [], depth := memory.depth + 1 })
      (show memory.depth + 1 + 1 ≤ frameLimit by rw [hidle]; decide) hroot
    have houter := within_of_ok (h := { h with printed := [] })
      (x := runTemplate name memory.contexts.size) (m := m)
      (show memory.depth + 1 ≤ frameLimit by rw [hidle]; decide) hinner
    exact ⟨_, houter, List.append_nil _⟩
  have hcapture := captureText_of_ok hrun hprinted
  rw [join_textsAround] at hcapture
  have hrender : render templates name (valueData v) memory =
      (.ok ⟨String.ofList before ++ v ++ String.ofList after, valueData v⟩,
        { h' with printed := memory.printed }.kept) := by
    unfold render renderIn
    dsimp only
    rw [bind_of_ok hgiven, bind_of_ok hcontext, bind_of_ok hcapture]
    rfl
  exact ⟨_, depth_kept _, hrender⟩

end ApiScribe.Template
