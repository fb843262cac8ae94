import ApiScribe.Proofs.Closed.Basic

/-!
# Looking at values is closed
-/

namespace ApiScribe.Template.Eval

variable [Known]

/-! ### Types and faults -/

instance closed_typeName (v : Value) : Closed (typeName v) := by
  unfold typeName
  infer_instance

instance closed_shortTypeName (v : Value) : Closed (shortTypeName v) := by
  unfold shortTypeName
  split <;> infer_instance

instance closed_failType {α : Type} (message : String) : Closed (failType message : Eval α) := by
  unfold failType
  infer_instance

instance closed_failUndefined {α : Type} (message : String) :
    Closed (failUndefined message : Eval α) := by
  unfold failUndefined
  infer_instance

/-! ### Comparing -/

instance closed_equals (a b : Value) : Closed (equals a b) := by
  unfold equals
  infer_instance

instance closed_fits (a b : Value) : Closed (fits a b) := by
  unfold fits
  infer_instance

instance closed_ordered (op : CompareOp) (a b : Value) : Closed (ordered op a b) := by
  unfold ordered
  infer_instance

instance closed_isTrue (v : Value) : Closed (isTrue v) := by
  unfold isTrue
  infer_instance

/-! ### Iterating -/

instance closed_fixedItems? (v : Value) : Closed (fixedItems? v) := by
  unfold fixedItems?
  split <;> infer_instance

instance closed_failIterate {α : Type} (v : Value) : Closed (failIterate v : Eval α) := by
  unfold failIterate
  infer_instance

instance closed_nextPair? (place : Nat) (part : DictPart) (dict size taken : Nat)
    (backwards : Bool) : Closed (nextPair? place part dict size taken backwards) := by
  unfold nextPair?
  refine .bind fun _ => ?_
  split <;> infer_instance

instance closed_nextSimple? (place : Nat) (c : Cursor) : Closed (nextSimple? place c) := by
  unfold nextSimple?
  repeat' first | infer_instance | refine .bind fun _ => ?_ | split

instance closed_next? (place : Nat) : Closed (next? place) := by
  unfold next?
  infer_instance

instance closed_drainFrom (place fuel : Nat) (found : List Value) :
    Closed (drainFrom place fuel found) := by
  induction fuel generalizing found with
  | zero => exact closed_pure _
  | succ fuel ih =>
    refine .bind fun next => ?_
    cases next with
    | none => exact closed_pure _
    | some v => exact ih _

instance closed_drain (place : Nat) : Closed (drain place) := by
  unfold drain
  refine .bind fun _ => ?_
  split <;> infer_instance

instance closed_peek (place : Nat) : Closed (peek place) := by
  unfold peek
  refine .bind fun l => ?_
  split
  · infer_instance
  · refine .bind fun next => ?_
    cases next with
    | none => exact closed_pure _
    | some v =>
      -- the loop is put back with one value more, so it matters what it was made of
      refine .bind_of_gives (gives_loopAt place) fun l hl => ?_
      have := closed_setLoop place (l := { l with after := some v }) hl
      infer_instance

instance closed_advance (place : Nat) : Closed (advance place) := by
  unfold advance
  refine .bind fun next => ?_
  cases next with
  | none => exact closed_pure _
  | some v =>
    refine .bind_of_gives (gives_loopAt place) fun l hl => ?_
    have := closed_setLoop place (l := { l with
      taken := l.taken + 1, before := l.current, current := some v, after := none }) hl
    infer_instance

instance closed_size? (v : Value) : Closed (size? v) := by
  unfold size?
  split <;> infer_instance

instance closed_loopLength (place : Nat) : Closed (loopLength place) := by
  unfold loopLength
  refine .bind_of_gives (gives_loopAt place) fun l hl => ?_
  split
  · infer_instance
  · extract_lets keep
    have (known : Option Nat) : Closed (keep known) := by
      cases known with
      | some n =>
        have := closed_setLoop place (l := { l with length := some n }) hl
        exact closed_bind _ _
      | none =>
        refine .bind fun rest => .bind fun cursor => ?_
        refine .bind_of_gives (gives_loopAt place) fun l hl => ?_
        have (n : Nat) :=
          closed_setLoop place (l := { l with cursor := cursor, length := some n }) hl
        infer_instance
    split <;> infer_instance

instance closed_length (v : Value) : Closed (length v) := by
  unfold length
  split
  · infer_instance
  · refine .bind fun _ => ?_
    split <;> infer_instance

instance closed_drainLoop (place fuel : Nat) (found : List Value) :
    Closed (drainLoop place fuel found) := by
  induction fuel generalizing found with
  | zero => exact closed_pure _
  | succ fuel ih =>
    refine .bind fun next => ?_
    cases next with
    | none => exact closed_pure _
    | some v => exact ih _

instance closed_cursorOf (v : Value) : Closed (cursorOf v) := by
  unfold cursorOf
  repeat' first | infer_instance | refine .bind fun _ => ?_ | split

instance closed_itemsOf (v : Value) : Closed (itemsOf v) := by
  unfold itemsOf
  repeat' first | infer_instance | refine .bind fun _ => ?_ | split

instance closed_foldCursor {α : Type} (step : α → Value → Eval α) [∀ a v, Closed (step a v)]
    (place fuel : Nat) (acc : α) : Closed (foldCursor step place fuel acc) := by
  induction fuel generalizing acc with
  | zero => exact closed_pure _
  | succ fuel ih =>
    refine .bind fun next => ?_
    cases next with
    | none => exact closed_pure _
    | some v => exact .bind fun _ => ih _

instance closed_reversed (v : Value) : Closed (reversed v) := by
  unfold reversed
  repeat' first | infer_instance | refine .bind fun _ => ?_ | split

instance closed_isAhead (place : Nat) (v : Value) (fuel : Nat) : Closed (isAhead place v fuel) := by
  induction fuel with
  | zero => exact closed_pure _
  | succ fuel ih =>
    refine .bind fun next => ?_
    cases next with
    | none => exact closed_pure _
    | some item => infer_instance

instance closed_dictContains (place : Nat) (key : Value) : Closed (dictContains place key) := by
  unfold dictContains
  infer_instance

instance closed_contains (container v : Value) : Closed (contains container v) := by
  unfold contains
  repeat' first | infer_instance | refine .bind fun _ => ?_ | split

instance closed_settle (v : Value) : Closed (settle v) := by
  unfold settle
  split <;> infer_instance

instance closed_literal (v : Value) : Closed (literal v) := by
  unfold literal
  infer_instance

instance closed_display (v : Value) : Closed (display v) := by
  unfold display
  infer_instance

instance closed_lacksMember (v : Value) (name : String) : Closed (lacksMember v name) := by
  unfold lacksMember
  infer_instance

instance closed_lacksElement (v key : Value) : Closed (lacksElement v key) := by
  unfold lacksElement
  split <;> infer_instance

end ApiScribe.Template.Eval
