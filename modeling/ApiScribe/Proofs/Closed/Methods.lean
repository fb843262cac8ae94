import ApiScribe.Proofs.Closed.Operators

/-!
# Methods and tests are closed

A method is put together from closed steps, by binding and by choice.  Instance search follows it as
far as it can; where a match or a local definition stands in its way, the proof takes it apart and
asks again.
-/

namespace ApiScribe.Template.Eval

variable [Known]

/-! ### Signatures and attributes -/

instance Signature.closed_bind (s : Signature) (args : Actuals) : Closed (s.bind args) := by
  unfold Signature.bind
  refine .andThen (.forIn (fun entry _ _ => ?_) _) fun _ => ?_
  · obtain ⟨name, v⟩ := entry
    dsimp only
    split <;> infer_instance
  · repeat' first | infer_instance | refine .bind fun _ => ?_ | split | dsimp only

instance closed_failArgument {α : Type} (message : String) :
    Closed (failArgument message : Eval α) := by
  unfold failArgument
  infer_instance

instance closed_attributePart (cs : List Char) : Closed (attributePart cs) := by
  unfold attributePart
  infer_instance

instance closed_attributeParts (v : Value) : Closed (attributeParts v) := by
  unfold attributeParts
  split <;> infer_instance

instance closed_follow (parts : List Value) (fallback item : Value) :
    Closed (follow parts fallback item) := by
  refine .foldlM (fun v part => .bind fun found => ?_) _ _
  split <;> infer_instance

/-! ### Methods of lists, tuples, ranges and dictionaries -/

instance closed_indexEnds (n : Nat) (ends : List Value) : Closed (indexEnds n ends) := by
  unfold indexEnds
  repeat' first | infer_instance | refine .bind fun _ => ?_ | split | dsimp only

instance closed_indexOf? (items : List Value) (v : Value) : Closed (indexOf? items v) := by
  unfold indexOf?
  infer_instance

instance closed_indexBetween? (items : List Value) (v : Value) (ends : List Value) :
    Closed (indexBetween? items v ends) := by
  unfold indexBetween?
  infer_instance

instance closed_countOf (items : List Value) (v : Value) : Closed (countOf items v) := by
  unfold countOf
  infer_instance

instance closed_sortKeyed (descending : Bool) (keyed : List (Value × Value)) :
    Closed (sortKeyed descending keyed) := by
  unfold sortKeyed
  infer_instance

instance closed_sortList (place : Nat) (args : Actuals) : Closed (sortList place args) := by
  unfold sortList
  split <;> infer_instance

instance closed_callList (place : Nat) (name : String) (args : Actuals) :
    Closed (callList place name args) := by
  unfold callList
  repeat' first | infer_instance | refine .bind fun _ => ?_ | split | dsimp only

instance closed_callTuple (items : List Value) (name : String) (args : Actuals) :
    Closed (callTuple items name args) := by
  unfold callTuple
  repeat' first | infer_instance | refine .bind fun _ => ?_ | split

instance closed_callRange (start stop step : Int) (name : String) (args : Actuals) :
    Closed (callRange start stop step name args) := by
  unfold callRange
  repeat' first | infer_instance | refine .bind fun _ => ?_ | split | dsimp only

instance closed_pairsOf (v : Value) : Closed (pairsOf v) := by
  unfold pairsOf
  split
  · infer_instance
  · refine .bind fun items => .mapM (fun item => .bind fun parts => ?_) _
    split <;> infer_instance

instance closed_withPairs (pairs more : List (Value × Value)) : Closed (withPairs pairs more) := by
  unfold withPairs
  infer_instance

instance closed_pairArguments (name : String) (args : Actuals) (pairs : List (Value × Value)) :
    Closed (pairArguments name args pairs) := by
  unfold pairArguments
  split <;> infer_instance

instance closed_callDict (place : Nat) (name : String) (args : Actuals) :
    Closed (callDict place name args) := by
  unfold callDict
  repeat' first | infer_instance | refine .bind fun _ => ?_ | split | dsimp only

/-! ### Methods of texts -/

instance Receiver.closed_pieces (r : Receiver) (found : List (List Char)) :
    Closed (Receiver.pieces r found) := by
  unfold Receiver.pieces
  infer_instance

instance closed_widthArgument (v : Value) : Closed (widthArgument v) := by
  unfold widthArgument
  infer_instance

instance closed_searchEnds (ends : List Value) : Closed (searchEnds ends) := by
  unfold searchEnds
  infer_instance

instance closed_splitText (m : MethodName) (fromEnd : Bool) (cs : List Char) (args : Actuals) :
    Closed (splitText m fromEnd cs args) := by
  unfold splitText
  repeat' first | infer_instance | refine .bind fun _ => ?_ | split

instance closed_joinTexts (separator : List Char) (items : List Value) :
    Closed (joinTexts separator items) := by
  refine .andThen (.mapM (fun (v, i) => ?_) _) fun pieces => closed_pure _
  dsimp only
  split <;> infer_instance

instance closed_stripText (m : MethodName) (atStart atEnd : Bool) (cs : List Char)
    (args : Actuals) : Closed (stripText m atStart atEnd cs args) := by
  unfold stripText
  repeat' first | infer_instance | refine .bind fun _ => ?_ | split

instance closed_anyEdge (m : MethodName) (test : List Char → Bool) (edges : List Value) :
    Closed (anyEdge m test edges) := by
  induction edges with
  | nil => exact closed_pure _
  | cons v edges ih =>
    unfold anyEdge
    split <;> infer_instance

instance closed_edgeTest (m : MethodName) (test : List Char → List Char → Bool) (cs : List Char)
    (args : Actuals) : Closed (edgeTest m test cs args) := by
  unfold edgeTest
  dsimp only
  refine .bind fun _ => ?_
  split <;> infer_instance

instance closed_padText (m : MethodName) (pad : Nat → Char → List Char → List Char)
    (cs : List Char) (args : Actuals) : Closed (padText m pad cs args) := by
  unfold padText
  repeat' first | infer_instance | refine .bind fun _ => ?_ | split

instance closed_partitionText (m : MethodName) (fromEnd : Bool) (r : Receiver) (args : Actuals) :
    Closed (partitionText m fromEnd r args) := by
  unfold partitionText
  infer_instance

instance closed_placeOf (m : MethodName) (find : List Char → List Char → Option Nat)
    (cs : List Char) (args : Actuals) : Closed (placeOf m find cs args) := by
  unfold placeOf
  infer_instance

instance closed_replaceIn (m : MethodName) (cs : List Char) (args : Actuals) :
    Closed (replaceIn m cs args) := by
  unfold replaceIn
  repeat' first | infer_instance | refine .bind fun _ => ?_ | split | dsimp only

instance closed_withoutEdge (m : MethodName) (drop : List Char → List Char) (args : Actuals) :
    Closed (withoutEdge m drop args) := by
  unfold withoutEdge
  refine .bind fun _ => ?_
  split <;> infer_instance

instance closed_tabArgument (m : MethodName) (args : Actuals) : Closed (tabArgument m args) := by
  unfold tabArgument
  infer_instance

instance closed_callText (r : Receiver) (name : String) (args : Actuals) :
    Closed (callText r name args) := by
  unfold callText
  repeat' first | infer_instance | refine .bind fun _ => ?_ | split | dsimp only

instance closed_escaped (v : Value) : Closed (escaped v) := by
  unfold escaped
  split <;> infer_instance

instance closed_escapeArguments (name : String) (args : List Value) :
    Closed (escapeArguments name args) := by
  unfold escapeArguments
  repeat' first | infer_instance | refine .bind fun _ => ?_ | split

instance closed_checkPlaced (type name : String) (parameters args : List String) :
    Closed (checkPlaced type name parameters args) := by
  unfold checkPlaced
  split <;> infer_instance

instance closed_callMarkup (s name : String) (args : Actuals) :
    Closed (callMarkup s name args) := by
  unfold callMarkup
  split <;> infer_instance

/-! ### Methods -/

instance closed_callNumber (a : Number) (v : Value) (name : String) (args : Actuals) :
    Closed (callNumber a v name args) := by
  unfold callNumber
  split <;> infer_instance

instance closed_callCycler (place : Nat) (name : String) (args : Actuals) :
    Closed (callCycler place name args) := by
  unfold callCycler
  refine .bind fun _ => .bind fun h => ?_
  extract_lets
  have (items : List Value) (position : Nat) : Closed (modify fun h =>
      { h with cyclers := h.cyclers.setIfInBounds place (items, position) } : Eval PUnit) :=
    closed_modify fun _ hc => { hc with }
  infer_instance

instance closed_callLoopMethod (place : Nat) (name : String) (args : Actuals) :
    Closed (callLoopMethod place name args) := by
  unfold callLoopMethod
  extract_lets go
  -- the loop is changed as a whole, so what it held before has to be known to be closed
  have (u : Unit) : Closed (go u) := by
    refine .bind_of_gives (gives_loopAt place) fun l hl => ?_
    have := closed_setLoop place (l := { l with changed := some args.positional }) hl
    split
    · infer_instance
    · split <;> infer_instance
  clear_value go
  split <;> infer_instance

instance closed_callMethod (receiver : Value) (name : String) (args : Actuals) :
    Closed (callMethod receiver name args) := by
  unfold callMethod
  repeat' first | infer_instance | refine .bind fun _ => ?_ | split

/-! ### Tests -/

instance closed_isIterable (v : Value) : Closed (isIterable v) := by
  unfold isIterable
  split <;> infer_instance

instance closed_compareBy (op : CompareOp) (a b : Value) : Closed (compareBy op a b) := by
  unfold compareBy
  split <;> infer_instance

instance closed_leaves (v divisor : Value) (remainder : Int) :
    Closed (leaves v divisor remainder) := by
  unfold leaves
  infer_instance

instance closed_onlyArgument (function : String) (args : Actuals) :
    Closed (onlyArgument function args) := by
  unfold onlyArgument
  infer_instance

instance closed_isAmong (names : List String) (v : Value) : Closed (isAmong names v) := by
  unfold isAmong
  infer_instance

instance closed_runTest (name : String) (v : Value) (args : Actuals) :
    Closed (runTest name v args) := by
  unfold runTest
  repeat' first | infer_instance | refine .bind fun _ => ?_ | split | dsimp only

end ApiScribe.Template.Eval
