import ApiScribe.Proofs.Closed.Values

/-!
# Members and operators are closed
-/

namespace ApiScribe.Template.Eval

variable [Known]

/-! ### Members and elements -/

instance closed_loopAttribute? (place : Nat) (name : String) :
    Closed (loopAttribute? place name) := by
  unfold loopAttribute?
  split <;> infer_instance

instance closed_numberAttribute? (a : Number) (v : Value) (name : String) :
    Closed (numberAttribute? a v name) := by
  unfold numberAttribute?
  split <;> infer_instance

instance closed_blockAt? (name : String) (context depth : Nat) :
    Closed (blockAt? name context depth) := by
  unfold blockAt?
  refine .bind fun _ => ?_
  split <;> infer_instance

instance closed_replacedBlock (name : String) (context depth : Nat) :
    Closed (replacedBlock name context depth) := by
  unfold replacedBlock
  infer_instance

instance closed_attribute? (v : Value) (name : String) : Closed (attribute? v name) := by
  unfold attribute?
  repeat' first | infer_instance | refine .bind fun _ => ?_ | split

instance closed_element? (v key : Value) : Closed (element? v key) := by
  unfold element?
  repeat' first | infer_instance | refine .bind fun _ => ?_ | split

instance closed_member (v : Value) (name : String) : Closed (member v name) := by
  unfold member
  repeat' first | infer_instance | refine .bind fun _ => ?_ | split

instance closed_element (v key : Value) : Closed (element v key) := by
  unfold element
  repeat' first | infer_instance | refine .bind fun _ => ?_ | split

instance closed_sliceEnd? (v : Value) : Closed (sliceEnd? v) := by
  unfold sliceEnd?
  split <;> infer_instance

instance closed_slice (v start stop step : Value) : Closed (slice v start stop step) := by
  unfold slice
  repeat' first | infer_instance | refine .bind fun _ => ?_ | split

/-! ### Filling in values -/

instance Filling.closed_next (s : Filling) : Closed (Filling.next s) := by
  unfold Filling.next
  split <;> infer_instance

instance Filling.closed_typeName (s : Filling) (v : Value) : Closed (Filling.typeName s v) := by
  unfold Filling.typeName
  infer_instance

instance Filling.closed_textOf (s : Filling) (letter : Char) (v : Value) :
    Closed (Filling.textOf s letter v) := by
  unfold Filling.textOf
  split
  · split <;> infer_instance
  · infer_instance

instance Filling.closed_charOf (s : Filling) (v : Value) : Closed (Filling.charOf s v) := by
  unfold Filling.charOf
  split
  · infer_instance
  · split <;> infer_instance

instance Filling.closed_readWhole (t : String) : Closed (Filling.readWhole t) := by
  unfold Filling.readWhole
  split <;> infer_instance

instance Filling.closed_readReal (t : String) : Closed (Filling.readReal t) := by
  unfold Filling.readReal
  split <;> infer_instance

instance Filling.closed_wholeOf (s : Filling) (letter : Char) (v : Value) :
    Closed (Filling.wholeOf s letter v) := by
  unfold Filling.wholeOf
  repeat' first | infer_instance | refine .bind fun _ => ?_ | split

instance Filling.closed_integerOf (s : Filling) (letter : Char) (v : Value) :
    Closed (Filling.integerOf s letter v) := by
  unfold Filling.integerOf
  split <;> infer_instance

instance Filling.closed_realOf (s : Filling) (v : Value) : Closed (Filling.realOf s v) := by
  unfold Filling.realOf
  repeat' first | infer_instance | refine .bind fun _ => ?_ | split

instance Filling.closed_numberText? (s : Filling) (m : Mark) (v : Value) :
    Closed (Filling.numberText? s m v) := by
  unfold Filling.numberText?
  dsimp only
  split <;> infer_instance

instance Filling.closed_fillMark (s : Filling) (m : Mark) (place : Nat) (v : Value) :
    Closed (Filling.fillMark s m place v) := by
  unfold Filling.fillMark
  repeat' first | infer_instance | refine .bind fun _ => ?_ | split

instance Filling.closed_valueAt (v : Value) (key : String) : Closed (Filling.valueAt v key) := by
  unfold Filling.valueAt
  repeat' first | infer_instance | refine .bind fun _ => ?_ | split

instance Filling.closed_takeSize (s : Filling) (limit : Nat) (tooBig tooLong : String)
    (cs : List Char) : Closed (Filling.takeSize s limit tooBig tooLong cs) := by
  unfold Filling.takeSize
  repeat' first | infer_instance | refine .bind fun _ => ?_ | split

instance Filling.closed_takeMark (s : Filling) (cs : List Char) :
    Closed (Filling.takeMark s cs) := by
  unfold Filling.takeMark
  repeat' first | infer_instance | refine .bind fun _ => ?_ | split | dsimp only

instance Filling.closed_fillAll (fuel : Nat) (s : Filling) (cs : List Char) :
    Closed (Filling.fillAll fuel s cs) := by
  fun_induction Filling.fillAll fuel s cs <;> infer_instance

instance closed_fillIn (escaping : Bool) (cs : List Char) (v : Value) :
    Closed (fillIn escaping cs v) := by
  unfold fillIn
  infer_instance

/-! ### Operators -/

instance closed_ofNumber (a : Number) : Closed (ofNumber a) := by
  unfold ofNumber
  split <;> infer_instance

instance closed_sequence? (v : Value) : Closed (sequence? v) := by
  unfold sequence?
  split <;> infer_instance

instance closed_copyCount (isText : Bool) (size : Nat) (n : Int) :
    Closed (copyCount isText size n) := by
  unfold copyCount
  infer_instance

/-- What makes a sequence anew is closed. -/
theorem gives_sequence? (v : Value) :
    Gives (sequence? v) fun found => ∀ s ∈ found, ∀ items, Closed (s.2 items) := by
  unfold sequence?
  split
  · rintro m h found h' hc ⟨⟩ s ⟨⟩ items
    infer_instance
  · rintro m h found h' hc ⟨⟩ s hs items
    obtain ⟨xs, -, rfl⟩ := Option.map_eq_some_iff.1 hs
    infer_instance

instance closed_repeatValue (v times : Value) : Closed (repeatValue v times) := by
  unfold repeatValue
  refine .bind_of_gives (gives_sequence? v) fun found hf => ?_
  split
  case h_5 items make n _ _ _ =>
    -- `make` was found at the value, so only what finding gives is known of it
    have (items : List Value) : Closed (make items) := hf _ rfl items
    infer_instance
  all_goals infer_instance

instance closed_unsupported (sign : String) (a b : Value) : Closed (unsupported sign a b) := by
  unfold unsupported
  infer_instance

instance closed_addOthers (a b : Value) : Closed (addOthers a b) := by
  unfold addOthers
  repeat' first | infer_instance | refine .bind fun _ => ?_ | split

instance closed_applyBinary (op : BinaryOp) (a b : Value) : Closed (applyBinary op a b) := by
  unfold applyBinary
  repeat' first | infer_instance | refine .bind fun _ => ?_ | split

instance closed_applyUnary (op : UnaryOp) (v : Value) : Closed (applyUnary op v) := by
  unfold applyUnary
  split <;> infer_instance

/-! ### Arguments -/

instance closed_noNamed (m : MethodName) (args : Actuals) : Closed (noNamed m args) := by
  unfold noNamed
  infer_instance

instance closed_noArguments (m : MethodName) (args : Actuals) : Closed (noArguments m args) := by
  unfold noArguments
  infer_instance

instance closed_oneArgument (m : MethodName) (args : Actuals) : Closed (oneArgument m args) := by
  unfold oneArgument
  split <;> infer_instance

instance closed_someArguments (m : MethodName) (least most : Nat) (args : Actuals) :
    Closed (someArguments m least most args) := by
  unfold someArguments
  infer_instance

instance closed_searchArguments (m : MethodName) (args : Actuals) :
    Closed (searchArguments m args) := by
  unfold searchArguments
  split <;> infer_instance

instance closed_namedArguments (m : MethodName) (names : List String) (args : Actuals) :
    Closed (namedArguments m names args) := by
  unfold namedArguments
  infer_instance

instance closed_integerArgument (v : Value) : Closed (integerArgument v) := by
  unfold integerArgument
  split <;> infer_instance

instance closed_smallArgument (v : Value) : Closed (smallArgument v) := by
  unfold smallArgument
  infer_instance

instance closed_sizeArgument (v : Value) : Closed (sizeArgument v) := by
  unfold sizeArgument
  infer_instance

instance closed_limitArgument (v : Option Value) : Closed (limitArgument v) := by
  unfold limitArgument
  split <;> infer_instance

instance closed_textArgument (v : Value) : Closed (textArgument v) := by
  unfold textArgument
  split <;> infer_instance

instance closed_unsupportedMethod (m : MethodName) : Closed (unsupportedMethod m) := by
  unfold unsupportedMethod
  infer_instance

instance closed_walk (v : Value) (refusal : String) : Closed (walk v refusal) := by
  unfold walk
  split
  · infer_instance
  · refine .bind fun _ => ?_
    split <;> infer_instance

end ApiScribe.Template.Eval
