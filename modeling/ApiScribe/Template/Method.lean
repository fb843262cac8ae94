import ApiScribe.Template.Method.Collection
import ApiScribe.Template.Method.Text

/-!
# Methods

What the values of a template can be asked to do: `v.name(arguments)`.
-/

namespace ApiScribe.Template
namespace Eval

/-! ### Numbers -/

/-- A float as a quotient of integers without a common divisor. -/
def floatRatio (x : Float) : Except Fault (Int × Int) :=
  match Decimal.parts x with
  | .nan => .error ⟨.value, "cannot convert NaN to integer ratio"⟩
  | .infinite _ => .error ⟨.overflow, "cannot convert Infinity to integer ratio"⟩
  | .finite negative m q _ =>
    let num := m * Decimal.twoTo q.toNat
    let den := Decimal.twoTo (-q).toNat
    let divisor := Nat.gcd num den
    let num : Int := (num / divisor : Nat)
    .ok (if negative then -num else num, (den / divisor : Nat))

/-- Calls a method of a number. -/
def callNumber (a : Number) (v : Value) (name : String) (args : Actuals) : Eval Value := do
  let type ← typeName v
  let m : MethodName := ⟨type, name⟩
  noArguments m args
  match a, name with
  | .int n, "conjugate" => return .int n
  | .complex re im, "conjugate" => return .complex re (-im)
  | _, "conjugate" => return v
  | .int n, "as_integer_ratio" => return .tuple [.int n, .int 1]
  | .float x, "as_integer_ratio" =>
    let (num, den) ← ofExcept (floatRatio x)
    return .tuple [.int num, .int den]
  | .int n, "bit_length" => return .int (if n = 0 then 0 else n.natAbs.log2 + 1)
  | .float x, "is_integer" => return .bool (x == x.floor && !x.isInf)
  | _, _ => unsupportedMethod m

/-! ### Cyclers and loops -/

/-- Calls a method of a cycler. -/
def callCycler (place : Nat) (name : String) (args : Actuals) : Eval Value := do
  let _ ← (⟨"Cycler." ++ name, 1, []⟩ : Signature).bind args
  let (items, position) := (← get).cyclers.getD place default
  let set (position : Nat) : Eval Unit :=
    modify fun h => { h with cyclers := h.cyclers.setIfInBounds place (items, position) }
  if name = "reset" then
    set 0
    return .none
  else
    set ((position + 1) % items.length)
    return items.getD position .none

/-- Calls a method of a loop. -/
def callLoopMethod (place : Nat) (name : String) (args : Actuals) : Eval Value := do
  if let (k, _) :: _ := args.named then
    failType ("LoopContext." ++ name ++ "() got an unexpected keyword argument " ++
      Text.quotedString k)
  let l ← loopAt place
  if name = "cycle" then
    if args.positional.isEmpty then failType "no items for cycling given"
    return args.positional.getD ((l.taken - 1) % args.positional.length) .none
  else
    let same ← match l.changed with
      | none => pure false
      | some old => equals (.tuple old) (.tuple args.positional)
    if !same then setLoop place { l with changed := some args.positional }
    return .bool !same

/-- Calls a method. -/
def callMethod (receiver : Value) (name : String) (args : Actuals) : Eval Value := do
  match receiver with
  | .text s => callText ⟨s.toList, false⟩ name args
  | .markup s => callMarkup s name args
  | .list place => callList place name args
  | .dict place => callDict place name args
  | .range start stop step => callRange start stop step name args
  | .cycler place => callCycler place name args
  | .loop place => callLoopMethod place name args
  | v =>
    match v.tuple?, v.number? with
    | some items, _ => callTuple items name args
    | none, some a => callNumber a v name args
    | none, none => unsupportedMethod ⟨← typeName v, name⟩

end Eval
end ApiScribe.Template
