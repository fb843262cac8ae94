import ApiScribe.Proofs.Yaml.Tokens
import ApiScribe.Yaml.Document

/-!
# The nodes of a JSON value

Nothing in a JSON value has an anchor or a tag of its own, so its tokens compose to a tree of the
same shape.  Every level of brackets takes a few steps, which are counted by the tokens in it.

Main statement: `document_tokensOf` — the tokens of a value are the document with the node of the
value.
-/

namespace ApiScribe.Yaml

open Json (unitsOf)
open Scanner (textToken)

/-- The node of a text. -/
def textNode (cs : List Char) : Node := .scalar .str (cs.flatMap unitsOf)

mutual

/-- The node of a value. -/
def nodeOf : Json → Node
  | .string s => textNode s.toList
  | .array vs => .sequence .seq (nodesOf vs)
  | .object ms => .mapping .map (pairsOf ms)
  | _ => omitted

/-- The nodes of items. -/
def nodesOf : List Json → List Node
  | [] => []
  | v :: vs => nodeOf v :: nodesOf vs

/-- The nodes of members. -/
def pairsOf : List (Json.Name × Json) → List (Node × Node)
  | [] => []
  | (name, v) :: ms => (textNode name.toText.toList, nodeOf v) :: pairsOf ms

end

/-! ### Single steps -/

section
variable {fuel : Nat} {place : Place} {c : Composition} {rest after : List Token}

theorem node_text {cs : List Char} :
    node (fuel + 1) place c (textToken cs :: rest) = .ok (textNode cs, c, rest) := by
  rfl

theorem node_sequence {items : List Node} (h : flowItems fuel true c rest = .ok (items, c, after)) :
    node (fuel + 1) place c (.flowSequenceStart :: rest) =
      .ok (.sequence .seq items, c, after) := by
  have hnode : node (fuel + 1) place c (.flowSequenceStart :: rest) =
      flowItems fuel true c rest >>= fun r => .ok (.sequence .seq r.1, r.2) := rfl
  rw [hnode, h]
  rfl

theorem node_mapping {pairs : List (Node × Node)}
    (h : flowPairs fuel true c rest = .ok (pairs, c, after)) :
    node (fuel + 1) place c (.flowMappingStart :: rest) = .ok (.mapping .map pairs, c, after) := by
  have hnode : node (fuel + 1) place c (.flowMappingStart :: rest) =
      flowPairs fuel true c rest >>= fun r => .ok (.mapping .map r.1, r.2) := rfl
  rw [hnode, h]
  rfl

/-- The token starts a value. -/
inductive StartsValue : Token → Prop
  | text (cs : List Char) : StartsValue (textToken cs)
  | sequence : StartsValue .flowSequenceStart
  | mapping : StartsValue .flowMappingStart

variable {t : Token} {ts mid : List Token}

theorem StartsValue.flowItems_first {item : Node} {items : List Node} (ht : StartsValue t)
    (hitem : node fuel .flow c (t :: ts) = .ok (item, c, mid))
    (hitems : flowItems fuel false c mid = .ok (items, c, after)) :
    flowItems (fuel + 1) true c (t :: ts) = .ok (item :: items, c, after) := by
  have hfirst : flowItems (fuel + 1) true c (t :: ts) =
      node fuel .flow c (t :: ts) >>= fun r =>
        flowItems fuel false r.2.1 r.2.2 >>= fun r' => .ok (r.1 :: r'.1, r'.2) := by
    cases ht <;> rfl
  rw [hfirst, hitem, Outcome.ok_bind]
  dsimp only
  rw [hitems]
  rfl

theorem StartsValue.flowItems_more {item : Node} {items : List Node} (ht : StartsValue t)
    (hitem : node fuel .flow c (t :: ts) = .ok (item, c, mid))
    (hitems : flowItems fuel false c mid = .ok (items, c, after)) :
    flowItems (fuel + 1) false c (.flowEntry :: t :: ts) = .ok (item :: items, c, after) := by
  rw [← ht.flowItems_first hitem hitems]
  cases ht <;> rfl

/-- The value of a key. -/
theorem StartsValue.flowValue {value : Node} (ht : StartsValue t)
    (hvalue : node fuel .flow c (t :: ts) = .ok (value, c, mid)) :
    flowValue (fuel + 2) .flowMappingEnd c (.value :: t :: ts) = .ok (value, c, mid) := by
  rw [← hvalue]
  cases ht <;> rfl

theorem StartsValue.flowPairs_first {cs : List Char} {value : Node} {pairs : List (Node × Node)}
    (ht : StartsValue t) (hvalue : node fuel .flow c (t :: ts) = .ok (value, c, mid))
    (hpairs : flowPairs (fuel + 2) false c mid = .ok (pairs, c, after)) :
    flowPairs (fuel + 3) true c (.key :: textToken cs :: .value :: t :: ts) =
      .ok ((textNode cs, value) :: pairs, c, after) := by
  have hfirst : flowPairs (fuel + 3) true c (.key :: textToken cs :: .value :: t :: ts) =
      Yaml.flowValue (fuel + 2) .flowMappingEnd c (.value :: t :: ts) >>= fun r =>
        flowPairs (fuel + 2) false r.2.1 r.2.2 >>= fun r' =>
          .ok ((textNode cs, r.1) :: r'.1, r'.2) := rfl
  rw [hfirst, ht.flowValue hvalue, Outcome.ok_bind]
  dsimp only
  rw [hpairs]
  rfl

theorem StartsValue.flowPairs_more {cs : List Char} {value : Node} {pairs : List (Node × Node)}
    (ht : StartsValue t) (hvalue : node fuel .flow c (t :: ts) = .ok (value, c, mid))
    (hpairs : flowPairs (fuel + 2) false c mid = .ok (pairs, c, after)) :
    flowPairs (fuel + 3) false c (.flowEntry :: .key :: textToken cs :: .value :: t :: ts) =
      .ok ((textNode cs, value) :: pairs, c, after) :=
  ht.flowPairs_first hvalue hpairs

end

/-! ### Values -/

theorem Legible.startsValue {n : Nat} {v : Json} (h : Legible n v) :
    ∃ t ts, tokensOf v = t :: ts ∧ StartsValue t := by
  cases h with
  | string s => exact ⟨_, _, by rw [tokensOf], .text s.toList⟩
  | @array n vs h =>
    cases vs with
    | nil => exact ⟨_, _, by rw [tokensOf], .sequence⟩
    | cons v vs => exact ⟨_, _, by rw [tokensOf], .sequence⟩
  | @object n ms hn hk h =>
    cases ms with
    | nil => exact ⟨_, _, by rw [List.map_nil, tokensOf], .mapping⟩
    | cons m ms => exact ⟨_, _, by rw [List.map_cons, tokensOf], .mapping⟩

/-- The tokens of the value compose to its node, whatever follows them.  No token takes more than
four steps. -/
def Composes (v : Json) : Prop :=
  ∀ (fuel : Nat) (place : Place) (c : Composition) (rest : List Token),
    4 * (tokensOf v).length ≤ fuel →
      node fuel place c (tokensOf v ++ rest) = .ok (nodeOf v, c, rest)

section
variable {n fuel : Nat} {v : Json} {c : Composition} {rest : List Token}

/-- The items after the first, with the bracket after them. -/
theorem flowItems_more {vs : List Json} (ht : ∀ v ∈ vs, Legible n v) (hs : ∀ v ∈ vs, Composes v)
    (hfuel : 4 * (moreItemTokens vs).length < fuel) :
    flowItems fuel false c (moreItemTokens vs ++ .flowSequenceEnd :: rest) =
      .ok (nodesOf vs, c, rest) := by
  induction vs generalizing fuel with
  | nil =>
    obtain ⟨fuel, rfl⟩ : ∃ n, fuel = n + 1 := ⟨fuel - 1, by omega⟩
    rfl
  | cons v vs ih =>
    obtain ⟨hv, hvs⟩ := List.forall_mem_cons.1 hs
    obtain ⟨t, ts, htokens, hstart⟩ := (ht v List.mem_cons_self).startsValue
    rw [moreItemTokens, List.length_cons, List.length_append] at hfuel
    obtain ⟨fuel, rfl⟩ : ∃ n, fuel = n + 1 := ⟨fuel - 1, by omega⟩
    have hvalue := hv fuel .flow c (moreItemTokens vs ++ .flowSequenceEnd :: rest) (by omega)
    rw [moreItemTokens, List.cons_append, List.append_assoc, nodesOf]
    rw [htokens, List.cons_append] at hvalue ⊢
    exact hstart.flowItems_more hvalue
      (ih (fun u hu => ht u (List.mem_cons_of_mem v hu)) hvs (by omega))

/-- The items of a sequence, with the bracket after them. -/
theorem flowItems_tokens {vs : List Json} (ht : ∀ u ∈ v :: vs, Legible n u)
    (hs : ∀ u ∈ v :: vs, Composes u)
    (hfuel : 4 * ((tokensOf v).length + (moreItemTokens vs).length) + 1 < fuel) :
    flowItems fuel true c (tokensOf v ++ (moreItemTokens vs ++ .flowSequenceEnd :: rest)) =
      .ok (nodesOf (v :: vs), c, rest) := by
  obtain ⟨hv, hvs⟩ := List.forall_mem_cons.1 hs
  obtain ⟨t, ts, htokens, hstart⟩ := (ht v List.mem_cons_self).startsValue
  obtain ⟨fuel, rfl⟩ : ∃ n, fuel = n + 1 := ⟨fuel - 1, by omega⟩
  have hvalue := hv fuel .flow c (moreItemTokens vs ++ .flowSequenceEnd :: rest) (by omega)
  rw [nodesOf]
  rw [htokens, List.cons_append] at hvalue ⊢
  exact hstart.flowItems_first hvalue
    (flowItems_more (fun u hu => ht u (List.mem_cons_of_mem v hu)) hvs (by omega))

/-- The members after the first, with the bracket after them. -/
theorem flowPairs_more {ms : List (String × Json)} (ht : ∀ m ∈ ms, Legible n m.2)
    (hs : ∀ m ∈ ms, Composes m.2)
    (hfuel : 4 * (moreMemberTokens (ms.map fun m => (.text m.1, m.2))).length < fuel) :
    flowPairs fuel false c
        (moreMemberTokens (ms.map fun m => (.text m.1, m.2)) ++ .flowMappingEnd :: rest) =
      .ok (pairsOf (ms.map fun m => (.text m.1, m.2)), c, rest) := by
  induction ms generalizing fuel with
  | nil =>
    obtain ⟨fuel, rfl⟩ : ∃ n, fuel = n + 1 := ⟨fuel - 1, by omega⟩
    rfl
  | cons m ms ih =>
    obtain ⟨hm, hms⟩ := List.forall_mem_cons.1 hs
    obtain ⟨t, ts, htokens, hstart⟩ := (ht m List.mem_cons_self).startsValue
    rw [List.map_cons, moreMemberTokens] at hfuel
    simp only [List.length_cons, List.length_append] at hfuel
    obtain ⟨fuel, rfl⟩ : ∃ n, fuel = n + 3 := ⟨fuel - 3, by omega⟩
    have hvalue := hm fuel .flow c
      (moreMemberTokens (ms.map fun m => (.text m.1, m.2)) ++ .flowMappingEnd :: rest) (by omega)
    rw [List.map_cons, moreMemberTokens, pairsOf]
    simp only [List.cons_append, List.append_assoc]
    rw [htokens, List.cons_append] at hvalue ⊢
    exact hstart.flowPairs_more hvalue
      (ih (fun u hu => ht u (List.mem_cons_of_mem m hu)) hms (by omega))

/-- The members of a mapping, with the bracket after them. -/
theorem flowPairs_tokens {m : String × Json} {ms : List (String × Json)}
    (ht : ∀ u ∈ m :: ms, Legible n u.2) (hs : ∀ u ∈ m :: ms, Composes u.2)
    (hfuel : 4 * ((tokensOf m.2).length +
      (moreMemberTokens (ms.map fun m => (.text m.1, m.2))).length) + 3 < fuel) :
    flowPairs fuel true c (.key :: textToken m.1.toList :: .value :: (tokensOf m.2 ++
        (moreMemberTokens (ms.map fun m => (.text m.1, m.2)) ++ .flowMappingEnd :: rest))) =
      .ok (pairsOf ((m :: ms).map fun m => (.text m.1, m.2)), c, rest) := by
  obtain ⟨hm, hms⟩ := List.forall_mem_cons.1 hs
  obtain ⟨t, ts, htokens, hstart⟩ := (ht m List.mem_cons_self).startsValue
  obtain ⟨fuel, rfl⟩ : ∃ n, fuel = n + 3 := ⟨fuel - 3, by omega⟩
  have hvalue := hm fuel .flow c
    (moreMemberTokens (ms.map fun m => (.text m.1, m.2)) ++ .flowMappingEnd :: rest) (by omega)
  rw [List.map_cons, pairsOf]
  rw [htokens, List.cons_append] at hvalue ⊢
  exact hstart.flowPairs_first hvalue
    (flowPairs_more (fun u hu => ht u (List.mem_cons_of_mem m hu)) hms (by omega))

/-- The tokens of a value compose to its node. -/
theorem composes (h : Legible n v) : Composes v := by
  intro fuel place c rest hfuel
  induction h generalizing fuel place c rest with
  | string s =>
    rw [tokensOf] at hfuel ⊢
    obtain ⟨fuel, rfl⟩ : ∃ n, fuel = n + 1 := ⟨fuel - 1, by simp at hfuel; omega⟩
    rw [nodeOf]
    exact node_text
  | @array n vs hvs ih =>
    cases vs with
    | nil =>
      rw [tokensOf] at hfuel ⊢
      obtain ⟨fuel, rfl⟩ : ∃ n, fuel = n + 2 := ⟨fuel - 2, by simp at hfuel; omega⟩
      rw [nodeOf]
      exact node_sequence rfl
    | cons v vs =>
      rw [tokensOf] at hfuel ⊢
      simp only [List.length_cons, List.length_append] at hfuel
      obtain ⟨fuel, rfl⟩ : ∃ n, fuel = n + 1 := ⟨fuel - 1, by omega⟩
      rw [nodeOf]
      simp only [List.cons_append, List.append_assoc, List.nil_append]
      exact node_sequence (flowItems_tokens hvs ih (by omega))
  | @object n ms hn hk hms ih =>
    cases ms with
    | nil =>
      rw [List.map_nil, tokensOf] at hfuel ⊢
      obtain ⟨fuel, rfl⟩ : ∃ n, fuel = n + 2 := ⟨fuel - 2, by simp at hfuel; omega⟩
      rw [nodeOf]
      exact node_mapping rfl
    | cons m ms =>
      rw [List.map_cons, tokensOf] at hfuel ⊢
      simp only [List.length_cons, List.length_append] at hfuel
      obtain ⟨fuel, rfl⟩ : ∃ n, fuel = n + 1 := ⟨fuel - 1, by omega⟩
      rw [nodeOf]
      simp only [Json.Name.toText, List.cons_append, List.append_assoc, List.nil_append]
      exact node_mapping (flowPairs_tokens hms ih (by omega))

/-- The tokens of a value are a document. -/
theorem document_tokensOf (h : Legible n v) :
    document (tokensOf v ++ [.streamEnd]) = .ok (some (nodeOf v, [])) := by
  obtain ⟨t, ts, htokens, hstart⟩ := h.startsValue
  -- that is as many steps as a document is given
  have hnode := composes h (4 * (tokensOf v ++ [Token.streamEnd]).length + 4) .block
    ⟨defaultHandles, [], []⟩ [.streamEnd] (by rw [List.length_append]; omega)
  have hdocument : document (tokensOf v ++ [.streamEnd]) =
      node (4 * (tokensOf v ++ [Token.streamEnd]).length + 4) .block ⟨defaultHandles, [], []⟩
        (tokensOf v ++ [.streamEnd]) >>= fun r =>
          if atStreamEnd r.2.2 then .ok (some (r.1, r.2.1.anchors)) else .error .malformed := by
    rw [htokens]
    cases hstart <;> rfl
  rw [hdocument, hnode]
  rfl

end

end ApiScribe.Yaml
