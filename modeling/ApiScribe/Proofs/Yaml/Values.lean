import ApiScribe.Proofs.Yaml.Nodes

/-!
# The data of a JSON value

The node of a value has no faults, and its data are those that the JSON value stands for, but for
the texts: a character that JSON writes with two escapes is two code points.

Main statement: `read_text` — what is read from the text of a value.
-/

namespace ApiScribe.Yaml

mutual

/-- The data that are read from the text of a value. -/
def datumOf : Json → Datum
  | .string s => .ofCodePoints (Json.units s)
  | .array vs => .list (dataOf vs)
  | .object ms => .record (membersOf ms)
  | _ => .scalar

@[inherit_doc datumOf]
def dataOf : List Json → List Datum
  | [] => []
  | v :: vs => datumOf v :: dataOf vs

@[inherit_doc datumOf]
def membersOf : List (Json.Name × Json) → List (Datum.Key × Datum)
  | [] => []
  | (name, v) :: ms => (.text name.toText, datumOf v) :: membersOf ms

end

/-! ### Faults -/

theorem itemFaults_nodesOf {vs : List Json} {level : Nat}
    (h : ∀ v ∈ vs, (nodeOf v).faults [] level = []) : itemFaults [] level (nodesOf vs) = [] := by
  induction vs with
  | nil => rfl
  | cons v vs ih =>
    obtain ⟨hv, hvs⟩ := List.forall_mem_cons.1 h
    rw [nodesOf, itemFaults, hv, ih hvs, List.append_nil]

theorem pairFaults_pairsOf {ms : List (String × Json)} {level : Nat}
    (h : ∀ m ∈ ms, (nodeOf m.2).faults [] level = []) :
    pairFaults [] level (pairsOf (ms.map fun m => (.text m.1, m.2))) = [] := by
  induction ms with
  | nil => rfl
  | cons m ms ih =>
    obtain ⟨hm, hms⟩ := List.forall_mem_cons.1 h
    rw [List.map_cons, pairsOf, pairFaults, ih hms, List.append_nil]
    exact hm

/-- Nothing in the node of a value has a fault. -/
theorem faults_nodeOf {n : Nat} {v : Json} (h : Legible n v) (level : Nat) :
    (nodeOf v).faults [] level = [] := by
  induction h generalizing level with
  | string s => rfl
  | array _ ih =>
    rw [nodeOf]
    exact itemFaults_nodesOf fun v hv => ih v hv (level + 1)
  | object _ _ _ ih =>
    rw [nodeOf]
    exact pairFaults_pairsOf fun m hm => ih m hm (level + 1)

/-! ### Members -/

/-- The key of a name. -/
def keyOf (name : String) : ScalarValue := .text (Json.units name)

theorem toKey_keyOf {name : String} (h : IsKey name) : (keyOf name).toKey = .text name := by
  rw [keyOf, ScalarValue.toKey, Json.units_eq_codePoints.2 h.basic, Json.replaceUnpaired_codePoints]

theorem identity_keyOf {name : String} (h : IsKey name) :
    (keyOf name).identity = .text name := toKey_keyOf h

section
variable {α : Type}

/-- A new member comes last, if its key is new. -/
theorem setKey_of_notMem {key : ScalarValue} {value : α} {ms : List (ScalarValue × α)}
    (h : ∀ m ∈ ms, m.1.identity ≠ key.identity) : setKey key value ms = ms ++ [(key, value)] := by
  induction ms with
  | nil => rfl
  | cons m ms ih =>
    obtain ⟨hm, hms⟩ := List.forall_mem_cons.1 h
    rw [setKey, if_neg hm, ih hms, List.cons_append]

theorem foldl_setKey {acc ms : List (ScalarValue × α)}
    (h : ((acc ++ ms).map fun m => m.1.identity).Nodup) :
    ms.foldl (fun acc m => setKey m.1 m.2 acc) acc = acc ++ ms := by
  induction ms generalizing acc with
  | nil => rw [List.foldl_nil, List.append_nil]
  | cons m ms ih =>
    have hnew : ∀ k ∈ acc, k.1.identity ≠ m.1.identity := by
      rw [List.map_append, List.nodup_append] at h
      exact fun k hk => h.2.2 _ (List.mem_map_of_mem hk) _ (List.mem_map_of_mem List.mem_cons_self)
    rw [List.foldl_cons, setKey_of_notMem hnew, ih (by simpa using h), List.append_assoc,
      List.singleton_append]

end

/-- A mapping without merges has its own pairs alone. -/
theorem mergedPairs_eq {pairs : List (Node × Node)} {tag : Tag} (path : List (List Char))
    (h : ∀ p ∈ pairs, ((p.1.resolve []).tag == .merge) = false) (fuel : Nat) :
    mergedPairs [] (fuel + 1) path (.mapping tag pairs) = pairs := by
  have hmerged : pairs.filter (fun p => (p.1.resolve []).tag == .merge) = [] := by
    rw [List.filter_eq_nil_iff]
    exact fun p hp => by rw [h p hp]; decide
  have hown : pairs.filter (fun p => !(p.1.resolve []).tag == .merge) = pairs := by
    rw [List.filter_eq_self]
    exact fun p hp => by rw [h p hp]; rfl
  have hresolve : Node.resolve [] (.mapping tag pairs) = .mapping tag pairs := rfl
  unfold mergedPairs
  rw [hresolve]
  dsimp only
  rw [hmerged, hown]
  rfl

theorem pairsOf_eq_map (ms : List (String × Json)) :
    pairsOf (ms.map fun m => (.text m.1, m.2)) =
      ms.map fun m => (textNode m.1.toList, nodeOf m.2) := by
  induction ms with
  | nil => rfl
  | cons m ms ih => rw [List.map_cons, pairsOf, ih, List.map_cons, Json.Name.toText]

/-- When no name comes twice, the members of a mapping are its pairs. -/
theorem members_pairsOf {ms : List (String × Json)} (hn : (ms.map Prod.fst).Nodup)
    (hk : ∀ m ∈ ms, IsKey m.1) (fuel : Nat) :
    members [] (fuel + 1) (.mapping .map (pairsOf (ms.map fun m => (.text m.1, m.2)))) =
      ms.map fun m => (keyOf m.1, nodeOf m.2) := by
  have hdistinct : (([] ++ ms.map fun m => (keyOf m.1, nodeOf m.2) : List (ScalarValue × Node)).map
      fun m => m.1.identity).Nodup := by
    have hnames : (ms.map fun m => (keyOf m.1, nodeOf m.2)).map (fun m => m.1.identity) =
        (ms.map Prod.fst).map Datum.Key.text := by
      rw [List.map_map, List.map_map]
      exact List.map_congr_left fun m hm => identity_keyOf (hk m hm)
    rw [List.nil_append, hnames]
    exact List.Pairwise.map Datum.Key.text (fun _ _ hne he => hne (Datum.Key.text.inj he)) hn
  have hpairs : ∀ p ∈ ms.map fun m => (textNode m.1.toList, nodeOf m.2),
      ((p.1.resolve []).tag == .merge) = false := by
    intro p hp
    obtain ⟨m, -, rfl⟩ := List.mem_map.1 hp
    rfl
  have hfold := foldl_setKey hdistinct
  rw [List.foldl_map] at hfold
  rw [members, pairsOf_eq_map, mergedPairs_eq [] hpairs, List.foldl_map]
  exact hfold

/-! ### Data -/

theorem membersOf_eq_map (ms : List (String × Json)) :
    membersOf (ms.map fun m => (.text m.1, m.2)) =
      ms.map fun m => (.text m.1, datumOf m.2) := by
  induction ms with
  | nil => rfl
  | cons m ms ih => rw [List.map_cons, membersOf, ih, List.map_cons, Json.Name.toText]

theorem nodesOf_eq_map (vs : List Json) : nodesOf vs = vs.map nodeOf := by
  induction vs with
  | nil => rfl
  | cons v vs ih => rw [nodesOf, ih, List.map_cons]

theorem dataOf_eq_map (vs : List Json) : dataOf vs = vs.map datumOf := by
  induction vs with
  | nil => rfl
  | cons v vs ih => rw [dataOf, ih, List.map_cons]

/-- The node of a value has its data, if the value does not have more levels than are looked at. -/
theorem toDatum_nodeOf {n : Nat} {v : Json} (h : Legible n v) (fuel : Nat) :
    (nodeOf v).toDatum [] (fuel + 1) n = datumOf v := by
  induction h with
  | string s => rfl
  | @array n vs _ ih =>
    have hdatum : (nodeOf (.array vs)).toDatum [] (fuel + 1) (n + 1) =
        .list ((nodesOf vs).map (Node.toDatum [] (fuel + 1) n)) := rfl
    rw [hdatum, datumOf, nodesOf_eq_map, dataOf_eq_map, List.map_map]
    exact congrArg Datum.list (List.map_congr_left ih)
  | @object n ms hn hk _ ih =>
    -- the keys are compared by their texts, so that no member replaces another
    have hdatum : (nodeOf (.object (ms.map fun m => (.text m.1, m.2)))).toDatum [] (fuel + 1)
        (n + 1) = .record ((members [] (fuel + 1) (.mapping .map (pairsOf (ms.map fun m =>
          (.text m.1, m.2))))).map fun m => (m.1.toKey, m.2.toDatum [] (fuel + 1) n)) := rfl
    rw [hdatum, members_pairsOf hn hk, datumOf, membersOf_eq_map, List.map_map]
    refine congrArg Datum.record (List.map_congr_left fun m hm => ?_)
    exact Prod.ext (toKey_keyOf (hk m hm)) (ih m hm)

/-- What is read from the text of a value. -/
theorem read_text {v : Json} (indent : Option Nat) (h : Legible depth v) :
    read (Json.text indent v) = .ok (datumOf v) := by
  unfold read
  rw [tokenize_text indent h, Outcome.ok_bind, document_tokensOf h, Outcome.ok_bind]
  dsimp only
  rw [faults_nodeOf h]
  dsimp only [firstFault]
  rw [List.length_append, List.length_singleton, toDatum_nodeOf h]
  rfl

end ApiScribe.Yaml
