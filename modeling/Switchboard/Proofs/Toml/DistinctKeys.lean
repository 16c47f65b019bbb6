import Switchboard.Proofs.Toml.Tables

/-!
# Keys come once

In the table that a text stands for no key comes twice, and neither does one in any table inside it
(`tidy_of_parse`). So an entry can be found by its key, wherever it stands, and it makes no difference
in which order a text gives its keys. What was read as a value between keys holds no table unless it
was written as one (`Expr.IsSound`), and every statement that a table takes leaves it with different
keys (`Branch.Tidy`).
-/

namespace Switchboard.Toml

/-- A value holds no others. -/
structure Value.IsLeaf (v : Value) : Prop where
  not_array : ∀ items, v ≠ .array items
  not_table : ∀ es, v ≠ .table es

/-- No table in a value, nor the value itself, has a key twice. -/
inductive Value.Tidy : Value → Prop
  | leaf {v : Value} (h : v.IsLeaf) : Tidy v
  | array {items : List Value} (hitems : ∀ v ∈ items, Tidy v) : Tidy (.array items)
  | table {es : Entries} (hkeys : (es.map (·.1)).Nodup) (hvalues : ∀ e ∈ es, Tidy e.2) :
    Tidy (.table es)

/-- An entry that is found is there. -/
theorem mem_of_lookup {α : Type} {es : List (String × α)} {k : String} {x : α}
    (h : es.lookup k = some x) : (k, x) ∈ es := by
  obtain ⟨before, behind, rfl, -⟩ := List.lookup_eq_some_iff.1 h
  exact List.mem_append_right before List.mem_cons_self

/-! ## Tables while they are built -/

namespace Branch

variable {b b' : Branch} {k : String} {n : Node} {v : Value}

/-- A table that is being built has no key twice, and what its keys stand for is tidy. -/
structure Tidy (b : Branch) : Prop where
  keys : (b.map (·.1)).Nodup
  nodes : ∀ e ∈ b, e.2.value.Tidy

/-- The value of a table that is being built has its keys, and under each what it stands for. -/
theorem values_eq_map (b : Branch) : values b = b.map fun e => (e.1, e.2.value) := by
  induction b with
  | nil => rfl
  | cons e b ih => exact congrArg ((e.1, e.2.value) :: ·) ih

/-- A table that is being built is tidy exactly if its value is. -/
theorem tidy_values_iff : (Value.table (values b)).Tidy ↔ b.Tidy := by
  rw [values_eq_map]
  constructor
  · intro h
    cases h with
    | leaf hleaf => exact absurd rfl (hleaf.not_table _)
    | table hkeys hvalues =>
      refine ⟨by simpa [Function.comp_def] using hkeys, fun e he => ?_⟩
      exact hvalues _ (List.mem_map_of_mem he)
  · intro h
    refine .table (by simpa [Function.comp_def] using h.keys) fun e he => ?_
    obtain ⟨e', he', rfl⟩ := List.mem_map.1 he
    exact h.nodes e' he'

namespace Tidy

/-- A table without keys is tidy. -/
theorem nil : Tidy [] := ⟨List.nodup_nil, by simp⟩

/-- What a key stands for is tidy. -/
theorem node (h : b.Tidy) (hn : b.lookup k = some n) : n.value.Tidy :=
  h.nodes _ (mem_of_lookup hn)

/-- A table inside is tidy. -/
theorem inner {origin : Origin} {inner : Branch} (h : b.Tidy)
    (hn : b.lookup k = some (.table origin inner)) : inner.Tidy :=
  tidy_values_iff.1 (by simpa [Node.value] using h.node hn)

/-- The tables of an array are tidy, those that are complete and the current one. -/
theorem tables {done : List Value} {current : Branch} (h : b.Tidy)
    (hn : b.lookup k = some (.tables done current)) : (∀ v ∈ done, v.Tidy) ∧ current.Tidy := by
  have harray := h.node hn
  rw [Node.value] at harray
  cases harray with
  | leaf hleaf => exact absurd rfl (hleaf.not_array _)
  | array hitems =>
    exact ⟨fun v hv => hitems v (List.mem_append_left _ hv), tidy_values_iff.1 (hitems _ (by simp))⟩

/-- A key that is new can be added. -/
theorem concat (h : b.Tidy) (hk : b.lookup k = none) (hn : n.value.Tidy) : Tidy (b ++ [(k, n)]) := by
  -- A key that stands in the table would have been found.
  have hnew : k ∉ b.map (·.1) := by
    intro hmem
    obtain ⟨e, he, rfl⟩ := List.mem_map.1 hmem
    simp [lookup_of_mem h.keys he] at hk
  constructor
  · rw [List.map_append, List.nodup_append]
    refine ⟨h.keys, by simp, fun x hx y hy => ?_⟩
    rw [List.map_singleton, List.mem_singleton] at hy
    rintro rfl
    rw [hy] at hx
    exact hnew hx
  · intro e he
    rcases List.mem_append.1 he with he | he
    · exact h.nodes e he
    · rw [List.mem_singleton.1 he]
      exact hn

/-- What a key stands for can be replaced. -/
theorem put (h : b.Tidy) (hk : (b.lookup k).isSome = true) (hn : n.value.Tidy) :
    Tidy (b.put k n) := by
  -- A key that is put in again keeps its place; so the keys are those that were there.
  have hkeys : (b.put k n).map (·.1) = b.map (·.1) := by
    clear h
    induction b with
    | nil => simp at hk
    | cons e b ih =>
      rw [Branch.put]
      split_ifs with heq
      · rw [List.map_cons, List.map_cons, heq]
      · rw [List.lookup_cons, beq_eq_false_iff_ne.2 (Ne.symm heq)] at hk
        rw [List.map_cons, List.map_cons, ih hk]
  -- Of the entries at most the one that is put in is new.
  have hmem : ∀ b : Branch, ∀ e ∈ b.put k n, e = (k, n) ∨ e ∈ b := by
    intro b
    induction b with
    | nil => simp [Branch.put]
    | cons e b ih =>
      intro x hx
      rw [Branch.put] at hx
      split_ifs at hx with heq
      · exact (List.mem_cons.1 hx).imp id (List.mem_cons_of_mem _)
      · rcases List.mem_cons.1 hx with rfl | hx
        · exact .inr List.mem_cons_self
        · exact (ih x hx).imp id (List.mem_cons_of_mem _)
  refine ⟨by rw [hkeys]; exact h.keys, fun e he => ?_⟩
  rcases hmem b e he with rfl | he
  · exact hn
  · exact h.nodes e he

end Tidy

/-- A table stands for something tidy if it is tidy. -/
theorem tidy_node {origin : Origin} (h : b.Tidy) : (Node.table origin b).value.Tidy := by
  rw [Node.value]
  exact tidy_values_iff.2 h

/-- An array of tables stands for something tidy if all of them are tidy, the last one too. -/
theorem tidy_tables {done : List Value} (hdone : ∀ v ∈ done, v.Tidy) (h : b.Tidy) :
    (Node.tables done b).value.Tidy := by
  rw [Node.value]
  refine .array fun v hv => ?_
  rcases List.mem_append.1 hv with hv | hv
  · exact hdone v hv
  · rw [List.mem_singleton.1 hv]
    exact tidy_values_iff.2 h

/-! ## What statements do to tables -/

/-- A value that is assigned leaves the table tidy. -/
theorem Tidy.assign {path : List String} {isOpen : Bool} (h : b.Tidy) (hv : v.Tidy)
    (hb : b.assign isOpen v path = some b') : b'.Tidy := by
  induction path generalizing b b' isOpen with
  | nil => simp [Branch.assign] at hb
  | cons k ks ih =>
    cases ks with
    | nil =>
      -- The last key of the path is given its value here, and only where it was not known.
      rw [Branch.assign] at hb
      cases hk : b.lookup k with
      | some n => simp [hk] at hb
      | none =>
        simp only [hk] at hb
        split_ifs at hb
        rw [← Option.some.inj hb]
        exact h.concat hk hv
    | cons k' ks =>
      -- The path goes on in a table inside: a new one, one that is there, or the last of an array.
      rw [Branch.assign.eq_def] at hb
      cases hk : b.lookup k with
      | none =>
        simp only [hk] at hb
        obtain ⟨inner, hinner, rfl⟩ := Option.map_eq_some_iff.1 hb
        exact h.concat hk (tidy_node (ih .nil hinner))
      | some n =>
        have hthere : (b.lookup k).isSome = true := by rw [hk]; rfl
        cases n with
        | closed v => simp [hk] at hb
        | table origin inner =>
          simp only [hk] at hb
          split_ifs at hb
          obtain ⟨inner', hinner, rfl⟩ := Option.map_eq_some_iff.1 hb
          exact h.put hthere (tidy_node (ih (h.inner hk) hinner))
        | tables done current =>
          simp only [hk] at hb
          obtain ⟨current', hcurrent, rfl⟩ := Option.map_eq_some_iff.1 hb
          obtain ⟨hdone, htidy⟩ := h.tables hk
          exact h.put hthere (tidy_tables hdone (ih htidy hcurrent))

/-- A change of a table somewhere inside leaves all tidy if it leaves that table tidy. -/
theorem Tidy.descend {change : Branch → Option Branch}
    (hchange : ∀ {b b' : Branch}, b.Tidy → change b = some b' → b'.Tidy) {path : List String}
    (h : b.Tidy) (hb : b.descend change path = some b') : b'.Tidy := by
  induction path generalizing b b' with
  | nil => exact hchange h hb
  | cons k ks ih =>
    rw [Branch.descend] at hb
    -- A table that is not there is made and descended into, and one that is there is put back
    -- changed.
    cases hk : b.lookup k with
    | none =>
      simp only [hk] at hb
      obtain ⟨inner, hinner, rfl⟩ := Option.map_eq_some_iff.1 hb
      exact h.concat hk (tidy_node (ih .nil hinner))
    | some n =>
      have hthere : (b.lookup k).isSome = true := by rw [hk]; rfl
      cases n with
      | closed v => simp [hk] at hb
      | table origin inner =>
        simp only [hk] at hb
        obtain ⟨inner', hinner, rfl⟩ := Option.map_eq_some_iff.1 hb
        exact h.put hthere (tidy_node (ih (h.inner hk) hinner))
      | tables done current =>
        simp only [hk] at hb
        obtain ⟨current', hcurrent, rfl⟩ := Option.map_eq_some_iff.1 hb
        obtain ⟨hdone, htidy⟩ := h.tables hk
        exact h.put hthere (tidy_tables hdone (ih htidy hcurrent))

/-- A header leaves the table that it names tidy, whether that is new or was known from tables
inside it. -/
theorem Tidy.openTable (h : b.Tidy) (hb : b.openTable k = some b') : b'.Tidy := by
  rw [Branch.openTable] at hb
  split at hb
  · rename_i hk
    rw [← Option.some.inj hb]
    exact h.concat hk (tidy_node .nil)
  · rename_i inner hk
    rw [← Option.some.inj hb]
    exact h.put (by rw [hk]; rfl) (tidy_node (h.inner hk))
  · simp at hb

/-- A header of an array adds a tidy table to it, and the one before it is complete. -/
theorem Tidy.pushTable (h : b.Tidy) (hb : b.pushTable k = some b') : b'.Tidy := by
  rw [Branch.pushTable] at hb
  split at hb
  · rename_i hk
    rw [← Option.some.inj hb]
    exact h.concat hk (tidy_tables (by simp) .nil)
  · rename_i done current hk
    obtain ⟨hdone, htidy⟩ := h.tables hk
    rw [← Option.some.inj hb]
    -- The table that was the current one joins those that are complete.
    refine h.put (by rw [hk]; rfl) (tidy_tables (fun v hv => ?_) .nil)
    rcases List.mem_append.1 hv with hv | hv
    · exact hdone v hv
    · rw [List.mem_singleton.1 hv]
      exact tidy_values_iff.2 htidy
  · simp at hb

end Branch

/-! ## Values as they are written -/

/-- What stands in an expression for itself holds no other values. -/
inductive Expr.IsSound : Expr → Prop
  | plain {v : Value} (hleaf : v.IsLeaf) : IsSound (.plain v)
  | array {items : List Expr} (hitems : ∀ x ∈ items, IsSound x) : IsSound (.array items)
  | inlineTable {fields : List (List String × Expr)} (hfields : ∀ f ∈ fields, IsSound f.2) :
    IsSound (.inlineTable fields)

-- The three functions call one another along the expression, and the proofs do the same.
mutual

/-- The value of a sound expression is tidy. -/
theorem Expr.tidy_of_value? : ∀ {x : Expr} {v : Value}, x.IsSound → x.value? = some v → v.Tidy
  | .plain _, v, h, hv => by
    cases h with
    | plain hleaf =>
      rw [Expr.value?] at hv
      rw [← Option.some.inj hv]
      exact .leaf hleaf
  | .array items, v, h, hv => by
    cases h with
    | array hitems =>
      rw [Expr.value?] at hv
      obtain ⟨vs, hvs, rfl⟩ := Option.map_eq_some_iff.1 hv
      exact .array (Expr.tidy_of_values? hitems hvs)
  | .inlineTable fields, v, h, hv => by
    cases h with
    | inlineTable hfields =>
      rw [Expr.value?] at hv
      obtain ⟨b, hb, rfl⟩ := Option.map_eq_some_iff.1 hv
      exact Branch.tidy_values_iff.2 (Expr.tidy_of_branch? hfields .nil hb)

/-- The values of sound expressions are tidy. -/
theorem Expr.tidy_of_values? : ∀ {xs : List Expr} {vs : List Value}, (∀ x ∈ xs, x.IsSound) →
    Expr.values? xs = some vs → ∀ v ∈ vs, v.Tidy
  | [], vs, _, hvs => by
    rw [Expr.values?] at hvs
    simp [← Option.some.inj hvs]
  | x :: xs, vs, h, hvs => by
    rw [Expr.values?] at hvs
    obtain ⟨v, hv, hvs⟩ := Option.bind_eq_some_iff.1 hvs
    obtain ⟨rest, hrest, hvs⟩ := Option.bind_eq_some_iff.1 hvs
    rw [← Option.some.inj hvs]
    intro u hu
    rcases List.mem_cons.1 hu with rfl | hu
    · exact Expr.tidy_of_value? (h x List.mem_cons_self) hv
    · exact Expr.tidy_of_values? (fun y hy => h y (List.mem_cons_of_mem x hy)) hrest u hu

/-- Sound fields leave a tidy table tidy. -/
theorem Expr.tidy_of_branch? : ∀ {fields : List (List String × Expr)} {b b' : Branch},
    (∀ f ∈ fields, f.2.IsSound) → b.Tidy → Expr.branch? b fields = some b' → b'.Tidy
  | [], b, b', _, hb, hb' => by
    rw [Expr.branch?] at hb'
    rw [← Option.some.inj hb']
    exact hb
  | (path, x) :: fields, b, b', h, hb, hb' => by
    rw [Expr.branch?] at hb'
    obtain ⟨v, hv, hb'⟩ := Option.bind_eq_some_iff.1 hb'
    obtain ⟨next, hnext, hb'⟩ := Option.bind_eq_some_iff.1 hb'
    have hx : v.Tidy := Expr.tidy_of_value? (h (path, x) List.mem_cons_self) hv
    exact Expr.tidy_of_branch? (fun f hf => h f (List.mem_cons_of_mem _ hf)) (hb.assign hx hnext) hb'

end

/-! ## What is read -/

/-- A float holds no other values, even if it is too large to be held. -/
theorem isLeaf_floatValue (negative : Bool) (digits : Nat) (exponent : Int) :
    (floatValue negative digits exponent).IsLeaf := by
  unfold floatValue
  split <;> constructor <;> simp

/-- What is read as a float holds no other values. -/
theorem isLeaf_of_float? {cs : List Char} {v : Value} (h : float? cs = some v) : v.IsLeaf := by
  unfold float? at h
  dsimp only at h
  split at h
  · rw [← Option.some.inj h]
    constructor <;> simp
  · split at h
    · rw [← Option.some.inj h]
      constructor <;> simp
    · obtain ⟨whole, -, h⟩ := Option.bind_eq_some_iff.1 h
      split at h
      · simp at h
      · obtain ⟨part, -, h⟩ := Option.bind_eq_some_iff.1 h
        obtain ⟨e, -, h⟩ := Option.bind_eq_some_iff.1 h
        rw [← Option.some.inj h]
        exact isLeaf_floatValue _ _ _
      · obtain ⟨e, -, h⟩ := Option.bind_eq_some_iff.1 h
        rw [← Option.some.inj h]
        exact isLeaf_floatValue _ _ _

/-- What is read as a word without quotes, a number or a date holds no other values. -/
theorem isLeaf_of_scalar? {cs : List Char} {v : Value} (h : scalar? cs = some v) : v.IsLeaf := by
  unfold scalar? at h
  split_ifs at h
  · rw [← Option.some.inj h]
    constructor <;> simp
  · rw [← Option.some.inj h]
    constructor <;> simp
  · rw [← Option.some.inj h]
    constructor <;> simp
  · split at h
    · rw [← Option.some.inj h, Value.ofInt]
      split_ifs <;> constructor <;> simp
    · exact isLeaf_of_float? h

/-- What is read as a value without brackets is sound. -/
theorem isSound_of_plain? {cs rest : List Char} {x : Expr} (h : plain? cs = some (x, rest)) :
    x.IsSound := by
  unfold plain? at h
  split at h
  · obtain ⟨⟨s, _⟩, -, h⟩ := Option.map_eq_some_iff.1 h
    rw [← (Prod.mk.inj h).1]
    exact .plain ⟨by simp, by simp⟩
  · obtain ⟨⟨s, _⟩, -, h⟩ := Option.map_eq_some_iff.1 h
    rw [← (Prod.mk.inj h).1]
    exact .plain ⟨by simp, by simp⟩
  · obtain ⟨v, hv, h⟩ := Option.map_eq_some_iff.1 h
    rw [← (Prod.mk.inj h).1]
    exact .plain (isLeaf_of_scalar? hv)

/-- What holds of every item that can be read holds of all that stand between brackets. -/
theorem forall_of_items? {α : Type} {P : α → Prop} {close : Char}
    {item : List Char → Option (α × List Char)}
    (hitem : ∀ {cs rest x}, item cs = some (x, rest) → P x) {fuel : Nat} {cs rest : List Char}
    {xs : List α} (h : items? close item fuel cs = some (xs, rest)) : ∀ x ∈ xs, P x := by
  -- The induction is on the fuel, which is used up item by item.
  induction fuel generalizing cs rest xs with
  | zero => simp [items?] at h
  | succ fuel ih =>
    unfold items? at h
    obtain ⟨cs, -, h⟩ := Option.bind_eq_some_iff.1 h
    split_ifs at h with hclose
    · rw [← (Prod.mk.inj (Option.some.inj h)).1]
      simp
    · obtain ⟨⟨x, cs⟩, hx, h⟩ := Option.bind_eq_some_iff.1 h
      obtain ⟨cs, -, h⟩ := Option.bind_eq_some_iff.1 h
      split at h
      · split_ifs at h
        · obtain ⟨⟨xs', cs⟩, hxs, h⟩ := Option.bind_eq_some_iff.1 h
          rw [← (Prod.mk.inj (Option.some.inj h)).1]
          intro y hy
          rcases List.mem_cons.1 hy with rfl | hy
          · exact hitem hx
          · exact ih hxs y hy
        · rw [← (Prod.mk.inj (Option.some.inj h)).1]
          simpa using hitem hx
      · simp at h

/-- What is read behind an equals sign is sound if values are. -/
theorem isSound_of_field? {value : List Char → Option (Expr × List Char)}
    (hvalue : ∀ {cs rest x}, value cs = some (x, rest) → x.IsSound) {cs rest : List Char}
    {f : List String × Expr} (h : field? value cs = some (f, rest)) : f.2.IsSound := by
  unfold field? at h
  obtain ⟨⟨path, cs⟩, -, h⟩ := Option.bind_eq_some_iff.1 h
  dsimp only at h
  split at h
  · obtain ⟨⟨v, cs⟩, hv, h⟩ := Option.bind_eq_some_iff.1 h
    rw [← (Prod.mk.inj (Option.some.inj h)).1]
    exact hvalue hv
  · simp at h

/-- What is read as a value is sound, however deep its brackets are nested. -/
theorem isSound_of_value? {depth : Nat} {cs rest : List Char} {x : Expr}
    (h : value? depth cs = some (x, rest)) : x.IsSound := by
  induction depth generalizing cs rest x with
  | zero => exact isSound_of_plain? h
  | succ depth ih =>
    unfold value? at h
    split at h
    · obtain ⟨⟨xs, cs⟩, hxs, h⟩ := Option.map_eq_some_iff.1 h
      rw [← (Prod.mk.inj h).1]
      exact .array (forall_of_items? ih hxs)
    · obtain ⟨⟨fs, cs⟩, hfs, h⟩ := Option.map_eq_some_iff.1 h
      rw [← (Prod.mk.inj h).1]
      exact .inlineTable (forall_of_items? (P := (·.2.IsSound)) (isSound_of_field? ih) hfs)
    · exact isSound_of_plain? h

/-- What a statement assigns is sound. -/
def Statement.IsSound : Statement → Prop
  | .assign _ x => x.IsSound
  | .table _ | .arrayTable _ => True

/-- What is read as a statement is sound. -/
theorem isSound_of_statement? {cs rest : List Char} {s : Statement}
    (h : statement? cs = some (s, rest)) : s.IsSound := by
  unfold statement? at h
  split at h
  · obtain ⟨⟨path, cs⟩, -, h⟩ := Option.map_eq_some_iff.1 h
    rw [← (Prod.mk.inj h).1]
    trivial
  · obtain ⟨⟨path, cs⟩, -, h⟩ := Option.map_eq_some_iff.1 h
    rw [← (Prod.mk.inj h).1]
    trivial
  · obtain ⟨⟨⟨path, v⟩, cs⟩, hv, h⟩ := Option.bind_eq_some_iff.1 h
    obtain ⟨cs, -, h⟩ := Option.bind_eq_some_iff.1 h
    rw [← (Prod.mk.inj (Option.some.inj h)).1]
    exact isSound_of_field? (f := (path, v)) isSound_of_value? hv

/-- What is read as statements is sound. -/
theorem isSound_of_statements? {fuel : Nat} {cs : List Char} {ss : List Statement}
    (h : statements? fuel cs = some ss) : ∀ s ∈ ss, s.IsSound := by
  induction fuel generalizing cs ss with
  | zero => simp [statements?] at h
  | succ fuel ih =>
    unfold statements? at h
    obtain ⟨cs, -, h⟩ := Option.bind_eq_some_iff.1 h
    split at h
    · rw [← Option.some.inj h]
      simp
    · obtain ⟨⟨s, cs⟩, hs, h⟩ := Option.bind_eq_some_iff.1 h
      obtain ⟨ss', hss, h⟩ := Option.bind_eq_some_iff.1 h
      rw [← Option.some.inj h]
      intro s' hs'
      rcases List.mem_cons.1 hs' with rfl | hs'
      · exact isSound_of_statement? hs
      · exact ih hss s' hs'

/-! ## Documents -/

/-- A statement leaves a document tidy. -/
theorem Branch.Tidy.add {d d' : Draft} {s : Statement} (h : d.root.Tidy) (hs : s.IsSound)
    (hd : d.add s = some d') : d'.root.Tidy := by
  cases s with
  | assign path x =>
    obtain ⟨v, hv, hd⟩ := Option.bind_eq_some_iff.1 hd
    obtain ⟨root, hroot, hd⟩ := Option.bind_eq_some_iff.1 hd
    rw [← Option.some.inj hd]
    have hvalue : v.Tidy := Expr.tidy_of_value? hs hv
    exact h.descend (fun hb hb' => hb.assign hvalue hb') hroot
  | table path =>
    obtain ⟨k, -, hd⟩ := Option.bind_eq_some_iff.1 hd
    obtain ⟨root, hroot, hd⟩ := Option.bind_eq_some_iff.1 hd
    rw [← Option.some.inj hd]
    exact h.descend (fun hb hb' => hb.openTable hb') hroot
  | arrayTable path =>
    obtain ⟨k, -, hd⟩ := Option.bind_eq_some_iff.1 hd
    obtain ⟨root, hroot, hd⟩ := Option.bind_eq_some_iff.1 hd
    rw [← Option.some.inj hd]
    exact h.descend (fun hb hb' => hb.pushTable hb') hroot

/-- Statements leave a document tidy. -/
theorem Branch.Tidy.foldlM_add {ss : List Statement} {d d' : Draft} (h : d.root.Tidy)
    (hss : ∀ s ∈ ss, s.IsSound) (hd : ss.foldlM Draft.add d = some d') : d'.root.Tidy := by
  induction ss generalizing d with
  | nil =>
    rw [← Option.some.inj hd]
    exact h
  | cons s ss ih =>
    rw [List.foldlM_cons] at hd
    obtain ⟨next, hnext, hd⟩ := Option.bind_eq_some_iff.1 hd
    have htidy : next.root.Tidy := h.add (hss s List.mem_cons_self) hnext
    exact ih htidy (fun s' hs' => hss s' (List.mem_cons_of_mem s hs')) hd

/-- The table that a text stands for has no key twice, and no table inside it has. -/
theorem tidy_of_parse {text : String} {entries : Entries} (h : parse text = some entries) :
    (Value.table entries).Tidy := by
  obtain ⟨ss, hss, h⟩ := Option.bind_eq_some_iff.1 h
  obtain ⟨d, hd, h⟩ := Option.bind_eq_some_iff.1 h
  have hsound : ∀ s ∈ ss, s.IsSound := isSound_of_statements? hss
  have hempty : ({} : Draft).root.Tidy := .nil
  rw [← Option.some.inj h, Branch.tidy_values_iff]
  exact hempty.foldlM_add hsound hd

end Switchboard.Toml
