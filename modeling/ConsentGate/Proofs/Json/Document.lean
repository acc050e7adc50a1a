import ConsentGate.Json.Document
import ConsentGate.Proofs.Collection.Reading
import ConsentGate.Proofs.Json.Token

namespace ConsentGate.Json

mutual

def depth : Json → Nat
  | .array items => itemsDepth items + 1
  | .object fields => fieldsDepth fields + 1
  | _ => 0

def itemsDepth : List Json → Nat
  | [] => 0
  | j :: r => max (depth j) (itemsDepth r)

def fieldsDepth : List (String × Json) → Nat
  | [] => 0
  | (_, j) :: r => max (depth j) (fieldsDepth r)

end

theorem fieldsDepth_append (a b : List (String × Json)) :
    fieldsDepth (a ++ b) = max (fieldsDepth a) (fieldsDepth b) := by
  induction a with
  | nil => exact (Nat.zero_max _).symm
  | cons f a ih => rw [List.cons_append, fieldsDepth, ih, fieldsDepth, Nat.max_assoc]

theorem fieldsDepth_le_iff {n : Nat} {fields : List (String × Json)} :
     fieldsDepth fields ≤ n ↔ ∀ f ∈ fields, depth f.2 ≤ n := by
  induction fields with
  | nil => simp [fieldsDepth]
  | cons f fields ih => rw [fieldsDepth, Nat.max_le, ih, List.forall_mem_cons]

mutual

/-- What a reader sees of a document that follows `n` levels. What nests deeper is unreadable. -/
def prune : Nat → Json → Json
  | n, .array items => if 0 < n then .array (pruneItems (n - 1) items) else .unreadable
  | n, .object fields => if 0 < n then .object (pruneFields (n - 1) fields) else .unreadable
  | _, j => j

def pruneItems : Nat → List Json → List Json
  | _, [] => []
  | n, j :: r => prune n j :: pruneItems n r

def pruneFields : Nat → List (String × Json) → List (String × Json)
  | _, [] => []
  | n, (k, j) :: r => (k, prune n j) :: pruneFields n r

end

mutual

theorem prune_of_depth : ∀ (n : Nat) (j : Json), depth j ≤ n → prune n j = j
  | n, .array items, h => by
    rw [depth] at h
    rw [prune, if_pos (by omega), pruneItems_of_depth (n - 1) items (by omega)]
  | n, .object fields, h => by
    rw [depth] at h
    rw [prune, if_pos (by omega), pruneFields_of_depth (n - 1) fields (by omega)]
  | _, .null, _ | _, .bool _, _ | _, .number _, _ | _, .string _, _ | _, .unreadable, _ => rfl

theorem pruneItems_of_depth : ∀ (n : Nat) (items : List Json), itemsDepth items ≤ n →
    pruneItems n items = items
  | _, [], _ => rfl
  | n, j :: r, h => by
    rw [itemsDepth] at h
    rw [pruneItems, prune_of_depth n j (by omega), pruneItems_of_depth n r (by omega)]

theorem pruneFields_of_depth : ∀ (n : Nat) (fields : List (String × Json)), fieldsDepth fields ≤ n →
    pruneFields n fields = fields
  | _, [], _ => rfl
  | n, (_, j) :: r, h => by
    rw [fieldsDepth] at h
    rw [pruneFields, prune_of_depth n j (by omega), pruneFields_of_depth n r (by omega)]

end

theorem pruneFields_eq_map (n : Nat) (fields : List (String × Json)) :
    pruneFields n fields = fields.map fun f => (f.1, prune n f.2) := by
  induction fields with
  | nil => rfl
  | cons f fields ih => rw [pruneFields, ih, List.map_cons]

theorem pruneFields_append (n : Nat) (a b : List (String × Json)) :
    pruneFields n (a ++ b) = pruneFields n a ++ pruneFields n b := by
  rw [pruneFields_eq_map, List.map_append, ← pruneFields_eq_map, ← pruneFields_eq_map]

namespace Reading

variable {limit : Nat} {stack : List Frame} {t : Token} {q q' : Reading} {ts us : List Token}

def run (limit : Nat) (q : Reading) (ts : List Token) : Option Reading :=
  ts.foldlM (step limit) q

theorem run_cons (h : step limit q t = some q') : run limit q (t :: ts) = run limit q' ts := by
  simp [run, h]

theorem run_append (h : run limit q ts = some q') : run limit q (ts ++ us) = run limit q' us := by
  rw [run, List.foldlM_append, ← run, h]
  rfl

@[simp] theorem complete_array (acc : List Json) (j : Json) :
    complete (.array acc :: stack) j = ⟨.array (j :: acc) :: stack, .after⟩ := rfl

@[simp] theorem complete_object (fields : List (Option String × Json)) (key : Option String)
    (j : Json) : complete (.object fields key :: stack) j =
      ⟨.object ((key, j) :: fields) none :: stack, .after⟩ := rfl

theorem limited_cons (limit : Nat) (stack : List Frame) (f : Frame) (j : Json) :
    limited limit (f :: stack) j = if stack.length < limit then j else .unreadable := by
  simp only [limited, List.isEmpty_iff, List.drop_eq_nil_iff, List.length_cons, Nat.succ_le_iff]

def keyed (f : String × Json) : Option String × Json := (some f.1, f.2)

theorem named?_keyed (fields : List (String × Json)) : named? (fields.map keyed) = some fields :=
  mapM_map_some fun _ _ => rfl

theorem step_closeArray (limit : Nat) (stack : List Frame) {e : Expect}
    (he : e = .valueOrClose ∨ e = .after) (acc : List Json) :
    step limit ⟨.array acc :: stack, e⟩ .closeArray =
      some (complete stack (if stack.length < limit then .array acc.reverse else .unreadable)) := by
  have hclose : close limit (.array acc :: stack) .closeArray =
      some (complete stack (if stack.length < limit then .array acc.reverse else .unreadable)) := by
    rw [close, limited_cons]
  obtain rfl | rfl := he <;> exact hclose

theorem step_closeObject (limit : Nat) (stack : List Frame) {e : Expect}
    (he : e = .keyOrClose ∨ e = .after) (acc : List (String × Json)) (key : Option String) :
    step limit ⟨.object (acc.map keyed) key :: stack, e⟩ .closeObject =
      some (complete stack (if stack.length < limit then .object acc.reverse else .unreadable)) := by
  have hclose : close limit (.object (acc.map keyed) key :: stack) .closeObject =
      some (complete stack (if stack.length < limit then .object acc.reverse else .unreadable)) := by
    rw [close, limited_cons, ← List.map_reverse, named?_keyed, Option.elim_some]
  obtain rfl | rfl := he <;> exact hclose

def Awaits (e : Expect) : Prop := e = .value ∨ e = .valueOrClose

def AwaitsKey (e : Expect) : Prop := e = .key ∨ e = .keyOrClose

theorem step_value {e : Expect} (he : Awaits e) (ht : t ≠ .closeArray) :
    step limit ⟨stack, e⟩ t = value stack t := by
  obtain rfl | rfl := he
  · rfl
  · cases t <;> first | rfl | exact absurd rfl ht

theorem run_value {e : Expect} {j : Json} (hv : value stack t = some (complete stack j))
    (he : Awaits e) (ht : t ≠ .closeArray) : run limit ⟨stack, e⟩ [t] = some (complete stack j) :=
  run_cons ((step_value he ht).trans hv)

theorem run_key {e : Expect} (he : AwaitsKey e) (fields : List (Option String × Json))
    (key : Option String) (k : String) (ts : List Token) :
    run limit ⟨.object fields key :: stack, e⟩ (.string (some k) :: .colon :: ts) =
      run limit ⟨.object fields (some k) :: stack, .value⟩ ts := by
  have hkey : step limit ⟨.object fields key :: stack, e⟩ (.string (some k)) =
      some ⟨.object fields key :: stack, .colon (some k)⟩ := by
    obtain rfl | rfl := he <;> rfl
  rw [run_cons hkey, run_cons rfl]

mutual

/-- The tokens of a value complete it, wherever it stands, as far as its levels are followed. -/
theorem run_tokens (limit : Nat) (stack : List Frame) {e : Expect} (he : Awaits e) :
    ∀ j : Json, j.IsExact →
      run limit ⟨stack, e⟩ j.tokens = some (complete stack (j.prune (limit - stack.length)))
  | .null, _ => run_value rfl he Token.noConfusion
  | .bool _, _ => run_value rfl he Token.noConfusion
  | .number _, _ => run_value rfl he Token.noConfusion
  | .string _, _ => run_value rfl he Token.noConfusion
  | .array items, hitems => by
    have hopen : step limit ⟨stack, e⟩ .openArray = some ⟨.array [] :: stack, .valueOrClose⟩ :=
      step_value he nofun
    rw [tokens, List.cons_append, run_cons hopen, prune]
    simp only [Nat.sub_pos_iff_lt]
    exact run_items limit stack [] (.inr rfl) items (fun _ => rfl) hitems
  | .object fields, hfields => by
    have hopen : step limit ⟨stack, e⟩ .openObject = some ⟨.object [] none :: stack, .keyOrClose⟩ :=
      step_value he nofun
    rw [tokens, List.cons_append, run_cons hopen, prune]
    simp only [Nat.sub_pos_iff_lt]
    exact run_fields limit stack [] none (.inr rfl) fields (fun _ => rfl) hfields

theorem run_items (limit : Nat) (stack : List Frame) (acc : List Json) {e : Expect}
    (he : Awaits e) : ∀ items : List Json, (items = [] → e = .valueOrClose) → AreExact items →
      run limit ⟨.array acc :: stack, e⟩ (itemTokens items ++ [.closeArray]) =
        some (complete stack (if stack.length < limit then
          .array (acc.reverse ++ pruneItems (limit - stack.length - 1) items) else .unreadable))
  | [], hclose, _ => by
    obtain rfl := hclose rfl
    rw [pruneItems, List.append_nil]
    exact run_cons (step_closeArray limit stack (.inl rfl) acc)
  | [j], _, hj => by
    have hvalue := run_tokens limit (.array acc :: stack) he j hj.1
    rw [List.length_cons, Nat.sub_add_eq] at hvalue
    rw [itemTokens, run_append hvalue, complete_array,
      run_cons (step_closeArray limit stack (.inr rfl) (_ :: acc))]
    simp [run, pruneItems]
  | j :: i :: r, _, hj => by
    have hvalue := run_tokens limit (.array acc :: stack) he j hj.1
    rw [List.length_cons, Nat.sub_add_eq] at hvalue
    have hlater := run_items limit stack (j.prune (limit - stack.length - 1) :: acc) (.inl rfl)
      (i :: r) nofun hj.2
    rw [itemTokens, List.append_assoc, run_append hvalue, List.cons_append, complete_array,
      run_cons rfl, hlater]
    simp [pruneItems]

theorem run_fields (limit : Nat) (stack : List Frame) (acc : List (String × Json))
    (key : Option String) {e : Expect} (he : AwaitsKey e) :
    ∀ fields : List (String × Json), (fields = [] → e = .keyOrClose) → HaveExact fields →
      run limit ⟨.object (acc.map keyed) key :: stack, e⟩ (fieldTokens fields ++ [.closeObject]) =
        some (complete stack (if stack.length < limit then
          .object (acc.reverse ++ pruneFields (limit - stack.length - 1) fields) else .unreadable))
  | [], hclose, _ => by
    obtain rfl := hclose rfl
    rw [pruneFields, List.append_nil]
    exact run_cons (step_closeObject limit stack (.inl rfl) acc key)
  | [(k, j)], _, hj => by
    have hvalue := run_tokens limit (.object (acc.map keyed) (some k) :: stack) (.inl rfl) j hj.1
    rw [List.length_cons, Nat.sub_add_eq] at hvalue
    have hclose := step_closeObject limit stack (.inr rfl)
      ((k, j.prune (limit - stack.length - 1)) :: acc) none
    rw [fieldTokens, List.cons_append, List.cons_append, run_key he, run_append hvalue,
      complete_object]
    exact (run_cons hclose).trans (by simp [run, pruneFields])
  | (k, j) :: f :: r, _, hj => by
    have hvalue := run_tokens limit (.object (acc.map keyed) (some k) :: stack) (.inl rfl) j hj.1
    rw [List.length_cons, Nat.sub_add_eq] at hvalue
    have hlater := run_fields limit stack ((k, j.prune (limit - stack.length - 1)) :: acc) none
      (.inl rfl) (f :: r) nofun hj.2
    rw [fieldTokens, List.append_assoc, List.cons_append, List.cons_append, run_key he,
      run_append hvalue, List.cons_append, complete_object, run_cons rfl]
    exact hlater.trans (by simp [pruneFields])

end

end Reading

theorem read?_render_prune {j : Json} (h : j.IsExact) : read? j.render = some (j.prune maxDepth) := by
  have hrun := Reading.run_tokens maxDepth [] (.inl rfl) j h
  rw [Reading.run, List.length_nil, Nat.sub_zero] at hrun
  rw [read?, ofText?_render h]
  simp [hrun, Reading.complete]

/-- A document reads back from its text. -/
theorem read?_render {j : Json} (h : j.IsExact) (hdepth : j.depth ≤ maxDepth) :
    read? j.render = some j := by
  rw [read?_render_prune h, prune_of_depth maxDepth j hdepth]

theorem render_inj {i j : Json} (hi : i.IsExact) (hj : j.IsExact) (h : i.render = j.render) :
    i = j := by
  have htokens : i.tokens = j.tokens := by
    rw [← Option.some.injEq, ← ofText?_render hi, ← ofText?_render hj, h]
  -- With as many levels as both have, the tokens say which document it is.
  have hdocument : ∀ {k : Json}, k.IsExact → k.depth ≤ max i.depth j.depth →
      Reading.run (max i.depth j.depth) ⟨[], .value⟩ k.tokens = some ⟨[], .done k⟩ := by
    intro k hk hdepth
    rw [Reading.run_tokens (max i.depth j.depth) [] (.inl rfl) k hk, List.length_nil, Nat.sub_zero,
      prune_of_depth _ k hdepth]
    rfl
  have hsame := hdocument hi (Nat.le_max_left _ _)
  rw [htokens, hdocument hj (Nat.le_max_right _ _)] at hsame
  simpa using hsame.symm

end ConsentGate.Json
