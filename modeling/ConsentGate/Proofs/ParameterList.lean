import ConsentGate.ParameterList
import ConsentGate.Proofs.Collection.TextSet
import ConsentGate.Proofs.Text.Cut

namespace ConsentGate

namespace ParameterList

open Text

variable {value : String} {items : TextSet}

/-- An item that a list can hold: it is not empty, and nothing in it separates items. -/
def IsItem (x : String) : Prop :=
  x.toList ≠ [] ∧ ∀ c ∈ x.toList, isSeparator c = false

theorem isItem_iff (x : String) :
    IsItem x ↔ x ≠ "" ∧ ∀ c ∈ x.toList, isBlank c = false ∧ c ≠ ',' := by
  simp [IsItem, isSeparator]

/-- A text that lists items one after the other. Between two of them stands at least one separator; any
number of them may stand there, and before and behind all items as well. -/
inductive Lists : List String → List Char → Prop
  | nil : Lists [] []
  | last (x : String) : Lists [x] x.toList
  | separator {xs : List String} {text : List Char} {c : Char} (hc : isSeparator c = true)
      (h : Lists xs text) : Lists xs (c :: text)
  | item {xs : List String} {text : List Char} {c : Char} (x : String) (hc : isSeparator c = true)
      (h : Lists xs text) : Lists (x :: xs) (x.toList ++ c :: text)

/-- A parameter lists the members of a set, in any order and each of them once or more. -/
def Spells (value : String) (items : TextSet) : Prop :=
  ∃ xs, Lists xs value.toList ∧ ∀ x, x ∈ xs ↔ x ∈ items

theorem isItem_of_mem_parse {x : String} (h : x ∈ parse value) : IsItem x := by
  obtain ⟨w, hw, rfl⟩ := List.mem_map.mp (TextSet.mem_ofList.mp h)
  obtain ⟨hw, hne⟩ := List.mem_filter.mp hw
  rw [IsItem, String.toList_ofList]
  exact ⟨by simpa using hne, false_of_mem_pieces hw⟩

theorem pieces_of_lists {xs : List String} {text : List Char} (h : Lists xs text)
    (hitem : ∀ x ∈ xs, IsItem x) :
    (pieces isSeparator text).filter (!·.isEmpty) = xs.map String.toList := by
  induction h with
  | nil => rfl
  | last x =>
    obtain ⟨hne, hx⟩ := hitem x List.mem_cons_self
    rw [pieces_eq_singleton hx]
    simp [hne]
  | @separator xs text c hc _ ih =>
    have hpieces : pieces isSeparator (c :: text) = [] :: pieces isSeparator text := by
      simp [pieces, hc]
    rw [hpieces, List.filter_cons_of_neg (by simp), ih hitem]
  | @item xs text c x hc _ ih =>
    obtain ⟨hne, hx⟩ := hitem x List.mem_cons_self
    have hrest := ih fun y hy => hitem y (List.mem_cons_of_mem x hy)
    rw [pieces_append_cons _ _ hc, pieces_eq_singleton hx, List.filter_append, hrest]
    simp [hne]

theorem parse_of_lists {xs : List String} (h : Lists xs value.toList) (hitem : ∀ x ∈ xs, IsItem x) :
    parse value = .ofList xs := by
  have hback : (xs.map String.toList).map String.ofList = xs := by
    rw [List.map_map]
    exact List.map_id'' (fun _ => String.ofList_toList) xs
  rw [parse, pieces_of_lists h hitem, hback]

theorem exists_lists (text : List Char) : ∃ xs, Lists xs text ∧ ∀ x ∈ xs, IsItem x := by
  -- An item is taken off at once with the separator behind it, so the induction is on the length.
  induction hl : text.length using Nat.strongRecOn generalizing text with
  | ind n ih =>
    have hitem : (cutAt isSeparator text).1 ≠ [] →
        IsItem (String.ofList (cutAt isSeparator text).1) := by
      intro hne
      rw [IsItem, String.toList_ofList]
      exact ⟨hne, cutAt_fst_false text⟩
    obtain ⟨_, htext⟩ | ⟨c, rest, hc, _, htext⟩ := cutAt_spec (p := isSeparator) text
    · rw [← htext] at hitem
      cases text with
      | nil => exact ⟨[], .nil, by simp⟩
      | cons d r =>
        have hlast := Lists.last (String.ofList (d :: r))
        rw [String.toList_ofList] at hlast
        exact ⟨_, hlast, List.forall_mem_singleton.mpr (hitem (by simp))⟩
    · generalize (cutAt isSeparator text).1 = w at hitem htext
      subst htext
      obtain ⟨xs, hlists, hxs⟩ := ih rest.length (by simp at hl; omega) rest rfl
      cases w with
      | nil => exact ⟨xs, .separator hc hlists, hxs⟩
      | cons d w =>
        have hmore := Lists.item (String.ofList (d :: w)) hc hlists
        rw [String.toList_ofList] at hmore
        exact ⟨_, hmore, List.forall_mem_cons.mpr ⟨hitem (by simp), hxs⟩⟩

theorem parse_eq_iff (hitem : ∀ x ∈ items, IsItem x) : parse value = items ↔ Spells value items := by
  constructor
  · rintro rfl
    obtain ⟨xs, hlists, hxs⟩ := exists_lists value.toList
    refine ⟨xs, hlists, fun x => ?_⟩
    rw [parse_of_lists hlists hxs, TextSet.mem_ofList]
  · rintro ⟨xs, hlists, hmem⟩
    rw [parse_of_lists hlists fun x hx => hitem x ((hmem x).mp hx)]
    apply TextSet.eq_of_mem_iff
    intro x
    rw [TextSet.mem_ofList, hmem]

theorem lists_intercalate (xs : List String) : Lists xs ([' '].intercalate (xs.map String.toList)) := by
  induction xs with
  | nil => exact .nil
  | cons x xs ih =>
    cases xs with
    | nil => simpa using Lists.last x
    | cons y ys =>
      rw [List.map_cons, List.intercalate_cons_of_ne_nil (by simp), List.append_assoc,
        List.singleton_append]
      exact .item x (by decide) ih

theorem spells_format (items : TextSet) : Spells (format items) items := by
  refine ⟨items.toList, ?_, fun _ => Iff.rfl⟩
  rw [format, String.toList_intercalate]
  exact lists_intercalate items.toList

theorem parse_format_iff : parse (format items) = items ↔ ∀ x ∈ items, IsItem x := by
  constructor
  · intro h x hx
    rw [← h] at hx
    exact isItem_of_mem_parse hx
  · intro hitem
    exact (parse_eq_iff hitem).mpr (spells_format items)

theorem parse_format_parse (value : String) : parse (format (parse value)) = parse value :=
  parse_format_iff.mpr fun _ => isItem_of_mem_parse

theorem format_inj {others : TextSet} (hitem : ∀ x ∈ items, IsItem x) (hother : ∀ x ∈ others, IsItem x)
    (h : format items = format others) : items = others := by
  rw [← parse_format_iff.mpr hitem, h, parse_format_iff.mpr hother]

end ParameterList

end ConsentGate
