namespace ConsentGate

/-- A finite set of texts, in the order of code points. -/
structure TextSet where
  items : List String
  sorted : items.Pairwise (· < ·)
  deriving DecidableEq

namespace TextSet

def empty : TextSet := ⟨[], .nil⟩

instance : Inhabited TextSet := ⟨empty⟩

def insertItem (x : String) : List String → List String
  | [] => [x]
  | y :: r => if x < y then x :: y :: r else if x = y then y :: r else y :: insertItem x r

theorem mem_insertItem {x z : String} {l : List String} :
    z ∈ insertItem x l ↔ z = x ∨ z ∈ l := by
  induction l with
  | nil => simp [insertItem]
  | cons y r ih =>
    simp only [insertItem]
    split
    · simp
    · split <;> simp_all
      grind

theorem pairwise_insertItem {x : String} {l : List String} (h : l.Pairwise (· < ·)) :
    (insertItem x l).Pairwise (· < ·) := by
  induction l with
  | nil => simp [insertItem]
  | cons y r ih =>
    obtain ⟨hy, hr⟩ := List.pairwise_cons.1 h
    simp only [insertItem]
    split
    · next hxy =>
      exact List.pairwise_cons.2
        ⟨fun z hz => by
          rcases List.mem_cons.1 hz with rfl | hz
          · exact hxy
          · exact String.lt_trans hxy (hy z hz), h⟩
    · next hxy =>
      split
      · exact h
      · next hne =>
        refine List.pairwise_cons.2 ⟨fun z hz => ?_, ih hr⟩
        rcases mem_insertItem.1 hz with rfl | hz
        · rcases Std.lt_trichotomy y z with h | h | h
          · exact h
          · exact absurd h.symm hne
          · exact absurd h hxy
        · exact hy z hz

def insert (x : String) (s : TextSet) : TextSet :=
  ⟨insertItem x s.items, pairwise_insertItem s.sorted⟩

def ofList (l : List String) : TextSet :=
  l.foldr insert empty

def toList (s : TextSet) : List String := s.items

def contains (s : TextSet) (x : String) : Bool := s.items.contains x

def isEmpty (s : TextSet) : Bool := s.items.isEmpty

instance : Membership String TextSet := ⟨fun s x => x ∈ s.items⟩

instance (x : String) (s : TextSet) : Decidable (x ∈ s) :=
  inferInstanceAs (Decidable (x ∈ s.items))

theorem mem_items {x : String} {s : TextSet} : x ∈ s.items ↔ x ∈ s := Iff.rfl

@[simp] theorem mem_empty (x : String) : ¬ x ∈ empty := List.not_mem_nil

@[simp] theorem mem_insert {x z : String} {s : TextSet} : z ∈ s.insert x ↔ z = x ∨ z ∈ s :=
  mem_insertItem

@[simp] theorem mem_ofList {x : String} {l : List String} : x ∈ ofList l ↔ x ∈ l := by
  induction l with
  | nil => exact iff_of_false (mem_empty x) List.not_mem_nil
  | cons y r ih => simpa [ofList] using or_congr_right ih

@[simp] theorem ofList_toList (s : TextSet) : ofList s.toList = s := by
  obtain ⟨l, h⟩ := s
  induction l with
  | nil => rfl
  | cons x l ih =>
    obtain ⟨hx, hl⟩ := List.pairwise_cons.1 h
    have hrest : ofList l = ⟨l, hl⟩ := ih hl
    have hinsert : insertItem x l = x :: l := by
      cases l with
      | nil => rfl
      | cons y l => simp [insertItem, hx y List.mem_cons_self]
    simp only [toList, ofList, List.foldr_cons] at hrest ⊢
    rw [hrest]
    simp only [insert, hinsert]

@[simp] theorem contains_iff {s : TextSet} {x : String} : s.contains x = true ↔ x ∈ s := by
  simp [contains, mem_items]

end TextSet

end ConsentGate
