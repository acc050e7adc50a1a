namespace ConsentGate.Text

def cutAt (p : Char → Bool) : List Char → List Char × Option (List Char)
  | [] => ([], none)
  | c :: r => if p c then ([], some r) else (c :: (cutAt p r).1, (cutAt p r).2)

def before (p : Char → Bool) (s : List Char) : List Char :=
  s.takeWhile (fun c => !p c)

def cutOn? (sep : List Char) : List Char → Option (List Char × List Char)
  | [] => none
  | c :: r =>
    match sep.isPrefixOf? (c :: r) with
    | some rest => some ([], rest)
    | none => (cutOn? sep r).map fun cut => (c :: cut.1, cut.2)

def cutLast? (p : Char → Bool) : List Char → Option (List Char × List Char)
  | [] => none
  | c :: r =>
    match cutLast? p r with
    | some cut => some (c :: cut.1, cut.2)
    | none => if p c then some ([], r) else none

/-- The maximal pieces without a character that satisfies `p`, empty ones included; never `[]`. -/
def pieces (p : Char → Bool) : List Char → List (List Char)
  | [] => [[]]
  | c :: r =>
    if p c then [] :: pieces p r
    else
      match pieces p r with
      | [] => [[c]]
      | w :: ws => (c :: w) :: ws

def trim (p : Char → Bool) (s : List Char) : List Char :=
  ((s.dropWhile p).reverse.dropWhile p).reverse

/-- The text in lower case, as far as ASCII letters go. -/
def lower (s : List Char) : List Char :=
  s.map Char.toLower

theorem cutAt_fst (p : Char → Bool) (s : List Char) : (cutAt p s).1 = before p s := by
  induction s with
  | nil => rfl
  | cons c r ih => by_cases h : p c <;> simp_all [cutAt, before]

theorem pieces_ne_nil (p : Char → Bool) (s : List Char) : pieces p s ≠ [] := by
  cases s with
  | nil => simp [pieces]
  | cons c r =>
    simp only [pieces]
    split
    · simp
    · split <;> simp

end ConsentGate.Text
