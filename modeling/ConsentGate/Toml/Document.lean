import ConsentGate.Toml.Scalar
import ConsentGate.Toml.Table

namespace ConsentGate.Toml

def dropBlank (s : List Char) : List Char := s.dropWhile isBlank

def dropGap : (inComment : Bool) → List Char → List Char
  | _, [] => []
  | _, '\n' :: r => dropGap false r
  | _, '\r' :: '\n' :: r => dropGap false r
  | true, c :: r => if isControl c then c :: r else dropGap true r
  | false, c :: r =>
    if isBlank c then dropGap false r
    else if c == '#' then dropGap true r
    else c :: r

def endLine? : (inComment : Bool) → List Char → Option (List Char)
  | _, [] => some []
  | _, '\n' :: r => some r
  | _, '\r' :: '\n' :: r => some r
  | inComment, c :: r =>
    if inComment then if isControl c then none else endLine? true r
    else if c == '#' then endLine? true r
    else if isBlank c then endLine? false r
    else none

def isBare (c : Char) : Bool :=
  c.isAlphanum || c == '_' || c == '-'

def readSimpleKey? (s : List Char) : Option (String × List Char) :=
  match readLine? s with
  | some (k, r) => some (String.ofList k, r)
  | none =>
    if (s.takeWhile isBare).isEmpty then none
    else some (String.ofList (s.takeWhile isBare), s.dropWhile isBare)

def readParts? : Nat → List Char → Option (List String × List Char)
  | 0, _ => none
  | n + 1, s => do
    let (k, r) ← readSimpleKey? s
    match dropBlank r with
    | '.' :: r => return ((← readParts? n (dropBlank r)).map (k :: ·) id)
    | r => return ([k], r)

/-- How many parts a key may have, and how deep lists and tables within lines may nest. -/
def maxDepth : Nat := 80

def readKey? (s : List Char) : Option (List String × List Char) :=
  readParts? maxDepth s

mutual

/-- Reads a value in at most `n` steps; lists and tables may nest `depth` deep in it. -/
def readValue? : Nat → (depth : Nat) → List Char → Option (SettingTree × List Char)
  | 0, _, _ => none
  | _, 0, '[' :: _ => none
  | _, 0, '\x7b' :: _ => none
  | n + 1, depth + 1, '[' :: r => readItems? n depth [] (dropGap false r)
  | n + 1, depth + 1, '\x7b' :: r => readFields? n depth [] (dropGap false r)
  | _, _, s => readScalar? s

def readItems? : Nat → (depth : Nat) → List SettingTree → List Char →
    Option (SettingTree × List Char)
  | 0, _, _, _ => none
  | _ + 1, _, items, ']' :: r => some (.list items.reverse, r)
  | n + 1, depth, items, s => do
    let (v, r) ← readValue? n depth s
    match dropGap false r with
    | ',' :: r => readItems? n depth (v :: items) (dropGap false r)
    | ']' :: r => return (.list (v :: items).reverse, r)
    | _ => none

def readFields? : Nat → (depth : Nat) → Table → List Char → Option (SettingTree × List Char)
  | 0, _, _, _ => none
  | _ + 1, _, t, '\x7d' :: r => some (.table (treeEntries t), r)
  | n + 1, depth, t, s => do
    let (key, r) ← readKey? s
    let r ← Timestamp.expect? '=' (dropGap false r)
    let (v, r) ← readValue? n depth (dropGap false r)
    let t ← t.setValue? v key
    match dropGap false r with
    | ',' :: r => readFields? n depth t (dropGap false r)
    | '\x7d' :: r => return (.table (treeEntries t), r)
    | _ => none

end

def readRest? : Nat → (header : List String) → Table → List Char → Option Table
  | 0, _, _, _ => none
  | n + 1, header, t, s =>
    match dropGap false s with
    | [] => some t
    | '[' :: '[' :: r => do
      match ← readKey? (dropBlank r) with
      | (key, ']' :: ']' :: r) => readRest? n key (← t.headItem? key) (← endLine? false r)
      | _ => none
    | '[' :: r => do
      match ← readKey? (dropBlank r) with
      | (key, ']' :: r) => readRest? n key (← t.head? key) (← endLine? false r)
      | _ => none
    | s => do
      let (key, r) ← readKey? s
      let r ← Timestamp.expect? '=' r
      let (v, r) ← readValue? n maxDepth (dropBlank r)
      readRest? n header (← t.setUnder? v key header) (← endLine? false r)

/-- The key that marks a table as a date or a time, which its value spells. -/
def momentKey : String := "$__toml_private_datetime"

def marksMoment (l : List (String × SettingTree)) : Bool :=
  (l.lookup momentKey).isSome && l.all (momentKey ≤ ·.1)

def markedMoment? : Option SettingTree → Option SettingTree
  | some (.text s) => (moment? s.toList).map fun m => .text (String.ofList m)
  | _ => none

mutual

/-- The tree with moments in place of the tables that mark them. -/
def resolveMoments? : SettingTree → Option SettingTree
  | .table l =>
    if marksMoment l then markedMoment? (l.lookup momentKey)
    else (resolveEntries? l).map .table
  | .list l => (resolveItems? l).map .list
  | t => some t

def resolveEntries? : List (String × SettingTree) → Option (List (String × SettingTree))
  | [] => some []
  | (k, t) :: r => do return (k, ← resolveMoments? t) :: (← resolveEntries? r)

def resolveItems? : List SettingTree → Option (List SettingTree)
  | [] => some []
  | t :: r => do return (← resolveMoments? t) :: (← resolveItems? r)

end

def dropMark : List Char → List Char
  | '\uFEFF' :: r => r
  | s => s

/-- The entries of the document that a text spells. Every step reads a character, or ends a list or a
table whose start it read. -/
def parse? (text : String) : Option (List (String × SettingTree)) := do
  let s := dropMark text.toList
  let entries := treeEntries (← readRest? (2 * s.length + 2) [] [] s)
  if marksMoment entries then none else resolveEntries? entries

end ConsentGate.Toml
