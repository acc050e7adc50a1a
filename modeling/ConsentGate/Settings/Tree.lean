import ConsentGate.Decimal.Binary64

namespace ConsentGate

inductive SettingTree where
  | null
  | bool (b : Bool)
  | whole (n : Int)
  | real (x : Binary64)
  | text (s : String)
  | list (items : List SettingTree)
  | table (entries : List (String × SettingTree))
  deriving Inhabited

namespace SettingTree

def entries : SettingTree → List (String × SettingTree)
  | .table l => l
  | _ => []

def items : SettingTree → List SettingTree
  | .list l => l
  | _ => []

def setEntry (k : String) (v : SettingTree) :
    List (String × SettingTree) → List (String × SettingTree)
  | [] => [(k, v)]
  | e :: r => if e.1 = k then (k, v) :: r else e :: setEntry k v r

mutual

/-- A tree with another one laid over it. A table is laid over a table entry by entry, and over anything
else as over an empty table; all other values replace what was there. -/
def overlay : (upper lower : SettingTree) → SettingTree
  | .table l, lower => .table (overlayAll l lower.entries)
  | v, _ => v

def overlayAll : (upper lower : List (String × SettingTree)) → List (String × SettingTree)
  | [], l => l
  | (k, v) :: r, l => overlayAll r (setEntry k (v.overlay ((l.lookup k).getD .null)) l)

end

/-- One step into a tree: to the entry of a key, or to an item of a list, counted from the end if the
index is negative. -/
inductive Step where
  | key (k : String)
  | index (n : Int)
  deriving DecidableEq, Repr

/-- The list with an item changed. Null stands for items that are missing before it: behind the list for
an index beyond its end, in front of it for one before its start. -/
def changeItem (n : Int) (f : SettingTree → SettingTree) (l : List SettingTree) :
    List SettingTree :=
  if 0 ≤ n then
    (l ++ List.replicate (n.toNat + 1 - l.length) SettingTree.null).modify n.toNat f
  else
    let missing := (-n).toNat - l.length
    (List.replicate missing SettingTree.null ++ l).modify (missing + l.length - (-n).toNat) f

/-- The tree with a value laid over what a path leads to. Whatever the path meets that is no table or
no list, as the step asks, is replaced. -/
def setAt : List Step → SettingTree → SettingTree → SettingTree
  | [], v, t => v.overlay t
  | .key k :: path, v, t =>
    .table (setEntry k (setAt path v ((t.entries.lookup k).getD .null)) t.entries)
  | .index n :: path, v, t => .list (changeItem n (setAt path v) t.items)

def maxLength : Nat := 2 ^ 57

def Step.isInReach : Step → Bool
  | .key _ => true
  | .index n => if 0 ≤ n then n.toNat + 1 < maxLength else (-n).toNat < maxLength

def isKeyChar (c : Char) : Bool :=
  c.isAlphanum || c == '_' || c == '-'

def isIndexGap (c : Char) : Bool :=
  c == ' ' || c == '\t'

/-- The index in brackets, and what follows. The opening bracket is read already. An index is a word of
64 bits, with a minus sign or without sign. -/
def readIndex? (s : List Char) : Option (Int × List Char) :=
  let s := s.dropWhile isIndexGap
  let (negative, ds) := match s with
    | '-' :: r => (true, r)
    | r => (false, r)
  let n : Int := Text.Digits.value (ds.takeWhile Char.isDigit)
  let n := if negative then -n else n
  match (ds.dropWhile Char.isDigit).dropWhile isIndexGap with
  | ']' :: rest =>
    if (ds.takeWhile Char.isDigit).isEmpty || n < -2 ^ 63 || 2 ^ 63 ≤ n then none
    else some (n, rest)
  | _ => none

def steps? : Nat → List Char → Option (List Step)
  | _, [] => some []
  | n + 1, '.' :: r =>
    if (r.takeWhile isKeyChar).isEmpty then none
    else (steps? n (r.dropWhile isKeyChar)).map (.key (String.ofList (r.takeWhile isKeyChar)) :: ·)
  | n + 1, '[' :: r => (readIndex? r).bind fun (i, rest) => (steps? n rest).map (.index i :: ·)
  | _, _ => none

/-- The path that a text spells. A text that spells none is a key by itself. -/
def path (s : String) : List Step :=
  ((steps? (s.length + 1) ('.' :: s.toList)).getD [.key s])

def set? (t : SettingTree) (s : String) (v : SettingTree) : Option SettingTree :=
  if (path s).all Step.isInReach then some (setAt (path s) v t) else none

def setAll? (t : SettingTree) (l : List (String × SettingTree)) : Option SettingTree :=
  l.foldlM (fun t e => t.set? e.1 e.2) t

end SettingTree

end ConsentGate
