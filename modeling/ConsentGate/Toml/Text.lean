import ConsentGate.Text.Hex

namespace ConsentGate.Toml

def isControl (c : Char) : Bool :=
  (c.toNat < 0x20 && c != '\t') || c.toNat == 0x7F

def isBlank (c : Char) : Bool := c == ' ' || c == '\t'

def shortEscape? : Char → Option Char
  | 'b' => some '\x08'
  | 'e' => some '\x1b'
  | 't' => some '\t'
  | 'n' => some '\n'
  | 'f' => some '\x0c'
  | 'r' => some '\r'
  | '"' => some '"'
  | '\\' => some '\\'
  | _ => none

def scalar? (ds : List Char) : Option Char :=
  (Text.Hex.number? ds).bind fun n =>
    if n < 0xD800 ∨ (0xDFFF < n ∧ n < 0x110000) then some (Char.ofNat n) else none

def before (c : Char) : Option (List Char × List Char) → Option (List Char × List Char) :=
  Option.map fun r => (c :: r.1, r.2)

def readBasic? : List Char → Option (List Char × List Char)
  | [] => none
  | '"' :: r => some ([], r)
  | '\\' :: 'x' :: a :: b :: r => (scalar? [a, b]).bind fun x => before x (readBasic? r)
  | '\\' :: 'u' :: a :: b :: c :: d :: r =>
    (scalar? [a, b, c, d]).bind fun x => before x (readBasic? r)
  | '\\' :: 'U' :: a :: b :: c :: d :: e :: f :: g :: h :: r =>
    (scalar? [a, b, c, d, e, f, g, h]).bind fun x => before x (readBasic? r)
  | '\\' :: c :: r => (shortEscape? c).bind fun x => before x (readBasic? r)
  | c :: r => if c == '\\' || isControl c then none else before c (readBasic? r)

def readLiteral? : List Char → Option (List Char × List Char)
  | [] => none
  | '\x27' :: r => some ([], r)
  | c :: r => if isControl c then none else before c (readLiteral? r)

/-- Where a text of several lines is read: within it, between a backslash and the end of the line, or
in the blanks and line ends that the backslash hides. -/
inductive Fold where
  | none
  | pending
  | hidden
  deriving DecidableEq

/-- Reads text up to three double quotes. Of up to five in a row the last three close it. Line ends
stay as they are. -/
def readLines? : Fold → List Char → Option (List Char × List Char)
  | _, [] => Option.none
  | .pending, '\r' :: '\n' :: r => readLines? .hidden r
  | .pending, c :: r =>
    if isBlank c then readLines? .pending r
    else if c == '\n' then readLines? .hidden r
    else Option.none
  | _, '"' :: '"' :: '"' :: '"' :: '"' :: r => some (['"', '"'], r)
  | _, '"' :: '"' :: '"' :: '"' :: r => some (['"'], r)
  | _, '"' :: '"' :: '"' :: r => some ([], r)
  | _, '\\' :: 'x' :: a :: b :: r =>
    (scalar? [a, b]).bind fun x => before x (readLines? .none r)
  | _, '\\' :: 'u' :: a :: b :: c :: d :: r =>
    (scalar? [a, b, c, d]).bind fun x => before x (readLines? .none r)
  | _, '\\' :: 'U' :: a :: b :: c :: d :: e :: f :: g :: h :: r =>
    (scalar? [a, b, c, d, e, f, g, h]).bind fun x => before x (readLines? .none r)
  | _, '\\' :: '\r' :: '\n' :: r => readLines? .hidden r
  | _, '\\' :: c :: r =>
    if c == '\n' then readLines? .hidden r
    else if isBlank c then readLines? .pending r
    else (shortEscape? c).bind fun x => before x (readLines? .none r)
  | fold, '\r' :: '\n' :: r =>
    if fold = .hidden then readLines? .hidden r
    else before '\r' (before '\n' (readLines? .none r))
  | fold, c :: r =>
    if fold = .hidden ∧ (isBlank c || c == '\n') then readLines? .hidden r
    else if c == '\\' || (c != '\n' && isControl c) then Option.none
    else before c (readLines? .none r)

def readLiteralLines? : List Char → Option (List Char × List Char)
  | [] => none
  | '\x27' :: '\x27' :: '\x27' :: '\x27' :: '\x27' :: r => some (['\x27', '\x27'], r)
  | '\x27' :: '\x27' :: '\x27' :: '\x27' :: r => some (['\x27'], r)
  | '\x27' :: '\x27' :: '\x27' :: r => some ([], r)
  | '\r' :: '\n' :: r => before '\r' (before '\n' (readLiteralLines? r))
  | c :: r => if c != '\n' && isControl c then none else before c (readLiteralLines? r)

def dropLineEnd : List Char → List Char
  | '\n' :: r => r
  | '\r' :: '\n' :: r => r
  | s => s

def readLine? : List Char → Option (List Char × List Char)
  | '"' :: r => readBasic? r
  | '\x27' :: r => readLiteral? r
  | _ => none

def readText? : List Char → Option (List Char × List Char)
  | '"' :: '"' :: '"' :: r => readLines? .none (dropLineEnd r)
  | '\x27' :: '\x27' :: '\x27' :: r => readLiteralLines? (dropLineEnd r)
  | s => readLine? s

end ConsentGate.Toml
