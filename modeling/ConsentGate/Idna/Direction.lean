import ConsentGate.Unicode.Direction

namespace ConsentGate.Idna

open Unicode

def bidiClass (c : Char) : String :=
  match bidiTable.value c with
  | "" => "L"
  | k => k

def isRightToLeft (c : Char) : Bool :=
  !isAscii c && ["R", "AL", "AN"].contains (bidiClass c)

def endsIn (classes : List String) (s : List Char) : Bool :=
  match s.reverse.dropWhile (bidiClass · == "NSM") with
  | [] => false
  | c :: _ => classes.contains (bidiClass c)

def hasDirection : List Char → Bool
  | [] => true
  | c :: r =>
    let s := c :: r
    let classes := s.map bidiClass
    match bidiClass c with
    | "L" =>
      classes.all ["L", "EN", "ES", "CS", "ET", "ON", "BN", "NSM"].contains &&
        endsIn ["L", "EN"] s
    | "R" | "AL" =>
      classes.all ["R", "AL", "AN", "EN", "ES", "CS", "ET", "ON", "BN", "NSM"].contains &&
        endsIn ["R", "AL", "EN", "AN"] s && !(classes.contains "EN" && classes.contains "AN")
    | _ => false

/-- Tells the names whose labels each have one direction, if any of them is right-to-left. -/
def directionsFit (labels : List (List Char)) : Bool :=
  !labels.any (·.any isRightToLeft) || labels.all hasDirection

end ConsentGate.Idna
