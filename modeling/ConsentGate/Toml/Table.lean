import ConsentGate.Settings.Tree

namespace ConsentGate.Toml

/-- How a table came about: by the path of a header, by a key with points, or by its own header. This decides
what may be added later: a table is headed once, and tables that keys with points define are closed to
headers. -/
inductive Origin where
  | path
  | points
  | header
  deriving DecidableEq

/-- What a key is defined as. The tables of a list come last first. -/
inductive Definition where
  | value (v : SettingTree)
  | table (origin : Origin) (entries : List (String × Definition))
  | tables (items : List (List (String × Definition)))

abbrev Table := List (String × Definition)

mutual

def Definition.tree : Definition → SettingTree
  | .value v => v
  | .table _ entries => .table (treeEntries entries)
  | .tables items => .list (treeItems items).reverse

def treeEntries : List (String × Definition) → List (String × SettingTree)
  | [] => []
  | (k, d) :: r => (k, d.tree) :: treeEntries r

def treeItems : List (List (String × Definition)) → List SettingTree
  | [] => []
  | t :: r => .table (treeEntries t) :: treeItems r

end

namespace Table

def change? (k : String) (f : Option Definition → Option Definition) : Table → Option Table
  | [] => (f none).map fun d => [(k, d)]
  | e :: r =>
    if e.1 = k then (f (some e.2)).map fun d => (k, d) :: r else (change? k f r).map (e :: ·)

/-- The table with the value of a key set. A key with points leads through tables that such keys
define, and only the last of its tables has to be one of these. -/
def setValue? (v : SettingTree) : List String → Table → Option Table
  | [], _ => none
  | [k], t => t.change? k fun
    | none => some (.value v)
    | some _ => none
  | k :: path, t => t.change? k fun
    | none => (setValue? v path []).map (.table .points)
    | some (.table origin entries) =>
      if origin = .header ∨ (path.length = 1 ∧ origin ≠ .points) then none
      else (setValue? v path entries).map (.table origin)
    | some (.tables (last :: r)) =>
      if path.length = 1 then none
      else (setValue? v path last).map fun t => .tables (t :: r)
    | some _ => none

/-- The table with a change made where the path of a header leads: through tables, and through the
last table of a list. -/
def changeAt? (f : Option Definition → Option Definition) : List String → Table → Option Table
  | [], _ => none
  | [k], t => t.change? k f
  | k :: path, t => t.change? k fun
    | none => (changeAt? f path []).map (.table .path)
    | some (.table origin entries) => (changeAt? f path entries).map (.table origin)
    | some (.tables (last :: r)) => (changeAt? f path last).map fun t => .tables (t :: r)
    | some _ => none

def head? : List String → Table → Option Table :=
  changeAt? fun
    | none => some (.table .header [])
    | some (.table .path entries) => some (.table .header entries)
    | some _ => none

def headItem? : List String → Table → Option Table :=
  changeAt? fun
    | none => some (.tables [[]])
    | some (.tables items) => some (.tables ([] :: items))
    | some _ => none

def setUnder? (v : SettingTree) (key : List String) : (header : List String) → Table → Option Table
  | [] => setValue? v key
  | header => changeAt? (fun
    | some (.table origin entries) => (setValue? v key entries).map (.table origin)
    | some (.tables (last :: r)) => (setValue? v key last).map fun t => .tables (t :: r)
    | _ => none) header

end Table

end ConsentGate.Toml
