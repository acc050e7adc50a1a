import ConsentGate.Text.Percent

namespace ConsentGate.Url

def isPrintable (c : Char) : Bool :=
  0x20 ≤ c.toNat && c.toNat ≤ 0x7E

def keepsFlat (c : Char) : Bool :=
  isPrintable c

def keepsFragment (c : Char) : Bool :=
  isPrintable c && !(c == ' ' || c == '"' || c == '<' || c == '>' || c == '\x60')

def keepsPath (c : Char) : Bool :=
  keepsFragment c && !(c == '#' || c == '?' || c == '\x7b' || c == '\x7d')

def keepsUserinfo (c : Char) : Bool :=
  keepsPath c && !(c == '/' || c == ':' || c == ';' || c == '=' || c == '@' || c == '[' ||
    c == '\\' || c == ']' || c == '^' || c == '|')

/-- Kept in a query; where the scheme has special rules an apostrophe is not. -/
def keepsQuery (special : Bool) (c : Char) : Bool :=
  isPrintable c && !(c == ' ' || c == '"' || c == '#' || c == '<' || c == '>') &&
    !(special && c == '\x27')

end ConsentGate.Url
