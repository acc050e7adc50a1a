import ConsentGate.Idna.ToAscii
import ConsentGate.Url.Basic
import ConsentGate.Url.Error

namespace ConsentGate.Url.Host

def isForbidden (c : Char) : Bool :=
  c == '\x00' || c == '\t' || c == '\n' || c == '\r' || c == ' ' || c == '#' || c == '/' ||
    c == ':' || c == '<' || c == '>' || c == '?' || c == '@' || c == '[' || c == '\\' ||
    c == ']' || c == '^' || c == '|'

def readBracketed (r : List Char) : Except UrlError Host :=
  if r.getLast? = some ']' then
    match Ipv6.parse? r.dropLast with
    | some groups => .ok (.ipv6 groups)
    | none => .error .badIpv6
  else .error .badIpv6

def readDomain (s : List Char) : Except UrlError Host :=
  match Idna.toAscii? (Text.Percent.decodeText s) with
  | none => .error .badDomain
  | some [] => .error .emptyHost
  | some d =>
    if Ipv4.endsInNumber d then
      match Ipv4.parse? d with
      | some n => .ok (.ipv4 n)
      | none => .error .badIpv4
    else .ok (.name d)

/-- The host of a scheme without special rules, kept as it is but for controls and characters beyond
ASCII. -/
def readOpaque (s : List Char) : Except UrlError Host :=
  if s.any isForbidden then .error .badHostCharacter
  else .ok (.name (Text.Percent.encode keepsFlat s))

def read (special : Bool) : List Char → Except UrlError Host
  | '[' :: r => readBracketed r
  | s => if special then readDomain s else readOpaque s

end ConsentGate.Url.Host
