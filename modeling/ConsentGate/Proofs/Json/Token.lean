import ConsentGate.Json.Printer
import ConsentGate.Json.Token
import ConsentGate.Proofs.Text.Digits
import Mathlib.Data.List.TakeWhile

namespace ConsentGate

open Text

/-! ## Texts -/

namespace Json.Token

variable {c : Char} {n : Nat}

theorem number?_control (h : n < 32) :
    Hex.number? ['0', '0', Hex.lower (n / 16), Hex.lower (n % 16)] = some n := by
  have : ∀ m : Fin 32,
      Hex.number? ['0', '0', Hex.lower (m.1 / 16), Hex.lower (m.1 % 16)] = some m.1 := by decide
  exact this ⟨n, h⟩

theorem readPoints?_plain (hq : c ≠ '"') (hb : c ≠ '\\') (hc : ¬ c.toNat < 0x20) (r : List Char) :
    readPoints? (c :: r) = (readPoints? r).map fun (s, r) => (c.toNat :: s, r) := by
  rw [readPoints?.eq_def]
  split <;> grind

theorem readPoints?_short {d : Char} (hu : d ≠ 'u') (hd : shortEscape? d = some c)
    (r : List Char) :
    readPoints? ('\\' :: d :: r) = (readPoints? r).map fun (s, r) => (c.toNat :: s, r) := by
  rw [readPoints?.eq_def]
  split <;> grind

theorem readPoints?_escape (c : Char) (r : List Char) :
    readPoints? (escape c ++ r) = (readPoints? r).map fun (s, r) => (c.toNat :: s, r) := by
  unfold escape
  split
  case h_8 hq hb _ _ _ _ _ =>
    split
    · next hc =>
      have hlt : c.toNat < 256 := by omega
      simp only [Hex.ofByte, UInt8.toNat_ofNat_of_lt' hlt, List.cons_append, List.nil_append]
      rw [readPoints?, number?_control hc]
    · next hc => exact readPoints?_plain hq hb hc r
  all_goals exact readPoints?_short (by decide) rfl r

theorem readPoints?_quoted (s rest : List Char) :
    readPoints? (s.flatMap escape ++ '"' :: rest) = some (s.map Char.toNat, rest) := by
  induction s with
  | nil => rfl
  | cons c s ih => rw [List.flatMap_cons, List.append_assoc, readPoints?_escape, ih]; rfl

theorem not_half (c : Char) : startsPair c.toNat = false ∧ endsPair c.toNat = false := by
  have hvalid : c.toNat < 0xD800 ∨ 0xDFFF < c.toNat ∧ c.toNat < 0x110000 := c.valid
  simp only [startsPair, endsPair, Bool.and_eq_false_iff, decide_eq_false_iff_not]
  omega

theorem joinPairs?_chars (s : List Char) : joinPairs? (s.map Char.toNat) = some s := by
  induction s with
  | nil => rfl
  | cons c s ih =>
    obtain ⟨hstart, hend⟩ := not_half c
    cases s with
    | nil => simp [joinPairs?, hstart, hend]
    | cons d s => simp_all [joinPairs?]

theorem read?_quote (s : String) (rest : List Char) :
    read? ((quote s).toList ++ rest) = some (.string (some s), rest) := by
  have hread := readPoints?_quoted s.toList rest
  simp [quote, read?, hread, joinPairs?_chars]

end Json.Token

/-! ## Numbers -/

namespace Number

def Stops (rest : List Char) : Prop :=
  ∀ c, rest.head? = some c → c.isDigit = false ∧ c ≠ '.' ∧ c ≠ 'e' ∧ c ≠ 'E'

theorem stops_nil : Stops [] := nofun

/-- A number is read from its own numeral. -/
def ReadsBack (n : Number) : Prop := read? n.render.toList = some (some n, [])

/-- The whole numbers that a word of 64 bits holds, with a sign or without. -/
def IsWord (n : Int) : Prop := -2 ^ 63 ≤ n ∧ n < 2 ^ 64

variable {s r ds rest : List Char}

theorem readFraction?_stops (hrest : Stops rest) : readFraction? rest = some ([], rest) := by
  unfold readFraction?
  split
  · exact absurd rfl (hrest '.' rfl).2.1
  · rfl

theorem readExponent?_stops (hrest : Stops rest) : readExponent? rest = some (none, rest) := by
  cases rest with
  | nil => rfl
  | cons c r =>
    obtain ⟨-, -, he, hE⟩ := hrest c rfl
    simp [readExponent?, he, hE]

theorem readDigits?_append (h : readDigits? s = some (ds, r)) (hrest : Stops rest) :
    readDigits? (s ++ rest) = some (ds, r ++ rest) := by
  obtain ⟨htake, hdrop⟩ : rest.takeWhile Char.isDigit = [] ∧ rest.dropWhile Char.isDigit = rest := by
    cases rest with
    | nil => exact ⟨rfl, rfl⟩
    | cons c rest => simp [(hrest c rfl).1]
  unfold readDigits? at h ⊢
  split at h
  · cases h
  · next hne =>
    obtain ⟨rfl, rfl⟩ := Prod.mk.inj (Option.some.inj h)
    have htake' : (s ++ rest).takeWhile Char.isDigit = s.takeWhile Char.isDigit := by
      rw [List.takeWhile_append, htake]
      split
      · next hall => rw [List.append_nil]; exact ((List.takeWhile_prefix _).eq_of_length hall).symm
      · rfl
    have hdrop' : (s ++ rest).dropWhile Char.isDigit = s.dropWhile Char.isDigit ++ rest := by
      rw [List.dropWhile_append, hdrop]
      split
      · next hnil => rw [List.isEmpty_iff.mp hnil, List.nil_append]
      · rfl
    rw [htake', hdrop', if_neg hne]

theorem readWhole?_append (h : readWhole? s = some (ds, r)) (hrest : Stops rest) :
    readWhole? (s ++ rest) = some (ds, r ++ rest) := by
  unfold readWhole? at h
  split at h
  · obtain ⟨rfl, rfl⟩ := Prod.mk.inj (Option.some.inj h)
    rfl
  · next hzero =>
    have hread := readDigits?_append h hrest
    cases s with
    | nil => cases h
    | cons c s =>
      rw [List.cons_append, readWhole?]
      · exact hread
      · rintro _ ⟨⟩
        exact hzero _ rfl

theorem readFraction?_append (h : readFraction? s = some (ds, r)) (hrest : Stops rest) :
    readFraction? (s ++ rest) = some (ds, r ++ rest) := by
  unfold readFraction? at h
  split at h
  · exact readDigits?_append h hrest
  · next hpoint =>
    obtain ⟨rfl, rfl⟩ := Prod.mk.inj (Option.some.inj h)
    cases s with
    | nil => exact readFraction?_stops hrest
    | cons c s =>
      rw [List.cons_append, readFraction?]
      rintro _ ⟨⟩
      exact hpoint _ rfl

theorem map_readDigits?_append {e : Option Int} (f : List Char → Option Int)
    (h : (readDigits? s).map (fun d => (f d.1, d.2)) = some (e, r)) (hrest : Stops rest) :
    (readDigits? (s ++ rest)).map (fun d => (f d.1, d.2)) = some (e, r ++ rest) := by
  obtain ⟨d, hd, heq⟩ := Option.map_eq_some_iff.mp h
  obtain ⟨rfl, rfl⟩ := Prod.mk.inj heq
  rw [readDigits?_append hd hrest, Option.map_some]

theorem readExponent?_append {e : Option Int} (h : readExponent? s = some (e, r))
    (hrest : Stops rest) : readExponent? (s ++ rest) = some (e, r ++ rest) := by
  cases s with
  | nil =>
    obtain ⟨rfl, rfl⟩ := Prod.mk.inj (Option.some.inj h)
    exact readExponent?_stops hrest
  | cons c s =>
    by_cases hc : c = 'e' ∨ c = 'E'
    · simp only [readExponent?, List.cons_append, if_pos hc] at h ⊢
      split at h
      · exact map_readDigits?_append (fun ds => some (-(Text.Digits.value ds : Int))) h hrest
      · exact map_readDigits?_append (fun ds => some (Text.Digits.value ds : Int)) h hrest
      · next hminus hplus =>
        cases s with
        | nil => cases h
        | cons d s =>
          have hread := map_readDigits?_append (fun ds => some (Text.Digits.value ds : Int)) h hrest
          rw [List.cons_append] at hread ⊢
          split
          · next heq => exact absurd (congrArg (· :: s) (List.cons.inj heq).1) (hminus s)
          · next heq => exact absurd (congrArg (· :: s) (List.cons.inj heq).1) (hplus s)
          · exact hread
    · simp only [readExponent?, List.cons_append, if_neg hc, Option.some.injEq, Prod.mk.injEq] at h ⊢
      obtain ⟨rfl, rfl⟩ := h
      exact ⟨rfl, rfl⟩

theorem read?_append {n : Option Number} (h : read? s = some (n, r)) (hrest : Stops rest) :
    read? (s ++ rest) = some (n, r ++ rest) := by
  cases s with
  | nil => cases h
  | cons c s =>
    simp only [read?, List.cons_append, Option.bind_eq_bind, Option.bind_eq_some_iff, Option.pure_def,
      Option.some.injEq, Prod.mk.injEq] at h ⊢
    obtain ⟨⟨ds, s₁⟩, hwhole, ⟨places, s₂⟩, hfraction, ⟨e, s₃⟩, hexponent, hn, rfl⟩ := h
    have hfraction := readFraction?_append hfraction hrest
    have hexponent := readExponent?_append hexponent hrest
    by_cases hc : c = '-'
    · subst hc
      exact ⟨_, readWhole?_append hwhole hrest, _, hfraction, _, hexponent, hn, rfl⟩
    · simp only [List.cons.injEq, hc, false_and, imp_self, implies_true] at hwhole hn ⊢
      exact ⟨_, readWhole?_append hwhole hrest, _, hfraction, _, hexponent, hn, rfl⟩

theorem exists_of_read? {n : Option Number} (h : read? s = some (n, r)) :
    ∃ c u, s = c :: u ∧ (c = '-' ∨ c.isDigit = true) := by
  cases s with
  | nil => cases h
  | cons c s =>
    refine ⟨c, s, rfl, or_iff_not_imp_left.mpr fun hc => ?_⟩
    simp only [read?, Option.bind_eq_bind, Option.bind_eq_some_iff] at h
    obtain ⟨d, hwhole, _⟩ := h
    by_cases hzero : c = '0'
    · subst hzero
      rfl
    · simp [hc, hzero, readWhole?, readDigits?] at hwhole
      exact hwhole.1

theorem read?_render {n : Number} (h : n.ReadsBack) (hrest : Stops rest) :
    read? (n.render.toList ++ rest) = some (some n, rest) :=
  read?_append h hrest

/-! ### Whole numbers -/

variable {n : Int}

theorem readDigits?_digits (hne : ds ≠ []) (hd : ∀ c ∈ ds, c.isDigit = true) :
    readDigits? ds = some (ds, []) := by
  rw [readDigits?, List.takeWhile_eq_self_iff.mpr hd, List.dropWhile_eq_nil_iff.mpr hd,
    if_neg (by simpa using hne)]

theorem exists_toDigits (m : Nat) : ∃ c ds, Nat.toDigits 10 m = c :: ds ∧ c.isDigit = true := by
  obtain ⟨c, ds, h⟩ := List.exists_cons_of_ne_nil (Nat.toDigits_ne_nil (b := 10) (n := m))
  exact ⟨c, ds, h, Nat.isDigit_of_mem_toDigits (by decide) (by decide) (h ▸ List.mem_cons_self)⟩

theorem readWhole?_toDigits (m : Nat) :
    readWhole? (Nat.toDigits 10 m) = some (Nat.toDigits 10 m, []) := by
  obtain rfl | hpos := Nat.eq_zero_or_pos m
  · rfl
  · have hhead := Digits.head?_toDigits hpos
    unfold readWhole?
    split
    · next heq => exact absurd (heq ▸ rfl) hhead
    · exact readDigits?_digits Nat.toDigits_ne_nil
        fun c hc => Nat.isDigit_of_mem_toDigits (by decide) (by decide) hc

theorem toList_render_whole (n : Int) :
    (render (.whole n)).toList = (if n < 0 then ['-'] else []) ++ Nat.toDigits 10 n.natAbs := by
  cases n with
  | ofNat m => exact Nat.toList_repr
  | negSucc m =>
    have hneg : Int.negSucc m < 0 := Int.negSucc_lt_zero m
    rw [if_pos hneg, show render (.whole (Int.negSucc m)) = "-" ++ Nat.repr (m + 1) from rfl,
      String.toList_append, Nat.toList_repr]
    rfl

theorem readsBack_whole (h : IsWord n) : ReadsBack (.whole n) := by
  obtain ⟨hlow, hhigh⟩ := h
  have hwhole := readWhole?_toDigits n.natAbs
  have hfraction := readFraction?_stops stops_nil
  have hexponent := readExponent?_stops stops_nil
  have hvalue := Digits.value_toDigits n.natAbs
  rw [ReadsBack, toList_render_whole]
  by_cases hneg : n < 0
  · have hparts : ofParts? true (Nat.toDigits 10 n.natAbs) [] none = some (.whole n) := by
      rw [ofParts?, hvalue, if_pos ⟨rfl, rfl, by simp only [if_true]; omega⟩]
      simp only [if_true, Option.some.injEq, Number.whole.injEq]
      omega
    simp [read?, hneg, hwhole, hfraction, hexponent, hparts]
  · have hparts : ofParts? false (Nat.toDigits 10 n.natAbs) [] none = some (.whole n) := by
      rw [ofParts?, hvalue, if_pos ⟨rfl, rfl, by simp only [Bool.false_eq_true, if_false]; omega⟩]
      simp only [Bool.false_eq_true, if_false, Option.some.injEq, Number.whole.injEq]
      omega
    obtain ⟨c, ds, hds, hc⟩ := exists_toDigits n.natAbs
    have hminus : c ≠ '-' := fun h => absurd (h ▸ hc) (by decide)
    rw [hds] at hwhole hparts
    simp [read?, hneg, hds, hminus, hwhole, hfraction, hexponent, hparts]

end Number

/-! ## Documents -/

namespace Json

open Number (Stops)

mutual

/-- Tells the documents whose text says all: every part is readable, and every number is read from its
numeral. -/
def IsExact : Json → Prop
  | .number n => n.ReadsBack
  | .unreadable => False
  | .array items => AreExact items
  | .object fields => HaveExact fields
  | _ => True

def AreExact : List Json → Prop
  | [] => True
  | j :: r => IsExact j ∧ AreExact r

def HaveExact : List (String × Json) → Prop
  | [] => True
  | (_, j) :: r => IsExact j ∧ HaveExact r

end

theorem haveExact_append {a b : List (String × Json)} :
    HaveExact (a ++ b) ↔ HaveExact a ∧ HaveExact b := by
  induction a with
  | nil => exact Iff.of_eq (true_and _).symm
  | cons f a ih => exact (and_congr_right fun _ => ih).trans and_assoc.symm

mutual

def tokens : Json → List Token
  | .null => [.null]
  | .bool b => [.bool b]
  | .number n => [.number (some n)]
  | .string s => [.string (some s)]
  | .unreadable => [.null]
  | .array items => .openArray :: itemTokens items ++ [.closeArray]
  | .object fields => .openObject :: fieldTokens fields ++ [.closeObject]

def itemTokens : List Json → List Token
  | [] => []
  | [j] => tokens j
  | j :: i :: r => tokens j ++ .comma :: itemTokens (i :: r)

def fieldTokens : List (String × Json) → List Token
  | [] => []
  | [(k, j)] => .string (some k) :: .colon :: tokens j
  | (k, j) :: f :: r => .string (some k) :: .colon :: tokens j ++ .comma :: fieldTokens (f :: r)

end

/-- A text falls into tokens with no gap before any of them. -/
inductive Lexes : List Char → List Token → Prop
  | nil : Lexes [] []
  | cons {c : Char} {u rest : List Char} {t : Token} {ts : List Token} (gap : Token.isGap c = false)
      (first : Token.read? (c :: (u ++ rest)) = some (t, rest)) (later : Lexes rest ts) :
      Lexes (c :: (u ++ rest)) (t :: ts)

theorem Lexes.readAll {s : List Char} {ts : List Token} {n : Nat} (h : Lexes s ts)
    (hn : s.length ≤ n) : Token.readAll n s = some ts := by
  induction h generalizing n with
  | nil => cases n <;> rfl
  | @cons c u rest t ts gap first later ih =>
    obtain ⟨n, rfl⟩ : ∃ m, n = m + 1 := ⟨n - 1, by simp at hn; omega⟩
    have hrest := ih (n := n) (by simp at hn; omega)
    unfold Token.readAll
    rw [List.dropWhile_cons_of_neg (by simp [gap])]
    simp only [first, hrest, Option.map_some]

variable {rest : List Char} {ts : List Token}

theorem stops_comma (rest : List Char) : Stops (',' :: rest) := by simp [Stops]

theorem stops_closeArray (rest : List Char) : Stops (']' :: rest) := by simp [Stops]

theorem stops_closeObject (rest : List Char) : Stops ('\x7d' :: rest) := by simp [Stops]

theorem lexes_quote (s : String) (h : Lexes rest ts) :
    Lexes ((quote s).toList ++ rest) (.string (some s) :: ts) := by
  have hread := Token.read?_quote s rest
  have hquote : (quote s).toList ++ rest = '"' :: (s.toList.flatMap escape ++ ['"'] ++ rest) := by
    simp [quote]
  rw [hquote] at hread ⊢
  exact .cons rfl hread h

theorem read?_number {c : Char} (hc : c = '-' ∨ c.isDigit = true) (s : List Char) :
    Token.read? (c :: s) = (Number.read? (c :: s)).map fun (n, r) => (.number n, r) := by
  rw [Token.read?.eq_def]
  split
  case h_11 => rfl
  all_goals
    next heq =>
    obtain rfl := (List.cons.inj heq).1
    exact absurd hc (by decide)

theorem lexes_number {n : Number} (hn : n.ReadsBack) (hrest : Stops rest) (h : Lexes rest ts) :
    Lexes (n.render.toList ++ rest) (.number (some n) :: ts) := by
  have hread := Number.read?_render hn hrest
  obtain ⟨c, u, hcu, hc⟩ := Number.exists_of_read? hn
  have hgap : Token.isGap c = false := by
    cases hg : Token.isGap c with
    | false => rfl
    | true =>
      simp only [Token.isGap, Bool.or_eq_true, beq_iff_eq] at hg
      obtain ((rfl | rfl) | rfl) | rfl := hg <;> exact absurd hc (by decide)
  rw [hcu] at hread ⊢
  refine .cons hgap ?_ h
  rw [read?_number hc, ← List.cons_append, hread]
  rfl

mutual

/-- A document is read token by token in front of what cannot continue it. -/
theorem lexes_render {rest : List Char} {ts : List Token} (hrest : Stops rest) (h : Lexes rest ts) :
    ∀ j : Json, j.IsExact → Lexes ((render j).toList ++ rest) (tokens j ++ ts)
  | .null, _ => .cons (u := "ull".toList) rfl rfl h
  | .bool true, _ => .cons (u := "rue".toList) rfl rfl h
  | .bool false, _ => .cons (u := "alse".toList) rfl rfl h
  | .number _, hn => lexes_number hn hrest h
  | .string s, _ => lexes_quote s h
  | .array items, hitems => by
    have hclose : Lexes (']' :: rest) (.closeArray :: ts) := .cons (u := []) rfl rfl h
    have hlex := lexes_items (stops_closeArray rest) hclose items hitems
    simpa [render, tokens] using Lexes.cons (c := '[') (u := []) rfl rfl hlex
  | .object fields, hfields => by
    have hclose : Lexes ('\x7d' :: rest) (.closeObject :: ts) := .cons (u := []) rfl rfl h
    have hlex := lexes_fields (stops_closeObject rest) hclose fields hfields
    simpa [render, tokens] using Lexes.cons (c := '\x7b') (u := []) rfl rfl hlex

theorem lexes_items {rest : List Char} {ts : List Token} (hrest : Stops rest) (h : Lexes rest ts) :
    ∀ items : List Json, AreExact items →
      Lexes ((",".intercalate (renderItems items)).toList ++ rest) (itemTokens items ++ ts)
  | [], _ => h
  | [j], hj => by simpa [renderItems, itemTokens] using lexes_render hrest h j hj.1
  | j :: i :: r, hj => by
    have hlater := lexes_items hrest h (i :: r) hj.2
    have hcomma := Lexes.cons (c := ',') (u := []) rfl rfl hlater
    have hlex := lexes_render (stops_comma _) hcomma j hj.1
    simpa [renderItems, itemTokens] using hlex

theorem lexes_fields {rest : List Char} {ts : List Token} (hrest : Stops rest) (h : Lexes rest ts) :
    ∀ fields : List (String × Json), HaveExact fields →
      Lexes ((",".intercalate (renderFields fields)).toList ++ rest) (fieldTokens fields ++ ts)
  | [], _ => h
  | [(k, j)], hj => by
    have hvalue := lexes_render hrest h j hj.1
    have hcolon := Lexes.cons (c := ':') (u := []) rfl rfl hvalue
    simpa [renderFields, fieldTokens] using lexes_quote k hcolon
  | (k, j) :: f :: r, hj => by
    have hlater := lexes_fields hrest h (f :: r) hj.2
    have hcomma := Lexes.cons (c := ',') (u := []) rfl rfl hlater
    have hvalue := lexes_render (stops_comma _) hcomma j hj.1
    have hcolon := Lexes.cons (c := ':') (u := []) rfl rfl hvalue
    simpa [renderFields, fieldTokens] using lexes_quote k hcolon

end

theorem ofText?_render {j : Json} (h : j.IsExact) : Token.ofText? (render j) = some (tokens j) := by
  have hlex := lexes_render (fun c hc => by simp at hc) .nil j h
  rw [List.append_nil, List.append_nil] at hlex
  exact hlex.readAll (Nat.le_of_eq String.length_toList)

end Json

end ConsentGate
