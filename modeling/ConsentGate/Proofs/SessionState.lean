import ConsentGate.Proofs.Text.Digits
import ConsentGate.Proofs.Text.Utf8
import ConsentGate.Proofs.Url.Origin
import ConsentGate.SessionState

namespace ConsentGate

/-- Two messages of one digest. -/
structure Sha256.Collides (m n : List UInt8) : Prop where
  ne : m ≠ n
  digest : digest m = digest n

namespace SessionState

open Text

/-- Client and user with the text of another client and user: what the first user's name has before the
other's moves behind the first client's name, together with the origin. -/
inductive Shifted (origin : String) : String × String → String × String → Prop
  | adjacent (client user : String) :
      Shifted origin (client, origin ++ " " ++ user) (client ++ " " ++ origin, user)
  | apart (client between user : String) :
      Shifted origin (client, between ++ " " ++ origin ++ " " ++ user)
        (client ++ " " ++ origin ++ " " ++ between, user)

variable {origin salt : String} {p q : String × String}

theorem Shifted.digested_eq (h : Shifted origin p q) (salt : String) :
    digested p.2 p.1 origin salt = digested q.2 q.1 origin salt := by
  cases h <;> simp only [digested, String.append_assoc]

/-- A user and a client without blanks in their names are never shifted. -/
theorem Shifted.blank_mem (h : Shifted origin p q) : ' ' ∈ p.2.toList ∧ ' ' ∈ q.1.toList := by
  cases h <;> simp

/-- The first of two blanks that enclose the origin begins the difference, or it is the second one. -/
theorem shifted_of_append {o a s t : List Char} (ho : ' ' ∉ o)
    (htext : ' ' :: (o ++ ' ' :: s) = a ++ ' ' :: (o ++ ' ' :: t)) :
    (a = [] ∧ s = t) ∨ (a = ' ' :: o ∧ s = o ++ ' ' :: t) ∨
      ∃ r, a = ' ' :: (o ++ ' ' :: r) ∧ s = r ++ ' ' :: (o ++ ' ' :: t) := by
  obtain ⟨rfl, hall⟩ | ⟨b, rfl, hrest⟩ := List.cons_eq_append_iff.mp htext
  · exact .inl ⟨rfl, by simpa using hall.symm⟩
  refine .inr ?_
  obtain ⟨d, rfl, hblank⟩ | ⟨d, rfl, hblank⟩ := List.append_eq_append_iff.mp hrest
  · obtain ⟨rfl, hall⟩ | ⟨r, rfl, rfl⟩ := List.cons_eq_append_iff.mp hblank
    · exact .inl ⟨by rw [List.append_nil], (List.cons.inj hall).2.symm⟩
    · exact .inr ⟨r, rfl, rfl⟩
  · obtain ⟨rfl, hall⟩ | ⟨r, rfl, _⟩ := List.cons_eq_append_iff.mp hblank
    · exact .inl ⟨by rw [List.append_nil], (List.cons.inj hall).2⟩
    · exact absurd (List.mem_append_right b List.mem_cons_self) ho

theorem shifted_of_digested {a : List Char} (ho : ' ' ∉ origin.toList)
    (hclient : q.1.toList = p.1.toList ++ a)
    (h : digested p.2 p.1 origin salt = digested q.2 q.1 origin salt) :
    p = q ∨ Shifted origin p q := by
  obtain ⟨c, s⟩ := p
  obtain ⟨c', s'⟩ := q
  have htext : ' ' :: (origin.toList ++ ' ' :: s.toList) =
      a ++ ' ' :: (origin.toList ++ ' ' :: s'.toList) := by
    have h := congrArg String.toList h
    simp only [digested, String.toList_append, List.append_cancel_right_eq] at h
    simpa [hclient] using h
  obtain ⟨rfl, hs⟩ | ⟨rfl, hs⟩ | ⟨r, rfl, hs⟩ := shifted_of_append ho htext
  · exact .inl (Prod.ext (String.toList_inj.mp (by simpa using hclient.symm)) (String.toList_inj.mp hs))
  · obtain rfl : c' = c ++ " " ++ origin := String.toList_inj.mp (by simpa using hclient)
    obtain rfl : s = origin ++ " " ++ s' := String.toList_inj.mp (by simpa using hs)
    exact .inr (.adjacent c s')
  · obtain rfl : c' = c ++ " " ++ origin ++ " " ++ String.ofList r :=
      String.toList_inj.mp (by simpa using hclient)
    obtain rfl : s = String.ofList r ++ " " ++ origin ++ " " ++ s' :=
      String.toList_inj.mp (by simpa using hs)
    exact .inr (.apart c (String.ofList r) s')

/-- Different clients or users have one text exactly where a shift leads from one to the other. -/
theorem digested_eq_iff (ho : ' ' ∉ origin.toList) (hne : p ≠ q) :
    digested p.2 p.1 origin salt = digested q.2 q.1 origin salt ↔
      Shifted origin p q ∨ Shifted origin q p := by
  constructor
  · intro h
    have hclients : p.1.toList <+: q.1.toList ∨ q.1.toList <+: p.1.toList := by
      have h := congrArg String.toList h
      simp only [digested, String.toList_append, List.append_assoc] at h
      have hstart := List.prefix_append p.1.toList
      exact List.prefix_or_prefix_of_prefix (hstart _) (h ▸ List.prefix_append q.1.toList _)
    obtain ⟨a, ha⟩ | ⟨a, ha⟩ := hclients
    · exact .inl ((shifted_of_digested ho ha.symm h).resolve_left hne)
    · exact .inr ((shifted_of_digested ho ha.symm h.symm).resolve_left hne.symm)
  · rintro (h | h)
    · exact h.digested_eq salt
    · exact (h.digested_eq salt).symm

def hashed (p : String × String) (origin salt : String) : List UInt8 :=
  Utf8.encode (digested p.2 p.1 origin salt).toList

theorem hashed_eq_iff : hashed p origin salt = hashed q origin salt ↔
    digested p.2 p.1 origin salt = digested q.2 q.1 origin salt := by
  refine ⟨fun h => String.toList_inj.mp ?_, fun h => by rw [hashed, h, hashed]⟩
  rw [← Utf8.decode_encode (String.toList _), ← hashed, h, hashed, Utf8.decode_encode]

theorem calculate_eq_iff : calculate p.2 p.1 origin salt = calculate q.2 q.1 origin salt ↔
    Sha256.digest (hashed p origin salt) = Sha256.digest (hashed q origin salt) := by
  refine ⟨fun h => Hex.ofBytes_inj ?_, fun h => ?_⟩
  · have h := congrArg String.toList h
    simpa [calculate, hashed] using h
  · rw [hashed, hashed] at h
    rw [calculate, calculate, h]

/-- Different clients or users share a session state for a target exactly where a shift leads from one
to the other, which gives them one text, or where their texts collide. -/
theorem shared_iff {text : List Char} {target : Url} (h : Url.parse text = .ok target) (salt : String)
    {p q : String × String} (hne : p ≠ q) :
    (digested p.2 p.1 target.origin salt = digested q.2 q.1 target.origin salt ↔
        Shifted target.origin p q ∨ Shifted target.origin q p) ∧
      (calculate p.2 p.1 target.origin salt = calculate q.2 q.1 target.origin salt ↔
        (Shifted target.origin p q ∨ Shifted target.origin q p) ∨
          Sha256.Collides (hashed p target.origin salt) (hashed q target.origin salt)) := by
  have htext : digested p.2 p.1 target.origin salt = digested q.2 q.1 target.origin salt ↔
      Shifted target.origin p q ∨ Shifted target.origin q p :=
    digested_eq_iff (Url.blank_not_mem_origin h) hne
  refine ⟨htext, ?_⟩
  rw [calculate_eq_iff, ← htext, ← hashed_eq_iff]
  constructor
  · intro hdigest
    exact (Classical.em _).imp_right fun hne => ⟨hne, hdigest⟩
  · rintro (heq | hcollides)
    · rw [heq]
    · exact hcollides.digest

def originless : Url :=
  ⟨"app".toList, none, .flat "cb".toList, none, none⟩

theorem shared_originless : Url.parse "app:cb".toList = .ok originless ∧
    ("foo", "null joe") ≠ ("foo null", "joe") ∧
    calculate "null joe" "foo" originless.origin "s" = calculate "joe" "foo null" originless.origin "s" ∧
    ("foo", "joe") ≠ ("foo", "marissa") ∧
    digested "joe" "foo" originless.origin "s" ≠ digested "marissa" "foo" originless.origin "s" := by
  have hparse : Url.parse "app:cb".toList = .ok originless := by rfl
  have horigin : originless.origin = "null" := by rfl
  have hshifted : Shifted originless.origin ("foo", "null joe") ("foo null", "joe") := by
    rw [horigin]
    exact .adjacent "foo" "joe"
  have hne : ("foo", "null joe") ≠ ("foo null", "joe") := by decide
  have hplain : ("foo", "joe") ≠ ("foo", "marissa") := by decide
  refine ⟨hparse, hne, (shared_iff hparse "s" hne).2.mpr (.inl (.inl hshifted)), hplain, ?_⟩
  rw [Ne, (shared_iff hparse "s" hplain).1]
  rintro (h | h) <;> exact absurd h.blank_mem.1 (by decide)

/-- One text for the user "x https://a.example y" of one client and the user "y" of another. -/
theorem shared_named : ∃ target, Url.parse "https://a.example/cb".toList = .ok target ∧
    ("app", "x https://a.example y") ≠ ("app https://a.example x", "y") ∧
    digested "x https://a.example y" "app" target.origin "s" =
      digested "y" "app https://a.example x" target.origin "s" ∧
    calculate "x https://a.example y" "app" target.origin "s" =
      calculate "y" "app https://a.example x" target.origin "s" := by
  have hparse : Url.parse "https://a.example/cb".toList = .ok
      ⟨"https".toList, some ⟨[], none, some (.name "a.example".toList), none⟩,
        .segments ["cb".toList], none, none⟩ := by decide +kernel
  exact ⟨_, hparse, by decide, by rfl, by rfl⟩

end SessionState

end ConsentGate
