import ConsentGate.Proofs.RedirectUri.Values
import ConsentGate.Proofs.Text.Escaped
import ConsentGate.Url.Escape

namespace ConsentGate.RedirectUri

open Text Url

variable {rules : RedirectSettings} {client : Client} {base q text : List Char}
  {fields fields' : List (List Char)} {s : List Char}

def isOrdinary (c : Char) : Bool :=
  0x21 ≤ c.toNat && c.toNat ≤ 0x7E && !(c == '#' || c == '\\')

/-- What stands before a query: a text with a scheme that ends in `://`. -/
structure IsBase (base : List Char) : Prop where
  ordinary : ∀ c ∈ base, isOrdinary c = true
  bare : '?' ∉ base
  slashes : [':', '/', '/'] <:+: base

/-- One field of a query. -/
structure IsField (q : List Char) : Prop where
  ordinary : ∀ c ∈ q, isOrdinary c = true
  single : '&' ∉ q

/-- The text before a query, and the fields of the query. -/
def withFields (base : List Char) (fields : List (List Char)) : List Char :=
  base ++ '?' :: ['&'].intercalate fields

/-! ## Ordinary characters -/

theorem isOrdinary_range {c : Char} (h : isOrdinary c = true) :
    (0x21 ≤ c.toNat ∧ c.toNat ≤ 0x7E) ∧ c ≠ '#' ∧ c ≠ '\\' := by
  simpa [isOrdinary] using h

theorem isForbidden_of_isOrdinary {c : Char} (h : isOrdinary c = true) : isForbidden c = false := by
  obtain ⟨⟨hlow, _⟩, _, hback⟩ := isOrdinary_range h
  simp only [isForbidden, Bool.or_eq_false_iff, beq_eq_false_iff_ne, ne_eq, eq_iff_toNat,
    Char.reduceToNat] at hback ⊢
  omega

theorem isOuter_of_isOrdinary {c : Char} (h : isOrdinary c = true) : isOuter c = false := by
  obtain ⟨⟨hlow, _⟩, _⟩ := isOrdinary_range h
  simp only [isOuter, decide_eq_false_iff_not]
  omega

theorem sharp_not_mem (h : ∀ c ∈ s, isOrdinary c = true) : '#' ∉ s :=
  fun hm => (isOrdinary_range (h _ hm)).2.1 rfl

theorem clean_eq_self (h : ∀ c ∈ s, isOrdinary c = true) : clean s = s := by
  rw [clean_eq_trim fun c hc => isForbidden_of_isOrdinary (h c hc)]
  exact trim_eq_self (fun c hc => isOuter_of_isOrdinary (h c (List.mem_of_mem_head? hc)))
    fun c hc => isOuter_of_isOrdinary (h c (List.mem_of_getLast? hc))

theorem ordinary_append_query (hbase : ∀ c ∈ base, isOrdinary c = true)
    (hq : ∀ c ∈ q, isOrdinary c = true) : ∀ c ∈ base ++ '?' :: q, isOrdinary c = true := by
  intro c hc
  obtain hc | hc := List.mem_append.mp hc
  · exact hbase c hc
  · obtain rfl | hc := List.mem_cons.mp hc
    · decide
    · exact hq c hc

theorem ordinary_intercalate (h : ∀ q ∈ fields, IsField q) :
    ∀ c ∈ ['&'].intercalate fields, isOrdinary c = true := by
  intro c hc
  obtain rfl | ⟨q, hq, hc⟩ := mem_intercalate hc
  · decide
  · exact (h q hq).ordinary c hc

theorem ordinary_withFields (hbase : IsBase base) (hfields : ∀ q ∈ fields, IsField q) :
    ∀ c ∈ withFields base fields, isOrdinary c = true :=
  ordinary_append_query hbase.ordinary (ordinary_intercalate hfields)

/-! ## Reading -/

theorem parse_query (hbase : IsBase base) (hq : ∀ c ∈ q, isOrdinary c = true) :
    Url.parse (base ++ '?' :: q) = (Url.parse (base ++ ['?'])).map fun v =>
      { v with query := some (Percent.encode (keepsQuery (isSpecialScheme v.scheme)) q) } := by
  have hsharp : ∀ q : List Char, (∀ c ∈ q, isOrdinary c = true) →
      cutAt (· == '#') (clean (base ++ '?' :: q)) = (base ++ '?' :: q, none) := by
    intro q hq
    have hordinary := ordinary_append_query hbase.ordinary hq
    rw [clean_eq_self hordinary]
    exact cutAt_eq_self (beq_false_of_not_mem (sharp_not_mem hordinary))
  have hquestion : ∀ q, cutAt (· == '?') (base ++ '?' :: q) = (base, some q) := fun q =>
    cutAt_append_cons (beq_false_of_not_mem hbase.bare) (beq_self_eq_true '?')
  unfold Url.parse
  rw [hsharp q hq, hsharp [] (by simp)]
  dsimp only
  rw [hquestion, hquestion]
  dsimp only
  cases cutScheme? base with
  | none => rfl
  | some cut =>
    obtain ⟨scheme, rest⟩ := cut
    -- The body is read knowing that a query follows, but not which one.
    simp only [Option.isSome_some, Bool.true_or]
    generalize readBody scheme rest true = body
    cases body with
    | error e => rfl
    | ok r => rfl

theorem writtenAuthority?_query (hbase : IsBase base) (q : List Char) :
    writtenAuthority? (base ++ '?' :: q) = writtenAuthority? (base ++ ['?']) := by
  obtain ⟨a, b, hcut⟩ := exists_cutOn? (by simp) hbase.slashes
  have hend : ∀ q, before (fun c => c == '/' || c == '?' || c == '#') (b ++ '?' :: q) =
      before (fun c => c == '/' || c == '?' || c == '#') b := before_append_mark (by decide) b
  unfold writtenAuthority?
  rw [cutOn?_append hcut, cutOn?_append hcut]
  simp only [Option.bind_eq_bind, Option.bind_some, hend]

theorem writtenHost?_query (hbase : IsBase base) (q : List Char) :
    writtenHost? (base ++ '?' :: q) = writtenHost? (base ++ ['?']) := by
  rw [writtenHost?, writtenAuthority?_query hbase, writtenHost?]

theorem writtenPort?_query (hbase : IsBase base) (q : List Char) :
    writtenPort? (base ++ '?' :: q) = writtenPort? (base ++ ['?']) := by
  rw [writtenPort?, writtenAuthority?_query hbase, writtenPort?]

theorem hasDotSegment_query (base q : List Char) :
    hasDotSegment (base ++ '?' :: q) = hasDotSegment (base ++ ['?']) := by
  have hfront : ∀ q, before (· == '?') (base ++ '?' :: q) = before (· == '?') base :=
    before_append_mark (by decide) base
  rw [hasDotSegment, writtenPath, hfront, hasDotSegment, writtenPath, hfront]

theorem isFormMark_of_not_keepsQuery (special : Bool) {c : Char} (hascii : c.toNat < 128)
    (h : keepsQuery special c = false) : isFormMark (UInt8.ofNat c.toNat) = false := by
  have hall : ∀ (special : Bool) (n : Fin 128), keepsQuery special (Char.ofNat n.1) = false →
      isFormMark (UInt8.ofNat n.1) = false := by decide +kernel
  have hc := hall special ⟨c.toNat, hascii⟩
  rw [Char.ofNat_toNat] at hc
  exact hc h

theorem read?_query (hbase : IsBase base) (hq : ∀ c ∈ q, isOrdinary c = true) :
    Parts.read? (base ++ '?' :: q) = (Parts.read? (base ++ ['?'])).map fun a =>
      { a with query := valuesByName (Form.decode q) } := by
  unfold Parts.read?
  rw [parse_query hbase hq]
  cases Url.parse (base ++ ['?']) with
  | error e => rfl
  | ok v =>
    have hdecode := Form.decode_percentEncode
      (fun c => isFormMark_of_not_keepsQuery (isSpecialScheme v.scheme) (c := c)) q
    simp only [Except.map, Option.map_some, writtenHost?_query hbase q, writtenPort?_query hbase q,
      queryPairs, Option.getD_some, hdecode]
    rfl

theorem read?_withFields (hbase : IsBase base) (hfields : ∀ q ∈ fields, IsField q) :
    Parts.read? (withFields base fields) = (Parts.read? (base ++ ['?'])).map fun a =>
      { a with query := valuesByName (fields.flatMap Form.decode) } := by
  rw [withFields, read?_query hbase (ordinary_intercalate hfields), Form.decode_intercalate]

/-! ## Acceptance -/

/-- A text is accepted as redirect URI. -/
def Accepts (rules : RedirectSettings) (client : Client) (text : List Char) : Prop :=
  ∃ uri, resolve rules client (some (String.ofList text)) = .ok uri

/-- A registered URI admits a text: both can be read, and they agree. -/
def Admits (rules : RedirectSettings) (g : String) (text : List Char) : Prop :=
  ∃ a b, Parts.read? text = some a ∧ Parts.read? (stripFragment g.toList) = some b ∧
    agrees rules a b = true

/-- The names in the queries of the registered URIs, as far as these can be read. They are read without
their fragments, as they are compared. -/
def registeredNames (client : Client) : List String :=
  client.redirectUris.toList.flatMap fun g =>
    match Url.parse (stripFragment g.toList) with
    | .ok w => w.queryPairs.map Prod.fst
    | .error _ => []

/-- A field with a name that is in no registered query. -/
def IsForeign (client : Client) (q : List Char) : Prop :=
  ∀ p ∈ Form.decode q, p.1 ∉ registeredNames client

/-- Fields that say the same as others to a client: put in another order, repeated, or with further ones
whose names are not registered. -/
inductive Varies (client : Client) (fields : List (List Char)) : List (List Char) → Prop
  | same : Varies client fields fields
  | permuted {l l' : List (List Char)} (h : Varies client fields l) (hperm : l.Perm l') :
    Varies client fields l'
  | repeated {l : List (List Char)} {q : List Char} (h : Varies client fields l) (hq : q ∈ l) :
    Varies client fields (q :: l)
  | added {l : List (List Char)} {q : List Char} (h : Varies client fields l) (hfield : IsField q)
    (hforeign : IsForeign client q) : Varies client fields (q :: l)

theorem Varies.subset (h : Varies client fields fields') : ∀ q ∈ fields, q ∈ fields' := by
  induction h with
  | same => exact fun _ hq => hq
  | permuted _ hperm ih => exact fun q hq => hperm.mem_iff.mp (ih q hq)
  | repeated _ _ ih => exact fun q hq => List.mem_cons_of_mem _ (ih q hq)
  | added _ _ _ ih => exact fun q hq => List.mem_cons_of_mem _ (ih q hq)

theorem Varies.old_or_foreign (h : Varies client fields fields') :
    ∀ q ∈ fields', q ∈ fields ∨ IsField q ∧ IsForeign client q := by
  induction h with
  | same => exact fun _ hq => .inl hq
  | permuted _ hperm ih => exact fun q hq => ih q (hperm.mem_iff.mpr hq)
  | repeated _ hq ih => exact List.forall_mem_cons.mpr ⟨ih _ hq, ih⟩
  | added _ hfield hforeign ih => exact List.forall_mem_cons.mpr ⟨.inr ⟨hfield, hforeign⟩, ih⟩

theorem Varies.isField (h : Varies client fields fields') (hfields : ∀ q ∈ fields, IsField q) :
    ∀ q ∈ fields', IsField q :=
  fun q hq => (h.old_or_foreign q hq).elim (hfields q) And.left

theorem mem_registeredNames {g name : String} {w : Url} (hg : g ∈ client.redirectUris)
    (hw : Url.parse (stripFragment g.toList) = .ok w) (hname : name ∈ w.queryPairs.map Prod.fst) :
    name ∈ registeredNames client :=
  List.mem_flatMap.mpr ⟨g, hg, by rw [hw]; exact hname⟩

theorem Varies.hasValues_iff {g : String} {w : Url} (h : Varies client fields fields')
    (hg : g ∈ client.redirectUris) (hw : Url.parse (stripFragment g.toList) = .ok w) :
    HasValues (fields.flatMap Form.decode) w.queryPairs ↔
      HasValues (fields'.flatMap Form.decode) w.queryPairs := by
  refine HasValues.congr (fun p hp => ?_) fun p hp => ?_
  · obtain ⟨q, hq, hp⟩ := List.mem_flatMap.mp hp
    exact List.mem_flatMap.mpr ⟨q, h.subset q hq, hp⟩
  · obtain ⟨q, hq, hp⟩ := List.mem_flatMap.mp hp
    obtain hold | ⟨_, hforeign⟩ := h.old_or_foreign q hq
    · exact .inl (List.mem_flatMap.mpr ⟨q, hold, hp⟩)
    · exact .inr fun hname => hforeign p hp (mem_registeredNames hg hw hname)

theorem admits_withFields_iff {g : String} (hbase : IsBase base) (hfields : ∀ q ∈ fields, IsField q) :
    Admits rules g (withFields base fields) ↔ ∃ a b w, Parts.read? (base ++ ['?']) = some a ∧
      Parts.read? (stripFragment g.toList) = some b ∧ Url.parse (stripFragment g.toList) = .ok w ∧
        AgreesApart rules a b ∧ HasValues (fields.flatMap Form.decode) w.queryPairs := by
  have hread := read?_withFields hbase hfields
  constructor
  · rintro ⟨v, b, hv, hb, hagrees⟩
    rw [hread] at hv
    obtain ⟨a, ha, rfl⟩ := Option.map_eq_some_iff.mp hv
    obtain ⟨w, hw, hquery⟩ := query_of_read? hb
    obtain ⟨hapart, hvalues⟩ := agrees_iff.mp hagrees
    rw [hquery] at hvalues
    exact ⟨a, b, w, ha, hb, hw, hapart, hasValues_iff.mpr hvalues⟩
  · rintro ⟨a, b, w, ha, hb, hw, hapart, hvalues⟩
    obtain ⟨w', hw', hquery⟩ := query_of_read? hb
    obtain rfl := Except.ok.inj (hw.symm.trans hw')
    have hv := hread.trans (Option.map_eq_some_iff.mpr ⟨a, ha, rfl⟩)
    refine ⟨_, b, hv, hb, agrees_iff.mpr ⟨hapart, ?_⟩⟩
    rw [hquery]
    exact hasValues_iff.mp hvalues

theorem comparable_withFields_iff (hbase : IsBase base) (hfields : ∀ q ∈ fields, IsField q) :
    Comparable (withFields base fields) ↔
      (∃ a, Parts.read? (base ++ ['?']) = some a) ∧ hasDotSegment (base ++ ['?']) = false := by
  have hreads : (∃ a, Parts.read? (withFields base fields) = some a) ↔
      ∃ a, Parts.read? (base ++ ['?']) = some a := by
    rw [read?_withFields hbase hfields]
    cases Parts.read? (base ++ ['?']) <;> simp
  have hdots : hasDotSegment (withFields base fields) = hasDotSegment (base ++ ['?']) :=
    hasDotSegment_query base _
  rw [← hreads, ← hdots, isSome_read?_iff]
  refine ⟨fun h => ⟨h.reads, hasDotSegment_iff.mpr h.straight⟩,
    fun h => ⟨h.1, fun c hc => ?_, hasDotSegment_iff.mp h.2⟩⟩
  exact isForbidden_of_isOrdinary (ordinary_withFields hbase hfields c hc)

theorem accepts_iff (hsharp : '#' ∉ text) : Accepts rules client text ↔
    MayRedirect rules client ∧ Comparable text ∧ ∃ g ∈ client.redirectUris, Admits rules g text := by
  have hregistered : isRegistered rules client text = true ↔
      ∃ g ∈ client.redirectUris, Admits rules g text := by
    rw [isRegistered_iff]
    constructor
    · rintro ⟨a, ha, g, hg, b, hb, hagrees⟩
      exact ⟨g, hg, a, b, ha, hb, hagrees⟩
    · rintro ⟨g, hg, a, b, ha, hb, hagrees⟩
      exact ⟨a, ha, g, hg, b, hb, hagrees⟩
  simp only [Accepts, resolve_some_iff, String.toList_ofList, stripFragment_eq_self hsharp, hregistered,
    exists_eq_left]

theorem accepts_iff_of_varies (h : Varies client fields fields') (hbase : IsBase base)
    (hfields : ∀ q ∈ fields, IsField q) :
    Accepts rules client (withFields base fields') ↔ Accepts rules client (withFields base fields) := by
  have hfields' := h.isField hfields
  rw [accepts_iff (sharp_not_mem (ordinary_withFields hbase hfields')),
    accepts_iff (sharp_not_mem (ordinary_withFields hbase hfields)),
    comparable_withFields_iff hbase hfields', comparable_withFields_iff hbase hfields]
  refine and_congr_right fun _ => and_congr_right fun _ => exists_congr fun g =>
    and_congr_right fun hg => ?_
  rw [admits_withFields_iff hbase hfields', admits_withFields_iff hbase hfields]
  refine exists_congr fun a => exists_congr fun b => exists_congr fun w => and_congr_right fun _ =>
    and_congr_right fun _ => and_congr_right fun hw => and_congr_right fun _ => ?_
  exact (h.hasValues_iff hg hw).symm

/-- A query is accepted for the values that its fields give to the registered names: their order does not
matter, nor how often one is given, nor fields with other names. Every registered URI that admits the
requested one has each of its names with exactly the values that are requested. -/
theorem resolve_by_values (rules : RedirectSettings) (client : Client) (base : List Char)
    (fields : List (List Char)) (hbase : IsBase base) (hfields : ∀ q ∈ fields, IsField q) :
    (∀ fields', Varies client fields fields' →
      (Accepts rules client (withFields base fields') ↔ Accepts rules client (withFields base fields))) ∧
    (Accepts rules client (withFields base fields) →
      ∃ g ∈ client.redirectUris, Admits rules g (withFields base fields)) ∧
    ∀ g ∈ client.redirectUris, Admits rules g (withFields base fields) →
      ∃ w, Url.parse (stripFragment g.toList) = .ok w ∧
        ∀ name ∈ w.queryPairs.map Prod.fst, ∀ value,
          (∃ q ∈ fields, (name, value) ∈ Form.decode q) ↔ (name, value) ∈ w.queryPairs := by
  refine ⟨fun fields' h => accepts_iff_of_varies h hbase hfields, fun h => ?_, fun g _ hadmits => ?_⟩
  · obtain ⟨_, _, hadmits⟩ := (accepts_iff (sharp_not_mem (ordinary_withFields hbase hfields))).mp h
    exact hadmits
  · obtain ⟨_, _, w, _, _, hw, _, hvalues⟩ := (admits_withFields_iff hbase hfields).mp hadmits
    refine ⟨w, hw, fun name hname value => ?_⟩
    rw [← hvalues name hname value, List.mem_flatMap]

theorem resolve_by_values_reordered :
    Accepts {} (registering ["https://good.com/cb?a=1&a=%32"])
      (withFields "https://good.com/cb".toList ["a=2".toList, "x=9".toList, "a=1".toList, "a=2".toList]) ∧
    ∃ g : String, ∃ w, Url.parse (stripFragment g.toList) = .ok w ∧
      ∀ name ∈ w.queryPairs.map Prod.fst, ∀ value,
        (∃ q ∈ ["a=1".toList, "a=2".toList], (name, value) ∈ Form.decode q) ↔
          (name, value) ∈ w.queryPairs := by
  have hbase : IsBase "https://good.com/cb".toList :=
    ⟨List.all_eq_true.mp (by decide +kernel), by decide +kernel, by decide +kernel⟩
  have hfields : ∀ q ∈ ["a=1".toList, "a=2".toList], IsField q :=
    List.forall_mem_cons.mpr ⟨⟨List.all_eq_true.mp (by decide +kernel), by decide +kernel⟩,
      List.forall_mem_singleton.mpr ⟨List.all_eq_true.mp (by decide +kernel), by decide +kernel⟩⟩
  have haccepts : Accepts {} (registering ["https://good.com/cb?a=1&a=%32"])
      (withFields "https://good.com/cb".toList ["a=1".toList, "a=2".toList]) :=
    ⟨"https://good.com/cb?a=1&a=2", by decide +kernel⟩
  have hforeign : IsForeign (registering ["https://good.com/cb?a=1&a=%32"]) "x=9".toList :=
    List.forall_iff_forall_mem.mp (by decide +kernel)
  have hvaries : Varies (registering ["https://good.com/cb?a=1&a=%32"])
      ["a=1".toList, "a=2".toList] ["a=2".toList, "x=9".toList, "a=1".toList, "a=2".toList] :=
    .permuted (.added (.repeated .same (List.mem_cons_of_mem _ List.mem_cons_self))
      ⟨List.all_eq_true.mp (by decide +kernel), by decide +kernel⟩ hforeign) (.swap _ _ _)
  obtain ⟨hsame, hadmits, hvalues⟩ := resolve_by_values {} _ _ _ hbase hfields
  obtain ⟨g, hg, hadmit⟩ := hadmits haccepts
  obtain ⟨w, hw, hset⟩ := hvalues g hg hadmit
  exact ⟨(hsame _ hvaries).mpr haccepts, g, w, hw, hset⟩

end ConsentGate.RedirectUri
