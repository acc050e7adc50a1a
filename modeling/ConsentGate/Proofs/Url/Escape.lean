import ConsentGate.Proofs.Text.Percent
import ConsentGate.Url.Escape

namespace ConsentGate.Url

open Text.Percent

theorem keepsEscapes_of {keep : Char → Bool} (hp : keep '%' = true)
    (hd : ∀ n : Fin 16, keep (Text.Hex.upper n.1) = true) : KeepsEscapes keep :=
  ⟨hp, fun n hn => hd ⟨n, hn⟩⟩

theorem keepsEscapes_flat : KeepsEscapes keepsFlat := keepsEscapes_of (by decide) (by decide)

theorem keepsEscapes_fragment : KeepsEscapes keepsFragment :=
  keepsEscapes_of (by decide) (by decide)

theorem keepsEscapes_path : KeepsEscapes keepsPath := keepsEscapes_of (by decide) (by decide)

theorem keepsEscapes_userinfo : KeepsEscapes keepsUserinfo :=
  keepsEscapes_of (by decide) (by decide)

theorem keepsEscapes_query (special : Bool) : KeepsEscapes (keepsQuery special) := by
  cases special <;> exact keepsEscapes_of (by decide) (by decide)

theorem mem_of_mem_encode {keep : Char → Bool} {s : List Char} {c : Char}
    (h : c ∈ encode keep s) (hp : c ≠ '%') (hd : ∀ n : Fin 16, c ≠ Text.Hex.upper n.1) : c ∈ s := by
  obtain ⟨hc, _⟩ | hc | ⟨n, hn, hc⟩ := mem_encode h
  · exact hc
  · exact absurd hc hp
  · exact absurd hc (hd ⟨n, hn⟩)

theorem head?_of_head?_encode {keep : Char → Bool} {s : List Char} {c : Char}
    (h : (encode keep s).head? = some c) (hp : c ≠ '%') : s.head? = some c := by
  cases s with
  | nil => simp [encode] at h
  | cons d r =>
    rw [encode_cons] at h
    split at h
    · simpa using h
    · obtain ⟨b, bs, hbytes⟩ := List.exists_cons_of_ne_nil (String.utf8EncodeChar_ne_nil (c := d))
      rw [hbytes] at h
      exact absurd (by simpa [escape] using h.symm) hp

end ConsentGate.Url
