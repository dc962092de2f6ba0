import Mathlib.Data.String.Basic
import Mathlib.Tactic.Lemma

/-!
The order of texts. Texts are ordered by the code points of their characters, and this is the order of their
bytes in UTF-8 (`lt_iff_bytes_lt`): of two different characters neither code begins the other one, and where
they part the smaller character has the smaller byte.
-/

namespace RowQuery.Text

/-- The bytes of a text in UTF-8. -/
def bytes (s : String) : List UInt8 := s.toList.flatMap String.utf8EncodeChar

/-- A character comes before a greater one by its bytes, whatever stands behind them. -/
lemma encode_append_lt {c d : Char} (h : c < d) (xs ys : List UInt8) :
    String.utf8EncodeChar c ++ xs < String.utf8EncodeChar d ++ ys := by
  have hlt : c.val.toNat < d.val.toNat := h
  have hd : d.val.toNat < 0x110000 := by
    have hvalid := d.valid
    simp only [UInt32.isValidChar, Nat.isValidChar] at hvalid
    omega
  -- A byte that continues a character holds six bits, so each part of a code point is that of the next shift.
  have hshift (n : Nat) : n / 4096 = n / 64 / 64 ∧ n / 262144 = n / 64 / 64 / 64 := by omega
  rw [String.utf8EncodeChar, String.utf8EncodeChar, (hshift c.val.toNat).1, (hshift c.val.toNat).2,
    (hshift d.val.toNat).1, (hshift d.val.toNat).2]
  generalize c.val.toNat = m at hlt
  generalize d.val.toNat = n at hlt hd
  split_ifs <;>
    simp only [List.cons_append, List.nil_append, List.cons_lt_cons_iff, UInt8.lt_iff_toNat_lt,
      ← UInt8.toNat_inj, UInt8.toNat_ofNat'] <;>
    omega

/-- What comes first by its characters comes first by their bytes. -/
lemma flatMap_encode_lt {cs ds : List Char} (h : cs < ds) :
    cs.flatMap String.utf8EncodeChar < ds.flatMap String.utf8EncodeChar := by
  induction cs generalizing ds with
  | nil =>
    cases ds with
    | nil => exact absurd h (List.lt_irrefl _)
    | cons d ds =>
      have hne : String.utf8EncodeChar d ≠ [] := by
        have hpos := d.utf8Size_pos
        rw [← String.length_utf8EncodeChar] at hpos
        exact List.ne_nil_of_length_pos hpos
      obtain ⟨b, bs, hb⟩ := List.exists_cons_of_ne_nil hne
      rw [List.flatMap_cons, hb]
      exact List.nil_lt_cons b _
  | cons c cs ih =>
    cases ds with
    | nil => exact absurd h (List.not_lt_nil _)
    | cons d ds =>
      rw [List.flatMap_cons, List.flatMap_cons]
      rcases List.cons_lt_cons_iff.mp h with hlt | ⟨rfl, hlt⟩
      · exact encode_append_lt hlt _ _
      · exact List.append_left_lt (ih hlt)

/-- The order of texts is that of their bytes. -/
lemma lt_iff_bytes_lt {s t : String} : s < t ↔ bytes s < bytes t := by
  have hbytes {s t : String} (h : s < t) : bytes s < bytes t :=
    flatMap_encode_lt (String.lt_iff_toList_lt.mp h)
  refine ⟨hbytes, fun h => ?_⟩
  rcases lt_trichotomy s t with hlt | rfl | hgt
  · exact hlt
  · exact absurd h (List.lt_irrefl _)
  · exact absurd h (List.lt_asymm (hbytes hgt))

end RowQuery.Text
