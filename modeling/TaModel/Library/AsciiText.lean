import Mathlib.Data.List.Basic
import Mathlib.Tactic.NormNum

/-!
# Characters of a string

`String.toList` decodes a string position by position, which the kernel evaluates in quadratic time.
`chars` is the same list (`chars_eq_toList`), read off the bytes where these are ASCII.
-/

set_option autoImplicit false

namespace TaModel.Library

/-- The bytes of a string. -/
def textBytes (s : String) : List Nat := s.toByteArray.data.toList.map UInt8.toNat

/-- The characters of a string. -/
def chars (s : String) : List Char :=
  if (textBytes s).all fun n => decide (n < 128) then (textBytes s).map Char.ofNat else s.toList

/-- A character whose bytes are ASCII is encoded by itself. -/
theorem utf8EncodeChar_ascii {c : Char} (h : ∀ b ∈ String.utf8EncodeChar c, b.toNat < 128) :
    String.utf8EncodeChar c = [UInt8.ofNat c.toNat] ∧ c.toNat < 128 := by
  unfold String.utf8EncodeChar at h ⊢
  dsimp only at h ⊢
  split at h
  · next hle =>
      rw [if_pos hle]
      exact ⟨rfl, Nat.lt_succ_of_le hle⟩
  · -- the first byte of a longer encoding is at least 128
    exfalso
    split at h
    · have hfirst := h _ List.mem_cons_self
      rw [UInt8.toNat_ofNat'] at hfirst
      omega
    · split at h
      · have hfirst := h _ List.mem_cons_self
        rw [UInt8.toNat_ofNat'] at hfirst
        omega
      · have hfirst := h _ List.mem_cons_self
        rw [UInt8.toNat_ofNat'] at hfirst
        omega

theorem textBytes_ofList (l : List Char) :
    textBytes (String.ofList l) = (l.flatMap String.utf8EncodeChar).map UInt8.toNat := by
  unfold textBytes
  have hbytes : (String.ofList l).toByteArray =
      (l.flatMap String.utf8EncodeChar).toByteArray := rfl
  rw [hbytes, List.toList_data_toByteArray]

/-- Characters that are encoded by ASCII bytes are these bytes. -/
theorem map_ofNat_of_ascii {l : List Char}
    (h : ∀ b ∈ l.flatMap String.utf8EncodeChar, b.toNat < 128) :
    ((l.flatMap String.utf8EncodeChar).map UInt8.toNat).map Char.ofNat = l := by
  induction l with
  | nil => rfl
  | cons c l ih =>
      rw [List.flatMap_cons] at h ⊢
      have htail := ih fun b hb => h b (List.mem_append_right _ hb)
      obtain ⟨hencoded, hlt⟩ := utf8EncodeChar_ascii fun b hb => h b (List.mem_append_left _ hb)
      have hmod : (UInt8.ofNat c.toNat).toNat = c.toNat := by
        rw [UInt8.toNat_ofNat']
        exact Nat.mod_eq_of_lt (hlt.trans (by norm_num))
      rw [List.map_append, List.map_append, htail, hencoded, List.map_singleton,
        List.map_singleton, hmod, Char.ofNat_toNat, List.singleton_append]

theorem chars_ofList (l : List Char) : chars (String.ofList l) = l := by
  unfold chars
  rw [textBytes_ofList]
  split
  · next hascii =>
      apply map_ofNat_of_ascii
      intro b hb
      have hlt := List.all_eq_true.mp hascii b.toNat (List.mem_map_of_mem hb)
      exact of_decide_eq_true hlt
  · exact String.toList_ofList

@[simp] theorem chars_eq_toList (s : String) : chars s = s.toList := by
  have h := chars_ofList s.toList
  rwa [String.ofList_toList] at h

end TaModel.Library
