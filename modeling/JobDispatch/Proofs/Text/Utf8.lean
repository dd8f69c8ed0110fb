import Mathlib.Data.String.Basic
import Mathlib.Tactic.Lemma

/-!
The order of texts is that of their bytes.

A text is encoded in UTF-8, each character in one to four bytes. The first byte says how many bytes
follow it, and more of them follow a greater one; each byte after it holds a digit of the
character's code to the base of 64.

* `utf8`: the bytes of a text.
* `encode_lt`: the bytes of a character come before those of any greater one.
* `utf8_lt_utf8`: the bytes of a text come before those of any greater one.
-/

namespace JobDispatch.Text

/-- The bytes of a text in its encoding. -/
def utf8 (s : String) : List UInt8 := s.toUTF8.data.toList

lemma utf8_eq (s : String) : utf8 s = s.toList.flatMap String.utf8EncodeChar := by
  have h : s.toUTF8 = (s.toList.flatMap String.utf8EncodeChar).toByteArray := by
    conv_lhs => rw [← String.ofList_toList (s := s)]
    exact String.toByteArray_ofList
  rw [utf8, h]
  simp

/-! ### Characters -/

/-- What is left of a number without its last `count` digits to the base of 64. -/
def leading : Nat → Nat → Nat
  | 0, v => v
  | count + 1, v => leading count (v / 64)

/-- The bytes for the last `count` digits of a number to the base of 64. -/
def following : Nat → Nat → List UInt8
  | 0, _ => []
  | count + 1, v => following count (v / 64) ++ [UInt8.ofNat (v % 64 + 128)]

lemma ofNat_lt_ofNat {m n : Nat} (hlt : m < n) (hn : n < 256) : UInt8.ofNat m < UInt8.ofNat n := by
  rw [UInt8.lt_iff_toNat_lt, UInt8.toNat_ofNat_of_lt' (Nat.lt_trans hlt hn),
    UInt8.toNat_ofNat_of_lt' hn]
  exact hlt

/-- Of two numbers that differ in their last digits only, the lesser one has the lesser bytes. -/
lemma following_lt (count : Nat) {m n : Nat} (hlt : m < n)
    (hsame : leading count m = leading count n) (rest rest' : List UInt8) :
    following count m ++ rest < following count n ++ rest' := by
  induction count generalizing m n rest rest' with
  | zero => exact absurd hsame (Nat.ne_of_lt hlt)
  | succ count ih =>
      rw [following, following, List.append_assoc, List.append_assoc]
      by_cases hhigh : m / 64 < n / 64
      · exact ih hhigh hsame _ _
      · have heq : m / 64 = n / 64 := by omega
        rw [heq]
        refine List.append_left_lt (List.Lex.rel ?_)
        exact ofNat_lt_ofNat (by omega) (by omega)

/-- The first byte of the encoding of a character of code `v`, and the number of the bytes after
it. -/
inductive Leads (v : Nat) : Nat → Nat → Prop where
  | one (h : v ≤ 127) : Leads v v 0
  | two (h : 127 < v) (h' : v ≤ 2047) : Leads v (leading 1 v + 192) 1
  | three (h : 2047 < v) (h' : v ≤ 65535) : Leads v (leading 2 v + 224) 2
  | four (h : 65535 < v) (h' : v < 1114112) : Leads v (leading 3 v + 240) 3

lemma encode_eq (c : Char) : ∃ first count, Leads c.val.toNat first count ∧
    String.utf8EncodeChar c = UInt8.ofNat first :: following count c.val.toNat := by
  have hbound : c.val.toNat < 1114112 := by
    obtain hlow | ⟨-, hhigh⟩ := c.valid
    · omega
    · exact hhigh
  simp only [String.utf8EncodeChar]
  generalize c.val.toNat = v at *
  split_ifs with hone htwo hthree
  · exact ⟨_, _, .one hone, rfl⟩
  · refine ⟨_, _, .two (by omega) htwo, ?_⟩
    rw [Nat.mod_eq_of_lt (by omega)]
    rfl
  · refine ⟨_, _, .three (by omega) hthree, ?_⟩
    rw [Nat.mod_eq_of_lt (by omega)]
    simp [following, leading, Nat.div_div_eq_div_mul]
  · refine ⟨_, _, .four (by omega) hbound, ?_⟩
    rw [Nat.mod_eq_of_lt (by omega)]
    simp [following, leading, Nat.div_div_eq_div_mul]

/-- The encoding of a character comes before that of any greater one, whatever follows the two. -/
lemma encode_lt {c d : Char} (h : c < d) (rest rest' : List UInt8) :
    String.utf8EncodeChar c ++ rest < String.utf8EncodeChar d ++ rest' := by
  have hlt : c.val.toNat < d.val.toNat := h
  obtain ⟨first, count, hleads, heq⟩ := encode_eq c
  obtain ⟨first', count', hleads', heq'⟩ := encode_eq d
  rw [heq, heq']
  have hcases : (first < first' ∧ first' < 256) ∨ first = first' ∧ count = count' ∧
      leading count c.val.toNat = leading count' d.val.toNat := by
    cases hleads <;> cases hleads' <;>
      simp only [leading, Nat.div_div_eq_div_mul, true_and] <;> omega
  obtain ⟨hfirst, hbyte⟩ | ⟨rfl, rfl, hsame⟩ := hcases
  · exact List.Lex.rel (ofNat_lt_ofNat hfirst hbyte)
  · exact List.Lex.cons (following_lt count hlt hsame rest rest')

/-! ### Texts -/

/-- The bytes of texts are ordered as the texts are. -/
theorem utf8_lt_utf8 {s t : String} (h : s < t) : utf8 s < utf8 t := by
  rw [utf8_eq, utf8_eq]
  have hlist : s.toList < t.toList := String.lt_iff_toList_lt.mp h
  generalize s.toList = cs at hlist
  generalize t.toList = ds at hlist
  induction hlist with
  | @nil d rest =>
      obtain ⟨first, count, -, heq⟩ := encode_eq d
      rw [List.flatMap_cons, heq]
      exact List.Lex.nil
  | @cons c rest rest' _ ih =>
      rw [List.flatMap_cons, List.flatMap_cons]
      exact List.append_left_lt ih
  | rel hlt => exact encode_lt hlt _ _

end JobDispatch.Text
