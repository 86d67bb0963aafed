import Mathlib.Data.List.Basic
import Thicket.Text.Basic

/-!
# Reading what was written

Readers take something off the front of a text and tell what is left of it. `readDecimal?` reads a
number back from its decimal digits, as long as the text goes on with something else.
-/

namespace Thicket.Text

/-- The number in the digits that a text begins with, and the rest of the text. -/
def readDecimal? (t : Text) : Option (Nat × Text) :=
  match t.takeWhile Char.isDigit with
  | [] => none
  | c :: digits => some (Nat.ofDigitChars 10 (c :: digits) 0, t.dropWhile Char.isDigit)

theorem readDecimal?_decimal (n : Nat) {c : Char} (hc : c.isDigit = false) (rest : Text) :
    readDecimal? (decimal n ++ c :: rest) = some (n, c :: rest) := by
  have hdigits : ∀ d ∈ decimal n, d.isDigit = true := fun d hd =>
    Nat.isDigit_of_mem_toDigits (by decide) (by decide) hd
  have hne : decimal n ≠ [] := Nat.toDigits_ne_nil
  have htake : (decimal n ++ c :: rest).takeWhile Char.isDigit = decimal n := by
    rw [List.takeWhile_append_of_pos hdigits, List.takeWhile_cons_of_neg (by simp [hc]),
      List.append_nil]
  have hdrop : (decimal n ++ c :: rest).dropWhile Char.isDigit = c :: rest := by
    rw [List.dropWhile_append_of_pos hdigits, List.dropWhile_cons_of_neg (by simp [hc])]
  have hvalue : Nat.ofDigitChars 10 (decimal n) 0 = n :=
    Nat.ofDigitChars_toDigits (by decide) (by decide)
  unfold readDecimal?
  rw [htake, hdrop]
  split
  · next hnil => exact absurd hnil hne
  · next d digits hcons => rw [← hcons, hvalue]

/-- Numbers that are followed by something else than a digit are told apart. -/
theorem decimal_append_inj {m n : Nat} {c d : Char} {u v : Text} (hc : c.isDigit = false)
    (hd : d.isDigit = false) (h : decimal m ++ c :: u = decimal n ++ d :: v) :
    m = n ∧ c :: u = d :: v := by
  have hread := congrArg readDecimal? h
  rw [readDecimal?_decimal m hc, readDecimal?_decimal n hd] at hread
  exact Prod.ext_iff.1 (Option.some.inj hread)

/-- Texts that end before the first occurrence of a character are told apart. -/
theorem append_cons_inj {c : Char} {s t u v : Text} (hs : c ∉ s) (ht : c ∉ t)
    (h : s ++ c :: u = t ++ c :: v) : s = t ∧ u = v := by
  induction s generalizing t with
  | nil =>
    cases t with
    | nil => exact ⟨rfl, (List.cons.inj h).2⟩
    | cons d t => exact absurd ((List.cons.inj h).1 ▸ List.mem_cons_self) ht
  | cons d s ih =>
    cases t with
    | nil => exact absurd ((List.cons.inj h).1 ▸ List.mem_cons_self) hs
    | cons e t =>
      obtain ⟨rfl, hrest⟩ := List.cons.inj h
      obtain ⟨rfl, huv⟩ := ih (fun hc => hs (List.mem_cons_of_mem _ hc))
        (fun hc => ht (List.mem_cons_of_mem _ hc)) hrest
      exact ⟨rfl, huv⟩

theorem length_readDecimal?_le {t rest : Text} {n : Nat} (h : readDecimal? t = some (n, rest)) :
    rest.length ≤ t.length := by
  unfold readDecimal? at h
  split at h
  · cases h
  · cases h
    exact (List.dropWhile_suffix _).length_le

theorem dropPrefix?_append (p t : Text) : (p ++ t).dropPrefix? p = some t :=
  List.dropPrefix?_eq_some_iff.2 ⟨p, rfl, beq_self_eq_true p⟩

theorem length_dropPrefix? {p t rest : Text} (h : t.dropPrefix? p = some rest) :
    p.length + rest.length = t.length := by
  obtain ⟨p', rfl, hp⟩ := List.dropPrefix?_eq_some_iff.1 h
  rw [eq_of_beq hp, List.length_append]

end Thicket.Text
