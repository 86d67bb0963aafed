import Thicket.Pattern.Match
import Thicket.Proofs.Pattern.Inheritance

/-!
# The end of a pursuit

A pursuit gives threads up on the way only when there are none, or none but an acceptance. So it is
decided at the end of the text (`pursue_concat`): if an acceptance lies just before a last character of
one byte, some next byte has to lead on; otherwise it is enough that a thread is left.

Threads that do not ask about word characters beyond ASCII move alike before all characters outside
ASCII (`move_beyond_ascii`). So the one byte that a pursuit looks at for all of these tells enough: if
any character leads the threads on, then a byte does (`leadsOn_of_after`).
-/

namespace Thicket

namespace Pattern

/-- A pattern that does not ask about word characters beyond ASCII. -/
def AsksAscii (p : Pattern) : Prop := p.asksUnicodeWords = false

theorem inherited_asksAscii : Inherited AsksAscii where
  literal := id
  seq := Bool.or_eq_false_iff.1
  alt := Bool.or_eq_false_iff.1
  group := id
  further := Iff.rfl
  rounds := Iff.rfl

variable {before : Option Char} {threads : List Thread} {c d : Char}

/-! ## Outside ASCII -/

theorem mem_singleBytes (h : isSingleByte c = true) : c ∈ singleBytes := by
  unfold isSingleByte at h
  exact List.mem_map.2 ⟨c.toNat, List.mem_range.2 (of_decide_eq_true h), Char.ofNat_toNat c⟩

/-- A set with a member outside ASCII is left with something outside ASCII. -/
theorem beyondAscii_ne_nil {chars : CharSet} (h : chars.contains c = true)
    (hc : isSingleByte c = false) : chars.beyondAscii ≠ [] := by
  unfold CharSet.contains CharSet.containsCode at h
  obtain ⟨span, hspan, hlo, hhi⟩ : ∃ span ∈ chars.spans, span.1 ≤ c.toNat ∧ c.toNat ≤ span.2 := by
    simpa using h
  have hbeyond : ¬ span.2 < 0x80 := by
    have : ¬ c.toNat < 0x80 := of_decide_eq_false hc
    omega
  apply List.ne_nil_of_mem (a := (max span.1 0x80, span.2))
  exact List.mem_filterMap.2 ⟨span, hspan, if_neg hbeyond⟩

theorem isSingleByte_of_isAlphanum (h : c.isAlphanum = true) : isSingleByte c = true := by
  -- the last of these characters is the small z
  have hle : c.val.toNat ≤ 122 := by
    rcases Bool.or_eq_true_iff.1 h with h | h
    · rcases Bool.or_eq_true_iff.1 h with hupper | hlower
      · exact Nat.le_trans (UInt32.le_iff_toNat_le.1 (of_decide_eq_true hupper).2) (by decide)
      · exact UInt32.le_iff_toNat_le.1 (of_decide_eq_true (Bool.and_eq_true_iff.1 hlower).2)
    · have hdigit := of_decide_eq_true (Bool.and_eq_true_iff.1 h).2
      exact Nat.le_trans (UInt32.le_iff_toNat_le.1 hdigit) (by decide)
  exact decide_eq_true (Nat.lt_of_le_of_lt hle (by decide))

/-- No character outside ASCII is one of ASCII. -/
theorem beq_of_beyond_ascii (hc : isSingleByte c = false) (hd : isSingleByte d = true) :
    (c == d) = false := by
  rw [beq_eq_false_iff_ne]
  rintro rfl
  rw [hc] at hd
  cases hd

theorem hasWord_ascii_of_beyond_ascii (hc : isSingleByte c = false) :
    Alphabet.ascii.hasWord c = false := by
  have halphanum : c.isAlphanum = false := by
    rw [← Bool.not_eq_true]
    intro h
    rw [isSingleByte_of_isAlphanum h] at hc
    cases hc
  rw [Alphabet.hasWord, halphanum, beq_of_beyond_ascii hc rfl]
  rfl

theorem holds_beyond_ascii {a : Assertion} (ha : AsksAscii (.assert a)) (hc : isSingleByte c = false)
    (hd : isSingleByte d = false) : a.holds ⟨before, some c⟩ = a.holds ⟨before, some d⟩ := by
  have hsame : ∀ e, isSingleByte e = true → (c == e) = (d == e) := by
    intro e he
    rw [beq_of_beyond_ascii hc he, beq_of_beyond_ascii hd he]
  have hfeed := hsame '\n' rfl
  have hreturn := hsame '\r' rfl
  cases a with
  | word alphabet test =>
    cases alphabet with
    | unicode => cases ha
    | ascii =>
      simp only [Assertion.holds, Option.any_some, hasWord_ascii_of_beyond_ascii hc,
        hasWord_ascii_of_beyond_ascii hd]
  | _ => simp [Assertion.holds, hfeed, hreturn, bne]

/-- A thread that asks about no word characters beyond ASCII moves alike before all characters outside
ASCII. -/
theorem move_beyond_ascii {t : Thread} (h : AllOf AsksAscii t) (hc : isSingleByte c = false)
    (hd : isSingleByte d = false) : move ⟨before, some c⟩ t = move ⟨before, some d⟩ t := by
  cases t with
  | nil => rfl
  | cons p k =>
    cases p with
    | assert a => rw [move, move, holds_beyond_ascii (allOf_cons.1 h).1 hc hd]
    | literal text => rcases text with _ | ⟨e, _ | ⟨e', text⟩⟩ <;> rfl
    | _ => rfl

/-! ## Leading on -/

/-- If a character leads the threads on, and there is no acceptance before it, then a byte does so. -/
theorem leadsOn_of_after (h : ∀ t ∈ threads, AllOf AsksAscii t)
    (haccepts : (frontier ⟨before, some c⟩ threads).accepts = false)
    (hafter : (frontier ⟨before, some c⟩ threads).after c ≠ []) : leadsOn before threads = true := by
  unfold leadsOn
  rw [Bool.or_eq_true]
  by_cases hbyte : isSingleByte c = true
  · refine .inr (List.any_eq_true.2 ⟨c, mem_singleBytes hbyte, ?_⟩)
    simp [haccepts, hafter]
  · -- the set that has the character is still there before any other character outside ASCII
    have hbeyond : isSingleByte c = false := by simpa using hbyte
    have hsame : frontier ⟨before, some (Char.ofNat 0x80)⟩ threads =
        frontier ⟨before, some c⟩ threads :=
      inherited_asksAscii.frontier_congr (fun t ht => move_beyond_ascii ht rfl hbeyond) h
    refine .inl ?_
    rw [hsame, haccepts, Bool.not_false, Bool.true_and, List.any_eq_true]
    obtain ⟨t, ht⟩ := List.exists_mem_of_ne_nil _ hafter
    rw [Frontier.after, List.mem_eraseDups, List.mem_filterMap] at ht
    obtain ⟨read, hread, heq⟩ := ht
    obtain ⟨hchars, -⟩ : read.1.contains c = true ∧ read.2 = t := by simpa using heq
    refine ⟨read, hread, ?_⟩
    simpa using beyondAscii_ne_nil hchars hbeyond

/-! ## To the end of the text -/

@[simp] theorem frontier_no_thread (n : Neighbours) : frontier n [] = ⟨[], false⟩ := rfl

@[simp] theorem leadsOn_no_thread (before : Option Char) : leadsOn before [] = false := by
  simp [leadsOn, Frontier.after]

@[simp] theorem pursue_no_thread (before : Option Char) (accepted : Bool) (text : Text) :
    pursue false before [] accepted text = false := by
  induction text generalizing before accepted with
  | nil => simp [pursue]
  | cons c text ih => simp [pursue, Frontier.after]

/-- A pursuit of threads over a text that ends in a character is decided after it. -/
theorem pursue_concat (before : Option Char) (threads : List Thread) (accepted : Bool) (text : Text)
    (c : Char) :
    pursue false before threads accepted (text ++ [c]) =
      if (frontier ⟨lastOf before text, some c⟩ (follow before threads text)).accepts &&
          isSingleByte c then
        leadsOn (some c) (follow before threads (text ++ [c]))
      else !(follow before threads (text ++ [c])).isEmpty := by
  induction text generalizing before threads accepted with
  | nil =>
    simp only [List.nil_append, pursue, follow, lastOf, Bool.false_and, Bool.false_eq_true, ↓reduceIte]
    cases (frontier ⟨before, some c⟩ threads).accepts && isSingleByte c
    · simp
    · simp
  | cons d text ih =>
    rw [List.cons_append, pursue, follow, follow, lastOf, Bool.false_and, if_neg Bool.false_ne_true]
    by_cases hnil : (frontier ⟨before, some d⟩ threads).after d = []
    · -- the threads are lost, whether or not the pursuit is given up here
      simp [hnil]
    · have hne : ((frontier ⟨before, some d⟩ threads).after d).isEmpty = false := by simpa using hnil
      simp only [hne, Bool.false_and, Bool.false_eq_true, ↓reduceIte]
      exact ih _ _ _

end Pattern

end Thicket
