import Thicket.Proofs.Pattern.Lockstep

/-!
# The course of a match

The preferred match of a text that goes on is settled by two things: the threads that are left at the
end of what has been read (`follow`), and the last acceptance before that end (`accepted?`). The
threads come first, and the acceptance counts if they come to nothing: `runLength?_append`.

A thread that leads to a match in some way (`Leads`) is not lost among others: then there is a match
(`exists_runLength?_of_leads`).
-/

namespace Thicket.Pattern

variable {before : Option Char} {threads : List Thread} {text : Text}

/-! ## Reading a part of the text -/

/-- The threads that are left when a text has been read. -/
def follow (before : Option Char) (threads : List Thread) : Text → List Thread
  | [] => threads
  | c :: text => follow (some c) ((frontier ⟨before, some c⟩ threads).after c) text

/-- The last acceptance before the end of a text. -/
def accepted? (before : Option Char) (threads : List Thread) : Text → Option Nat
  | [] => none
  | c :: text =>
    let f := frontier ⟨before, some c⟩ threads
    (accepted? (some c) (f.after c) text).map (· + 1) <|> if f.accepts then some 0 else none

/-- The character before the end of a text that follows another character. -/
def lastOf (before : Option Char) : Text → Option Char
  | [] => before
  | c :: text => lastOf (some c) text

theorem accepted?_lt {n : Nat} (h : accepted? before threads text = some n) : n < text.length := by
  induction text generalizing before threads n with
  | nil => cases h
  | cons c text ih =>
    rw [accepted?] at h
    cases hlater : accepted? (some c) ((frontier ⟨before, some c⟩ threads).after c) text with
    | some m =>
      have := ih hlater
      rw [hlater] at h
      cases h
      simp only [List.length_cons]
      omega
    | none =>
      rw [hlater] at h
      simp only [Option.map_none] at h
      obtain ⟨-, rfl⟩ : _ ∧ 0 = n := by simpa using h
      simp

/-- What is read later comes first, and then the last acceptance before it. -/
theorem runLength?_append (before : Option Char) (threads : List Thread) (u v : Text) :
    runLength? before threads (u ++ v) =
      ((runLength? (lastOf before u) (follow before threads u) v).map (u.length + ·) <|>
        accepted? before threads u) := by
  induction u generalizing before threads with
  | nil => simp [follow, lastOf, accepted?]
  | cons c u ih =>
    rw [List.cons_append, runLength?_cons, ih, follow, lastOf, accepted?]
    cases runLength? (lastOf (some c) u) (follow (some c) _ u) v with
    | some n => simp [Nat.add_right_comm]
    | none => simp

/-- An acceptance before the last character counts before all earlier ones. -/
theorem accepted?_concat (before : Option Char) (threads : List Thread) (text : Text) (c : Char) :
    accepted? before threads (text ++ [c]) =
      if (frontier ⟨lastOf before text, some c⟩ (follow before threads text)).accepts then
        some text.length
      else accepted? before threads text := by
  induction text generalizing before threads with
  | nil => rfl
  | cons d text ih =>
    rw [List.cons_append, accepted?, ih, follow, lastOf, accepted?]
    split <;> simp

/-- The preferred match lies within the text. -/
theorem runLength?_le {n : Nat}
    (h : runLength? before threads text = some n) : n ≤ text.length := by
  have happend := runLength?_append before threads text []
  rw [List.append_nil, h, runLength?] at happend
  by_cases hend : (frontier ⟨lastOf before text, none⟩ (follow before threads text)).accepts = true
  · obtain rfl : n = text.length := by simpa [hend] using happend
    exact Nat.le_refl _
  · have haccepted : accepted? before threads text = some n := by simpa [hend] using happend.symm
    exact Nat.le_of_lt (accepted?_lt haccepted)

@[simp] theorem follow_no_thread (before : Option Char) (text : Text) :
    follow before [] text = [] := by
  induction text generalizing before with
  | nil => rfl
  | cons c text ih => exact ih (some c)

/-! ## Threads that lead to a match -/

/-- In some way the thread reads the beginning of the text and then accepts. -/
inductive Leads : (before : Option Char) → Thread → Text → Prop
  | accept {before : Option Char} {t : Thread} {text : Text}
    (hmove : move ⟨before, text.head?⟩ t = .accept) : Leads before t text
  | read {before : Option Char} {t rest : Thread} {chars : CharSet} {c : Char} {text : Text}
    (hmove : move ⟨before, some c⟩ t = .read chars rest) (hchars : chars.contains c = true)
    (later : Leads (some c) rest text) : Leads before t (c :: text)
  | fork {before : Option Char} {t t' : Thread} {threads : List Thread} {text : Text}
    (hmove : move ⟨before, text.head?⟩ t = .fork threads) (hmem : t' ∈ threads)
    (later : Leads before t' text) : Leads before t text

/-- No dead end leads to a match. -/
theorem Leads.not_mem {all : List Thread} {t : Thread} (h : Leads before t text)
    (hdead : ∀ u ∈ all, DeadEnd before text all u) : t ∉ all := by
  induction h generalizing all with
  | accept hmove => exact fun ht => (hdead _ ht).accept hmove
  | read hmove hchars _ ih =>
    intro ht
    obtain ⟨all', -, hrest, hdead', -⟩ :=
      ((hdead _ ht).read _ _ _ _ hmove rfl hchars).exists_deadEnd
    exact ih (fun u hu => hdead' u hu List.not_mem_nil) (hrest List.mem_cons_self)
  | fork hmove hmem _ ih =>
    intro ht
    exact ih hdead ((hdead _ ht).next _ hmove hmem)

/-- If one of the threads leads to a match, then they come to one. -/
theorem exists_runLength?_of_leads {t : Thread} (ht : t ∈ threads) (h : Leads before t text) :
    ∃ n, runLength? before threads text = some n := by
  cases hrun : runLength? before threads text with
  | some n => exact ⟨n, rfl⟩
  | none =>
    obtain ⟨all, -, hall, hdead, -⟩ := (tries_iff.2 hrun).exists_deadEnd
    exact absurd (hall ht) (h.not_mem fun u hu => hdead u hu List.not_mem_nil)

end Thicket.Pattern
