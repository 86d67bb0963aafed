import Thicket.Proofs.Pattern.Inheritance

/-!
# Plain patterns

A plain pattern asserts nothing and has no set without a member. What such a pattern matches at a place
does not depend on what stands around it: its threads move alike between any neighbours
(`frontier_plain`). And every one of its threads leads to a match, if the right text follows
(`exists_runLength?_plain`).
-/

namespace Thicket

/-- A pattern of literals, sets with a member, sequences, choices, repetitions and groups. -/
def Pattern.Plain : Pattern → Prop
  | .empty | .literal _ => True
  | .set _ chars => ∃ c, chars.contains c = true
  | .assert _ => False
  | .seq p q | .alt p q => p.Plain ∧ q.Plain
  | .rounds p _ _ _ | .further p _ | .group _ p => p.Plain

namespace Pattern

/-- A thread of plain patterns. -/
def PlainThread (t : Thread) : Prop := ∀ p ∈ t, p.Plain

@[simp] theorem plainThread_nil : PlainThread [] := allOf_nil

@[simp] theorem plainThread_cons {p : Pattern} {k : Thread} :
    PlainThread (p :: k) ↔ p.Plain ∧ PlainThread k := allOf_cons

theorem plainThread_start {p : Pattern} (h : p.Plain) : ∀ t ∈ [[p]], PlainThread t := allOf_start h

theorem not_asksUnicodeWords {p : Pattern} (h : p.Plain) : p.asksUnicodeWords = false := by
  induction p with
  | assert => exact h.elim
  | seq p q ihp ihq => rw [asksUnicodeWords, ihp h.1, ihq h.2]; rfl
  | alt p q ihp ihq => rw [asksUnicodeWords, ihp h.1, ihq h.2]; rfl
  | rounds p _ _ _ ih => exact ih h
  | further p _ ih => exact ih h
  | group _ p ih => exact ih h
  | _ => rfl

/-! ## Moving -/

/-- The move of a plain thread is the same between any neighbours. -/
theorem move_plain {t : Thread} (h : PlainThread t) (n n' : Neighbours) : move n t = move n' t := by
  cases t with
  | nil => rfl
  | cons p k =>
    obtain ⟨hp, -⟩ := plainThread_cons.1 h
    cases p with
    | assert => exact hp.elim
    | literal text =>
      match text with
      | [] => rfl
      | [c] => rfl
      | c :: d :: text => rfl
    | _ => rfl

theorem inherited_plain : Inherited Plain where
  literal := fun _ => trivial
  seq := id
  alt := id
  group := id
  further := Iff.rfl
  rounds := Iff.rfl

/-! ## Frontiers -/

/-- The frontier of plain threads is the same between any neighbours. -/
theorem frontier_plain {threads : List Thread} (h : ∀ t ∈ threads, PlainThread t)
    (n n' : Neighbours) : frontier n threads = frontier n' threads :=
  inherited_plain.frontier_congr (fun _ ht => move_plain ht n n') h

/-- What plain threads come to does not depend on the character before. -/
theorem runLength?_plain {threads : List Thread} (h : ∀ t ∈ threads, PlainThread t)
    (before before' : Option Char) (text : Text) :
    runLength? before threads text = runLength? before' threads text := by
  cases text with
  | nil => rw [runLength?, runLength?, frontier_plain h]
  | cons c text =>
    rw [runLength?_cons, runLength?_cons, frontier_plain h ⟨before, some c⟩ ⟨before', some c⟩]

/-- Plain threads that accept before the end of a text come to a match in every text. -/
theorem runLength?_ne_none_of_accepts {before : Option Char} {threads : List Thread} {n : Nat}
    (h : ∀ t ∈ threads, PlainThread t) (hend : runLength? before threads [] = some n) (text : Text) :
    runLength? before threads text ≠ none := by
  cases text with
  | nil =>
    rw [hend]
    exact Option.some_ne_none n
  | cons c text =>
    intro hnone
    have haccepts : (frontier ⟨before, none⟩ threads).accepts = true := by
      rw [runLength?] at hend
      split at hend
      · assumption
      · cases hend
    rw [runLength?_cons, frontier_plain h ⟨before, some c⟩ ⟨before, none⟩, if_pos haccepts] at hnone
    cases hlater : runLength? (some c) ((frontier ⟨before, none⟩ threads).after c) text <;>
      rw [hlater] at hnone <;> cases hnone

theorem plain_follow {before : Option Char} {threads : List Thread}
    (h : ∀ t ∈ threads, PlainThread t) (text : Text) :
    ∀ t ∈ follow before threads text, PlainThread t := inherited_plain.of_mem_follow h text

/-! ## Every plain thread leads to a match -/

theorem contains_single_iff {c d : Char} : (CharSet.single c).contains d = true ↔ c = d := by
  constructor
  · intro h
    have hcode : c.toNat = d.toNat := by
      simp only [CharSet.contains, CharSet.containsCode, CharSet.single, List.any_cons, List.any_nil,
        Bool.or_false, Bool.and_eq_true, decide_eq_true_eq] at h
      omega
    rw [← Char.ofNat_toNat c, hcode, Char.ofNat_toNat]
  · rintro rfl
    simp [CharSet.contains, CharSet.containsCode, CharSet.single]

theorem contains_single (c : Char) : (CharSet.single c).contains c = true := contains_single_iff.2 rfl

/-- A pattern can be got through: some text leads through it to whatever leads on from there. -/
def Passable (p : Pattern) : Prop :=
  ∃ w : Text, ∀ (k : Thread) (text : Text), (∀ before, Leads before k text) →
    ∀ before, Leads before (p :: k) (w ++ text)

theorem passable_literal (text : Text) : Passable (.literal text) := by
  refine ⟨text, ?_⟩
  intro k later hk
  induction text with
  | nil => exact fun before => .fork rfl List.mem_cons_self (hk before)
  | cons c text ih =>
    cases text with
    | nil => exact fun before => .read rfl (contains_single c) (hk _)
    | cons d text => exact fun before => .read rfl (contains_single c) (ih _)

/-- A thread that may stop leads where stopping leads. -/
theorem leads_of_stop {before : Option Char} {t again stop : Thread} {greedy : Bool} {text : Text}
    (hmove : move ⟨before, text.head?⟩ t = inOrder greedy again stop) (h : Leads before stop text) :
    Leads before t text := by
  cases greedy
  · exact .fork hmove List.mem_cons_self h
  · exact .fork hmove (List.mem_cons_of_mem _ List.mem_cons_self) h

theorem leads_further {before : Option Char} {p : Pattern} {k : Thread} {greedy : Bool} {text : Text}
    (h : Leads before k text) : Leads before (.further p greedy :: k) text :=
  leads_of_stop rfl h

theorem passable_rounds {p : Pattern} (hp : Passable p) (least : Nat) (most : Option Nat)
    (greedy : Bool) : Passable (.rounds p least most greedy) := by
  obtain ⟨w, hw⟩ := hp
  induction least generalizing most with
  | zero =>
    refine ⟨[], ?_⟩
    intro k text hk before
    cases most with
    | none =>
      by_cases hconsumes : p.alwaysConsumes = true
      · exact .fork (by rw [move, if_pos hconsumes]) List.mem_cons_self (leads_further (hk before))
      · exact leads_of_stop (by rw [move, if_neg hconsumes]) (hk before)
    | some most =>
      cases most with
      | zero => exact .fork rfl List.mem_cons_self (hk before)
      | succ most => exact leads_of_stop rfl (hk before)
  | succ least ih =>
    cases least with
    | zero =>
      cases most with
      | none =>
        refine ⟨w, ?_⟩
        intro k text hk before
        exact .fork rfl List.mem_cons_self (hw _ text (fun before => leads_further (hk before)) before)
      | some most =>
        obtain ⟨w', hw'⟩ := ih (some (most - 1))
        refine ⟨w ++ w', ?_⟩
        intro k text hk before
        rw [List.append_assoc]
        exact .fork rfl List.mem_cons_self (hw _ _ (hw' k text hk) before)
    | succ least =>
      obtain ⟨w', hw'⟩ := ih (most.map (· - 1))
      refine ⟨w ++ w', ?_⟩
      intro k text hk before
      rw [List.append_assoc]
      exact .fork rfl List.mem_cons_self (hw _ _ (hw' k text hk) before)

theorem passable {p : Pattern} (h : p.Plain) : Passable p := by
  induction p with
  | empty => exact ⟨[], fun k text hk before => .fork rfl List.mem_cons_self (hk before)⟩
  | literal text => exact passable_literal text
  | set alphabet chars =>
    obtain ⟨c, hc⟩ := h
    exact ⟨[c], fun k text hk before => .read rfl hc (hk _)⟩
  | assert => exact h.elim
  | seq p q ihp ihq =>
    obtain ⟨w, hw⟩ := ihp h.1
    obtain ⟨w', hw'⟩ := ihq h.2
    refine ⟨w ++ w', ?_⟩
    intro k text hk before
    rw [List.append_assoc]
    exact .fork rfl List.mem_cons_self (hw _ _ (hw' k text hk) before)
  | alt p q ihp ihq =>
    obtain ⟨w, hw⟩ := ihp h.1
    exact ⟨w, fun k text hk before => .fork rfl List.mem_cons_self (hw k text hk before)⟩
  | rounds p least most greedy ih => exact passable_rounds (ih h) least most greedy
  | further p greedy ih => exact ⟨[], fun k text hk before => leads_further (hk before)⟩
  | group number p ih =>
    obtain ⟨w, hw⟩ := ih h
    exact ⟨w, fun k text hk before => .fork rfl List.mem_cons_self (hw k text hk before)⟩

theorem exists_leads {t : Thread} (h : PlainThread t) : ∃ text, ∀ before, Leads before t text := by
  induction t with
  | nil => exact ⟨[], fun before => .accept rfl⟩
  | cons p k ih =>
    obtain ⟨hp, hk⟩ := plainThread_cons.1 h
    obtain ⟨text, htext⟩ := ih hk
    obtain ⟨w, hw⟩ := passable hp
    exact ⟨w ++ text, hw k text htext⟩

/-- If any plain thread is left, some text leads to a match. -/
theorem exists_runLength?_plain {threads : List Thread} (h : ∀ t ∈ threads, PlainThread t)
    (hne : threads ≠ []) (before : Option Char) :
    ∃ text n, runLength? before threads text = some n := by
  obtain ⟨t, ht⟩ := List.exists_mem_of_ne_nil threads hne
  obtain ⟨text, hleads⟩ := exists_leads (h t ht)
  exact ⟨text, exists_runLength?_of_leads ht (hleads before)⟩

end Pattern

end Thicket
