import Thicket.Proofs.Literal.Refill
import Thicket.Proofs.Tokenizer.Exhaustion
import Thicket.Proofs.Tokenizer.Settled

/-!
# How much room literals need

The beginning of a literal is shorter than the literal, but it is not carried over alone: the text before it
stays with it, since it is not known yet whether it belongs to a gap. So literals that fit in the buffer can
still jam it. They do so just with texts of its capacity that end in the beginning of a literal, while
neither this literal nor one above it occurs in them (`Awaits`, `firstAnswer?_literals_begun_iff`).

That is all that can exhaust a run over a lawful source (`Tokenizer.exhausted_iff_awaits`).
-/

namespace Thicket

/-! ## Where a literal may have begun -/

namespace Text

variable {literal t : Text}

theorem clear_nil_iff : Clear literal t [] ↔ (literal ≠ [] → ¬ literal <:+: t) := by
  constructor
  · rintro h hne ⟨a, b, heq⟩
    have hle := h hne a b (by rw [List.append_nil, ← heq, List.append_assoc])
    have hpos := List.length_pos_iff.2 hne
    rw [← heq, List.length_append, List.length_append] at hle
    omega
  · intro h hne a b heq
    refine absurd ⟨a, b, ?_⟩ (h hne)
    rw [List.append_assoc, ← heq, List.append_nil]

/-- A literal that does not occur is not found. -/
theorem findLiteral_of_clear (h : Clear literal t []) :
    findLiteral literal t = none ∨ ∃ start, findLiteral literal t = some (.begun start) := by
  cases hfind : findLiteral literal t with
  | none => exact .inl rfl
  | some found =>
    cases found with
    | begun start => exact .inr ⟨start, rfl⟩
    | full start stop =>
      obtain ⟨hne, u, v, rfl, -⟩ := findLiteral_full hfind
      refine absurd ⟨u, v, ?_⟩ (clear_nil_iff.1 h hne)
      rw [List.append_assoc]

/-- A literal may have begun in a text just if it does not occur in it and the text ends in its beginning. -/
theorem findLiteral_begun_iff :
    (∃ start, findLiteral literal t = some (.begun start)) ↔
      Clear literal t [] ∧ ∃ u v, t = u ++ v ∧ v ≠ [] ∧ v <+: literal := by
  constructor
  · rintro ⟨start, h⟩
    refine ⟨findLiteral_begun h, ?_⟩
    unfold findLiteral at h
    split at h
    · cases h
    · split at h
      · cases h
      · obtain ⟨place, hplace, -⟩ := Option.map_eq_some_iff.1 h
        obtain ⟨u, v, hfirst, -⟩ := firstPlace_of_find?_places hplace
        exact ⟨u, v, hfirst.split, hfirst.inside, List.isPrefixOf_iff_prefix.1 hfirst.holds⟩
  · rintro ⟨hclear, u, v, rfl, hv, w, rfl⟩
    refine (findLiteral_of_clear hclear).resolve_left fun hnone => ?_
    -- with the rest of the literal behind it, the text would have an occurrence that begins in it
    have hne : v ++ w ≠ [] := List.append_ne_nil_of_left_ne_nil hv w
    have hle := findLiteral_none hnone w hne u [] (by rw [List.append_nil, List.append_assoc])
    have hpos := List.length_pos_iff.2 hv
    rw [List.length_append] at hle
    omega

end Text

/-! ## Texts that literals wait with -/

/-- A text with which literals wait for more: it ends in the beginning of one of them, and neither this one
nor one above it occurs in the text. -/
def Awaits (literals : List (Text × SymbolId)) (t : Text) : Prop :=
  ∃ higher l lower, literals = higher ++ l :: lower ∧
    (∀ l' ∈ higher ++ [l], l'.1 ≠ [] → ¬ l'.1 <:+: t) ∧ ∃ u v, t = u ++ v ∧ v ≠ [] ∧ v <+: l.1

namespace Rule

variable {l : Text × SymbolId} {literals : List (Text × SymbolId)} {t : Text}

theorem answer?_literal_of_begun {start : Nat} (h : Text.findLiteral l.1 t = some (.begun start)) :
    (literal l).answer? true t = some .begun := by
  have hsearch : (literal l).matcher.search t = some (.begun start) := h
  rw [answer?, hsearch]
  rfl

/-- The rule of a literal says that it may have begun just if that is so. -/
theorem answer?_literal_begun_iff :
    (literal l).answer? true t = some .begun ↔
      Text.Clear l.1 t [] ∧ ∃ u v, t = u ++ v ∧ v ≠ [] ∧ v <+: l.1 := by
  rw [← Text.findLiteral_begun_iff]
  constructor
  · intro h
    cases hfind : Text.findLiteral l.1 t with
    | none =>
      have hsearch : (literal l).matcher.search t = none := hfind
      rw [answer?, hsearch] at h
      cases h
    | some found =>
      cases found with
      | begun start => exact ⟨start, rfl⟩
      | full start stop =>
        have hsearch : (literal l).matcher.search t = some (.full start stop) := hfind
        rw [answer?, hsearch] at h
        obtain ⟨cut, -, heq⟩ := Option.map_eq_some_iff.1 h
        cases heq
  · rintro ⟨start, h⟩
    exact answer?_literal_of_begun h

/-- A literal that does not occur gives no answer, or says that it may have begun. -/
theorem answer?_literal_of_clear (h : Text.Clear l.1 t []) :
    (literal l).answer? true t = none ∨ (literal l).answer? true t = some .begun := by
  rcases Text.findLiteral_of_clear h with hnone | ⟨start, hbegun⟩
  · left
    have hsearch : (literal l).matcher.search t = none := hnone
    rw [answer?, hsearch]
  · exact .inr (answer?_literal_of_begun hbegun)

/-- Literals may have begun just in the texts that they wait with. -/
theorem firstAnswer?_literals_begun_iff :
    firstAnswer? (literals.map literal) true t = some .begun ↔ Awaits literals t := by
  rw [firstAnswer?, List.findSome?_map]
  constructor
  · intro h
    obtain ⟨higher, l, lower, hsplit, hbegun, hnone⟩ := List.findSome?_eq_some_iff.1 h
    obtain ⟨hclear, hends⟩ := answer?_literal_begun_iff.1 hbegun
    refine ⟨higher, l, lower, hsplit, ?_, hends⟩
    intro l' hl'
    apply Text.clear_nil_iff.1
    rcases List.mem_append.1 hl' with hhigher | hl'
    · exact Text.findLiteral_none (findLiteral_of_no_answer (hnone l' hhigher)) []
    · rw [List.mem_singleton.1 hl']
      exact hclear
  · rintro ⟨higher, l, lower, rfl, hclear, hends⟩
    induction higher with
    | nil =>
      have hbegun : (literal l).answer? true t = some .begun :=
        answer?_literal_begun_iff.2
          ⟨Text.clear_nil_iff.2 (hclear l (List.mem_singleton_self l)), hends⟩
      rw [List.nil_append, List.findSome?_cons, Function.comp_apply, hbegun]
    | cons l' higher ih =>
      -- a literal that does not occur leaves the answer to the others, or gives the same one
      rw [List.cons_append, List.findSome?_cons, Function.comp_apply]
      rcases answer?_literal_of_clear (Text.clear_nil_iff.2 (hclear l' List.mem_cons_self)) with
        hnone | hbegun
      · rw [hnone]
        exact ih fun l'' hl'' => hclear l'' (List.mem_cons_of_mem l' hl'')
      · rw [hbegun]

/-- Literals jam a buffer just with the texts of its capacity that they wait with. -/
theorem jams_literals_iff {capacity : Nat} :
    Jams (literals.map literal) capacity t ↔ t.length = capacity ∧ Awaits literals t := by
  rw [Jams, firstAnswer?_literals_begun_iff]

end Rule

/-- The beginning of a literal that a text ends in is shorter than the literal. So if the literals fit in a
buffer that the text fills, then there is something before it. -/
theorem Awaits.exists_before {literals : List (Text × SymbolId)} {t : Text} (h : Awaits literals t)
    (hfits : ∀ l ∈ literals, l.1.length ≤ t.length) :
    ∃ u v, t = u ++ v ∧ u ≠ [] ∧ ∃ l ∈ literals, v <+: l.1 ∧ v.length < l.1.length := by
  obtain ⟨higher, l, lower, rfl, hclear, u, v, rfl, hv, hbegins⟩ := h
  have hshort : v.length < l.1.length := by
    apply Nat.lt_of_le_of_ne hbegins.length_le
    intro hsame
    obtain rfl := hbegins.eq_of_length hsame
    exact hclear l (List.mem_append_right _ List.mem_cons_self) hv (List.suffix_append u _).isInfix
  have hl : l ∈ higher ++ l :: lower := List.mem_append_right _ List.mem_cons_self
  refine ⟨u, v, rfl, ?_, l, hl, hbegins, hshort⟩
  rintro rfl
  have hlength := hfits l hl
  rw [List.nil_append] at hlength
  omega

/-! ## Runs over literals -/

namespace Tokenizer

/-- A tokenizer with literals as its rules that is bound to a text. -/
def literalsOver (sizes : BufferSizes) (literals : List (Text × SymbolId)) (text : Text) :
    Tokenizer CharSource :=
  { sizes, rules := literals.map Rule.literal, source := some ⟨text⟩ }

variable {sizes : BufferSizes} {literals : List (Text × SymbolId)} {w : Text}

/-- If as much is pulled at once as the buffer holds, the first round takes in just that. -/
theorem cycle_literalsOver (literals : List (Text × SymbolId)) (hpull : sizes.capacity ≤ sizes.pull)
    (hfull : w.length = sizes.capacity) (more : Text) :
    (literalsOver sizes literals (w ++ more)).cycle ⟨w ++ more⟩ =
      ⟨[], w, .ok w.length, (literalsOver sizes literals (w ++ more)).receive w (.ok w.length), ⟨more⟩⟩ := by
  have hsettle : (literalsOver sizes literals (w ++ more)).settle =
      ([], none, literalsOver sizes literals (w ++ more)) := settle_of_head rfl
  have hroom : ¬ sizes.capacity ≤ 0 := Nat.not_le_of_lt sizes.capacity_pos
  have hrequest : (literalsOver sizes literals (w ++ more)).request = w.length := by
    rw [hfull]
    exact Nat.min_eq_left hpull
  have hpulled : Source.pull (⟨w ++ more⟩ : CharSource) w.length = ⟨w, .ok w.length, ⟨more⟩⟩ := by
    show CharSource.pull ⟨w ++ more⟩ w.length = _
    rw [CharSource.pull, List.take_left, List.drop_left]
  unfold cycle
  rw [hsettle]
  show (if sizes.capacity ≤ 0 then _ else _) = _
  rw [if_neg hroom, hrequest, hpulled]

/-- A text that fills the buffer and that the literals wait with exhausts a run that pulls it at once. -/
theorem exhausted_of_awaits (hpull : sizes.capacity ≤ sizes.pull) (hfull : w.length = sizes.capacity)
    (h : Awaits literals w) (more : Text) :
    (literalsOver sizes literals (w ++ more)).run.outcome =
      .error (Cause.longPartial sizes.capacity) := by
  have hcycle := cycle_literalsOver literals hpull hfull more
  obtain ⟨count, hcount⟩ : ∃ count, w.length = count + 1 :=
    ⟨w.length - 1, by have := sizes.capacity_pos; omega⟩
  let t := (literalsOver sizes literals (w ++ more)).receive w (.ok w.length)
  have hsound : t.Sound := ⟨Nat.zero_add w.length, Nat.le_of_eq hfull⟩
  have hjammed : t.Jammed := Rule.jams_literals_iff.2 ⟨hfull, h⟩
  have hfailed := congrArg Cycle.pulled (hsound.cycle_of_jammed hjammed (⟨more⟩ : CharSource))
  have hrules : literals.map Rule.literal ≠ [] := by
    obtain ⟨higher, l, lower, rfl, -⟩ := h
    simp
  -- the first round takes the text in, and the second one is refused it
  have hdrains : Drains (literalsOver sizes literals (w ++ more)) ⟨w ++ more⟩
      (((t.cycle ⟨more⟩).finish (.error (Cause.longPartial sizes.capacity))).after
        ((literalsOver sizes literals (w ++ more)).cycle ⟨w ++ more⟩)) := by
    have hpulled : ((literalsOver sizes literals (w ++ more)).cycle ⟨w ++ more⟩).pulled =
        .ok (count + 1) := by
      rw [hcycle, ← hcount]
    apply Drains.again hpulled
    rw [hcycle]
    exact .failed hfailed
  rw [← runs_iff.1 (.drains hrules rfl hdrains)]
  rfl

/-- A tokenizer whose rules are literals that fit in the buffer, over sources that are lawful and not
exhausted themselves. A run is exhausted just if there is a source and the buffer that it leaves is full and
holds a text that the literals wait with.

The beginning of a literal that this text ends in does not fill the buffer: there is other text before it.
No run is exhausted as long as the literals wait with no part of the text that just fills the buffer; but
each text of this length that they wait with exhausts a run that pulls it at once. -/
theorem exhausted_iff_awaits {σ : Type} [Source σ] [LawfulSource σ]
    (hsource : ∀ (source : σ) (most : Nat) (e : Fault),
      (Source.pull source most).result = .error e → e.category ≠ .exhausted)
    {calls : List (Call σ)} {t : Tokenizer σ} {d : Record σ} (h : History { sizes } calls t d)
    (hrules : t.rules = literals.map Rule.literal)
    (hfits : ∀ l ∈ literals, l.1.length ≤ sizes.capacity) {r : Run σ} (hrun : Runs t r) :
    ((∃ e, r.outcome = .error e ∧ e.category = .exhausted) ↔
      t.source ≠ none ∧ r.tokenizer.buffer.length = sizes.capacity ∧
        Awaits literals r.tokenizer.buffer) ∧
    (∀ w, w.length = sizes.capacity → Awaits literals w →
      ∃ u v, w = u ++ v ∧ u ≠ [] ∧ ∃ l ∈ literals, v <+: l.1 ∧ v.length < l.1.length) ∧
    ((∀ w, w <:+: t.buffer ++ r.intake → w.length = sizes.capacity → ¬ Awaits literals w) →
      ∀ e, r.outcome = .error e → e.category ≠ .exhausted) ∧
    ∀ sizes' : BufferSizes, sizes'.capacity = sizes.capacity → sizes'.capacity ≤ sizes'.pull →
      ∀ w more, w.length = sizes.capacity → Awaits literals w →
        (literalsOver sizes' literals (w ++ more)).run.outcome =
          .error (Cause.longPartial sizes.capacity) := by
  obtain ⟨hsound, -⟩ := h.conserve
  have hemits := hrun.emits
  have hsizes : r.tokenizer.sizes = sizes := hemits.sizes.trans h.sizes_eq
  have hexhausted : (∃ e, r.outcome = .error e ∧ e.category = .exhausted) ↔
      t.source ≠ none ∧ r.tokenizer.buffer.length = sizes.capacity ∧
        Awaits literals r.tokenizer.buffer := by
    rw [hrun.exhausted_iff_jammed hsource hsound, Jammed, hsizes, hemits.rules, hrules,
      Rule.jams_literals_iff]
  refine ⟨hexhausted, ?_, ?_, ?_⟩
  · intro w hfull hw
    apply hw.exists_before
    rw [hfull]
    exact hfits
  · -- the buffer that a run leaves is the end of the text that it has seen
    intro hnever e he hcategory
    obtain ⟨-, hfull, hawaits⟩ := hexhausted.1 ⟨e, he, hcategory⟩
    obtain ⟨-, htexts⟩ := hrun.conserve hsound
    have hsuffix : r.tokenizer.buffer <:+ t.buffer ++ r.intake := ⟨_, htexts⟩
    exact hnever _ hsuffix.isInfix hfull hawaits
  · intro sizes' hsame hpull w more hfull hw
    rw [← hsame] at hfull ⊢
    exact exhausted_of_awaits hpull hfull hw more

/-- The literal fits in the buffer, but the text `xa`, which is pulled at once, leaves no room for the rest
of it: that all literals fit is not enough. -/
theorem exhausted_by_fitting_literal :
    ¬ ∀ (literals : List (Text × SymbolId)) (sizes : BufferSizes) (text : Text),
      (∀ l ∈ literals, l.1.length ≤ sizes.capacity) →
        ∀ e, (literalsOver sizes literals text).run.outcome = .error e → e.category ≠ .exhausted := by
  intro hnever
  let literals : List (Text × SymbolId) := [(['a', 'b'], 1)]
  let sizes : BufferSizes := ⟨2, 2, by decide, by decide⟩
  have hfits : ∀ l ∈ literals, l.1.length ≤ sizes.capacity := by decide
  have houtcome : (literalsOver sizes literals ['x', 'a', 'b']).run.outcome =
      .error (Cause.longPartial 2) := by decide +kernel
  exact hnever literals sizes ['x', 'a', 'b'] hfits _ houtcome rfl

/-- Pulled one by one, two characters that may each begin the literal fill the buffer as well: the first of
them is carried over, and stands before the second then. -/
theorem exhausted_iff_awaits_one_by_one :
    let literals : List (Text × SymbolId) := [(['a', 'b'], 1)]
    let calls : List (Call CharSource) := [.register (.literal ['a', 'b']) 1, .bind ⟨['a', 'a', 'b']⟩]
    let state := replay { sizes := ⟨2, 1, by decide, by decide⟩ } calls
    state.1.run.outcome = .error (Cause.longPartial 2) ∧ Awaits literals ['a', 'a'] ∧
      (∃ u v, ['a', 'a'] = u ++ v ∧ u ≠ [] ∧ ∃ l ∈ literals, v <+: l.1 ∧ v.length < l.1.length) ∧
      (literalsOver ⟨2, 5, by decide, by decide⟩ literals ['a', 'a', 'b']).run.outcome =
        .error (Cause.longPartial 2) := by
  intro literals calls state
  have hhistory : History { sizes := ⟨2, 1, by decide, by decide⟩ } calls state.1 state.2 :=
    history_iff.2 rfl
  have hlawful : ∀ (source : CharSource) (most : Nat) (e : Fault),
      (Source.pull source most).result = .error e → e.category ≠ .exhausted := nofun
  have hrules : state.1.rules = literals.map Rule.literal := rfl
  have hfits : ∀ l ∈ literals, l.1.length ≤ 2 := by decide
  obtain ⟨hexhausted, hbefore, -, hjams⟩ :=
    exhausted_iff_awaits hlawful hhistory hrules hfits (runs_iff.2 rfl)
  have houtcome : state.1.run.outcome = .error (Cause.longPartial 2) := by decide +kernel
  have hbuffer : state.1.run.tokenizer.buffer = ['a', 'a'] := by decide +kernel
  obtain ⟨-, -, hawaits⟩ := hexhausted.1 ⟨_, houtcome, rfl⟩
  rw [hbuffer] at hawaits
  have hatonce := hjams ⟨2, 5, by decide, by decide⟩ rfl (by decide) ['a', 'a'] ['b'] rfl hawaits
  exact ⟨houtcome, hawaits, hbefore _ rfl hawaits, hatonce⟩

end Tokenizer

end Thicket
