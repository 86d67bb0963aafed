import Thicket.Tokenizer.Resolve

/-!
# What resolving makes of a text

Resolving emits pieces from the left and stops at the text that it carries over, or at the text that
is too long to be carried. `resolveSegments_tiles` says that nothing gets lost on the way: the pieces
and the text they stop at are the text of the stack. No piece is empty, and every token among them has
the id of a rule.
-/

namespace Thicket

namespace Piece

/-- The text that some pieces cover. -/
def texts (pieces : List Piece) : Text := pieces.flatMap text

/-- The tokens among some pieces. -/
def tokens (pieces : List Piece) : List Symbol := pieces.filterMap symbol?

@[simp] theorem texts_nil : texts [] = [] := rfl

@[simp] theorem texts_cons (p : Piece) (pieces : List Piece) :
    texts (p :: pieces) = p.text ++ texts pieces := rfl

@[simp] theorem texts_append (a b : List Piece) : texts (a ++ b) = texts a ++ texts b :=
  List.flatMap_append

@[simp] theorem tokens_nil : tokens [] = [] := rfl

@[simp] theorem tokens_append (a b : List Piece) : tokens (a ++ b) = tokens a ++ tokens b :=
  List.filterMap_append

end Piece

namespace Segment

def text : Segment → Text
  | .unresolved t => t
  | .token s => s.text

/-- The text that a stack of segments covers. -/
def texts (work : List Segment) : Text := work.flatMap text

@[simp] theorem texts_nil : texts [] = [] := rfl

@[simp] theorem texts_cons (s : Segment) (work : List Segment) :
    texts (s :: work) = s.text ++ texts work := rfl

end Segment

/-! ## Answers -/

namespace Rule

/-- A symbol that some rules can have made: it is not empty and has the id of one of them. -/
def Yield (rules : List Rule) (s : Symbol) : Prop := s.text ≠ [] ∧ s.id ∈ rules.map Rule.id

theorem Yield.mono {rules rules' : List Rule} {s : Symbol} (hsub : ∀ r ∈ rules, r ∈ rules')
    (h : Yield rules s) : Yield rules' s :=
  ⟨h.1, List.map_subset Rule.id hsub h.2⟩

theorem answer?_full {r : Rule} {last : Bool} {t : Text} {cut : Text.Cut} {id : SymbolId}
    (h : r.answer? last t = some (.full cut id)) :
    id = r.id ∧ ∃ start stop, r.matcher.search t = some (.full start stop) ∧
      t.cut? start stop = some cut := by
  unfold answer? at h
  split at h
  · next start stop hsearch =>
    obtain ⟨cut', hcut, heq⟩ := Option.map_eq_some_iff.1 h
    cases heq
    exact ⟨rfl, start, stop, hsearch, hcut⟩
  · split at h <;> cases h
  · cases h

theorem answer?_begun {r : Rule} {last : Bool} {t : Text} (h : r.answer? last t = some .begun) :
    last = true := by
  unfold answer? at h
  split at h
  · obtain ⟨_, _, heq⟩ := Option.map_eq_some_iff.1 h
    cases heq
  · split at h
    · assumption
    · cases h
  · cases h

/-- A full answer takes a token of one of the rules out of the text, and leaves the rest. -/
theorem firstAnswer?_full {rules : List Rule} {last : Bool} {t : Text} {cut : Text.Cut}
    {id : SymbolId} (h : firstAnswer? rules last t = some (.full cut id)) :
    cut.before ++ cut.part ++ cut.after = t ∧ Yield rules ⟨id, cut.part⟩ := by
  obtain ⟨rule, hmem, hrule⟩ := List.exists_of_findSome?_eq_some h
  obtain ⟨rfl, start, stop, -, hcut⟩ := answer?_full hrule
  exact ⟨Text.cut?_append hcut, cut.part_ne_nil, List.mem_map_of_mem hmem⟩

/-- The segments that a text is cut into cover what the text covered. -/
theorem texts_firstAnswer? {rules : List Rule} {last : Bool} {t : Text} {cut : Text.Cut}
    {id : SymbolId} (h : firstAnswer? rules last t = some (.full cut id)) (work : List Segment) :
    Segment.texts (.unresolved cut.before :: .token ⟨id, cut.part⟩ :: .unresolved cut.after :: work) =
      Segment.texts (.unresolved t :: work) := by
  obtain ⟨hcut, -⟩ := firstAnswer?_full h
  simp only [Segment.texts_cons, Segment.text, ← hcut, List.append_assoc]

/-- Only the last text is carried over. -/
theorem firstAnswer?_begun {rules : List Rule} {last : Bool} {t : Text}
    (h : firstAnswer? rules last t = some .begun) : last = true := by
  obtain ⟨_, -, hrule⟩ := List.exists_of_findSome?_eq_some h
  exact answer?_begun hrule

end Rule

/-! ## Pieces of a stack of segments -/

variable {capacity : Nat} {rules : List Rule}

/-- The pieces and the text that resolving stops at are the text of the stack. What is carried over is
shorter than the capacity, and what is refused is not. -/
theorem resolveSegments_tiles (capacity : Nat) (rules : List Rule) (work : List Segment) :
    ∃ rest, Piece.texts (resolveSegments capacity rules work).pieces ++ rest = Segment.texts work ∧
      ((resolveSegments capacity rules work).carried = .ok rest ∧ (rest = [] ∨ rest.length < capacity)
        ∨ (resolveSegments capacity rules work).carried = .error (Cause.longPartial capacity) ∧
          capacity ≤ rest.length) := by
  fun_induction resolveSegments capacity rules work with
  | case1 => exact ⟨[], rfl, .inl ⟨rfl, .inl rfl⟩⟩
  | case2 s work ih =>
    obtain ⟨rest, htexts, hrest⟩ := ih
    refine ⟨rest, ?_, hrest⟩
    simp only [Resolution.cons, Piece.texts_cons, Segment.texts_cons, List.append_assoc, htexts]
    rfl
  | case3 work ih => exact ih
  | case4 c rest work cut id answer ih =>
    obtain ⟨rest', htexts, hrest⟩ := ih
    exact ⟨rest', htexts.trans (Rule.texts_firstAnswer? answer work), hrest⟩
  | case5 c rest work answer hlong =>
    -- only the last segment is carried, so nothing of the stack is left out
    obtain rfl := List.isEmpty_iff.1 (Rule.firstAnswer?_begun answer)
    exact ⟨c :: rest, by simp [Segment.text], .inr ⟨rfl, hlong⟩⟩
  | case6 c rest work answer hshort =>
    obtain rfl := List.isEmpty_iff.1 (Rule.firstAnswer?_begun answer)
    exact ⟨c :: rest, by simp [Segment.text], .inl ⟨rfl, .inr (Nat.lt_of_not_le hshort)⟩⟩
  | case7 c rest work answer ih =>
    obtain ⟨rest', htexts, hrest⟩ := ih
    refine ⟨rest', ?_, hrest⟩
    simp only [Resolution.cons, Piece.texts_cons, Segment.texts_cons, List.append_assoc, htexts]
    rfl

/-- A stack whose tokens some rules can have made comes to such tokens, and to no empty piece. -/
theorem resolveSegments_yield {work : List Segment}
    (hwork : ∀ s, .token s ∈ work → Rule.Yield rules s) :
    (∀ p ∈ (resolveSegments capacity rules work).pieces, p.text ≠ []) ∧
      ∀ s ∈ Piece.tokens (resolveSegments capacity rules work).pieces, Rule.Yield rules s := by
  fun_induction resolveSegments capacity rules work with
  | case1 => simp
  | case2 s work ih =>
    obtain ⟨htexts, htokens⟩ := ih fun s hs => hwork s (List.mem_cons_of_mem _ hs)
    have hs := hwork s List.mem_cons_self
    simp only [Resolution.cons, Piece.tokens, List.filterMap_cons, Piece.symbol?, List.mem_cons]
    exact ⟨fun p hp => hp.elim (· ▸ hs.1) (htexts p), fun s' hs' => hs'.elim (· ▸ hs) (htokens s')⟩
  | case3 work ih => exact ih fun s hs => hwork s (List.mem_cons_of_mem _ hs)
  | case4 c rest work cut id answer ih =>
    obtain ⟨-, hyield⟩ := Rule.firstAnswer?_full answer
    refine ih fun s hs => ?_
    simp only [List.mem_cons, Segment.token.injEq, reduceCtorEq, false_or] at hs
    rcases hs with rfl | hs
    · exact hyield
    · exact hwork s (List.mem_cons_of_mem _ hs)
  | case5 => simp
  | case6 => simp
  | case7 c rest work answer ih =>
    obtain ⟨htexts, htokens⟩ := ih fun s hs => hwork s (List.mem_cons_of_mem _ hs)
    refine ⟨fun p hp => ?_, htokens⟩
    rcases List.mem_cons.1 hp with rfl | hp
    · exact List.cons_ne_nil c rest
    · exact htexts p hp

/-! ## Pieces of a text -/

/-- The pieces of a text and what is carried over are the text. -/
theorem resolveText_texts {t carried : Text} (h : (resolveText capacity rules t).carried = .ok carried) :
    Piece.texts (resolveText capacity rules t).pieces ++ carried = t ∧
      (carried = [] ∨ carried.length < capacity) := by
  obtain ⟨rest, htexts, ⟨hok, hshort⟩ | ⟨hlong, -⟩⟩ :=
    resolveSegments_tiles capacity rules [.unresolved t]
  · rw [resolveText, hok] at h
    cases h
    exact ⟨by simpa [resolveText, Segment.text] using htexts, hshort⟩
  · rw [resolveText, hlong] at h
    cases h

/-- A text is refused only because too much would have to be carried over. -/
theorem resolveText_error {t : Text} {e : Fault}
    (h : (resolveText capacity rules t).carried = .error e) : e = Cause.longPartial capacity := by
  obtain ⟨rest, -, ⟨hok, -⟩ | ⟨hlong, -⟩⟩ :=
    resolveSegments_tiles capacity rules [.unresolved t]
  · rw [resolveText, hok] at h
    cases h
  · rw [resolveText, hlong] at h
    cases h
    rfl

theorem resolveText_pieces_ne_nil {t : Text} :
    ∀ p ∈ (resolveText capacity rules t).pieces, p.text ≠ [] :=
  (resolveSegments_yield (by simp)).1

theorem resolveText_yield {t : Text} :
    ∀ s ∈ Piece.tokens (resolveText capacity rules t).pieces, Rule.Yield rules s :=
  (resolveSegments_yield (by simp)).2

/-- A text that fits is refused as a whole: no piece has been emitted before it turns out that too
much would have to be carried over. -/
theorem resolveText_refused {t : Text} {e : Fault} (hfits : t.length ≤ capacity)
    (h : (resolveText capacity rules t).carried = .error e) :
    resolveText capacity rules t = ⟨[], .error (Cause.longPartial capacity)⟩ := by
  obtain ⟨rest, htexts, ⟨hok, -⟩ | ⟨hlong, hlen⟩⟩ :=
    resolveSegments_tiles capacity rules [.unresolved t]
  · rw [resolveText, hok] at h
    cases h
  · -- what is refused is as long as the whole text, so the pieces cover nothing
    have hlength := congrArg List.length htexts
    simp only [Segment.texts_cons, Segment.text, Segment.texts_nil, List.append_nil,
      List.length_append] at hlength
    have hnil : Piece.texts (resolveText capacity rules t).pieces = [] :=
      List.eq_nil_of_length_eq_zero (by rw [resolveText]; omega)
    have hpieces : (resolveText capacity rules t).pieces = [] :=
      List.eq_nil_iff_forall_not_mem.2 fun p hp =>
        resolveText_pieces_ne_nil p hp (List.flatMap_eq_nil_iff.1 hnil p hp)
    rw [← hpieces, ← hlong]
    rfl

end Thicket
