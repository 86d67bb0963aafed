import Thicket.Matcher.Literal
import Thicket.Matcher.Regular
import Thicket.Proofs.Pattern.Exactness

/-!
# Literals as patterns

A literal can be written as a pattern, with a backslash before each character that has a meaning in
patterns (`escape`). The written pattern reads back as the literal (`ofText?_escape`), and finds in every text
what the literal finds (`search_ofLiteral`). So whatever engine is given: if it accepts the pattern, the two
matchers answer alike (`Matcher.ofPatternBy?_escape`).
-/

namespace Thicket

namespace Pattern

/-! ## Writing a literal -/

/-- Whether a character may have a meaning in patterns. -/
def isMeta (c : Char) : Bool :=
  c ∈ ['\\', '.', '+', '*', '?', '(', ')', '|', '[', ']', '\x7b', '\x7d', '^', '$', '#', '&', '-', '~']

/-- A character as it is written in a pattern to stand for itself. -/
def escapeChar (c : Char) : Text := if isMeta c then ['\\', c] else [c]

/-- A text as it is written in a pattern to stand for itself. -/
def escape (w : Text) : Text := w.flatMap escapeChar

/-- The canonical pattern of a text. -/
def ofLiteral : Text → Pattern
  | [] => .empty
  | c :: w => .literal (c :: w)

/-! ## Reading it back -/

/-- The item that a character is read as. -/
def itemOf (c : Char) : Item := .part ⟨.literal [c], 0⟩

variable {r : Reading} {fuel : Nat} {c : Char} {rest : Text}

theorem readFrom_escaped (hflags : r.flags = {}) (hc : isMeta c = true) :
    readFrom r (fuel + 1) ('\\' :: c :: rest) = readFrom (r.push ⟨.literal [c], 0⟩) fuel rest := by
  obtain ⟨flags, level, enclosing, groups, names⟩ := r
  cases hflags
  simp only [isMeta, List.mem_cons, List.not_mem_nil, or_false, decide_eq_true_eq] at hc
  rcases hc with rfl | rfl | rfl | rfl | rfl | rfl | rfl | rfl | rfl | rfl | rfl | rfl | rfl | rfl |
    rfl | rfl | rfl | rfl <;> rfl

theorem readFrom_unescaped (hflags : r.flags = {}) (hc : isMeta c = false) :
    readFrom r (fuel + 1) (c :: rest) = readFrom (r.push ⟨.literal [c], 0⟩) fuel rest := by
  obtain ⟨flags, level, enclosing, groups, names⟩ := r
  cases hflags
  simp only [isMeta, List.mem_cons, List.not_mem_nil, or_false, decide_eq_false_iff_not, not_or] at hc
  rw [readFrom]
  simp only [Flags.skip, Bool.false_eq_true, ↓reduceIte]
  simp [hc, readElement, Flags.character]

theorem length_le_length_escape (w : Text) : w.length ≤ (escape w).length := by
  induction w with
  | nil => exact Nat.zero_le _
  | cons c w ih =>
    have hchar : 1 ≤ (escapeChar c).length := by
      unfold escapeChar
      split <;> simp
    rw [escape, List.flatMap_cons, List.length_append, ← escape, List.length_cons]
    omega

/-- A level outside all groups on which the given items have been read, the latest first. -/
def reading (items : List Item) : Reading := ⟨{}, ⟨none, {}, [], items⟩, [], 0, []⟩

theorem readFrom_escapeChar (items : List Item) (fuel : Nat) (c : Char) (rest : Text) :
    readFrom (reading items) (fuel + 1) (escapeChar c ++ rest) =
      readFrom (reading (itemOf c :: items)) fuel rest := by
  unfold escapeChar
  split
  · next hc => exact readFrom_escaped rfl hc
  · next hc => exact readFrom_unescaped rfl (by simpa using hc)

/-- A literal is read as its characters, one item for each. -/
theorem readFrom_escape (w : Text) (items : List Item) {fuel : Nat} (hfuel : w.length < fuel) :
    readFrom (reading items) fuel (escape w) =
      some (reading ((w.map itemOf).reverse ++ items)).level.whole := by
  induction w generalizing items fuel with
  | nil =>
    obtain ⟨fuel, rfl⟩ := Nat.exists_eq_add_of_lt hfuel
    rfl
  | cons c w ih =>
    obtain ⟨fuel, rfl⟩ : ∃ n, fuel = n + 1 := ⟨fuel - 1, by simp at hfuel; omega⟩
    rw [escape, List.flatMap_cons, readFrom_escapeChar, ← escape,
      ih (itemOf c :: items) (by simpa using hfuel)]
    simp

theorem joinLiterals_map (w : Text) :
    joinLiterals (w.map fun c => .literal [c]) =
      match w with
      | [] => []
      | c :: w => [.literal (c :: w)] := by
  induction w with
  | nil => rfl
  | cons c w ih =>
    rw [List.map_cons]
    unfold joinLiterals
    rw [ih]
    cases w <;> rfl

theorem sequence_map (w : Text) : sequence (w.map fun c => .literal [c]) = ofLiteral w := by
  have hfactors : (w.map fun c => Pattern.literal [c]).flatMap factors = w.map fun c => .literal [c] := by
    rw [List.flatMap_map]
    exact List.map_eq_flatMap.symm
  rw [sequence, hfactors, joinLiterals_map]
  cases w <;> rfl

theorem choice_ofLiteral (w : Text) : choice [ofLiteral w] = ofLiteral w := by
  cases w <;> rfl

theorem depthTogether_replicate_zero (n : Nat) : depthTogether (List.replicate n 0) ≤ 1 := by
  match n with
  | 0 => exact Nat.zero_le 1
  | 1 => exact Nat.zero_le 1
  | n + 2 =>
    have hfold : ∀ m, (List.replicate m 0).foldl max 0 = 0 := by
      intro m
      induction m with
      | zero => rfl
      | succ m ih => rw [List.replicate_succ, List.foldl_cons, Nat.max_self, ih]
    exact Nat.le_of_eq (congrArg (· + 1) (hfold (n + 2)))

/-- A literal reads back as one branch, nested once at most. -/
theorem whole_reading (w : Text) :
    ∃ depth ≤ 1, (reading (w.map itemOf).reverse).level.whole = ⟨ofLiteral w, depth⟩ := by
  have hparts : (w.map itemOf).filterMap Item.part? = w.map fun c => ⟨.literal [c], 0⟩ := by
    rw [List.filterMap_map]
    exact congrFun List.filterMap_eq_map w
  have hdepths : (w.map itemOf).map Item.depth = List.replicate w.length 0 := by
    rw [List.map_map, ← List.map_const']
    rfl
  have hbranch : (reading (w.map itemOf).reverse).level.branch =
      ⟨ofLiteral w, depthTogether (List.replicate w.length 0)⟩ := by
    simp only [Level.branch, reading, List.reverse_reverse, hparts, List.map_map, List.map_reverse,
      hdepths, List.reverse_replicate]
    exact congrArg (Part.mk · _) (sequence_map w)
  refine ⟨depthTogether (List.replicate w.length 0), depthTogether_replicate_zero _, ?_⟩
  rw [Level.whole, hbranch]
  exact congrArg (Part.mk · _) (choice_ofLiteral w)

/-- A literal reads back as what it is. -/
theorem ofText?_escape (w : Text) : ofText? (escape w) = some (ofLiteral w) := by
  have hlength : w.length < (escape w).length + 1 := Nat.lt_succ_of_le (length_le_length_escape w)
  obtain ⟨depth, hdepth, hwhole⟩ := whole_reading w
  have hread := readFrom_escape w [] hlength
  rw [List.append_nil, hwhole] at hread
  have hlimit : depth ≤ depthLimit := Nat.le_trans hdepth (by decide)
  unfold ofText?
  rw [show Reading.start = reading [] from rfl, hread]
  exact if_pos hlimit

/-! ## What it matches -/

/-- A literal matches itself and nothing else. -/
theorem tries_literal (before : Option Char) (w v : Text) :
    Tries before [] [[.literal w]] v (if w.isPrefixOf v then some w.length else none) := by
  induction w generalizing before v with
  | nil => exact .fork List.not_mem_nil rfl (.accept (by simp) rfl)
  | cons c w ih =>
    obtain ⟨rest, hmove, hrest⟩ : ∃ rest, (∀ n, move n [.literal (c :: w)] = .read (.single c) rest) ∧
        ∀ before v, Tries before [] [rest] v (if w.isPrefixOf v then some w.length else none) := by
      cases w with
      | nil => exact ⟨[], fun _ => rfl, fun _ _ => .accept List.not_mem_nil rfl⟩
      | cons d w => exact ⟨[.literal (d :: w)], fun _ => rfl, ih⟩
    cases v with
    | nil => exact .stuck List.not_mem_nil (hmove _) (by simp) .exhausted
    | cons d v =>
      by_cases hcd : c = d
      · subst hcd
        have hinner := hrest (some c) v
        have hchars := contains_single c
        rw [List.isPrefixOf_cons_cons, beq_self_eq_true, Bool.true_and]
        split
        · next hbegins =>
          rw [if_pos hbegins] at hinner
          exact .found List.not_mem_nil (hmove _) hchars hinner
        · next hbegins =>
          rw [if_neg hbegins] at hinner
          exact .failed List.not_mem_nil (hmove _) hchars hinner .exhausted
      · have hchars : (CharSet.single c).contains d = false := by
          rw [← Bool.not_eq_true, contains_single_iff]
          exact hcd
        rw [List.isPrefixOf_cons_cons, beq_false_of_ne hcd, Bool.false_and]
        exact .stuck List.not_mem_nil (hmove _) (by simpa using hchars) .exhausted

theorem prefers_ofLiteral_iff {w u v : Text} {n : Nat} :
    (ofLiteral w).Prefers u v n ↔ w <+: v ∧ n = w.length := by
  have hwhole : Tries u.getLast? [] [[ofLiteral w]] v (if w.isPrefixOf v then some w.length else none) := by
    cases w with
    | nil => exact .fork List.not_mem_nil rfl (.accept (by simp) rfl)
    | cons c w => exact tries_literal _ _ _
  constructor
  · intro h
    have heq := hwhole.unique h
    split at heq
    · next hbegins =>
      cases heq
      exact ⟨List.isPrefixOf_iff_prefix.1 hbegins, rfl⟩
    · cases heq
  · rintro ⟨hbegins, rfl⟩
    rw [if_pos (List.isPrefixOf_iff_prefix.2 hbegins)] at hwhole
    exact hwhole

theorem plain_ofLiteral (w : Text) : (ofLiteral w).Plain := by
  cases w <;> trivial

section

open Text

variable {w u v : Text}

theorem matchesAt_ofLiteral_iff : (ofLiteral w).MatchesAt u v ↔ w ≠ [] ∧ w <+: v := by
  constructor
  · rintro ⟨n, h⟩
    obtain ⟨hbegins, hn⟩ := prefers_ofLiteral_iff.1 h
    exact ⟨List.ne_nil_of_length_eq_add_one hn.symm, hbegins⟩
  · rintro ⟨hne, hbegins⟩
    exact ⟨w.length - 1, prefers_ofLiteral_iff.2 ⟨hbegins, Nat.sub_add_cancel (List.length_pos_iff.2 hne)⟩⟩

/-- Where a literal does not stand, more text can complete it just if it goes on from what is there. -/
theorem completable_ofLiteral_iff (hno : ¬ (ofLiteral w).MatchesAt u v) :
    (ofLiteral w).Completable u v ↔ w ≠ [] ∧ v <+: w := by
  unfold Completable
  simp only [matchesAt_ofLiteral_iff] at hno ⊢
  constructor
  · rintro ⟨s, -, hne, hbegins⟩
    refine ⟨hne, (List.prefix_or_prefix_of_prefix hbegins (List.prefix_append v s)).resolve_left ?_⟩
    exact fun h => hno ⟨hne, h⟩
  · rintro ⟨hne, s, rfl⟩
    refine ⟨s, ?_, hne, List.prefix_refl _⟩
    rintro rfl
    rw [List.append_nil] at hno
    exact hno ⟨by simpa using hne, List.prefix_refl v⟩

/-- The pattern of a literal is found where the literal is. -/
theorem search_ofLiteral (w t : Text) : (ofLiteral w).search t = findLiteral w t := by
  have hplain := plain_ofLiteral w
  unfold findLiteral
  by_cases hw : w = []
  · -- neither finds the empty text
    have hno : ∀ u v, ¬ (ofLiteral w).MatchesAt u v := by
      simp [matchesAt_ofLiteral_iff, hw]
    rw [if_pos (by simpa using hw), search_eq_none_iff hplain]
    exact ⟨fun u v _ => hno u v, fun u v _ _ ⟨s, _, hs⟩ => hno u _ hs⟩
  rw [if_neg (by simpa using hw)]
  rcases find?_places (w.isPrefixOf ·.rest) t with ⟨u, v, hfirst, hfind⟩ | ⟨hnone, hfind⟩
  · rw [hfind]
    obtain ⟨v, rfl⟩ : w <+: v := List.isPrefixOf_iff_prefix.1 hfirst.holds
    refine search_eq_full_iff.2 (find?_eq_some_iff.2 ⟨u, w, v, hfirst.congr ?_, ?_, rfl, rfl⟩)
    · intro u v _ _
      rw [matchesAt_ofLiteral_iff, placeAt, List.isPrefixOf_iff_prefix]
      exact (and_iff_right hw).symm
    · exact prefers_ofLiteral_iff.2 ⟨List.prefix_append w v, rfl⟩
  · have hno : ∀ u v, t = u ++ v → ¬ (ofLiteral w).MatchesAt u v := by
      intro u v ht hmatch
      have hbegins := (matchesAt_ofLiteral_iff.1 hmatch).2
      have hv : v ≠ [] := by
        rintro rfl
        exact hw (List.prefix_nil.1 hbegins)
      have hfalse : w.isPrefixOf v = false := hnone u v ht hv
      rw [List.isPrefixOf_iff_prefix.2 hbegins] at hfalse
      cases hfalse
    have hgrows : ∀ u v, t = u ++ v → v ≠ [] →
        (v.isPrefixOf w = true ↔ (ofLiteral w).Completable u v) := by
      intro u v ht _
      rw [completable_ofLiteral_iff (hno u v ht), List.isPrefixOf_iff_prefix]
      exact (and_iff_right hw).symm
    rw [hfind]
    rcases find?_places (·.rest.isPrefixOf w) t with ⟨u, v, hfirst, hfind⟩ | ⟨hnone, hfind⟩
    · rw [hfind]
      exact (search_eq_begun_iff hplain).2 ⟨hno, u, v, hfirst.congr hgrows, rfl⟩
    · rw [hfind]
      refine (search_eq_none_iff hplain).2 ⟨hno, ?_⟩
      intro u v ht hv hcompletable
      have hfalse : v.isPrefixOf w = false := hnone u v ht hv
      rw [← hgrows u v ht hv, hfalse] at hcompletable
      cases hcompletable

end

end Pattern

/-- Whatever the engine, if it accepts the pattern of a literal, then the written pattern gives a matcher, and
that answers for every text as the literal does. -/
theorem Matcher.ofPatternBy?_escape (engine : Engine) (w : Text)
    (haccepts : engine.Accepts (Pattern.ofLiteral w)) :
    ∃ m, Matcher.ofPatternBy? engine (Pattern.escape w) = .ok m ∧
      ∀ t, m.search t = (Matcher.literal w).search t := by
  refine ⟨.pattern (Pattern.ofLiteral w), ?_, Pattern.search_ofLiteral w⟩
  rw [Matcher.ofPatternBy?, Pattern.ofText?_escape]
  simp [haccepts.finds, haccepts.pursues]

/-- The literal overlaps with itself, has characters of two bytes and one that has to be escaped. With an
engine that takes every pattern it is found, begun or not there as a literal is. -/
theorem Matcher.ofPatternBy?_escape_overlapping :
    let w : Text := "é.é".toList
    let engine : Engine := ⟨fun _ => true, fun _ => true⟩
    Pattern.escape w = "é\\.é".toList ∧
      ∃ m, Matcher.ofPatternBy? engine (Pattern.escape w) = .ok m ∧
        m.search "xé.é.é".toList = some (.full 1 6) ∧ m.search "é.xé.".toList = some (.begun 4) ∧
        m.search "éx".toList = none := by
  intro w engine
  obtain ⟨m, hm, hsame⟩ := Matcher.ofPatternBy?_escape engine w ⟨rfl, rfl⟩
  refine ⟨by decide +kernel, m, hm, ?_⟩
  simp only [hsame]
  decide +kernel

end Thicket
