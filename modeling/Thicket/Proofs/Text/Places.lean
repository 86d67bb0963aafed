import Thicket.Text.Place

/-!
# Places as splits

A place of a text splits it in two: the text before the place and the text from it on. What is said of
the places of a text is said here of its splits, and `FirstPlace` is the first split with a property.
-/

namespace Thicket.Text

/-! ## Bytes -/

theorem byteSize_append (u v : Text) : byteSize (u ++ v) = byteSize u + byteSize v := by
  induction u with
  | nil => simp [byteSize]
  | cons c u ih =>
    rw [List.cons_append, byteSize, byteSize, ih, Nat.add_assoc]

/-- Cutting at the end of the first part of a text gives its parts. -/
theorem splitBytes_byteSize (u v : Text) : splitBytes (byteSize u) (u ++ v) = (u, v) := by
  induction u with
  | nil => cases v <;> simp [byteSize, splitBytes]
  | cons c u ih =>
    have hpos := c.utf8Size_pos
    have hne : byteSize (c :: u) ≠ 0 := by rw [byteSize]; omega
    have hsub : byteSize (c :: u) - c.utf8Size = byteSize u := by rw [byteSize]; omega
    rw [List.cons_append, splitBytes, if_neg hne, hsub, ih]

/-- The bytes of a part give the part. -/
theorem cut?_byteSize {u part v : Text} (h : part ≠ []) :
    cut? (byteSize u) (byteSize u + byteSize part) (u ++ (part ++ v)) = some ⟨u, part, v, h⟩ := by
  simp only [cut?, splitBytes_byteSize, Nat.add_sub_cancel_left, h, ↓reduceDIte]

/-! ## First places -/

/-- The place between two texts. -/
def placeAt (u v : Text) : Place := ⟨byteSize u, u.getLast?, v⟩

/-- The first place inside a text that has a property: `u` stands before it, and `v` from it on. -/
structure FirstPlace (P : Text → Text → Prop) (t u v : Text) : Prop where
  split : t = u ++ v
  inside : v ≠ []
  holds : P u v
  first : ∀ u' v', t = u' ++ v' → u'.length < u.length → ¬ P u' v'

/-- There is just one first place. -/
theorem FirstPlace.unique {P : Text → Text → Prop} {t u v u' v' : Text} (h : FirstPlace P t u v)
    (h' : FirstPlace P t u' v') : u = u' ∧ v = v' := by
  have hlen : u.length = u'.length := by
    rcases Nat.lt_trichotomy u.length u'.length with hlt | heq | hgt
    · exact absurd h.holds (h'.first u v h.split hlt)
    · exact heq
    · exact absurd h'.holds (h.first u' v' h'.split hgt)
  exact List.append_inj (h.split.symm.trans h'.split) hlen

/-- A first place is one with any property that the places inside the text have alike. -/
theorem FirstPlace.congr {P Q : Text → Text → Prop} {t u v : Text} (h : FirstPlace P t u v)
    (hiff : ∀ u v, t = u ++ v → v ≠ [] → (P u v ↔ Q u v)) : FirstPlace Q t u v where
  split := h.split
  inside := h.inside
  holds := (hiff u v h.split h.inside).1 h.holds
  first u' v' ht hlt hholds := by
    have hv : v' ≠ [] := by
      rintro rfl
      have := congrArg List.length (h.split.symm.trans ht)
      simp only [List.length_append, List.length_nil] at this
      omega
    exact h.first u' v' ht hlt ((hiff u' v' ht hv).2 hholds)

theorem getLast?_cons_or (c : Char) (u : Text) (before : Option Char) :
    (c :: u).getLast?.or before = u.getLast?.or (some c) := by
  rw [List.getLast?_cons]
  cases u.getLast? <;> rfl

theorem findSome?_placesFrom {α : Type} (g : Place → Option α) (offset : Nat)
    (before : Option Char) (t : Text) :
    (∃ u v, FirstPlace
        (fun u v => g ⟨offset + byteSize u, u.getLast?.or before, v⟩ ≠ none) t u v ∧
      (placesFrom offset before t).findSome? g =
        g ⟨offset + byteSize u, u.getLast?.or before, v⟩) ∨
    (∀ u v, t = u ++ v → v ≠ [] → g ⟨offset + byteSize u, u.getLast?.or before, v⟩ = none) ∧
      (placesFrom offset before t).findSome? g = none := by
  induction t generalizing offset before with
  | nil =>
    refine .inr ⟨?_, rfl⟩
    intro u v ht hv
    exact absurd (List.append_eq_nil_iff.1 ht.symm).2 hv
  | cons c t ih =>
    have hshift : ∀ u : Text, offset + byteSize (c :: u) = offset + c.utf8Size + byteSize u := by
      intro u
      rw [byteSize, Nat.add_assoc]
    rw [placesFrom, List.findSome?_cons]
    cases hg : g ⟨offset, before, c :: t⟩ with
    | some r =>
      refine .inl ⟨[], c :: t, ⟨rfl, by simp, ?_, ?_⟩, ?_⟩
      · simp [byteSize, hg]
      · intro u' v' _ hlt
        simp at hlt
      · simp [byteSize, hg]
    | none =>
      obtain ⟨u, v, hfirst, hfind⟩ | ⟨hnone, hfind⟩ := ih (offset + c.utf8Size) (some c)
      · refine .inl ⟨c :: u, v, ⟨?_, hfirst.inside, ?_, ?_⟩, ?_⟩
        · rw [hfirst.split, List.cons_append]
        · rw [hshift, getLast?_cons_or]
          exact hfirst.holds
        · intro u' v' ht hlt
          cases u' with
          | nil =>
            -- the text itself does not have the property
            obtain rfl : c :: t = v' := ht
            simp [byteSize, hg]
          | cons c' u' =>
            obtain ⟨rfl, ht'⟩ := List.cons.inj ht
            rw [hshift, getLast?_cons_or]
            exact hfirst.first u' v' ht' (by simpa using hlt)
        · rw [hshift, getLast?_cons_or]
          exact hfind
      · refine .inr ⟨?_, hfind⟩
        intro u v ht hv
        cases u with
        | nil =>
          obtain rfl : c :: t = v := ht
          simpa [byteSize] using hg
        | cons c' u =>
          obtain ⟨rfl, ht'⟩ := List.cons.inj ht
          rw [hshift, getLast?_cons_or]
          exact hnone u v ht' hv

/-- A search over the places of a text comes to what it comes to at the first place where it comes to
anything, and to nothing if there is none. -/
theorem findSome?_places {α : Type} (g : Place → Option α) (t : Text) :
    (∃ u v, FirstPlace (fun u v => g (placeAt u v) ≠ none) t u v ∧
      t.places.findSome? g = g (placeAt u v)) ∨
    (∀ u v, t = u ++ v → v ≠ [] → g (placeAt u v) = none) ∧ t.places.findSome? g = none := by
  simpa only [places, placeAt, Nat.zero_add, Option.or_none] using findSome?_placesFrom g 0 none t

/-- A place that is found is the first one with the property, and if none is found, no place has it. -/
theorem find?_places (q : Place → Bool) (t : Text) :
    (∃ u v, FirstPlace (fun u v => q (placeAt u v) = true) t u v ∧
      t.places.find? q = some (placeAt u v)) ∨
    (∀ u v, t = u ++ v → v ≠ [] → q (placeAt u v) = false) ∧ t.places.find? q = none := by
  have hguard : ∀ place, Option.guard q place ≠ none ↔ q place = true := by simp
  have hnone : ∀ place, Option.guard q place = none ↔ q place = false := by simp
  rw [List.find?_eq_findSome?_guard]
  obtain ⟨u, v, hfirst, hfind⟩ | ⟨hall, hfind⟩ := findSome?_places (Option.guard q) t
  · simp only [hguard] at hfirst
    refine .inl ⟨u, v, hfirst, ?_⟩
    rw [hfind]
    simpa using hfirst.holds
  · simp only [hnone] at hall
    exact .inr ⟨hall, hfind⟩

theorem firstPlace_of_find?_places {q : Place → Bool} {t : Text} {place : Place}
    (h : t.places.find? q = some place) :
    ∃ u v, FirstPlace (fun u v => q (placeAt u v) = true) t u v ∧ place = placeAt u v := by
  rcases find?_places q t with ⟨u, v, hfirst, hfind⟩ | ⟨-, hfind⟩
  · rw [h] at hfind
    cases hfind
    exact ⟨u, v, hfirst, rfl⟩
  · rw [h] at hfind
    cases hfind

theorem eq_false_of_find?_places {q : Place → Bool} {t : Text} (h : t.places.find? q = none)
    {u v : Text} (ht : t = u ++ v) (hv : v ≠ []) : q (placeAt u v) = false := by
  rcases find?_places q t with ⟨u, v, -, hfind⟩ | ⟨hall, -⟩
  · rw [h] at hfind
    cases hfind
  · exact hall u v ht hv

end Thicket.Text
