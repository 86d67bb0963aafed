import Mathlib.Data.List.Nodup
import Thicket.Grammar.Table

/-!
# Grammars as records of registrations

A grammar is what the calls that defined nonterminals have left behind. Said without the table: the
nonterminals stand in the order in which each was first registered (`registeredIds`), and each has the
alternatives of its last registration (`lastAlternatives?`), where only the registrations count that
are valid. `Grammar.Records` says that a grammar has just this content. One call keeps it
(`Records.register`), so it holds after any number of them, and it leaves no choice: two grammars that
record the same history are equal (`Records.unique`). That a grammar can be built again from what it
lists follows from both.
-/

namespace Thicket

/-- A call that defines a nonterminal by alternatives. -/
abbrev Registration := SymbolId × List Sequence

namespace Registration

/-- Neither the id nor the alternatives stand in the way of a registration. -/
def IsValid (r : Registration) : Prop := r.1 ≠ SymbolId.unresolved ∧ r.2 ≠ [] ∧ [] ∉ r.2

instance (r : Registration) : Decidable r.IsValid :=
  inferInstanceAs (Decidable (r.1 ≠ SymbolId.unresolved ∧ r.2 ≠ [] ∧ [] ∉ r.2))

theorem not_isValid_iff {r : Registration} :
    ¬ r.IsValid ↔ r.1 = SymbolId.unresolved ∨ r.2 = [] ∨ [] ∈ r.2 := by
  unfold IsValid
  tauto

end Registration

/-! ## Histories of registrations -/

/-- The ids of the valid registrations, in the order in which each comes first. -/
def registeredIds (history : List Registration) : List SymbolId :=
  ((history.filter (·.IsValid)).map Prod.fst).eraseDups

/-- The alternatives of the last valid registration of a nonterminal. -/
def lastAlternatives? (history : List Registration) (id : SymbolId) : Option (List Sequence) :=
  (history.filter fun r => r.IsValid ∧ r.1 = id).getLast?.map Prod.snd

/-- What comes after the others stays if it is not among them. -/
theorem eraseDups_concat (ids : List SymbolId) (id : SymbolId) :
    (ids ++ [id]).eraseDups = if id ∈ ids then ids.eraseDups else ids.eraseDups ++ [id] := by
  rw [List.eraseDups_append]
  split
  · next h => simp [List.removeAll, h]
  · next h => simp [List.removeAll, h, List.eraseDups_cons]

theorem eraseDups_of_nodup {ids : List SymbolId} (h : ids.Nodup) : ids.eraseDups = ids := by
  induction ids with
  | nil => rfl
  | cons id ids ih =>
    obtain ⟨hnew, hids⟩ := List.nodup_cons.1 h
    have hfilter : ids.filter (fun k => !k == id) = ids := by
      rw [List.filter_eq_self]
      intro k hk
      simpa using ne_of_mem_of_not_mem hk hnew
    rw [List.eraseDups_cons, hfilter, ih hids]

theorem registeredIds_append_invalid {r : Registration} (hr : ¬ r.IsValid)
    (history : List Registration) : registeredIds (history ++ [r]) = registeredIds history := by
  simp [registeredIds, List.filter_append, hr]

/-- A valid registration adds its id, if it is not there, at the end. -/
theorem registeredIds_append_valid {r : Registration} (hr : r.IsValid)
    (history : List Registration) :
    registeredIds (history ++ [r]) =
      if r.1 ∈ registeredIds history then registeredIds history
      else registeredIds history ++ [r.1] := by
  have hfilter : (history ++ [r]).filter (·.IsValid) = history.filter (·.IsValid) ++ [r] := by
    simp [List.filter_append, hr]
  unfold registeredIds
  rw [hfilter, List.map_append, List.map_singleton, eraseDups_concat]
  simp only [List.mem_eraseDups]

theorem lastAlternatives?_append_invalid {r : Registration} (hr : ¬ r.IsValid)
    (history : List Registration) (id : SymbolId) :
    lastAlternatives? (history ++ [r]) id = lastAlternatives? history id := by
  simp [lastAlternatives?, List.filter_append, hr]

theorem lastAlternatives?_append_self {r : Registration} (hr : r.IsValid)
    (history : List Registration) :
    lastAlternatives? (history ++ [r]) r.1 = some r.2 := by
  simp [lastAlternatives?, List.filter_append, hr]

theorem lastAlternatives?_append_of_ne {r : Registration} {id : SymbolId} (hid : r.1 ≠ id)
    (history : List Registration) :
    lastAlternatives? (history ++ [r]) id = lastAlternatives? history id := by
  simp [lastAlternatives?, List.filter_append, hid]

/-! ## What one call does -/

namespace Definition

theorem make?_eq_ok_iff {alternatives : List Sequence} {d : Definition} :
    make? alternatives = .ok d ↔ d.alternatives = alternatives := by
  constructor
  · intro h
    unfold make? at h
    split at h
    · cases h
    · split at h
      · cases h
      · cases h
        rfl
  · rintro rfl
    -- a definition has alternatives, none of them empty, so both checks pass
    have hempty : d.alternatives.findIdx? List.isEmpty = none := by
      rw [List.findIdx?_eq_none_iff]
      intro s hs
      rw [List.isEmpty_eq_false_iff]
      exact d.sequences_ne_nil s hs
    unfold make?
    rw [dif_neg d.alternatives_ne_nil]
    split
    · next index hindex => simp [hempty] at hindex
    · rfl

theorem exists_make?_iff {alternatives : List Sequence} :
    (∃ d, make? alternatives = .ok d) ↔ alternatives ≠ [] ∧ [] ∉ alternatives := by
  simp only [make?_eq_ok_iff]
  constructor
  · rintro ⟨d, rfl⟩
    exact ⟨d.alternatives_ne_nil, fun hmem => d.sequences_ne_nil [] hmem rfl⟩
  · rintro ⟨hne, hmem⟩
    exact ⟨⟨alternatives, hne, fun s hs hnil => hmem (hnil ▸ hs)⟩, rfl⟩

end Definition

namespace Grammar

theorem nodup_ids (g : Grammar) : g.ids.Nodup := by
  rw [List.nodup_iff_injective_get]
  intro i j hij
  -- the index has one place for the id that stands at both
  have hplace : ∀ k : Fin g.ids.length, g.index (g.ids.get k) = some k.val := by
    intro k
    rw [g.index_eq_some_iff, ← List.getElem?_map]
    exact List.getElem?_eq_getElem k.isLt
  have hi := hplace i
  rw [hij, hplace j] at hi
  exact Fin.ext (Option.some.inj hi.symm)

/-- Two grammars with the same productions have the same index. -/
theorem eq_of_productions {g g' : Grammar} (h : g.productions = g'.productions) : g = g' := by
  refine Grammar.ext h (funext fun id => Option.ext fun slot => ?_)
  rw [g.index_eq_some_iff, g'.index_eq_some_iff, h]

variable {id : SymbolId} {d : Definition} {hid : id ≠ SymbolId.unresolved}

/-- Defining a nonterminal leaves the order as it is; a new one comes last. -/
theorem ids_put (g : Grammar) :
    (g.put id hid d).ids = if id ∈ g.ids then g.ids else g.ids ++ [id] := by
  unfold put
  split
  · next slot hindex =>
    have hmem : id ∈ g.ids := by
      by_contra hmem
      simp [index_eq_none_iff.2 hmem] at hindex
    rw [if_pos hmem, ids, redefine, ids]
    apply List.ext_getElem?
    intro i
    rw [List.getElem?_map, List.getElem?_map, List.getElem?_modify]
    cases g.productions[i]? with
    | none => rfl
    | some p => by_cases h : slot = i <;> simp [h]
  · next hindex =>
    rw [if_neg (index_eq_none_iff.1 hindex), ids, append, List.map_append]
    rfl

/-- Only the production of the nonterminal that is defined changes. -/
theorem mem_productions_put {g : Grammar} {p : Production}
    (hp : p ∈ (g.put id hid d).productions) :
    p = (id, d) ∨ p ∈ g.productions ∧ p.1 ≠ id := by
  unfold put at hp
  split at hp
  · next slot hindex =>
    obtain ⟨i, hi⟩ := List.mem_iff_getElem?.1 hp
    rw [redefine, List.getElem?_modify] at hi
    obtain ⟨q, hq, rfl⟩ := Option.map_eq_some_iff.1 hi
    have hplace : g.index q.1 = some i := by rw [g.index_eq_some_iff, hq, Option.map_some]
    by_cases hslot : slot = i
    · left
      have hsame : q.1 = id := by
        rw [hslot, g.index_eq_some_iff, hq] at hindex
        exact Option.some.inj hindex
      rw [if_pos hslot, hsame]
    · right
      rw [if_neg hslot]
      refine ⟨List.mem_of_getElem? hq, fun hsame => hslot ?_⟩
      rw [hsame, hindex] at hplace
      exact Option.some.inj hplace
  · next hindex =>
    rcases List.mem_append.1 hp with hp | hp
    · right
      refine ⟨hp, fun hsame => index_eq_none_iff.1 hindex ?_⟩
      exact hsame ▸ List.mem_map_of_mem hp
    · exact .inl (List.mem_singleton.1 hp)

theorem add_eq_ok_iff {g g' : Grammar} {alternatives : List Sequence} :
    g.add id alternatives = .ok g' ↔
      ∃ hid d, d.alternatives = alternatives ∧ g' = g.put id hid d := by
  unfold add
  split
  · next hid => simp [hid]
  · next hid =>
    split
    · next d hd =>
      rw [Definition.make?_eq_ok_iff] at hd
      constructor
      · intro h
        cases h
        exact ⟨hid, d, hd, rfl⟩
      · rintro ⟨_, d', hd', rfl⟩
        rw [Definition.ext (hd.trans hd'.symm)]
    · next e he =>
      constructor
      · intro h
        cases h
      · rintro ⟨_, d, hd, -⟩
        rw [Definition.make?_eq_ok_iff.2 hd] at he
        cases he

/-- A call succeeds exactly when it is valid. -/
theorem exists_add_iff {g : Grammar} {r : Registration} :
    (∃ g', g.add r.1 r.2 = .ok g') ↔ r.IsValid := by
  simp only [add_eq_ok_iff]
  constructor
  · rintro ⟨_, hid, d, hd, -⟩
    exact ⟨hid, Definition.exists_make?_iff.1 ⟨d, Definition.make?_eq_ok_iff.2 hd⟩⟩
  · rintro ⟨hid, halternatives⟩
    obtain ⟨d, hd⟩ := Definition.exists_make?_iff.2 halternatives
    exact ⟨_, hid, d, Definition.make?_eq_ok_iff.1 hd, rfl⟩

/-! ## What many calls do -/

/-- The grammar after a call, whether it succeeds or not. -/
def register (g : Grammar) (r : Registration) : Grammar := (g.add r.1 r.2).toOption.getD g

/-- The grammar after some calls, one after the other. -/
def after (g : Grammar) (calls : List Registration) : Grammar := calls.foldl register g

theorem register_of_add {g g' : Grammar} {r : Registration} (h : g.add r.1 r.2 = .ok g') :
    g.register r = g' := by
  rw [register, h]
  rfl

theorem register_of_fault {g : Grammar} {r : Registration} {e : Fault}
    (h : g.add r.1 r.2 = .error e) : g.register r = g := by
  rw [register, h]
  rfl

/-- A list of productions makes a grammar exactly when all of them are valid, and it is the one that
they make one after the other. -/
theorem foldlM_add_eq_ok_iff {g g' : Grammar} {rs : List Registration} :
    rs.foldlM (fun g r => g.add r.1 r.2) g = .ok g' ↔ (∀ r ∈ rs, r.IsValid) ∧ g' = g.after rs := by
  induction rs generalizing g with
  | nil => simp [after, pure, Except.pure, eq_comm]
  | cons r rs ih =>
    rw [List.foldlM_cons, after, List.foldl_cons, ← after, List.forall_mem_cons]
    cases hadd : g.add r.1 r.2 with
    | ok g₁ =>
      have hvalid : r.IsValid := exists_add_iff.1 ⟨g₁, hadd⟩
      rw [register_of_add hadd, and_iff_right hvalid, ← ih]
      rfl
    | error e =>
      have hinvalid : ¬ r.IsValid := by
        intro hvalid
        obtain ⟨g₁, hg₁⟩ := exists_add_iff.2 hvalid
        rw [hadd] at hg₁
        cases hg₁
      constructor
      · intro h
        cases h
      · rintro ⟨⟨hvalid, -⟩, -⟩
        exact absurd hvalid hinvalid

theorem ofProductions_eq_ok_iff {g : Grammar} {rs : List Registration} :
    ofProductions rs = .ok g ↔ (∀ r ∈ rs, r.IsValid) ∧ g = after {} rs :=
  foldlM_add_eq_ok_iff

/-! ## Grammars and histories -/

/-- The grammar has the nonterminals that were registered, in the order of their first registration, each
with the alternatives of its last one. -/
structure Records (g : Grammar) (history : List Registration) : Prop where
  ids_eq : g.ids = registeredIds history
  alternatives_eq : ∀ p ∈ g.productions, lastAlternatives? history p.1 = some p.2.alternatives

theorem records_empty : Records {} [] where
  ids_eq := rfl
  alternatives_eq := by
    intro p hp
    cases hp

theorem Records.register {g : Grammar} {history : List Registration} (h : g.Records history)
    (r : Registration) : (g.register r).Records (history ++ [r]) := by
  by_cases hr : r.IsValid
  · obtain ⟨g', hadd⟩ := exists_add_iff.2 hr
    rw [register_of_add hadd]
    obtain ⟨hid, d, hd, rfl⟩ := add_eq_ok_iff.1 hadd
    refine ⟨?_, ?_⟩
    · rw [ids_put, registeredIds_append_valid hr, h.ids_eq]
    · intro p hp
      rcases mem_productions_put hp with rfl | ⟨hp, hne⟩
      · rw [lastAlternatives?_append_self hr, hd]
      · rw [lastAlternatives?_append_of_ne hne.symm]
        exact h.alternatives_eq p hp
  · have hfault : g.register r = g := by
      cases hadd : g.add r.1 r.2 with
      | ok g' => exact absurd (exists_add_iff.1 ⟨g', hadd⟩) hr
      | error e => exact register_of_fault hadd
    rw [hfault]
    refine ⟨?_, ?_⟩
    · rw [registeredIds_append_invalid hr, h.ids_eq]
    · intro p hp
      rw [lastAlternatives?_append_invalid hr]
      exact h.alternatives_eq p hp

theorem Records.after {g : Grammar} {history : List Registration} (h : g.Records history)
    (calls : List Registration) : (g.after calls).Records (history ++ calls) := by
  induction calls generalizing g history with
  | nil => rwa [List.append_nil]
  | cons r calls ih =>
    rw [List.append_cons]
    exact ih (h.register r)

/-- What a history comes to is one grammar. -/
theorem Records.unique {g g' : Grammar} {history : List Registration} (h : g.Records history)
    (h' : g'.Records history) : g = g' := by
  have hids : g.ids = g'.ids := h.ids_eq.trans h'.ids_eq.symm
  apply eq_of_productions
  apply List.ext_getElem?
  intro i
  have hi : g.productions[i]?.map Prod.fst = g'.productions[i]?.map Prod.fst := by
    rw [← List.getElem?_map, ← List.getElem?_map]
    exact congrArg (·[i]?) hids
  -- the same id stands at the place in both, and so do its last alternatives
  cases hp : g.productions[i]? with
  | none =>
    rw [hp, Option.map_none, eq_comm, Option.map_eq_none_iff] at hi
    exact hi.symm
  | some p =>
    rw [hp, Option.map_some, eq_comm] at hi
    obtain ⟨p', hp', hsame⟩ := Option.map_eq_some_iff.1 hi
    have hlast := h.alternatives_eq p (List.mem_of_getElem? hp)
    have hlast' := h'.alternatives_eq p' (List.mem_of_getElem? hp')
    rw [hsame, hlast] at hlast'
    have hdefinition : p.2 = p'.2 := Definition.ext (Option.some.inj hlast')
    rw [hp', Prod.ext hsame.symm hdefinition]

/-- What a grammar lists, as calls that define it. -/
def registrations (g : Grammar) : List Registration :=
  g.productions.map fun p => (p.1, p.2.alternatives)

theorem isValid_of_mem_registrations {g : Grammar} {r : Registration} (hr : r ∈ g.registrations) :
    r.IsValid := by
  obtain ⟨p, hp, rfl⟩ := List.mem_map.1 hr
  exact ⟨g.resolved_ids p hp, p.2.alternatives_ne_nil,
    fun hnil => p.2.sequences_ne_nil [] hnil rfl⟩

theorem filter_registrations (g : Grammar) :
    g.registrations.filter (·.IsValid) = g.registrations := by
  rw [List.filter_eq_self]
  intro r hr
  exact decide_eq_true (isValid_of_mem_registrations hr)

/-- A grammar records what it lists. -/
theorem records_registrations (g : Grammar) : g.Records g.registrations where
  ids_eq := by
    have hids : g.registrations.map Prod.fst = g.ids := by
      rw [registrations, ids, List.map_map]
      rfl
    rw [registeredIds, filter_registrations, hids, eraseDups_of_nodup g.nodup_ids]
  alternatives_eq := by
    intro p hp
    -- only what the grammar lists for the nonterminal is its production
    have hlast : ∀ r ∈ g.registrations, r.1 = p.1 → r.2 = p.2.alternatives := by
      intro r hr hsame
      obtain ⟨q, hq, rfl⟩ := List.mem_map.1 hr
      have hlookup : g.lookup p.1 = .ok q.2 := hsame ▸ lookup_of_mem hq
      rw [lookup_of_mem hp] at hlookup
      rw [Except.ok.inj hlookup]
    have hmem : (p.1, p.2.alternatives) ∈ g.registrations.filter fun r => r.IsValid ∧ r.1 = p.1 := by
      have hr : (p.1, p.2.alternatives) ∈ g.registrations := List.mem_map_of_mem hp
      exact List.mem_filter.2 ⟨hr, decide_eq_true ⟨isValid_of_mem_registrations hr, rfl⟩⟩
    obtain ⟨r, hr⟩ := Option.ne_none_iff_exists'.1
      (mt List.getLast?_eq_none_iff.1 (List.ne_nil_of_mem hmem))
    obtain ⟨hlisted, hvalid⟩ := List.mem_filter.1 (List.mem_of_getLast? hr)
    rw [lastAlternatives?, hr, Option.map_some]
    exact congrArg some (hlast r hlisted (of_decide_eq_true hvalid).2)

/-- A grammar is built again from what it lists. -/
theorem ofProductions_registrations (g : Grammar) : ofProductions g.registrations = .ok g := by
  rw [ofProductions_eq_ok_iff]
  refine ⟨fun r => isValid_of_mem_registrations, ?_⟩
  have hbuilt : (after {} g.registrations).Records ([] ++ g.registrations) :=
    records_empty.after g.registrations
  exact g.records_registrations.unique hbuilt

/-- What a lookup comes to in a grammar that records a history. -/
theorem Records.lookup {g : Grammar} {history : List Registration} (h : g.Records history)
    (id : SymbolId) :
    (id ∈ registeredIds history ∧ ∃ d, (id, d) ∈ g.productions ∧ g.lookup id = .ok d ∧
      lastAlternatives? history id = some d.alternatives) ∨
    (id ∉ registeredIds history ∧ g.lookup id = .error (Cause.undefinedProduction id)) := by
  rw [← h.ids_eq]
  by_cases hid : id ∈ g.ids
  · left
    obtain ⟨⟨_, d⟩, hp, rfl⟩ := List.mem_map.1 hid
    exact ⟨hid, d, hp, lookup_of_mem hp, h.alternatives_eq _ hp⟩
  · right
    exact ⟨hid, lookup_of_index_none (index_eq_none_iff.2 hid)⟩

/-- Take a grammar that was built from productions, none in the case of the empty one, and make any calls
on it. A call fails exactly when it is not valid, and then it leaves the grammar as it was. In the end
the grammar lists each nonterminal once, in the order of the first valid registrations, with the
alternatives of the last one; a lookup gives just that, and finds that nothing has been prepared for
any other id; the index leads to the places where the nonterminals stand; and the grammar is built
again from what it lists. -/
theorem registrations_recorded {start : List Registration} {g₀ : Grammar}
    (hstart : ofProductions start = .ok g₀) (calls : List Registration) :
    let g := g₀.after calls
    let history := start ++ calls
    (∀ r : Registration, (∃ e, g.add r.1 r.2 = .error e) ↔
      r.1 = SymbolId.unresolved ∨ r.2 = [] ∨ [] ∈ r.2) ∧
    (∀ r e, g.add r.1 r.2 = .error e → g₀.after (calls ++ [r]) = g) ∧
    g.ids = registeredIds history ∧ g.ids.Nodup ∧
    (∀ p ∈ g.productions, lastAlternatives? history p.1 = some p.2.alternatives) ∧
    (∀ id ∈ registeredIds history, ∃ d, (id, d) ∈ g.productions ∧ g.lookup id = .ok d) ∧
    (∀ id ∉ registeredIds history, ∃ e, g.lookup id = .error e ∧ e.category = .precondition) ∧
    (∀ id slot, g.index id = some slot ↔ g.ids[slot]? = some id) ∧
    ofProductions (g.productions.map fun p => (p.1, p.2.alternatives)) = .ok g := by
  intro g history
  obtain ⟨-, hg₀⟩ := ofProductions_eq_ok_iff.1 hstart
  have hrecords : g.Records history := by
    have hstarted : g₀.Records ([] ++ start) := hg₀ ▸ records_empty.after start
    exact hstarted.after calls
  refine ⟨?_, ?_, hrecords.ids_eq, g.nodup_ids, hrecords.alternatives_eq, ?_, ?_, ?_,
    g.ofProductions_registrations⟩
  · intro r
    rw [← Registration.not_isValid_iff, ← exists_add_iff (g := g)]
    cases g.add r.1 r.2 <;> simp
  · intro r e hfault
    rw [after, List.foldl_append]
    exact register_of_fault hfault
  · intro id hid
    obtain ⟨-, d, hp, hlookup, -⟩ | ⟨hnot, -⟩ := hrecords.lookup id
    · exact ⟨d, hp, hlookup⟩
    · exact absurd hid hnot
  · intro id hid
    obtain ⟨hmem, -⟩ | ⟨-, hlookup⟩ := hrecords.lookup id
    · exact absurd hmem hid
    · exact ⟨_, hlookup, rfl⟩
  · intro id slot
    rw [g.index_eq_some_iff, ids, List.getElem?_map]

/-- Among valid and invalid calls, a nonterminal that is defined again stays in front of a new one. -/
theorem registrations_recorded_mixed :
    let start : List Registration := [(4, [[.one 1]])]
    let calls : List Registration :=
      [(5, []), (4, [[.one 2], []]), (0, [[.one 1]]), (6, [[.one 4]]), (4, [[⟨3, 0, 4, by decide⟩]])]
    ∃ g₀, ofProductions start = .ok g₀ ∧ (g₀.after calls).ids = [4, 6] ∧
      (∃ d, (4, d) ∈ (g₀.after calls).productions ∧ (g₀.after calls).lookup 4 = .ok d) ∧
      lastAlternatives? (start ++ calls) 4 = some [[⟨3, 0, 4, by decide⟩]] ∧
      ∃ e, (g₀.after calls).lookup 5 = .error e ∧ e.category = .precondition := by
  intro start calls
  have hstart : ofProductions start = .ok (after {} start) := rfl
  obtain ⟨-, -, hids, -, -, hdefined, hundefined, -⟩ := registrations_recorded hstart calls
  have hregistered : registeredIds (start ++ calls) = [4, 6] := by decide +kernel
  refine ⟨_, hstart, hids.trans hregistered, hdefined 4 ?_, by decide +kernel, hundefined 5 ?_⟩
  · rw [hregistered]
    decide
  · rw [hregistered]
    decide

end Grammar

end Thicket
