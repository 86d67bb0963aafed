import Thicket.Pattern.Match
import Thicket.Proofs.Pattern.Backtracking
import Thicket.Proofs.Pattern.Stages

/-!
# All threads at once

`runLength?` follows all threads of a match character by character and keeps them in order. It comes to
what a backtracking search comes to: `tries_iff`. So the preferred match is the leftmost-first one, and
the fuel of a frontier never runs out.
-/

namespace Thicket.Pattern

/-- What a frontier comes to, if `pass` is what a read comes to. -/
def Frontier.outcome (pass : CharSet × Thread → Option Nat) (f : Frontier) : Option Nat :=
  f.reads.findSome? pass <|> if f.accepts then some 0 else none

theorem Frontier.outcome_cons (pass : CharSet × Thread → Option Nat) (f : Frontier)
    (read : CharSet × Thread) :
    { f with reads := read :: f.reads : Frontier }.outcome pass = (pass read <|> f.outcome pass) := by
  simp only [outcome, List.findSome?_cons]
  cases pass read <;> rfl

/-- What comes of reading the next character of a text for a set and going on as a thread. -/
def Passes (text : Text) (read : CharSet × Thread) (r : Option Nat) : Prop :=
  match text with
  | [] => r = none
  | c :: later =>
    if read.1.contains c then ∃ r', Tries (some c) [] [read.2] later r' ∧ r = r'.map (· + 1)
    else r = none

/-- With enough fuel the frontier comes to what a backtracking search comes to. -/
theorem tries_explore {before : Option Char} {text : Text} {pass : CharSet × Thread → Option Nat}
    (hpass : ∀ read, Passes text read (pass read)) {fuel : Nat} {seen todo : List Thread}
    (h : Enough ⟨before, text.head?⟩ seen fuel todo) :
    Tries before seen todo text ((explore ⟨before, text.head?⟩ seen fuel todo).outcome pass) := by
  induction fuel generalizing seen todo with
  | zero =>
    rw [h.todo_eq_nil]
    exact .exhausted
  | succ fuel ih =>
    cases todo with
    | nil => exact .exhausted
    | cons t todo =>
      by_cases hseen : t ∈ seen
      · rw [explore, if_pos hseen]
        exact .again hseen (ih h.skip)
      · have hlater := ih (h.follow hseen)
        rw [explore, if_neg hseen]
        cases hmove : move ⟨before, text.head?⟩ t with
        | accept => exact .accept hseen hmove
        | fork threads =>
          rw [hmove] at hlater
          exact .fork hseen hmove hlater
        | read chars rest =>
          rw [hmove] at hlater
          have hread := hpass (chars, rest)
          rw [Frontier.outcome_cons]
          match text with
          | [] =>
            rw [show pass (chars, rest) = none from hread]
            exact .stuck hseen hmove (by simp) hlater
          | c :: later =>
            simp only [Passes] at hread
            split at hread
            · next hchars =>
              obtain ⟨r, hinner, hr⟩ := hread
              rw [hr]
              cases r with
              | some n => exact .found hseen hmove hchars hinner
              | none => exact .failed hseen hmove hchars hinner hlater
            · next hchars =>
              rw [hread]
              exact .stuck hseen hmove (by simpa using hchars) hlater

theorem tries_frontier {before : Option Char} {text : Text} {pass : CharSet × Thread → Option Nat}
    (hpass : ∀ read, Passes text read (pass read)) (threads : List Thread) :
    Tries before [] threads text ((frontier ⟨before, text.head?⟩ threads).outcome pass) :=
  tries_explore hpass (enough_fuelFor _ threads)

/-! ## Character by character -/

/-- Threads that come to nothing can be left out. -/
theorem findSome?_filter {alone : Thread → Option Nat} {t : Thread} (ht : alone t = none)
    (threads : List Thread) :
    (threads.filter fun u => !u == t).findSome? alone = threads.findSome? alone := by
  induction threads with
  | nil => rfl
  | cons u threads ih =>
    rw [List.filter_cons, List.findSome?_cons]
    split
    · rw [List.findSome?_cons, ih]
    · next hut =>
      obtain rfl : u = t := by simpa using hut
      rw [ht, ih]

/-- A thread that stands on a list twice adds nothing to what the list comes to. -/
theorem findSome?_eraseDups (alone : Thread → Option Nat) (threads : List Thread) :
    threads.eraseDups.findSome? alone = threads.findSome? alone := by
  match threads with
  | [] => rfl
  | t :: threads =>
    rw [List.eraseDups_cons, List.findSome?_cons, List.findSome?_cons]
    cases ht : alone t with
    | some r => rfl
    | none => rw [findSome?_eraseDups, findSome?_filter ht]
termination_by threads.length
decreasing_by
  have := List.length_filter_le (fun u => !u == t) threads
  simp only [List.length_cons]
  omega

/-- Threads that go on after a character come to what their reads come to. -/
theorem findSome?_after (f : Frontier) (c : Char) (alone : Thread → Option Nat) :
    ((f.after c).findSome? alone).map (· + 1) = f.reads.findSome? fun read =>
      if read.1.contains c then (alone read.2).map (· + 1) else none := by
  rw [Frontier.after, findSome?_eraseDups]
  induction f.reads with
  | nil => rfl
  | cons read reads ih =>
    rw [List.filterMap_cons, List.findSome?_cons]
    split
    · next hread =>
      rw [ih, if_neg (by simpa using hread)]
    · next t hread =>
      obtain ⟨hchars, rfl⟩ : read.1.contains c = true ∧ read.2 = t := by simpa using hread
      rw [List.findSome?_cons, if_pos hchars]
      cases alone read.2 with
      | some n => rfl
      | none => exact ih

/-- No thread comes to no match. -/
@[simp] theorem runLength?_no_thread (before : Option Char) (text : Text) :
    runLength? before [] text = none := by
  cases text <;> rfl

/-- The threads that go on after a character come first, and then an acceptance before it. -/
theorem runLength?_cons (before : Option Char) (threads : List Thread) (c : Char) (text : Text) :
    runLength? before threads (c :: text) =
      ((runLength? (some c) ((frontier ⟨before, some c⟩ threads).after c) text).map (· + 1) <|>
        if (frontier ⟨before, some c⟩ threads).accepts then some 0 else none) := by
  rw [runLength?]
  generalize (frontier ⟨before, some c⟩ threads).after c = next
  cases next with
  | nil => simp
  | cons t next =>
    simp only [List.isEmpty_cons, Bool.false_eq_true, ↓reduceIte]
    cases runLength? (some c) (t :: next) text <;> rfl

/-- Following all threads at once comes to what a backtracking search comes to. -/
theorem tries_runLength? (before : Option Char) (threads : List Thread) (text : Text) :
    Tries before [] threads text (runLength? before threads text) := by
  induction text generalizing before threads with
  | nil =>
    have hpass : ∀ read : CharSet × Thread, Passes [] read none := fun _ => rfl
    have hfrontier : Tries before [] threads []
        ((frontier ⟨before, none⟩ threads).outcome fun _ => none) := tries_frontier hpass threads
    have hreads : ∀ reads : List (CharSet × Thread),
        reads.findSome? (fun _ => (none : Option Nat)) = none := by simp
    rw [Frontier.outcome, hreads] at hfrontier
    exact hfrontier
  | cons c text ih =>
    have hpass : ∀ read : CharSet × Thread, Passes (c :: text) read
        (if read.1.contains c then (runLength? (some c) [read.2] text).map (· + 1) else none) := by
      intro read
      simp only [Passes]
      split
      · exact ⟨_, ih (some c) [read.2], rfl⟩
      · rfl
    have hfrontier : Tries before [] threads (c :: text) _ := tries_frontier hpass threads
    -- the threads that go on come to what the first of them comes to that comes to anything
    have hnext : runLength? (some c) ((frontier ⟨before, some c⟩ threads).after c) text =
        ((frontier ⟨before, some c⟩ threads).after c).findSome?
          fun t => runLength? (some c) [t] text :=
      (ih _ _).unique (tries_findSome? fun t _ => ih (some c) [t])
    rw [runLength?_cons, hnext, findSome?_after]
    exact hfrontier

/-- A backtracking search before a text comes to what following all threads at once comes to. -/
theorem tries_iff {before : Option Char} {threads : List Thread} {text : Text} {r : Option Nat} :
    Tries before [] threads text r ↔ runLength? before threads text = r :=
  ⟨fun h => (tries_runLength? before threads text).unique h,
    fun h => h ▸ tries_runLength? before threads text⟩

end Thicket.Pattern
