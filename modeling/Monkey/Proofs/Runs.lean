import Mathlib.Data.List.DropRight
import Monkey.Proofs.Fragments
import Monkey.Proofs.Places

/-
  Words and numbers as runs of characters. `MaximalRun` looks at a text from outside: a part of it
  that has only characters of one sort, with none of them beside it. The words are read from the
  maximal runs of letters and the numbers from those of digits, one token from each run
  (`Kind.AreRuns.exists_lexeme_iff`). Reading never comes to a place inside of a run, because the
  character in front of it is a letter, so that the lexeme there goes on. Which word it is depends
  on the whole run (`words_and_numbers_are_runs`).
-/

namespace Monkey

/-- From `i` up to `j` the text has only characters of this sort, and there is none beside them. -/
structure MaximalRun (p : Char → Bool) (s : List Char) (i j : Nat) : Prop where
  lt : i < j
  le_length : j ≤ s.length
  inside : ∀ c ∈ (s.drop i).take (j - i), p c = true
  before : ∀ c ∈ (s.take i).getLast?, p c = false
  behind : ∀ c ∈ (s.drop j).head?, p c = false

namespace MaximalRun

variable {p : Char → Bool} {s : List Char} {i j : Nat}

theorem append_iff {front w rest : List Char} :
    MaximalRun p (front ++ (w ++ rest)) front.length (front.length + w.length) ↔
      w ≠ [] ∧ (∀ c ∈ w, p c = true) ∧ (∀ c ∈ front.getLast?, p c = false) ∧
        ∀ c ∈ rest.head?, p c = false := by
  have htext : ((front ++ (w ++ rest)).drop front.length).take
      (front.length + w.length - front.length) = w := by
    rw [List.drop_left, Nat.add_sub_cancel_left, List.take_left]
  have hrest : (front ++ (w ++ rest)).drop (front.length + w.length) = rest := by
    rw [← List.append_assoc, ← List.length_append, List.drop_left]
  constructor
  · rintro ⟨hlt, -, hinside, hbefore, hbehind⟩
    rw [htext] at hinside
    rw [List.take_left] at hbefore
    rw [hrest] at hbehind
    refine ⟨?_, hinside, hbefore, hbehind⟩
    rintro rfl
    exact Nat.lt_irrefl _ hlt
  · rintro ⟨hne, hinside, hbefore, hbehind⟩
    have hpos : 0 < w.length := List.length_pos_iff.2 hne
    refine ⟨by omega, ?_, ?_, ?_, ?_⟩
    · rw [List.length_append, List.length_append]
      omega
    · rwa [htext]
    · rwa [List.take_left]
    · rwa [hrest]

theorem exists_append (h : MaximalRun p s i j) :
    ∃ front w rest, s = front ++ (w ++ rest) ∧ i = front.length ∧
      j = front.length + w.length := by
  have hlt := h.lt
  have hle := h.le_length
  have hdrop : (s.drop i).drop (j - i) = s.drop j := by
    rw [List.drop_drop, Nat.add_sub_cancel' (Nat.le_of_lt hlt)]
  refine ⟨s.take i, (s.drop i).take (j - i), s.drop j, ?_, ?_, ?_⟩
  · rw [← hdrop, List.take_append_drop, List.take_append_drop]
  · rw [List.length_take]
    omega
  · rw [List.length_take, List.length_take, List.length_drop]
    omega

theorem iff_all :
    MaximalRun p s i j ↔ i < j ∧ j ≤ s.length ∧ ((s.drop i).take (j - i)).all p ∧
      ((s.take i).getLast?.all fun c => !p c) ∧ (s.drop j).head?.all fun c => !p c := by
  simp only [List.all_eq_true, Option.all_eq_true, Bool.not_eq_true']
  constructor
  · intro h
    exact ⟨h.lt, h.le_length, h.inside, h.before, h.behind⟩
  · rintro ⟨hlt, hle, hinside, hbefore, hbehind⟩
    exact ⟨hlt, hle, hinside, hbefore, hbehind⟩

instance : Decidable (MaximalRun p s i j) := decidable_of_iff' _ iff_all

/-- Each character of the sort is in a run. -/
theorem exists_around (front rest : List Char) {c : Char} (hc : p c = true) :
    ∃ i j, MaximalRun p (front ++ c :: rest) i j ∧ i ≤ front.length ∧ front.length < j := by
  -- as many characters as possible on both sides of this one
  have hs : front ++ c :: rest = front.rdropWhile p ++
      ((front.rtakeWhile p ++ c :: rest.takeWhile p) ++ rest.dropWhile p) := by
    rw [List.append_assoc, ← List.append_assoc (front.rdropWhile p),
      List.rdropWhile_append_rtakeWhile, List.cons_append, List.takeWhile_append_dropWhile]
  have hfront : front.length = (front.rdropWhile p).length + (front.rtakeWhile p).length := by
    rw [← List.length_append, List.rdropWhile_append_rtakeWhile]
  rw [hs]
  refine ⟨_, _, append_iff.2 ⟨by simp, ?_, ?_, ?_⟩, by omega, ?_⟩
  · intro b hb
    rcases List.mem_append.1 hb with hb | hb
    · exact List.mem_rtakeWhile_imp hb
    · rcases List.mem_cons.1 hb with rfl | hb
      · exact hc
      · exact List.mem_takeWhile_imp hb
  · intro b hb
    obtain ⟨hne, rfl⟩ := List.mem_getLast?_eq_getLast hb
    exact Bool.eq_false_iff.2 (List.rdropWhile_last_not p front hne)
  · intro b hb
    have hnot := List.head?_dropWhile_not p rest
    rw [Option.mem_def.1 hb] at hnot
    exact hnot
  · rw [List.length_append, List.length_cons]
    omega

end MaximalRun

/-! ### The text of a lexeme -/

/-- The lexeme goes from `i` up to `j`, and its literal is the text of the source there. -/
structure Lexeme.Covers (l : Lexeme) (source : String) (i j : Nat) : Prop where
  start_eq : l.start = i
  stop_eq : l.stop = j
  literal_eq : l.token.literal = between source i j

theorem Lexeme.Stands.covers {l : Lexeme} {front rest : List Char} {source : String}
    (h : l.Stands 0 front rest)
    (hsource : source.toList = front ++ (l.token.literal.toList ++ rest)) :
    l.Covers source front.length (front.length + l.token.literal.toList.length) := by
  have hstart : l.start = front.length := by rw [h.start_eq, Nat.zero_add]
  refine ⟨hstart, by rw [l.stop_eq, hstart], ?_⟩
  rw [between, hsource, List.drop_left, Nat.add_sub_cancel_left, List.take_left,
    String.ofList_toList]

theorem Lexeme.covers_of_mem {l : Lexeme} {source : String} (h : l ∈ lexemes source) :
    l.Covers source l.start l.stop := by
  obtain ⟨front, rest, hsource, hstands⟩ := Cursor.mem_lexemes_iff.1 h
  have hcovers := hstands.covers hsource
  rwa [← hcovers.start_eq, ← l.stop_eq] at hcovers

/-! ### One token from each run -/

namespace Kind

/-- The texts of these kinds are all that is made of characters of this sort, and such a
    character continues no other text. -/
structure AreRuns (kinds : Kind → Prop) (p : Char → Bool) : Prop where
  iff_of_admits : ∀ {k c}, admits k c = true → (kinds k ↔ p c = true)
  continuedBy_eq : ∀ {k}, kinds k → ∀ c, continuedBy k c = p c
  of_continuedBy : ∀ {k c}, p c = true → continuedBy k c = true → kinds k
  exists_spells : ∀ {w}, w ≠ [] → (∀ c ∈ w, p c = true) → ∃ k, kinds k ∧ Spells k w

theorem areRuns_isLetter : AreRuns (fun k => k.isWord = true) isLetter where
  iff_of_admits := isWord_iff_of_admits
  continuedBy_eq := continuedBy_of_isWord
  of_continuedBy := by
    intro k c hc hcont
    rcases continuedBy_iff.1 hcont with ⟨hk, -⟩ | ⟨-, hdigit⟩ | ⟨-, rfl⟩
    · exact hk
    · rw [isLetter_iff] at hc
      rw [isDigit_iff, hc] at hdigit
      exact absurd hdigit (by simp)
    · exact absurd hc (by decide)
  exists_spells := fun hne hw => ⟨_, isWord_ofWord _, spells_ofWord hne hw⟩

theorem areRuns_isDigit : AreRuns (fun k => k = integer) isDigit where
  iff_of_admits := eq_integer_iff_of_admits
  continuedBy_eq := by
    rintro _ rfl c
    rfl
  of_continuedBy := by
    intro k c hc hcont
    rcases continuedBy_iff.1 hcont with ⟨-, hletter⟩ | ⟨hk, -⟩ | ⟨-, rfl⟩
    · rw [isDigit_iff] at hc
      rw [isLetter_iff, hc] at hletter
      exact absurd hletter (by simp)
    · exact hk
    · exact absurd hc (by decide)
  exists_spells := fun hne hw => ⟨integer, rfl, hne, hw⟩

namespace AreRuns

variable {kinds : Kind → Prop} {p : Char → Bool}

theorem not_isSpace (h : AreRuns kinds p) {c : Char} (hc : p c = true) : isSpace c = false := by
  obtain ⟨k, -, hk⟩ := h.exists_spells (List.cons_ne_nil c []) (by simpa using hc)
  exact not_isSpace_of_admits (hk.admits c (by simp))

theorem continuedBy_iff (h : AreRuns kinds p) {k : Kind} {c : Char} (hc : p c = true) :
    k.continuedBy c = true ↔ kinds k := by
  constructor
  · exact h.of_continuedBy hc
  · intro hk
    rw [h.continuedBy_eq hk]
    exact hc

/-- Such a character continues what a text ends with exactly if the text ends in another one. -/
theorem apart_iff (h : AreRuns kinds p) {c : Char} (hc : p c = true) (front : List Char) :
    (∀ k ∈ openKind? front, k.continuedBy c = false) ↔ ∀ b ∈ front.getLast?, p b = false := by
  rcases openKind?_cases front with ⟨hnone, hspace⟩ | ⟨k, b, hk, hb, hadmits⟩
  · rw [hnone]
    constructor
    · intro _ b hb
      rw [Bool.eq_false_iff]
      intro hpb
      have hs : isSpace b = true := hspace b hb
      rw [h.not_isSpace hpb] at hs
      exact absurd hs (by simp)
    · intro _ k hk
      exact absurd hk (by simp)
  · rw [hk, hb]
    simp only [Option.mem_some_iff, forall_eq']
    rw [Bool.eq_false_iff, Bool.eq_false_iff, ne_eq, ne_eq, h.continuedBy_iff hc,
      h.iff_of_admits hadmits]

/-- A lexeme of these kinds stands in a text exactly if its own text is a maximal run there. -/
theorem stands_iff (h : AreRuns kinds p) {l : Lexeme} (hl : kinds l.token.kind)
    {front rest : List Char} :
    l.Stands 0 front rest ↔ l.start = front.length ∧ l.token.WellFormed ∧
      MaximalRun p (front ++ (l.token.literal.toList ++ rest)) front.length
        (front.length + l.token.literal.toList.length) := by
  rw [MaximalRun.append_iff]
  constructor
  · rintro ⟨hstart, hlongest, hapart⟩
    obtain ⟨hspells, hend⟩ := longestLexeme_append_iff.1 hlongest
    have hinside : ∀ c ∈ l.token.literal.toList, p c = true := fun c hc =>
      (h.iff_of_admits (hspells.admits c hc)).1 hl
    obtain ⟨c, u, hliteral⟩ := List.exists_cons_of_ne_nil hspells.ne_nil
    have hc : p c = true := hinside c (by simp [hliteral])
    refine ⟨by rw [hstart, Nat.zero_add], hspells, hspells.ne_nil, hinside, ?_, ?_⟩
    · exact (h.apart_iff hc front).1 fun k hk => hapart k hk c (by simp [hliteral])
    · intro b hb
      rw [← h.continuedBy_eq hl]
      exact hend b hb
  · rintro ⟨hstart, hspells, -, hinside, hbefore, hbehind⟩
    refine ⟨by rw [hstart, Nat.zero_add], longestLexeme_append_iff.2 ⟨hspells, ?_⟩, ?_⟩
    · intro b hb
      rw [h.continuedBy_eq hl]
      exact hbehind b hb
    · intro k hk c hc
      exact (h.apart_iff (hinside c (List.mem_of_mem_head? hc)) front).2 hbefore k hk

/-- The places of the lexemes of these kinds are the maximal runs of the source. -/
theorem exists_lexeme_iff (h : AreRuns kinds p) {source : String} {i j : Nat} :
    (∃ l ∈ lexemes source, kinds l.token.kind ∧ l.Covers source i j) ↔
      MaximalRun p source.toList i j := by
  constructor
  · rintro ⟨l, hmem, hkind, hcovers⟩
    obtain ⟨front, rest, hsource, hstands⟩ := Cursor.mem_lexemes_iff.1 hmem
    have hplace := hstands.covers hsource
    rw [← hcovers.start_eq, ← hcovers.stop_eq, hplace.start_eq, hplace.stop_eq, hsource]
    exact ((h.stands_iff hkind).1 hstands).2.2
  · intro hrun
    obtain ⟨front, w, rest, hsource, rfl, rfl⟩ := hrun.exists_append
    rw [hsource] at hrun
    obtain ⟨hne, hinside, -, -⟩ := MaximalRun.append_iff.1 hrun
    obtain ⟨k, hkind, hspells⟩ := h.exists_spells hne hinside
    obtain ⟨l, rfl, rfl, hstart⟩ : ∃ l : Lexeme, l.token.kind = k ∧
        l.token.literal.toList = w ∧ l.start = front.length :=
      ⟨⟨⟨k, String.ofList w⟩, front.length⟩, rfl, String.toList_ofList, rfl⟩
    have hstands : l.Stands 0 front rest := (h.stands_iff hkind).2 ⟨hstart, hspells, hrun⟩
    exact ⟨l, Cursor.mem_lexemes_iff.2 ⟨front, rest, hsource, hstands⟩, hkind,
      hstands.covers hsource⟩

end AreRuns

end Kind

/-! ### Which word -/

namespace Kind

theorem ofWord_eq_keyword_iff {word : String} {k : Keyword} :
    ofWord word = keyword k ↔ word = k.spelling := by
  rw [@eq_comm _ word, ← Keyword.ofWord?_eq_some_iff]
  unfold ofWord
  cases Keyword.ofWord? word with
  | none => simp
  | some j => simp

theorem ofWord_eq_identifier_iff {word : String} :
    ofWord word = identifier ↔ ∀ k : Keyword, word ≠ k.spelling := by
  constructor
  · intro h k hk
    rw [ofWord_eq_keyword_iff.2 hk] at h
    exact absurd h (by simp)
  · intro h
    unfold ofWord
    split
    · next k hk => exact absurd (Keyword.ofWord?_eq_some_iff.1 hk).symm (h k)
    · rfl

/-- The kind of a word is what is looked up for it. -/
theorem eq_ofWord {t : Token} (ht : t.WellFormed) (hword : t.kind.isWord = true) :
    t.kind = ofWord t.literal := by
  have hletters : ∀ c ∈ t.literal.toList, isLetter c = true := fun c hc =>
    (isWord_iff_of_admits (ht.admits c hc)).1 hword
  have hspells : (ofWord (String.ofList t.literal.toList)).Spells t.literal.toList :=
    spells_ofWord ht.ne_nil hletters
  rw [String.ofList_toList] at hspells
  exact ht.kind_unique hspells

theorem exists_word_iff {k : Kind} (hk : k.isWord = true) {source : String} {i j : Nat} :
    (∃ l ∈ lexemes source, l.token.kind = k ∧ l.Covers source i j) ↔
      MaximalRun isLetter source.toList i j ∧ ofWord (between source i j) = k := by
  have hlookup : ∀ l ∈ lexemes source, l.token.kind.isWord = true → l.Covers source i j →
      l.token.kind = ofWord (between source i j) := by
    intro l hl hword hcovers
    rw [← hcovers.literal_eq]
    exact eq_ofWord (wellFormed_of_mem (List.mem_map_of_mem hl)) hword
  rw [← areRuns_isLetter.exists_lexeme_iff]
  constructor
  · rintro ⟨l, hl, rfl, hcovers⟩
    exact ⟨⟨l, hl, hk, hcovers⟩, (hlookup l hl hk hcovers).symm⟩
  · rintro ⟨⟨l, hl, hword, hcovers⟩, rfl⟩
    exact ⟨l, hl, hlookup l hl hword hcovers, hcovers⟩

end Kind

/-- The words of a source are its maximal runs of letters, and the numbers those of digits. The
    whole run decides which word it is. -/
theorem words_and_numbers_are_runs (source : String) (i j : Nat) :
    (∀ l ∈ lexemes source, l.Covers source l.start l.stop) ∧
    ((∃ l ∈ lexemes source, l.token.kind.isWord = true ∧ l.Covers source i j) ↔
      MaximalRun isLetter source.toList i j) ∧
    (∀ k, (∃ l ∈ lexemes source, l.token.kind = .keyword k ∧ l.Covers source i j) ↔
      MaximalRun isLetter source.toList i j ∧ between source i j = k.spelling) ∧
    ((∃ l ∈ lexemes source, l.token.kind = .identifier ∧ l.Covers source i j) ↔
      MaximalRun isLetter source.toList i j ∧
        ∀ k : Keyword, between source i j ≠ k.spelling) ∧
    ((∃ l ∈ lexemes source, l.token.kind = .integer ∧ l.Covers source i j) ↔
      MaximalRun isDigit source.toList i j) := by
  refine ⟨fun l hl => Lexeme.covers_of_mem hl, Kind.areRuns_isLetter.exists_lexeme_iff, ?_, ?_,
    Kind.areRuns_isDigit.exists_lexeme_iff⟩
  · intro k
    rw [Kind.exists_word_iff rfl, Kind.ofWord_eq_keyword_iff]
  · rw [Kind.exists_word_iff rfl, Kind.ofWord_eq_identifier_iff]

/-- A word between digits that begins with a reserved word is one identifier. -/
theorem words_and_numbers_are_runs_letter :
    MaximalRun isLetter "1letter2".toList 1 7 ∧
      ∃ l ∈ lexemes "1letter2", l.token.kind = .identifier ∧ l.Covers "1letter2" 1 7 := by
  have hrun : MaximalRun isLetter "1letter2".toList 1 7 := by decide +kernel
  have hword : ∀ k : Keyword, between "1letter2" 1 7 ≠ k.spelling := by
    intro k
    cases k <;> decide
  obtain ⟨-, -, -, hidentifier, -⟩ := words_and_numbers_are_runs "1letter2" 1 7
  exact ⟨hrun, hidentifier.2 ⟨hrun, hword⟩⟩

end Monkey
