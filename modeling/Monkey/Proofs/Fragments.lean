import Monkey.Proofs.Delivery

/-
  A source in pieces. Reading stops between two lexemes, at a position of the source, and what is
  scanned from there on is what is read on from there: a cursor carries nothing over from the
  lexemes behind it. The same holds of the end of a piece. The last lexeme before it is read
  without a look at what follows in the source, and comes out as it did. `scan_between_reads` says
  this of the text between any two such positions.
-/

namespace Monkey

/-- The text between two positions of a source. -/
def between (source : String) (first last : Nat) : String :=
  String.ofList ((source.toList.drop first).take (last - first))

/-- The text from a position of a source to its end. -/
def onwards (source : String) (first : Nat) : String := String.ofList (source.toList.drop first)

namespace TokenStream

/-- A stream over a source of which nothing was asked but to read so many times. -/
def afterReads (source : String) (n : Nat) : TokenStream :=
  ((ofSource source).answers (List.replicate n .read)).2

theorem answers_replicate_read (n : Nat) (s : TokenStream) :
    s.answers (List.replicate n .read) =
      ((s.cursor.readings n).map .reading, ⟨s.cursor.after n, s.exhausted⟩) := by
  induction n generalizing s with
  | zero => rfl
  | succ n ih =>
    rw [List.replicate_succ, answers_cons, ih]
    rfl

theorem afterReads_eq (source : String) (n : Nat) :
    afterReads source n = ⟨(Cursor.start source).after n, false⟩ := by
  rw [afterReads, answers_replicate_read]
  rfl

/-- While lexemes are left, these are what is read. -/
theorem answers_reads {source : String} {n : Nat} (hn : n ≤ (lexemes source).length) :
    ((ofSource source).answers (List.replicate n .read)).1 =
      ((lexemes source).take n).map fun l => .reading (.lexeme l) := by
  have hnone : n - (Cursor.start source).lexemes.length = 0 := Nat.sub_eq_zero_of_le hn
  rw [answers_replicate_read, show (ofSource source).cursor = .start source from rfl,
    Cursor.readings_eq, hnone, List.replicate_zero, List.append_nil, List.map_map]
  rfl

/-- A cursor behind some lexemes stands in the source at its position, and further reading
    passes a text that has just the tokens that are read. -/
theorem exists_piece {source : String} {i j : Nat} (hij : i ≤ j)
    (hj : j ≤ (lexemes source).length) :
    ∃ front piece, source.toList = front ++ ((Cursor.start source).after i).rest ∧
      ((Cursor.start source).after i).rest = piece ++ ((Cursor.start source).after j).rest ∧
      ((Cursor.start source).after i).position = front.length ∧
      ((Cursor.start source).after j).position = front.length + piece.length ∧
      tokensOf piece = (((lexemes source).take j).drop i).map Lexeme.token := by
  have hlater : j - i ≤ ((Cursor.start source).after i).lexemes.length := by
    rw [Cursor.lexemes_after, List.length_drop]
    exact Nat.sub_le_sub_right hj i
  have hsum : ((Cursor.start source).after i).after (j - i) = (Cursor.start source).after j := by
    rw [← Cursor.after_add, Nat.add_sub_cancel' hij]
  obtain ⟨front, hfront, hfirst, -, -⟩ := Cursor.exists_passed (Nat.le_trans hij hj)
  obtain ⟨piece, hpiece, hlast, htokens, -⟩ := Cursor.exists_passed hlater
  rw [hsum] at hpiece hlast
  rw [Cursor.lexemes_after, List.take_drop, Nat.add_sub_cancel' hij] at htokens
  have hposition : ((Cursor.start source).after i).position = front.length := by
    rw [hfirst]
    exact Nat.zero_add _
  exact ⟨front, piece, hfront, hpiece, hposition, by rw [hlast, hposition], htokens⟩

theorem scan_ofList_after (source : String) (n : Nat) :
    scan (String.ofList ((Cursor.start source).after n).rest) =
      ((lexemes source).drop n).map Lexeme.token ++ [.endOfInput] := by
  rw [scan_eq, String.toList_ofList, Cursor.tokensOf_rest_after]
  rfl

/-- Cut out between two places where reading stops, a text has the tokens that are read there,
    and from such a place on a stream goes on like a new one that begins there. -/
theorem scan_between_reads (source : String) (i j : Nat) (hij : i ≤ j)
    (hj : j ≤ (lexemes source).length) :
    ((ofSource source).answers (List.replicate j .read)).1 =
        ((lexemes source).take j).map (fun l => .reading (.lexeme l)) ∧
      (afterReads source i).cursor.position ≤ (afterReads source j).cursor.position ∧
      (afterReads source j).cursor.position ≤ source.length ∧
      scan (between source (afterReads source i).cursor.position
          (afterReads source j).cursor.position) =
        (((lexemes source).take j).drop i).map Lexeme.token ++ [.endOfInput] ∧
      scan (onwards source (afterReads source i).cursor.position) =
        ((lexemes source).drop i).map Lexeme.token ++ [.endOfInput] ∧
      (afterReads source i).drain.1.map Reading.token =
        scan (onwards source (afterReads source i).cursor.position) := by
  obtain ⟨front, piece, hsource, hpiece, hfirst, hlast, htokens⟩ := exists_piece hij hj
  have hdrop : source.toList.drop front.length = ((Cursor.start source).after i).rest := by
    rw [hsource, List.drop_left]
  have hdrain : (afterReads source i).drain.1.map Reading.token =
      ((lexemes source).drop i).map Lexeme.token ++ [.endOfInput] := by
    rw [drain_eq (by rw [afterReads_eq]), afterReads_eq, Cursor.lexemes_after, List.map_append,
      List.map_map]
    rfl
  have honwards : scan (onwards source front.length) =
      ((lexemes source).drop i).map Lexeme.token ++ [.endOfInput] := by
    rw [onwards, hdrop, scan_ofList_after]
  rw [hdrain, afterReads_eq, afterReads_eq, hfirst, hlast, honwards]
  refine ⟨answers_reads hj, by omega, ?_, ?_, rfl, rfl⟩
  · rw [← String.length_toList, hsource, hpiece, List.length_append, List.length_append]
    omega
  · rw [between, hdrop, hpiece, Nat.add_sub_cancel_left, List.take_left, scan_eq,
      String.toList_ofList, htokens]

/-- The second of two equals signs is read by itself behind `!=`, and a cut there keeps it so. -/
theorem scan_between_reads_operators :
    1 ≤ 3 ∧ 3 ≤ (lexemes "!==a b").length ∧
      scan (between "!==a b" 2 4) =
        [⟨.operator .assign, "="⟩, ⟨.identifier, "a"⟩, .endOfInput] ∧
      scan (onwards "!==a b" 2) =
        [⟨.operator .assign, "="⟩, ⟨.identifier, "a"⟩, ⟨.identifier, "b"⟩, .endOfInput] := by
  have hcount : 3 ≤ (lexemes "!==a b").length := by decide +kernel
  have hfirst : (afterReads "!==a b" 1).cursor.position = 2 := by decide +kernel
  have hlast : (afterReads "!==a b" 3).cursor.position = 4 := by decide +kernel
  have hpiece : (((lexemes "!==a b").take 3).drop 1).map Lexeme.token =
      [⟨.operator .assign, "="⟩, ⟨.identifier, "a"⟩] := by decide +kernel
  have hlater : ((lexemes "!==a b").drop 1).map Lexeme.token =
      [⟨.operator .assign, "="⟩, ⟨.identifier, "a"⟩, ⟨.identifier, "b"⟩] := by decide +kernel
  obtain ⟨-, -, -, hbetween, honwards, -⟩ :=
    scan_between_reads "!==a b" 1 3 (by decide) hcount
  rw [hfirst, hlast, hpiece] at hbetween
  rw [hfirst, hlater] at honwards
  exact ⟨by decide, hcount, hbetween, honwards⟩

end TokenStream

end Monkey
