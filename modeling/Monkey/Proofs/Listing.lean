import Mathlib.Data.List.TakeWhile
import Monkey.Listing
import Monkey.Proofs.Session

/-
  A listing and the tokens that it shows. A literal may hold anything, even what looks like the
  line of another token, but as long as it does not break the line it is found between the first
  space and the last brace of its line. No token of a source has a literal that breaks a line,
  for the end of a line is white space. So a listing is as good as the tokens: it can be
  read back (`tokensOfBytes?_listing`), has one line for each of them (`listing_eq_lines`), and differs
  from the listing of any source with other tokens. `listing_loses_nothing` says all of this.
-/

namespace Monkey

namespace Token

/-- The token has a line in a listing, and its literal does not break that line. -/
structure OnOneLine (t : Token) : Prop where
  listed : t.kind ≠ .endOfInput
  unbroken : '\n' ∉ t.literal.toList

theorem lineFeed_not_mem_render {t : Token} (h : '\n' ∉ t.literal.toList) :
    '\n' ∉ t.render.toList := by
  have htag : '\n' ∉ t.kind.tag.toList := fun hmem =>
    absurd (Kind.not_isWhitespace_of_mem_tag hmem) (by decide)
  rw [toList_render]
  simp [htag, h]

/-- The tokens of a source keep to their lines. -/
theorem onOneLine_of_mem {s : List Char} {t : Token} (ht : t ∈ tokensOf s) : t.OnOneLine where
  listed := by
    intro hkind
    have hend := not_isEndOfInput_of_mem ht
    rw [isEndOfInput, hkind] at hend
    exact absurd hend (by decide)
  unbroken := by
    intro hmem
    have hspace := not_isSpace_of_mem_literal ht hmem
    exact absurd hspace (by decide)

theorem line_eq (t : Token) : t.line = Utf8.encode t.render ++ [0x0A] := by
  rw [line, Utf8.encode_append]
  rfl

end Token

theorem listed_of_onOneLine {ts : List Token} (hts : ∀ t ∈ ts, t.OnOneLine) : listed ts = ts := by
  unfold listed
  refine List.takeWhile_eq_self_iff.2 fun t ht => ?_
  have hkind := (hts t ht).listed
  simp [Token.isEndOfInput, hkind]

/-! ### The lines of a listing -/

/-- Each listed token has one line of its own. -/
theorem listing_eq_lines (ts : List Token) :
    listing ts = ((listed ts).map fun t => Utf8.encode t.render).flatMap (· ++ [0x0A]) := by
  have hline : Token.line = fun t => Utf8.encode t.render ++ [0x0A] := by
    funext t
    exact t.line_eq
  rw [List.flatMap_map, listing, hline]

theorem lineFeed_not_mem_encode {text : String} (h : '\n' ∉ text.toList) :
    0x0A ∉ Utf8.encode text := by
  intro hmem
  obtain ⟨c, hc, hbyte⟩ := List.mem_flatMap.1 hmem
  have hne : c ≠ '\n' := fun heq => h (heq ▸ hc)
  exact Utf8.marks_lineFeed.not_mem c hne hbyte

/-- The text of a listing. -/
def listingText (ts : List Token) : String :=
  String.ofList ((listed ts).flatMap fun t => t.render.toList ++ ['\n'])

theorem listing_eq_encode (ts : List Token) : listing ts = Utf8.encode (listingText ts) := by
  have hline : Token.line =
      fun t => (t.render.toList ++ ['\n']).flatMap String.utf8EncodeChar := by
    funext t
    rw [Token.line, Utf8.encode, String.toList_append]
    rfl
  rw [Utf8.encode, listingText, String.toList_ofList, List.flatMap_assoc, listing, hline]

/-! ### Reading a listing back -/

theorem cut_listingText {ts : List Token} (hts : ∀ t ∈ listed ts, '\n' ∉ t.literal.toList) :
    Lines.cut '\n' (listingText ts).toList = ((listed ts).map fun t => t.render.toList, []) := by
  have hlines : ∀ line ∈ (listed ts).map fun t => t.render.toList, '\n' ∉ line := by
    intro line hline
    obtain ⟨t, ht, rfl⟩ := List.mem_map.1 hline
    exact Token.lineFeed_not_mem_render (hts t ht)
  have hnil : '\n' ∉ ([] : List Char) := List.not_mem_nil
  have hcut := Lines.cut_join hlines hnil
  rw [List.append_nil, List.flatMap_map] at hcut
  rw [listingText, String.toList_ofList, hcut]

theorem tokensOfListing?_listingText {ts : List Token}
    (hts : ∀ t ∈ listed ts, '\n' ∉ t.literal.toList) :
    tokensOfListing? (listingText ts).toList = some (listed ts) := by
  have hread : ∀ us : List Token,
      (us.map fun t => t.render.toList).mapM Token.ofLine? = some us := by
    intro us
    induction us with
    | nil => rfl
    | cons t us ih => rw [List.map_cons, List.mapM_cons, Token.ofLine?_render, ih]; rfl
  unfold tokensOfListing?
  rw [cut_listingText hts]
  exact hread (listed ts)

/-- The tokens that the bytes of a listing show. -/
def tokensOfBytes? (bytes : Bytes) : Option (List Token) :=
  (Utf8.decode? bytes).bind fun text => tokensOfListing? text.toList

theorem tokensOfBytes?_listing {ts : List Token}
    (hts : ∀ t ∈ listed ts, '\n' ∉ t.literal.toList) :
    tokensOfBytes? (listing ts) = some (listed ts) := by
  rw [tokensOfBytes?, listing_eq_encode, Utf8.decode?_encode, Option.bind_some]
  exact tokensOfListing?_listingText hts

theorem tokensOfBytes?_listing_scan (source : String) :
    tokensOfBytes? (listing (scan source)) = some (tokensOf source.toList) := by
  rw [tokensOfBytes?_listing]
  · rw [listed_scan]
  · rw [listed_scan]
    intro t ht
    exact (Token.onOneLine_of_mem ht).unbroken

/-- Sources have the same listing only if they have the same tokens. -/
theorem listing_scan_inj {s₁ s₂ : String} :
    listing (scan s₁) = listing (scan s₂) ↔ scan s₁ = scan s₂ := by
  constructor
  · intro h
    have htokens := tokensOfBytes?_listing_scan s₁
    rw [h, tokensOfBytes?_listing_scan, Option.some.injEq] at htokens
    rw [scan_eq, scan_eq, htokens]
  · intro h
    rw [h]

/-- What is written for tokens that keep to their lines can be read back, and the tokens of a
    source are such. So its listing has one line for each of its tokens, all of them ended, and two
    sources have one listing exactly if they have the same tokens. -/
theorem listing_loses_nothing :
    (∀ ts : List Token, (∀ t ∈ ts, t.OnOneLine) →
      tokensOfBytes? (Action.list ts).outcome.2 = some ts) ∧
    (∀ source : String, ∀ t ∈ scan source, t.kind ≠ .endOfInput → t.OnOneLine) ∧
    (∀ source : String, ∃ lines : List Bytes, (∀ line ∈ lines, 0x0A ∉ line) ∧
      (Action.list (scan source)).outcome = (.ok lines.length, lines.flatMap (· ++ [0x0A]))) ∧
    ∀ s₁ s₂ : String,
      (Action.list (scan s₁)).outcome.2 = (Action.list (scan s₂)).outcome.2 ↔
        scan s₁ = scan s₂ := by
  refine ⟨?_, ?_, ?_, ?_⟩
  · intro ts hts
    have hlisted := listed_of_onOneLine hts
    rw [Action.outcome_list, tokensOfBytes?_listing, hlisted]
    intro t ht
    rw [hlisted] at ht
    exact (hts t ht).unbroken
  · intro source t ht hkind
    rw [scan_eq, List.mem_append, List.mem_singleton] at ht
    rcases ht with ht | rfl
    · exact Token.onOneLine_of_mem ht
    · exact absurd rfl hkind
  · intro source
    refine ⟨(listed (scan source)).map fun t => Utf8.encode t.render, ?_, ?_⟩
    · intro line hline
      obtain ⟨t, ht, rfl⟩ := List.mem_map.1 hline
      rw [listed_scan] at ht
      have hunbroken := (Token.onOneLine_of_mem ht).unbroken
      exact lineFeed_not_mem_encode (Token.lineFeed_not_mem_render hunbroken)
    · rw [Action.outcome_list, listing_eq_lines, List.length_map]
  · intro s₁ s₂
    rw [Action.outcome_list, Action.outcome_list]
    exact listing_scan_inj

/-- Literals that look like the end of a line and the beginning of another token, and none. -/
theorem listing_loses_nothing_brackets :
    (∀ t ∈ [Token.mk .illegal "\x7d\x7bType:EOF", ⟨.integer, "\x7d"⟩, ⟨.keyword .letKw, ""⟩],
      t.OnOneLine) ∧
    tokensOfBytes? (Action.list
        [⟨.illegal, "\x7d\x7bType:EOF"⟩, ⟨.integer, "\x7d"⟩, ⟨.keyword .letKw, ""⟩]).outcome.2 =
      some [⟨.illegal, "\x7d\x7bType:EOF"⟩, ⟨.integer, "\x7d"⟩, ⟨.keyword .letKw, ""⟩] := by
  have hts : ∀ t ∈ [Token.mk .illegal "\x7d\x7bType:EOF", ⟨.integer, "\x7d"⟩,
      ⟨.keyword .letKw, ""⟩], t.OnOneLine := by
    simp only [List.forall_mem_cons]
    exact ⟨⟨by decide, by decide⟩, ⟨by decide, by decide⟩, ⟨by decide, by decide⟩, by simp⟩
  exact ⟨hts, listing_loses_nothing.1 _ hts⟩

/-- Without the condition on the literals, two lists of tokens can have one listing. -/
example : listing [⟨.illegal, "a\x7d\n\x7bType:ILLEGAL Literal:b"⟩] =
    listing [⟨.illegal, "a"⟩, ⟨.illegal, "b"⟩] := by
  decide

end Monkey
