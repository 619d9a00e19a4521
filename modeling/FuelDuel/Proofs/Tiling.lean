import FuelDuel.Proofs.Scanning

/-!
Where the tokens of a text are. Tokens tile a text if its characters are, one after the other, white
space, punctuation characters with a token each, and words with a token each that nothing continues
(`Tiling`). The tokens that scanning gives tile the text (`Token.scan_tiling`), and everything else
about their places follows from that: they are in order and do not overlap (`Tiling.ordered`), each
of them is where its offset says and after the tokens before it (`Tiling.at_token`), words end only
where they have to (`Tiling.maximal`), and what is between the tokens is white space
(`Tiling.outside`).
-/

namespace FuelDuel.Language

open FuelDuel.Text

/-! ### Bytes -/

theorem byteLength_append (first second : List Char) :
    byteLength (first ++ second) = byteLength first + byteLength second := by
  induction first with
  | nil => simp [byteLength]
  | cons c first ih =>
      simp only [List.cons_append, byteLength, ih]
      omega

theorem byteLength_reverse (chars : List Char) : byteLength chars.reverse = byteLength chars := by
  induction chars with
  | nil => rfl
  | cons c chars ih =>
      simp only [List.reverse_cons, byteLength_append, byteLength, ih]
      omega

theorem byteLength_pos {chars : List Char} (filled : chars ≠ []) : 0 < byteLength chars := by
  cases chars with
  | nil => exact absurd rfl filled
  | cons c chars =>
      have positive := c.utf8Size_pos
      simp only [byteLength]
      omega

theorem eq_nil_of_byteLength {chars : List Char} (none : byteLength chars = 0) : chars = [] := by
  cases chars with
  | nil => rfl
  | cons c chars =>
      have positive := byteLength_pos (List.cons_ne_nil c chars)
      omega

/-- Of two beginnings of a text, the one with fewer bytes is a beginning of the other. -/
theorem append_of_byteLength_le {first second front back : List Char}
    (same : first ++ second = front ++ back) (le : byteLength first ≤ byteLength front) :
    ∃ middle, front = first ++ middle ∧ second = middle ++ back := by
  rcases List.append_eq_append_iff.mp same with longer | ⟨middle, rfl, rfl⟩
  · exact longer
  · rw [byteLength_append] at le
    have empty : middle = [] := eq_nil_of_byteLength (by omega)
    exact ⟨[], by simp [empty]⟩

/-! ### Delimiters -/

theorem Delimited.append {front back : List Char} (ends : Delimited front)
    (otherwise : front = [] → Delimited back) : Delimited (front ++ back) := by
  cases front with
  | nil => exact otherwise rfl
  | cons c front => exact ends

theorem Delimited.front {front back : List Char} (ends : Delimited (front ++ back)) :
    Delimited front := by
  cases front with
  | nil => trivial
  | cons c front => exact ends

/-- Nothing that continues a word is delimited. -/
theorem Delimited.eq_nil {front back : List Char} (ends : Delimited (front ++ back))
    (plain : ∀ c ∈ front, isBlank c = false ∧ isPunct c = false) : front = [] := by
  cases front with
  | nil => rfl
  | cons c front =>
      have first := plain c List.mem_cons_self
      rcases ends with white | mark
      · cases first.1.symm.trans white
      · cases first.2.symm.trans mark

/-! ### Tilings -/

/-- The byte at which the text goes on after a token. -/
def Token.stop (token : Token) : Nat := token.offset + byteLength token.text.toList

/-- The tokens tile the characters, which start at byte `offset`. -/
inductive Tiling : Nat → List Char → List Token → Prop where
  | done {offset : Nat} : Tiling offset [] []
  | blank {offset : Nat} {c : Char} {chars : List Char} {tokens : List Token}
      (white : isBlank c = true) (later : Tiling (offset + c.utf8Size) chars tokens) :
      Tiling offset (c :: chars) tokens
  | punct {offset : Nat} {c : Char} {chars : List Char} {tokens : List Token}
      (mark : isPunct c = true) (later : Tiling (offset + c.utf8Size) chars tokens) :
      Tiling offset (c :: chars) (⟨String.ofList [c], offset⟩ :: tokens)
  | word {offset : Nat} {text : String} {chars : List Char} {tokens : List Token}
      (plain : Plain text) (later : Tiling (offset + byteLength text.toList) chars tokens)
      (apart : Delimited chars) :
      Tiling offset (text.toList ++ chars) (⟨text, offset⟩ :: tokens)

namespace Token

/-- A pending word and what is scanned after it. -/
theorem withWord_tiling {base : Nat} {word chars : List Char} {tokens : List Token}
    (plain : ∀ c ∈ word, isBlank c = false ∧ isPunct c = false)
    (later : Tiling (base + byteLength word) chars tokens) (apart : Delimited chars) :
    Tiling base (word.reverse ++ chars) (withWord (base + byteLength word) word tokens) := by
  cases word with
  | nil => exact later
  | cons c word =>
      have spelled : (String.ofList (c :: word).reverse).toList = (c :: word).reverse :=
        String.toList_ofList
      have text : Plain (String.ofList (c :: word).reverse) := by
        refine ⟨by simp [← String.toList_inj], ?_⟩
        intro d member
        rw [spelled, List.mem_reverse] at member
        exact plain d member
      have tiled := @Tiling.word base _ chars tokens text
        (by rwa [spelled, byteLength_reverse]) apart
      rw [spelled] at tiled
      simpa [withWord, ofWord] using tiled

theorem scanFrom_tiling {base : Nat} {word chars : List Char}
    (plain : ∀ c ∈ word, isBlank c = false ∧ isPunct c = false) :
    Tiling base (word.reverse ++ chars) (scanFrom (base + byteLength word) word chars) := by
  induction chars generalizing base word with
  | nil => exact withWord_tiling plain .done trivial
  | cons c rest ih =>
      have after (offset : Nat) : Tiling offset rest (scanFrom offset [] rest) :=
        @ih offset [] nofun
      cases white : isBlank c with
      | true =>
          rw [scanFrom_blank white]
          exact withWord_tiling plain (.blank white (after _)) (.inl white)
      | false =>
          cases mark : isPunct c with
          | true =>
              rw [scanFrom_punct mark]
              exact withWord_tiling plain (.punct mark (after _)) (.inr mark)
          | false =>
              have joined : base + byteLength word + c.utf8Size = base + byteLength (c :: word) := by
                simp only [byteLength]
                omega
              simp only [scanFrom, white, mark, Bool.false_eq_true, if_false, joined]
              have tiled := @ih base (c :: word) (List.forall_mem_cons.mpr ⟨⟨white, mark⟩, plain⟩)
              simpa using tiled

/-- The tokens of a text tile it. -/
theorem scan_tiling (source : String) : Tiling 0 source.toList (scan source) :=
  @scanFrom_tiling 0 [] source.toList nofun

end Token

namespace Tiling

variable {offset : Nat} {chars : List Char} {tokens : List Token}

theorem writes (tiling : Tiling offset chars tokens) : Writes chars (tokens.map Token.text) := by
  induction tiling with
  | done => exact .done
  | blank white _ ih => exact .blank white ih
  | punct mark _ ih => exact .punct mark ih
  | word plain _ apart ih => exact .word plain ih apart

/-- Every token is a punctuation character or a plain word. -/
theorem cases_text (tiling : Tiling offset chars tokens) {token : Token} (member : token ∈ tokens) :
    (∃ c, isPunct c = true ∧ token.text = String.ofList [c]) ∨ Plain token.text := by
  induction tiling with
  | done => cases member
  | blank _ _ ih => exact ih member
  | punct mark _ ih =>
      rcases List.mem_cons.mp member with rfl | later
      · exact .inl ⟨_, mark, rfl⟩
      · exact ih later
  | word plain _ _ ih =>
      rcases List.mem_cons.mp member with rfl | later
      · exact .inr plain
      · exact ih later

/-- A token is where its offset says, the tokens before it tile what is in front of it, and
delimiters stand around it if it is a plain word. -/
theorem at_token {before later : List Token} {token : Token} (tiling : Tiling offset chars tokens)
    (cut : tokens = before ++ token :: later) :
    ∃ front back, chars = front ++ (token.text.toList ++ back) ∧
      token.offset = offset + byteLength front ∧ Tiling offset front before ∧
      (Plain token.text → Delimited front.reverse ∧ Delimited back) := by
  induction tiling generalizing before with
  | done => simp at cut
  | @blank offset c chars tokens white rest ih =>
      obtain ⟨front, back, rfl, place, tiled, around⟩ := ih cut
      refine ⟨c :: front, back, rfl, ?_, .blank white tiled, fun plain => ⟨?_, (around plain).2⟩⟩
      · simp only [place, byteLength, Nat.add_assoc]
      · rw [List.reverse_cons]
        exact (around plain).1.append fun _ => .inl white
  | @punct offset c chars tokens mark rest ih =>
      rcases List.cons_eq_append_iff.mp cut with ⟨rfl, first⟩ | ⟨others, rfl, cutLater⟩
      · cases first
        refine ⟨[], chars, by simp, by simp [byteLength], .done, fun plain => ?_⟩
        exact absurd plain (not_plain_of_isPunct mark)
      · obtain ⟨front, back, rfl, place, tiled, around⟩ := ih cutLater
        refine ⟨c :: front, back, rfl, ?_, .punct mark tiled, fun plain => ⟨?_, (around plain).2⟩⟩
        · simp only [place, byteLength, Nat.add_assoc]
        · rw [List.reverse_cons]
          exact (around plain).1.append fun _ => .inr mark
  | @word offset text chars tokens plainText rest apart ih =>
      rcases List.cons_eq_append_iff.mp cut with ⟨rfl, first⟩ | ⟨others, rfl, cutLater⟩
      · cases first
        exact ⟨[], chars, by simp, by simp [byteLength], .done, fun _ => ⟨trivial, apart⟩⟩
      · obtain ⟨front, back, rfl, place, tiled, around⟩ := ih cutLater
        refine ⟨text.toList ++ front, back, by simp, ?_, .word plainText tiled apart.front,
          fun plain => ⟨?_, (around plain).2⟩⟩
        · rw [place, byteLength_append, Nat.add_assoc]
        · rw [List.reverse_append]
          refine (around plain).1.append fun first => ?_
          -- A plain word does not follow another one.
          rw [List.reverse_eq_nil_iff.mp first, List.nil_append] at apart
          have empty := apart.eq_nil plain.2
          exact absurd (String.toList_eq_nil_iff.mp empty) plain.1

/-- Every token is where its offset says, and delimiters stand around the plain words. -/
theorem spelled (tiling : Tiling offset chars tokens) {token : Token} (member : token ∈ tokens) :
    ∃ before after, chars = before ++ (token.text.toList ++ after) ∧
      token.offset = offset + byteLength before ∧
      (Plain token.text → Delimited before.reverse ∧ Delimited after) := by
  obtain ⟨before, later, cut⟩ := List.append_of_mem member
  obtain ⟨front, back, whole, place, -, around⟩ := tiling.at_token cut
  exact ⟨front, back, whole, place, around⟩

theorem text_ne_nil (tiling : Tiling offset chars tokens) {token : Token}
    (member : token ∈ tokens) : token.text.toList ≠ [] := by
  rcases tiling.cases_text member with ⟨c, -, spelled⟩ | plain
  · simp [spelled]
  · simpa using plain.1

/-- No token starts before the characters do. -/
theorem offset_le (tiling : Tiling offset chars tokens) {token : Token} (member : token ∈ tokens) :
    offset ≤ token.offset := by
  obtain ⟨before, -, -, place, -⟩ := tiling.spelled member
  omega

/-- Tokens are in order and do not overlap. -/
theorem ordered (tiling : Tiling offset chars tokens) :
    tokens.Pairwise fun earlier later => earlier.stop ≤ later.offset := by
  induction tiling with
  | done => exact .nil
  | blank _ _ ih => exact ih
  | punct _ later ih =>
      refine List.pairwise_cons.mpr ⟨fun token member => ?_, ih⟩
      simpa [Token.stop, byteLength] using later.offset_le member
  | word _ later _ ih => exact List.pairwise_cons.mpr ⟨fun _ member => later.offset_le member, ih⟩

/-- What no token covers is white space. -/
theorem outside (tiling : Tiling offset chars tokens) {before after : List Char} {c : Char}
    (split : chars = before ++ c :: after)
    (uncovered : ∀ token ∈ tokens, offset + byteLength before < token.offset ∨
      token.stop ≤ offset + byteLength before) : isBlank c = true := by
  induction tiling generalizing before with
  | done => simp at split
  | @blank offset first chars tokens white later ih =>
      cases before with
      | nil =>
          cases split
          exact white
      | cons first before =>
          cases split
          refine ih rfl fun token member => ?_
          simpa only [byteLength, Nat.add_assoc] using uncovered token member
  | @punct offset first chars tokens mark later ih =>
      obtain ⟨ofFirst, ofLater⟩ := List.forall_mem_cons.mp uncovered
      cases before with
      | nil =>
          have positive := first.utf8Size_pos
          simp [Token.stop, byteLength] at ofFirst
          omega
      | cons first before =>
          cases split
          refine ih rfl fun token member => ?_
          simpa only [byteLength, Nat.add_assoc] using ofLater token member
  | @word offset text chars tokens plain later apart ih =>
      obtain ⟨ofFirst, ofLater⟩ := List.forall_mem_cons.mp uncovered
      -- The character is not in the word, so it is in what follows the word.
      have positive := byteLength_pos (mt String.toList_eq_nil_iff.mp plain.1)
      have past : byteLength text.toList ≤ byteLength before := by
        simp only [Token.stop] at ofFirst
        omega
      obtain ⟨middle, rfl, rfl⟩ := append_of_byteLength_le split past
      refine ih rfl fun token member => ?_
      simpa only [byteLength_append, Nat.add_assoc] using ofLater token member

/-- A stretch of plain characters that covers a plain word is that word. -/
theorem maximal (tiling : Tiling offset chars tokens) {token : Token} (member : token ∈ tokens)
    (plain : Plain token.text) {before longer after : List Char}
    (split : chars = before ++ (longer ++ after))
    (unbroken : ∀ c ∈ longer, isBlank c = false ∧ isPunct c = false)
    (starts : offset + byteLength before ≤ token.offset)
    (stops : token.stop ≤ offset + byteLength before + byteLength longer) :
    longer = token.text.toList := by
  obtain ⟨front, back, whole, place, around⟩ := tiling.spelled member
  obtain ⟨startsApart, stopsApart⟩ := around plain
  obtain ⟨early, rfl, rest⟩ := append_of_byteLength_le (split.symm.trans whole) (by omega)
  rw [← List.append_assoc] at rest
  have within : byteLength (early ++ token.text.toList) ≤ byteLength longer := by
    simp only [Token.stop, byteLength_append] at place stops ⊢
    omega
  obtain ⟨late, rfl, rfl⟩ := append_of_byteLength_le rest.symm within
  -- The word is delimited on both sides, so nothing of the stretch is outside of it.
  rw [List.reverse_append] at startsApart
  have noneBefore : early.reverse = [] :=
    startsApart.eq_nil fun c member => unbroken c (by simp [List.mem_reverse.mp member])
  have noneAfter : late = [] := stopsApart.eq_nil fun c member => unbroken c (by simp [member])
  rw [List.reverse_eq_nil_iff.mp noneBefore, noneAfter, List.nil_append, List.append_nil]

end Tiling

end FuelDuel.Language
