import QueryDiagram.Sql.Lexer
import Mathlib

/-!
How the lexer reads a word.

A word is a run of word characters; where a blank or the end of the text follows it, the
lexer reads it as one token. The rules that can start on a word character are few
(`wordRules`), and for a word that starts no keyword phrase they all decide on the word and on
one look past it: a word is a name right after a full stop, before an opening bracket, or
before a full stop across blanks (`nameContext`), and otherwise the word tables give its class
(`readToken_plain`). Keywords are written in any letter case; a keyword of several words, with
blanks between them, is read as one token by the phrase rules (`readToken_written`).
-/

namespace QueryDiagram.Sql

open Text

theorem isWordChar_of_isAlpha {c : Char} (h : c.isAlpha = true) : isWordChar c = true := by
  have hlt : c.toNat < 0x80 := by
    simp only [Char.isAlpha, Char.isUpper, Char.isLower, Bool.or_eq_true, Bool.and_eq_true,
      decide_eq_true_eq, ge_iff_le, UInt32.le_iff_toNat_le] at h
    have : c.toNat = c.val.toNat := rfl
    have : 'Z'.val.toNat = 90 := rfl
    have : 'z'.val.toNat = 122 := rfl
    omega
  simp [isWordChar, hlt, Char.isAlphanum, h]

theorem isWordChar_of_foldEq {p d : Char} (hp : p.isAlpha = true) (h : foldEq p d = true) :
    isWordChar d = true := by
  simp only [foldEq, hp, if_true, Bool.or_eq_true, beq_iff_eq, Bool.and_eq_true] at h
  rcases h with ((h | ⟨-, rfl | rfl⟩) | ⟨-, rfl⟩) | ⟨-, rfl⟩
  · apply isWordChar_of_isAlpha
    rw [← Char.isAlpha_toLower_eq_isAlpha, h, Char.isAlpha_toLower_eq_isAlpha, hp]
  all_goals decide +kernel

def openers : List Char :=
  ['-', '#', '/', '\r', '\n', ':', '*', '`', '´', '$', '?', '%', '\\', '@', '\'', '"', '[', '.',
    ';', '(', ')', ',', '<', '>', '=', '~', '!', '+', '^', '&', '|', ']']

/-- The rules that can read a token starting with a word character that is not a digit. -/
def wordRules : List Rule :=
  [bracketKeywordRule, qualifierRule, memberRule, callRule, joinRule, phraseRule, batchRule,
    lateralRule, timeZoneRule, patternRule, wordRule]

theorem readToken_of_wordStart {prev : Option Char} {c : Char} {more : List Char}
    (hw : isWordChar c = true) (hc : c ∉ openers) (hb : isBlank c = false)
    (hd : isDecimalDigit c = false) :
    readToken prev (c :: more) =
      ((wordRules.findSome? (· prev (c :: more))).getD (.error, 1)) := by
  simp only [openers, List.mem_cons, List.not_mem_nil, or_false, not_or] at hc
  obtain ⟨h1, h2, h3, h4, h5, h6, h7, h8, h9, h10, h11, h12, h13, h14, h15, h16, h17, h18,
    h19, h20, h21, h22, h23, h24, h25, h26, h27, h28, h29, h30, h31, h32⟩ := hc
  have h0 : c ≠ '0' := by rintro rfl; simp [isDecimalDigit] at hd
  have e1 : lineCommentRule prev (c :: more) = none := by simp [lineCommentRule, *]
  have e2 : blockCommentRule prev (c :: more) = none := by simp [blockCommentRule, *]
  have e3 : newlineRule prev (c :: more) = none := by simp [newlineRule, *]
  have e4 : blankRule prev (c :: more) = none := by simp [blankRule, *]
  have e5 : symbolRule prev (c :: more) = none := by simp [symbolRule, *]
  have e6 : delimitedNameRule prev (c :: more) = none := by simp [delimitedNameRule, *]
  have e7 : dollarQuotedRule prev (c :: more) = none := by simp [dollarQuotedRule, *]
  have e8 : placeholderRule prev (c :: more) = none := by simp [placeholderRule, *]
  have e9 : markerRule prev (c :: more) = none := by simp [markerRule, *]
  have e10 : commandRule prev (c :: more) = none := by simp [commandRule, *]
  have e12 : sigilNameRule prev (c :: more) = none := by simp [sigilNameRule, *]
  have e16 : hexRule prev (c :: more) = none := by simp [hexRule, signLength, *]
  have e17 : exponentRule prev (c :: more) = none := by
    simp [exponentRule, signLength, spanLength, *]
  have e18 : fractionRule prev (c :: more) = none := by
    simp [fractionRule, signLength, spanLength, *]
  have e19 : integerRule prev (c :: more) = none := by
    simp [integerRule, signLength, spanLength, *]
  have e20 : quotedRule prev (c :: more) = none := by simp [quotedRule, *]
  have e21 : bracketNameRule prev (c :: more) = none := by simp [bracketNameRule, *]
  have e28 : ∃ x, wordRule prev (c :: more) = some x := by simp [wordRule, hw]
  obtain ⟨x, e28⟩ := e28
  simp only [readToken, rules, wordRules, List.findSome?_cons, e1, e2, e3, e4, e5, e6, e7, e8,
    e9, e10, e12, e16, e17, e18, e19, e20, e21, e28]

theorem not_mem_openers {c : Char} (h : isWordChar c = true) : c ∉ openers := by
  intro hc
  simp only [openers, List.mem_cons, List.not_mem_nil, or_false] at hc
  rcases hc with rfl | rfl | rfl | rfl | rfl | rfl | rfl | rfl | rfl | rfl | rfl | rfl | rfl |
    rfl | rfl | rfl | rfl | rfl | rfl | rfl | rfl | rfl | rfl | rfl | rfl | rfl | rfl | rfl |
    rfl | rfl | rfl | rfl <;> revert h <;> decide +kernel

/-- A word: one or more word characters. -/
def IsWord (w : List Char) : Prop := w ≠ [] ∧ ∀ c ∈ w, isWordChar c = true

/-- What may follow a word for the word to end there: the end of the text, or a character
that neither a word, nor a tag of a dollar quote, nor a quoted zone name goes on with. -/
def stopsWord : List Char → Bool
  | [] => true
  | d :: _ => !(isWordChar d || d == '$' || d == '#' || d == '\'')

/-- `w` reads as the word `x` under the rules' comparison of letters regardless of case. -/
def FoldsTo (x : String) (w : List Char) : Bool :=
  w.length == x.length && startsWithFold x.toList w

theorem spanLength_append_of_forall {p : Char → Bool} {w : List Char} (rest : List Char)
    (h : ∀ c ∈ w, p c = true) : spanLength p (w ++ rest) = w.length + spanLength p rest := by
  induction w with
  | nil => simp
  | cons c w ih =>
    simp only [List.mem_cons, forall_eq_or_imp] at h
    simp only [List.cons_append, spanLength, h.1, if_true, ih h.2, List.length_cons]
    omega

theorem spanLength_word_stop {rest : List Char} (hr : stopsWord rest = true) :
    spanLength isWordChar rest = 0 ∧
      spanLength (fun d => isWordChar d || d == '$' || d == '#') rest = 0 ∧
      endsWord rest = true := by
  cases rest with
  | nil => simp [spanLength, endsWord]
  | cons d r =>
    simp only [stopsWord, Bool.not_eq_true', Bool.or_eq_false_iff] at hr
    simp [spanLength, endsWord, hr.1.1.1, hr.1.1.2, hr.1.2]

theorem startsWithFold_append_of_le {x w : List Char} (rest : List Char)
    (h : x.length ≤ w.length) : startsWithFold x (w ++ rest) = startsWithFold x w := by
  induction x generalizing w with
  | nil => cases w <;> rfl
  | cons p ps ih =>
    cases w with
    | nil => simp at h
    | cons c w =>
      simp only [List.length_cons, Nat.add_le_add_iff_right] at h
      simp only [List.cons_append, startsWithFold, ih h]

theorem startsWithFold_append_of_lt {x w rest : List Char} (hx : ∀ p ∈ x, p.isAlpha = true)
    (hr : stopsWord rest = true) (h : w.length < x.length) :
    startsWithFold x (w ++ rest) = false := by
  induction w generalizing x with
  | nil =>
    obtain ⟨p, ps, rfl⟩ := List.exists_cons_of_length_pos h
    cases rest with
    | nil => rfl
    | cons d r =>
      have hpd : foldEq p d = false := by
        cases hf : foldEq p d with
        | false => rfl
        | true =>
          have := isWordChar_of_foldEq (hx p List.mem_cons_self) hf
          simp [stopsWord, this] at hr
      simp [startsWithFold, hpd]
  | cons c w ih =>
    obtain ⟨p, ps, rfl⟩ := List.exists_cons_of_length_pos (Nat.lt_of_le_of_lt (Nat.zero_le _) h)
    simp only [List.length_cons, Nat.add_lt_add_iff_right] at h
    simp only [List.cons_append, startsWithFold,
      ih (fun q hq => hx q (List.mem_cons_of_mem p hq)) h, Bool.and_false]

def blankCodes : List Nat :=
  [9, 10, 11, 12, 13, 28, 29, 30, 31, 32, 0x85, 0xA0, 0x1680, 0x2000, 0x2001, 0x2002, 0x2003,
    0x2004, 0x2005, 0x2006, 0x2007, 0x2008, 0x2009, 0x200A, 0x2028, 0x2029, 0x202F, 0x205F,
    0x3000]

theorem toNat_mem_blankCodes {c : Char} (h : isBlank c = true) : c.toNat ∈ blankCodes := by
  simp only [isBlank, Bool.or_eq_true, Bool.and_eq_true, decide_eq_true_eq, beq_iff_eq] at h
  simp only [blankCodes, List.mem_cons, List.not_mem_nil, or_false]
  omega

theorem not_isBlank_of_isWordChar {c : Char} (h : isWordChar c = true) : isBlank c = false := by
  cases hb : isBlank c with
  | false => rfl
  | true =>
    have hall : ∀ n ∈ blankCodes, isWordChar (Char.ofNat n) = false := by decide +kernel
    have := hall _ (toNat_mem_blankCodes hb)
    rw [Char.ofNat_toNat, h] at this
    cases this

theorem drop_append_of_lt_word {w : List Char} (rest : List Char) {k : Nat}
    (hw : ∀ c ∈ w, isWordChar c = true) (hk : k < w.length) :
    ∃ c more, (w ++ rest).drop k = c :: more ∧ isWordChar c = true := by
  refine ⟨w[k], w.drop (k + 1) ++ rest, ?_, hw _ (List.getElem_mem hk)⟩
  rw [List.drop_append_of_le_length (Nat.le_of_lt hk), List.drop_eq_getElem_cons hk,
    List.cons_append]

theorem phraseLength_single_word {x : String} {w rest : List Char}
    (hx : ∀ p ∈ x.toList, p.isAlpha = true) (hw : IsWord w) (hr : stopsWord rest = true) :
    phraseLength [x] (w ++ rest) = if FoldsTo x w then some x.length else none := by
  rw [phraseLength]
  rcases Nat.lt_trichotomy x.length w.length with hlt | heq | hgt
  · obtain ⟨c, more, hd, hc⟩ := drop_append_of_lt_word rest hw.2 hlt
    have hne : w.length ≠ x.length := by omega
    simp [FoldsTo, hd, endsWord, hc, hne]
  · have hd : (w ++ rest).drop x.length = rest := by rw [heq]; simp
    rw [hd, startsWithFold_append_of_le rest (by rw [String.length_toList, heq]), (spanLength_word_stop hr).2.2]
    simp [FoldsTo, heq]
  · rw [startsWithFold_append_of_lt (fun p hp => hx p hp) hr (by rw [String.length_toList]; exact hgt)]
    have hne : w.length ≠ x.length := by omega
    simp [FoldsTo, hne]

theorem phraseLength_cons_word {x v : String} {more : List String} {w rest : List Char}
    (hx : ∀ p ∈ x.toList, p.isAlpha = true) (hw : IsWord w) (hr : stopsWord rest = true) :
    phraseLength (x :: v :: more) (w ++ rest) =
      if FoldsTo x w then
        (let b := spanLength isBlank rest
         if b = 0 then none else (phraseLength (v :: more) (rest.drop b)).map (x.length + b + ·))
      else none := by
  rw [phraseLength]
  rcases Nat.lt_trichotomy x.length w.length with hlt | heq | hgt
  · obtain ⟨c, more', hd, hc⟩ := drop_append_of_lt_word rest hw.2 hlt
    have hne : w.length ≠ x.length := by omega
    have hb : isBlank c = false := not_isBlank_of_isWordChar hc
    simp [FoldsTo, hd, spanLength, hb, hne]
  · have hd : (w ++ rest).drop x.length = rest := by rw [heq]; simp
    rw [hd, startsWithFold_append_of_le rest (by rw [String.length_toList, heq])]
    simp [FoldsTo, heq]
  · rw [startsWithFold_append_of_lt (fun p hp => hx p hp) hr (by rw [String.length_toList]; exact hgt)]
    have hne : w.length ≠ x.length := by omega
    simp [FoldsTo, hne]

/-- The first words of the lexer's keyword phrases: a word that reads as one of these may
be read with the words after it, or as a keyword of its own. -/
def specialWords : List String :=
  ["CASE", "IN", "VALUES", "USING", "FROM", "AS", "LEFT", "RIGHT", "FULL", "INNER", "OUTER",
    "STRAIGHT", "JOIN", "CROSS", "NATURAL", "END", "NOT", "NULLS", "UNION", "CREATE", "DOUBLE",
    "GROUP", "ORDER", "PRIMARY", "HANDLER", "GO", "LATERAL", "AT", "WITH", "LIKE", "ILIKE",
    "RLIKE", "REGEXP"]

theorem specialWords_alpha : ∀ x ∈ specialWords, ∀ p ∈ x.toList, p.isAlpha = true := by
  intro x hx
  simp only [specialWords, List.mem_cons, List.not_mem_nil, or_false] at hx
  rcases hx with h | h | h | h | h | h | h | h | h | h | h | h | h | h | h | h | h | h | h | h |
    h | h | h | h | h | h | h | h | h | h | h | h | h <;> subst h <;> simp

theorem firstPhrase_eq_none_of_word {phrases : List (List String)} {w rest : List Char}
    (hw : IsWord w) (hr : stopsWord rest = true)
    (hs : ∀ x ∈ specialWords, FoldsTo x w = false)
    (hph : ∀ ph ∈ phrases, ∃ x xs, ph = x :: xs ∧ x ∈ specialWords) :
    firstPhrase phrases (w ++ rest) = none := by
  rw [firstPhrase, List.findSome?_eq_none_iff]
  intro ph hmem
  obtain ⟨x, xs, rfl, hx⟩ := hph ph hmem
  have hfold := hs x hx
  cases xs with
  | nil => simp [phraseLength_single_word (specialWords_alpha x hx) hw hr, hfold]
  | cons v more => simp [phraseLength_cons_word (specialWords_alpha x hx) hw hr, hfold]

theorem nameWordLength_word {w rest : List Char} (hw : IsWord w) (hr : stopsWord rest = true) :
    nameWordLength (w ++ rest) = if isNameStart (w.head hw.1) then some w.length else none := by
  obtain ⟨c, more, rfl⟩ := List.exists_cons_of_ne_nil hw.1
  have hmore : ∀ d ∈ more, isWordChar d = true := fun d hd => hw.2 d (List.mem_cons_of_mem c hd)
  simp only [List.cons_append, nameWordLength, List.head_cons, List.length_cons,
    spanLength_append_of_forall rest hmore, (spanLength_word_stop hr).1]
  split <;> simp_all
  omega

theorem drop_spanLength_eq_dropWhile (p : Char → Bool) (l : List Char) :
    l.drop (spanLength p l) = l.dropWhile p := by
  induction l with
  | nil => rfl
  | cons c l ih => cases h : p c <;> simp [spanLength, h, ih]

/-- Where a word is read as a name whatever its class: right after a full stop, right before
an opening bracket, or before a full stop that only blanks separate from it. -/
def nameContext (prev : Option Char) (rest : List Char) : Bool :=
  prev == some '.' || rest.head? == some '(' || (rest.dropWhile isBlank).head? == some '.'

theorem qualifierRule_word {prev : Option Char} {w rest : List Char} (hw : IsWord w)
    (hr : stopsWord rest = true) :
    qualifierRule prev (w ++ rest) =
      if isNameStart (w.head hw.1) && (rest.dropWhile isBlank).head? == some '.' then
        some (.name, w.length)
      else none := by
  simp only [qualifierRule, nameWordLength_word hw hr]
  split
  · rename_i hs
    simp only [Option.bind_some, List.drop_left, drop_spanLength_eq_dropWhile, hs,
      Bool.true_and]
    cases List.dropWhile isBlank rest with
    | nil => simp
    | cons d t => by_cases hd : d = '.' <;> simp [hd]
  · simp_all

theorem memberRule_word {prev : Option Char} {w rest : List Char} (hw : IsWord w)
    (hr : stopsWord rest = true) :
    memberRule prev (w ++ rest) =
      if prev == some '.' && isNameStart (w.head hw.1) then some (.name, w.length)
      else none := by
  simp only [memberRule, nameWordLength_word hw hr]
  split <;> split <;> simp_all

theorem callRule_word {prev : Option Char} {w rest : List Char} (hw : IsWord w)
    (hr : stopsWord rest = true) :
    callRule prev (w ++ rest) =
      if isNameStart (w.head hw.1) && rest.head? == some '(' then some (.name, w.length)
      else none := by
  simp only [callRule, nameWordLength_word hw hr]
  split
  · rename_i hs
    simp only [Option.bind_some, List.drop_left, hs, Bool.true_and]
    cases rest with
    | nil => simp
    | cons d t => by_cases hd : d = '(' <;> simp [hd]
  · simp_all

theorem wordRule_word {prev : Option Char} {w rest : List Char} (hw : IsWord w)
    (hr : stopsWord rest = true) :
    wordRule prev (w ++ rest) = some (classifyWord (String.ofList w), w.length) := by
  obtain ⟨c, more, rfl⟩ := List.exists_cons_of_ne_nil hw.1
  have hc : isWordChar c = true := hw.2 c List.mem_cons_self
  have hmore : ∀ d ∈ more, (isWordChar d || d == '$' || d == '#') = true := by
    intro d hd
    simp [hw.2 d (List.mem_cons_of_mem c hd)]
  have hn : 1 + spanLength (fun d => isWordChar d || d == '$' || d == '#') (more ++ rest) =
      more.length + 1 := by
    rw [spanLength_append_of_forall rest hmore, (spanLength_word_stop hr).2.1]
    omega
  simp only [List.cons_append, wordRule, hc, if_true, hn, List.length_cons]
  rw [← List.cons_append, List.take_left' (by simp)]

theorem length_lt_of_startsWithFold {x : String} {w rest : List Char}
    (hx : ∀ p ∈ x.toList, p.isAlpha = true) (hr : stopsWord rest = true)
    (hf : FoldsTo x w = false) (h : startsWithFold x.toList (w ++ rest) = true) :
    x.length < w.length := by
  rcases Nat.lt_trichotomy x.length w.length with hlt | heq | hgt
  · exact hlt
  · rw [startsWithFold_append_of_le rest (by rw [String.length_toList, heq])]
      at h
    simp [FoldsTo, heq, h] at hf
  · rw [startsWithFold_append_of_lt hx hr (by rw [String.length_toList]; exact hgt)] at h
    cases h

theorem startsWithFold_append_pattern (x y cs : List Char) :
    startsWithFold (x ++ y) cs = (startsWithFold x cs && startsWithFold y (cs.drop x.length)) := by
  induction x generalizing cs with
  | nil => simp [startsWithFold]
  | cons p ps ih =>
    cases cs with
    | nil => simp [startsWithFold]
    | cons c cs => simp [startsWithFold, ih, Bool.and_assoc]

section plain
variable {prev : Option Char} {w rest : List Char} (hw : IsWord w) (hr : stopsWord rest = true)
  (hs : ∀ x ∈ specialWords, FoldsTo x w = false)
include hw hr hs

theorem bracketKeywordRule_plain : bracketKeywordRule prev (w ++ rest) = none := by
  simp only [bracketKeywordRule]
  rw [firstPhrase_eq_none_of_word hw hr hs ?_]
  · rfl
  · simp [specialWords]

theorem joinRule_plain : joinRule prev (w ++ rest) = none := by
  simp only [joinRule]
  rw [firstPhrase_eq_none_of_word hw hr hs ?_]
  · rfl
  · simp [specialWords]

theorem phraseRule_plain : phraseRule prev (w ++ rest) = none := by
  simp only [phraseRule, List.findSome?_eq_none_iff]
  intro g hg
  simp only [List.mem_cons, List.not_mem_nil, or_false] at hg
  rcases hg with rfl | rfl | rfl | rfl | rfl | rfl | rfl | rfl | rfl | rfl <;>
    rw [firstPhrase_eq_none_of_word hw hr hs ?_] <;> simp [specialWords]

theorem lateralRule_plain : lateralRule prev (w ++ rest) = none := by
  simp only [lateralRule]
  rw [firstPhrase_eq_none_of_word hw hr hs ?_]
  · rfl
  · simp [specialWords]

theorem patternRule_plain : patternRule prev (w ++ rest) = none := by
  simp only [patternRule]
  rw [firstPhrase_eq_none_of_word hw hr hs ?_, firstPhrase_eq_none_of_word hw hr hs ?_]
  · rfl
  all_goals simp [specialWords]

theorem batchRule_plain : batchRule prev (w ++ rest) = none := by
  simp only [batchRule]
  split
  · rename_i hgo
    have hlt := length_lt_of_startsWithFold (x := "GO") (by simp) hr
      (hs "GO" (by simp [specialWords])) hgo
    obtain ⟨c, more, hd, hc⟩ := drop_append_of_lt_word rest hw.2 hlt
    rw [show "GO".length = 2 from rfl] at hd
    simp [hd, not_isBlank_of_isWordChar hc]
  · rfl

theorem timeZoneRule_plain : timeZoneRule prev (w ++ rest) = none := by
  have hat : startsWithFold ['A', 'T'] (w ++ rest) = true →
      ∃ c more, (w ++ rest).drop 2 = c :: more ∧ isWordChar c = true := fun h =>
    (show "AT".length = 2 from rfl) ▸ drop_append_of_lt_word rest hw.2
      (length_lt_of_startsWithFold (x := "AT") (by simp) hr (hs "AT" (by simp [specialWords])) h)
  have hwith : startsWithFold ['W', 'I', 'T', 'H', '\''] (w ++ rest) = false := by
    rw [show ['W', 'I', 'T', 'H', '\''] = "WITH".toList ++ ['\''] by simp,
      startsWithFold_append_pattern]
    cases h : startsWithFold "WITH".toList (w ++ rest) with
    | false => rfl
    | true =>
      have hlt := length_lt_of_startsWithFold (by simp) hr (hs "WITH" (by simp [specialWords])) h
      obtain ⟨c, more, hd, hc⟩ := drop_append_of_lt_word rest hw.2 hlt
      have hq : c ≠ '\'' := by rintro rfl; revert hc; decide
      rw [show "WITH".length = 4 from rfl] at hd
      rw [show ("WITH".toList).length = 4 from rfl, hd]
      simp [startsWithFold, foldEq, hq]
  simp only [timeZoneRule, hwith]
  split
  · rename_i h
    obtain ⟨c, more, hd, hc⟩ := hat h
    simp [blanksThen, hd, spanLength, not_isBlank_of_isWordChar hc]
  · rfl

end plain

/-- A word that is not the first word of a keyword phrase, and does not start with a digit,
is read whole: as a name where a name is called for (`nameContext`), else by its class. -/
theorem readToken_plain {prev : Option Char} {w rest : List Char} (hw : IsWord w)
    (hd : isDecimalDigit (w.head hw.1) = false) (hr : stopsWord rest = true)
    (hs : ∀ x ∈ specialWords, FoldsTo x w = false) :
    readToken prev (w ++ rest) =
      (if isNameStart (w.head hw.1) && nameContext prev rest then .name
        else classifyWord (String.ofList w), w.length) := by
  obtain ⟨c, more, rfl⟩ := List.exists_cons_of_ne_nil hw.1
  have hc : isWordChar c = true := hw.2 c List.mem_cons_self
  simp only [List.head_cons] at hd ⊢
  rw [List.cons_append, readToken_of_wordStart hc (not_mem_openers hc)
    (not_isBlank_of_isWordChar hc) hd, ← List.cons_append]
  simp only [wordRules, List.findSome?_cons, bracketKeywordRule_plain hw hr hs,
    qualifierRule_word hw hr, memberRule_word hw hr, callRule_word hw hr,
    joinRule_plain hw hr hs, phraseRule_plain hw hr hs, batchRule_plain hw hr hs,
    lateralRule_plain hw hr hs, timeZoneRule_plain hw hr hs, patternRule_plain hw hr hs,
    wordRule_word hw hr, List.head_cons, nameContext]
  rcases Bool.eq_false_or_eq_true (isNameStart c) with h1 | h1 <;>
    rcases Bool.eq_false_or_eq_true (prev == some '.') with h2 | h2 <;>
    rcases Bool.eq_false_or_eq_true (rest.head? == some '(') with h3 | h3 <;>
    rcases Bool.eq_false_or_eq_true ((rest.dropWhile isBlank).head? == some '.') with h4 | h4 <;>
    simp [h1, h2, h3, h4]

theorem toNat_lt_of_isAlpha {c : Char} (h : c.isAlpha = true) : c.toNat < 0x80 := by
  simp only [Char.isAlpha, Char.isUpper, Char.isLower, Bool.or_eq_true, Bool.and_eq_true,
    decide_eq_true_eq, ge_iff_le, UInt32.le_iff_toNat_le] at h
  have : c.toNat = c.val.toNat := rfl
  have : 'Z'.val.toNat = 90 := rfl
  have : 'z'.val.toNat = 122 := rfl
  omega

theorem eq_or_eq_toLower_of_toUpper {c k : Char} (h : c.toUpper = k) :
    c = k ∨ c = k.toLower := by
  by_cases hl : c.isLower
  · right
    rw [← h, Char.toLower_toUpper_eq_toLower,
      Char.toLower_eq_of_not_isUpper (Char.not_isUpper_of_isLower hl)]
  · left
    rw [← h, Char.toUpper_eq_of_not_isLower hl]

theorem foldEq_toLower {p k : Char} (hk : k.isAlpha = true) : foldEq p k.toLower = foldEq p k := by
  -- the characters that fold onto `i`, `s` and `k` lie above ASCII, where no letter is
  have hne : ∀ d : Char, d.toNat < 0x80 →
      (d == 'ı') = false ∧ (d == 'İ') = false ∧ (d == 'ſ') = false ∧ (d == '\u212A') = false := by
    intro d hd
    refine ⟨?_, ?_, ?_, ?_⟩ <;> rw [beq_eq_false_iff_ne] <;> rintro rfl <;> revert hd <;> decide
  obtain ⟨a1, a2, a3, a4⟩ := hne _ (toNat_lt_of_isAlpha hk)
  obtain ⟨b1, b2, b3, b4⟩ := hne k.toLower (toNat_lt_of_isAlpha (c := k.toLower) (by simpa using hk))
  unfold foldEq
  split
  · simp only [Char.toLower_toLower_eq_toLower, a1, a2, a3, a4, b1, b2, b3, b4]
  · rename_i hp
    have e1 : k.toLower ≠ p := by rintro rfl; simp [hk] at hp
    have e2 : k ≠ p := by rintro rfl; simp [hk] at hp
    rw [beq_eq_false_iff_ne.mpr e1, beq_eq_false_iff_ne.mpr e2]

/-- `s` spells the keyword `k` in any letter case: `k` is written in upper-case letters, and
each character of `s` is the letter of `k` at its place, in either case. -/
def Spelled (k : String) (s : List Char) : Prop := s.map Char.toUpper = k.toList

/-- A keyword of the tables: one or more upper-case letters. -/
def IsUpperWord (k : String) : Prop := k ≠ "" ∧ ∀ c ∈ k.toList, c.isUpper = true

instance (k : String) : Decidable (IsUpperWord k) := inferInstanceAs (Decidable (_ ∧ _))

theorem isAlpha_of_isUpper {c : Char} (h : c.isUpper = true) : c.isAlpha = true := by
  simp [Char.isAlpha, h]

theorem IsUpperWord.isAlpha {k : String} (hk : IsUpperWord k) : ∀ c ∈ k.toList, c.isAlpha = true :=
  fun c hc => isAlpha_of_isUpper (hk.2 c hc)

theorem foldEq_of_toUpper {p c k : Char} (hk : k.isUpper = true) (h : c.toUpper = k) :
    foldEq p c = foldEq p k := by
  rcases eq_or_eq_toLower_of_toUpper h with rfl | rfl
  · rfl
  · exact foldEq_toLower (isAlpha_of_isUpper hk)

/-- Between upper-case letters, folding is equality. -/
theorem foldEq_upper_iff {p c : Char} (hp : p.isUpper = true) (hc : c.isUpper = true) :
    foldEq p c = true ↔ c = p := by
  have hup : ∀ d : Char, d.isUpper = true → d.toUpper = d := fun d hd =>
    Char.toUpper_eq_of_not_isLower (Char.not_isLower_of_isUpper hd)
  constructor
  · intro h
    have hlow : c.toLower = p.toLower := by
      simp only [foldEq, isAlpha_of_isUpper hp, if_true, Bool.or_eq_true, beq_iff_eq,
        Bool.and_eq_true] at h
      rcases h with ((h | ⟨-, rfl | rfl⟩) | ⟨-, rfl⟩) | ⟨-, rfl⟩
      · exact h
      all_goals exact absurd hc (by decide)
    calc c = c.toUpper := (hup c hc).symm
      _ = c.toLower.toUpper := (Char.toUpper_toLower_eq_toUpper c).symm
      _ = p.toLower.toUpper := by rw [hlow]
      _ = p := by rw [Char.toUpper_toLower_eq_toUpper, hup p hp]
  · rintro rfl
    simp [foldEq, isAlpha_of_isUpper hp]

/-- A pattern matches a spelling of upper-case letters as it matches the letters. -/
theorem startsWithFold_map_toUpper {s : List Char} (hk : ∀ k ∈ s.map Char.toUpper, k.isUpper = true)
    (x : List Char) : startsWithFold x s = startsWithFold x (s.map Char.toUpper) := by
  induction x generalizing s with
  | nil => cases s <;> rfl
  | cons p ps ih =>
    cases s with
    | nil => rfl
    | cons c s =>
      simp only [List.map_cons, List.mem_cons, forall_eq_or_imp] at hk
      simp only [List.map_cons, startsWithFold, foldEq_of_toUpper hk.1 rfl, ih hk.2]

/-- Between words of upper-case letters of one length, a match is equality. -/
theorem startsWithFold_upper_iff {x k : List Char} (hx : ∀ p ∈ x, p.isUpper = true)
    (hk : ∀ c ∈ k, c.isUpper = true) (hl : k.length = x.length) :
    startsWithFold x k = true ↔ x = k := by
  induction x generalizing k with
  | nil => cases k <;> simp_all [startsWithFold]
  | cons p ps ih =>
    cases k with
    | nil => simp at hl
    | cons c k =>
      simp only [List.mem_cons, forall_eq_or_imp] at hx hk
      simp only [List.length_cons, Nat.add_right_cancel_iff] at hl
      simp only [startsWithFold, Bool.and_eq_true, foldEq_upper_iff hx.1 hk.1, ih hx.2 hk.2 hl,
        List.cons.injEq]
      exact ⟨fun ⟨h1, h2⟩ => ⟨h1.symm, h2⟩, fun ⟨h1, h2⟩ => ⟨h1.symm, h2⟩⟩

/-- Between words of upper-case letters, a match at the start is a prefix. -/
theorem startsWithFold_upper_prefix_iff {x k : List Char} (hx : ∀ p ∈ x, p.isUpper = true)
    (hk : ∀ c ∈ k, c.isUpper = true) : startsWithFold x k = true ↔ x <+: k := by
  induction x generalizing k with
  | nil => cases k <;> simp [startsWithFold]
  | cons p ps ih =>
    cases k with
    | nil => simp [startsWithFold]
    | cons c k =>
      simp only [List.mem_cons, forall_eq_or_imp] at hx hk
      simp only [startsWithFold, Bool.and_eq_true, foldEq_upper_iff hx.1 hk.1, ih hx.2 hk.2,
        List.cons_prefix_cons]
      exact ⟨fun ⟨h1, h2⟩ => ⟨h1.symm, h2⟩, fun ⟨h1, h2⟩ => ⟨h1.symm, h2⟩⟩

theorem foldsTo_upper_iff {x k : String} (hx : IsUpperWord x) (hk : IsUpperWord k) :
    FoldsTo x k.toList = true ↔ x = k := by
  simp only [FoldsTo, Bool.and_eq_true, beq_iff_eq, String.length_toList]
  constructor
  · rintro ⟨hl, h⟩
    rw [← String.length_toList, ← String.length_toList] at hl
    exact String.toList_inj.mp ((startsWithFold_upper_iff hx.2 hk.2 hl).mp h)
  · rintro rfl
    exact ⟨rfl, (startsWithFold_upper_iff hx.2 hk.2 rfl).mpr rfl⟩

/-- On ASCII, upper case is core's, character by character. -/
theorem upperChars_of_ascii {s : List Char} (h : ∀ c ∈ s, c.toNat < 0x80) :
    upperChars s = s.map Char.toUpper := by
  induction s with
  | nil => rfl
  | cons c s ih =>
    simp only [List.mem_cons, forall_eq_or_imp] at h
    rw [show c :: s = [c] ++ s from rfl, upperChars_append, ih h.2]
    simp [upperChars, upperChar, h.1]

theorem Spelled.length_eq {k : String} {s : List Char} (h : Spelled k s) :
    s.length = k.length := by
  rw [← String.length_toList, ← h, List.length_map]

theorem foldsTo_upper_eq {x k : String} (hx : IsUpperWord x) (hk : IsUpperWord k) :
    FoldsTo x k.toList = decide (x = k) := by
  rw [Bool.eq_iff_iff, foldsTo_upper_iff hx hk, decide_eq_true_iff]

section spelled
variable {k : String} {s : List Char} (hk : IsUpperWord k) (h : Spelled k s)
include hk h

theorem Spelled.foldsTo (x : String) : FoldsTo x s = FoldsTo x k.toList := by
  have e : s.map Char.toUpper = k.toList := h
  have hs : ∀ c ∈ s.map Char.toUpper, c.isUpper = true := e ▸ hk.2
  simp only [FoldsTo, startsWithFold_map_toUpper hs, e, h.length_eq, String.length_toList]

/-- A word of upper-case letters matches at the start of a spelling, with a word ending after
it, exactly when it begins the keyword spelled. -/
theorem Spelled.startsWithFold_eq {x : String} (hx : IsUpperWord x) {rest : List Char}
    (hr : stopsWord rest = true) :
    startsWithFold x.toList (s ++ rest) = decide (x.toList <+: k.toList) := by
  have e : s.map Char.toUpper = k.toList := h
  have hs : ∀ c ∈ s.map Char.toUpper, c.isUpper = true := e ▸ hk.2
  by_cases hle : x.toList.length ≤ s.length
  · rw [startsWithFold_append_of_le rest hle, startsWithFold_map_toUpper hs, e]
    exact Bool.eq_iff_iff.mpr ((startsWithFold_upper_prefix_iff hx.2 hk.2).trans
      decide_eq_true_iff.symm)
  · have hpre : ¬ x.toList <+: k.toList := fun hp => hle (by
      have := hp.length_le
      rw [String.length_toList] at this
      rw [h.length_eq, String.length_toList]
      exact this)
    rw [startsWithFold_append_of_lt hx.isAlpha hr (by omega), decide_eq_false hpre]

theorem Spelled.isAlpha : ∀ c ∈ s, c.isAlpha = true := by
  intro c hc
  have : c.toUpper ∈ k.toList := h ▸ List.mem_map_of_mem hc
  rw [← Char.isUpper_toUpper_eq_isAlpha]
  exact hk.2 _ this

/-- A spelling of a keyword starts with the keyword under the rules' comparison of letters. -/
theorem Spelled.startsWithFold_append (rest : List Char) :
    startsWithFold k.toList (s ++ rest) = true := by
  have hf := h.foldsTo hk k
  rw [foldsTo_upper_eq hk hk] at hf
  simp only [decide_true, FoldsTo, Bool.and_eq_true, beq_iff_eq] at hf
  rw [startsWithFold_append_of_le rest (by rw [hf.1, String.length_toList])]
  exact hf.2

theorem Spelled.isWord : IsWord s := by
  refine ⟨?_, fun c hc => isWordChar_of_isAlpha (h.isAlpha hk c hc)⟩
  rintro rfl
  exact hk.1 (String.toList_inj.mp (by simpa using h.symm))

theorem Spelled.upperChars_eq : upperChars s = k.toList := by
  rw [upperChars_of_ascii fun c hc => toNat_lt_of_isAlpha (h.isAlpha hk c hc), h]

/-- A spelling of a keyword is classed as the keyword. -/
theorem Spelled.classifyWord : classifyWord (String.ofList s) = classifyUpper k := by
  simp only [Sql.classifyWord, upper, String.toList_ofList, h.upperChars_eq hk,
    String.ofList_toList]

end spelled

-- ============================================================ phrases as written

/-- A keyword phrase as written: its words spelled in any letter case, with one or more blanks
between each two. -/
inductive Written : List String → List Char → Prop
  | single {k : String} {s : List Char} : Spelled k s → Written [k] s
  | cons {k : String} {ks : List String} {s g more : List Char} : Spelled k s → g ≠ [] →
      (∀ c ∈ g, isBlank c = true) → Written ks more → Written (k :: ks) (s ++ g ++ more)

theorem Written.ne_nil {ks : List String} {cs : List Char} (h : Written ks cs) : ks ≠ [] := by
  cases h <;> simp

/-- A written phrase starts with a letter. -/
theorem Written.exists_cons {ks : List String} {cs : List Char} (h : Written ks cs)
    (hks : ∀ k ∈ ks, IsUpperWord k) : ∃ c t, cs = c :: t ∧ c.isAlpha = true := by
  cases h with
  | @single k s hs =>
    have hk := hks k List.mem_cons_self
    obtain ⟨c, t, rfl⟩ := List.exists_cons_of_ne_nil (hs.isWord hk).1
    exact ⟨c, t, rfl, hs.isAlpha hk c List.mem_cons_self⟩
  | @cons k ks s g more hs _ _ _ =>
    have hk := hks k List.mem_cons_self
    obtain ⟨c, t, rfl⟩ := List.exists_cons_of_ne_nil (hs.isWord hk).1
    exact ⟨c, t ++ g ++ more, rfl, hs.isAlpha hk c List.mem_cons_self⟩

theorem isBlank_of_isAlpha {c : Char} (h : c.isAlpha = true) : isBlank c = false :=
  not_isBlank_of_isWordChar (isWordChar_of_isAlpha h)

/-- A word ends where a blank follows it. -/
theorem stopsWord_of_isBlank {c : Char} (t : List Char) (h : isBlank c = true) :
    stopsWord (c :: t) = true := by
  have hw : isWordChar c = false := by
    cases hc : isWordChar c with
    | false => rfl
    | true => rw [not_isBlank_of_isWordChar hc] at h; cases h
  have hd : c ≠ '$' ∧ c ≠ '#' ∧ c ≠ '\'' := by
    refine ⟨?_, ?_, ?_⟩ <;> rintro rfl <;> revert h <;> decide
  simp [stopsWord, hw, hd.1, hd.2.1, hd.2.2]

/-- Blanks before a letter: their count is the blank run. -/
theorem spanLength_blank_alpha {g t : List Char} (hg : ∀ c ∈ g, isBlank c = true) {c : Char}
    (hc : c.isAlpha = true) : spanLength isBlank (g ++ c :: t) = g.length := by
  rw [spanLength_append_of_forall _ hg]
  simp [spanLength, isBlank_of_isAlpha hc]

/-- A phrase of the rules whose first word is not the keyword spelled does not read there. -/
theorem phraseLength_first_ne {x k : String} (hx : IsUpperWord x) (hk : IsUpperWord k)
    {s rest : List Char} (hs : Spelled k s) (hr : stopsWord rest = true) (e : x ≠ k)
    (ws : List String) : phraseLength (x :: ws) (s ++ rest) = none := by
  have hf : FoldsTo x s = false := by
    rw [hs.foldsTo hk, foldsTo_upper_eq hx hk, decide_eq_false e]
  cases ws with
  | nil => simp [phraseLength_single_word hx.isAlpha (hs.isWord hk) hr, hf]
  | cons v more => simp [phraseLength_cons_word hx.isAlpha (hs.isWord hk) hr, hf]

/-- A phrase of the rules reads over a written phrase exactly when it is that phrase, where
neither of the two begins the other. -/
theorem phraseLength_written {ks : List String} {cs : List Char} (h : Written ks cs)
    (hks : ∀ k ∈ ks, IsUpperWord k) {ws : List String} (hws : ∀ w ∈ ws, IsUpperWord w)
    (hrel : ws = ks ∨ ¬ (ws <+: ks ∨ ks <+: ws)) {rest : List Char}
    (hr : stopsWord rest = true) :
    phraseLength ws (cs ++ rest) = if ws = ks then some cs.length else none := by
  induction h generalizing ws with
  | @single k s hs =>
    have hk := hks k List.mem_cons_self
    rcases ws with _ | ⟨x, ws⟩
    · simp [phraseLength]
    have hx := hws x List.mem_cons_self
    by_cases e : x = k
    · subst e
      rcases ws with _ | ⟨v, more⟩
      · rw [phraseLength_single_word hx.isAlpha (hs.isWord hk) hr, hs.foldsTo hk,
          foldsTo_upper_eq hx hk]
        simp [hs.length_eq]
      · -- the one word written is a proper start of a longer phrase
        simp at hrel
    · rw [phraseLength_first_ne hx hk hs hr e]
      simp [e]
  | @cons k ks s g more hs hg hgb hw ih =>
    have hk := hks k List.mem_cons_self
    have hks' : ∀ k ∈ ks, IsUpperWord k := fun k' h' => hks k' (List.mem_cons_of_mem k h')
    obtain ⟨b, bs, rfl⟩ := List.exists_cons_of_ne_nil hg
    have hr' : stopsWord (b :: bs ++ more ++ rest) = true :=
      stopsWord_of_isBlank _ (hgb b List.mem_cons_self)
    have hcs : s ++ b :: bs ++ more ++ rest = s ++ (b :: bs ++ more ++ rest) := by simp
    rcases ws with _ | ⟨x, ws⟩
    · simp [phraseLength]
    have hx := hws x List.mem_cons_self
    by_cases e : x = k
    · subst e
      rcases ws with _ | ⟨v, more'⟩
      · -- one word alone is a proper start of the phrase written
        have := hw.ne_nil
        simp_all
      -- the first words agree: the blanks are passed and the rest of the phrase compared
      rw [hcs, phraseLength_cons_word hx.isAlpha (hs.isWord hk) hr', hs.foldsTo hk,
        foldsTo_upper_eq hx hk]
      obtain ⟨c, t, hct, hc⟩ := hw.exists_cons hks'
      have hb : spanLength isBlank (b :: bs ++ more ++ rest) = (b :: bs).length := by
        have : b :: bs ++ more ++ rest = (b :: bs) ++ c :: (t ++ rest) := by
          rw [hct]
          simp
        rw [this]
        exact spanLength_blank_alpha hgb hc
      have hdrop : (b :: bs ++ more ++ rest).drop (b :: bs).length = more ++ rest := by
        simp
      have hws' : ∀ w ∈ v :: more', IsUpperWord w := fun w' h' =>
        hws w' (List.mem_cons_of_mem _ h')
      have hrel' : v :: more' = ks ∨ ¬ (v :: more' <+: ks ∨ ks <+: v :: more') := by
        simpa using hrel
      simp only [decide_true, if_true, hb, hdrop, ih hks' hws' hrel']
      by_cases e2 : v :: more' = ks
      · simp only [e2, if_true, Option.map_some, List.length_append, hs.length_eq,
          List.length_cons, Nat.add_one_ne_zero, if_false]
      · simp [e2]
    · rw [hcs, phraseLength_first_ne hx hk hs hr' e]
      simp [e]

/-- Over a written phrase, the first phrase of the rules that reads is the phrase written, if
the rules list it, where each phrase listed either is it or neither begins the other. -/
theorem firstPhrase_written {ks : List String} {cs : List Char} (h : Written ks cs)
    (hks : ∀ k ∈ ks, IsUpperWord k) {phrases : List (List String)}
    (hup : ∀ ph ∈ phrases, ∀ w ∈ ph, IsUpperWord w)
    (hrel : ∀ ph ∈ phrases, ph = ks ∨ ¬ (ph <+: ks ∨ ks <+: ph)) {rest : List Char}
    (hr : stopsWord rest = true) :
    firstPhrase phrases (cs ++ rest) = if ks ∈ phrases then some cs.length else none := by
  induction phrases with
  | nil => simp [firstPhrase]
  | cons ph phs ih =>
    simp only [List.mem_cons, forall_eq_or_imp] at hup hrel
    simp only [firstPhrase, List.findSome?_cons] at ih ⊢
    rw [phraseLength_written h hks hup.1 hrel.1 hr, ih hup.2 hrel.2]
    by_cases e : ph = ks
    · subst e
      simp
    · have e' : ks ≠ ph := fun h' => e h'.symm
      simp [e, e']

/-- The rules that read a token at a word, once the name rules have passed it over. -/
def phraseRules : List Rule :=
  [bracketKeywordRule, joinRule, phraseRule, batchRule, lateralRule, timeZoneRule, patternRule,
    wordRule]

theorem isDecimalDigit_of_isAlpha {c : Char} (h : c.isAlpha = true) : isDecimalDigit c = false := by
  rw [isDecimalDigit_of_lt (toNat_lt_of_isAlpha h)]
  simp only [Char.isAlpha, Char.isUpper, Char.isLower, Bool.or_eq_true, Bool.and_eq_true,
    decide_eq_true_eq, ge_iff_le, UInt32.le_iff_toNat_le] at h
  simp only [Char.isDigit, Bool.and_eq_false_iff, decide_eq_false_iff_not,
    UInt32.le_iff_toNat_le]
  have : c.toNat = c.val.toNat := rfl
  have : 'A'.val.toNat = 65 := rfl
  have : 'Z'.val.toNat = 90 := rfl
  have : 'a'.val.toNat = 97 := rfl
  have : 'z'.val.toNat = 122 := rfl
  have : '0'.val.toNat = 48 := rfl
  have : '9'.val.toNat = 57 := rfl
  omega

/-- Where the name rules pass a word over, the phrase rules decide. -/
theorem findSome_wordRules {prev : Option Char} {cs : List Char}
    (hq : qualifierRule prev cs = none) (hm : memberRule prev cs = none)
    (hc : callRule prev cs = none) :
    wordRules.findSome? (· prev cs) = phraseRules.findSome? (· prev cs) := by
  simp only [wordRules, phraseRules, List.findSome?_cons, hq, hm, hc]

/-- A written phrase is not read as a name when no full stop comes before it, and, for a phrase
of one word, when neither an opening bracket nor a full stop after blanks comes after it; the
phrase rules then read it. -/
theorem readToken_written {ks : List String} {cs : List Char} (h : Written ks cs)
    (hks : ∀ k ∈ ks, IsUpperWord k) {prev : Option Char} (hprev : prev ≠ some '.')
    {rest : List Char} (hr : stopsWord rest = true)
    (hnext : ks.length = 1 → (rest.dropWhile isBlank).head? ≠ some '.' ∧ rest.head? ≠ some '(') :
    readToken prev (cs ++ rest) =
      ((phraseRules.findSome? (· prev (cs ++ rest))).getD (.error, 1)) := by
  obtain ⟨c, t, hct, hc⟩ := h.exists_cons hks
  have hwc : isWordChar c = true := isWordChar_of_isAlpha hc
  have hdigit : isDecimalDigit c = false := isDecimalDigit_of_isAlpha hc
  rw [hct, List.cons_append,
    readToken_of_wordStart hwc (not_mem_openers hwc) (not_isBlank_of_isWordChar hwc) hdigit,
    ← List.cons_append, ← hct]
  -- the first word of the phrase, and what follows it
  have hprev' : (prev == some '.') = false := by simpa using hprev
  cases h with
  | @single k s hs =>
    have hk := hks k List.mem_cons_self
    have hw := hs.isWord hk
    obtain ⟨hdot, hopen⟩ := hnext rfl
    rw [findSome_wordRules (by simp [qualifierRule_word hw hr, hdot])
      (by simp [memberRule_word hw hr, hprev']) (by simp [callRule_word hw hr, hopen])]
  | @cons k ks s g more hs hg hgb hw =>
    have hk := hks k List.mem_cons_self
    have hsw := hs.isWord hk
    obtain ⟨b, bs, rfl⟩ := List.exists_cons_of_ne_nil hg
    obtain ⟨d, u, rfl, hd⟩ := hw.exists_cons fun k' h' => hks k' (List.mem_cons_of_mem k h')
    have hbb : isBlank b = true := hgb b List.mem_cons_self
    have hr' : stopsWord (b :: bs ++ d :: u ++ rest) = true := stopsWord_of_isBlank _ hbb
    have hskip : (b :: bs ++ d :: u ++ rest).dropWhile isBlank = d :: (u ++ rest) := by
      have e : b :: bs ++ d :: u ++ rest = (b :: bs) ++ d :: (u ++ rest) := by simp
      rw [← drop_spanLength_eq_dropWhile, e, spanLength_blank_alpha hgb hd]
      simp
    have hdot : d ≠ '.' := by rintro rfl; revert hd; decide
    have hopen : b ≠ '(' := by rintro rfl; revert hbb; decide
    have hsplit : s ++ b :: bs ++ d :: u ++ rest = s ++ (b :: bs ++ d :: u ++ rest) := by simp
    rw [hsplit, findSome_wordRules
      (by rw [qualifierRule_word hsw hr', hskip]; simp [hdot])
      (by rw [memberRule_word hsw hr']; simp [hprev'])
      (by rw [callRule_word hsw hr']; simp [hopen])]

-- ============================================================ keywords read

/-- The keywords the bracket rule reads. -/
def bracketPhrases : List (List String) :=
  [["CASE"], ["IN"], ["VALUES"], ["USING"], ["FROM"], ["AS"]]

/-- The join phrases, in the order the join rule tries them. -/
def joinPhrases : List (List String) :=
  [["LEFT", "INNER", "JOIN"], ["LEFT", "OUTER", "JOIN"], ["LEFT", "STRAIGHT", "JOIN"],
    ["LEFT", "JOIN"], ["RIGHT", "INNER", "JOIN"], ["RIGHT", "OUTER", "JOIN"],
    ["RIGHT", "STRAIGHT", "JOIN"], ["RIGHT", "JOIN"], ["FULL", "INNER", "JOIN"],
    ["FULL", "OUTER", "JOIN"], ["FULL", "STRAIGHT", "JOIN"], ["FULL", "JOIN"],
    ["INNER", "JOIN"], ["OUTER", "JOIN"], ["STRAIGHT", "JOIN"], ["JOIN"], ["CROSS", "JOIN"],
    ["NATURAL", "JOIN"]]

/-- The groups of the phrase rule, each with the class it gives. -/
def phraseGroups : List (TokenKind × List (List String)) :=
  [(.keyword, [["END", "IF"], ["END", "LOOP"], ["END", "WHILE"], ["END"]]),
    (.keyword, [["NOT", "NULL"]]),
    (.keyword, [["NULLS", "FIRST"], ["NULLS", "LAST"]]),
    (.keyword, [["UNION", "ALL"]]),
    (.definition, [["CREATE", "OR", "REPLACE"], ["CREATE"]]),
    (.builtin, [["DOUBLE", "PRECISION"]]),
    (.keyword, [["GROUP", "BY"]]),
    (.keyword, [["ORDER", "BY"]]),
    (.keyword, [["PRIMARY", "KEY"]]),
    (.keyword, [["HANDLER", "FOR"]])]

theorem bracketKeywordRule_eq (prev : Option Char) (cs : List Char) :
    bracketKeywordRule prev cs = (firstPhrase bracketPhrases cs).map (.keyword, ·) := rfl

theorem joinRule_eq (prev : Option Char) (cs : List Char) :
    joinRule prev cs = (firstPhrase joinPhrases cs).map (.keyword, ·) := rfl

theorem phraseRule_eq (prev : Option Char) (cs : List Char) :
    phraseRule prev cs =
      phraseGroups.findSome? fun (k, phrases) => (firstPhrase phrases cs).map (k, ·) := rfl


theorem bracketPhrases_upper : ∀ ph ∈ bracketPhrases, ∀ w ∈ ph, IsUpperWord w := by
  simp [bracketPhrases, IsUpperWord]

theorem joinPhrases_upper : ∀ ph ∈ joinPhrases, ∀ w ∈ ph, IsUpperWord w := by
  simp [joinPhrases, IsUpperWord]

theorem phraseGroups_upper : ∀ g ∈ phraseGroups, ∀ ph ∈ g.2, ∀ w ∈ ph, IsUpperWord w := by
  simp [phraseGroups, IsUpperWord]

/-- Over a written phrase, the phrase rule's groups give the class of the first group that
lists the phrase. -/
theorem findSome_groups_written {ks : List String} {cs : List Char} (h : Written ks cs)
    (hks : ∀ k ∈ ks, IsUpperWord k) {rest : List Char} (hr : stopsWord rest = true)
    (groups : List (TokenKind × List (List String)))
    (hup : ∀ g ∈ groups, ∀ ph ∈ g.2, ∀ w ∈ ph, IsUpperWord w)
    (hrel : ∀ g ∈ groups, ∀ ph ∈ g.2, ph = ks ∨ ¬ (ph <+: ks ∨ ks <+: ph)) :
    groups.findSome? (fun (k, phrases) => (firstPhrase phrases (cs ++ rest)).map (k, ·)) =
      (groups.findSome? fun g => if ks ∈ g.2 then some g.1 else none).map (·, cs.length) := by
  induction groups with
  | nil => rfl
  | cons g gs ih =>
    obtain ⟨k, phrases⟩ := g
    simp only [List.mem_cons, forall_eq_or_imp] at hup hrel
    simp only [List.findSome?_cons, firstPhrase_written h hks hup.1 hrel.1 hr, ih hup.2 hrel.2]
    by_cases e : ks ∈ phrases <;> simp [e]

section written
variable {ks : List String} {cs : List Char} (h : Written ks cs)
  (hks : ∀ k ∈ ks, IsUpperWord k) {prev : Option Char} (hprev : prev ≠ some '.')
  {rest : List Char} (hr : stopsWord rest = true)
  (hnext : ks.length = 1 → (rest.dropWhile isBlank).head? ≠ some '.' ∧ rest.head? ≠ some '(')
include h hks hprev hr hnext

/-- A keyword of the bracket rule, as written, is read as a keyword. -/
theorem readToken_bracketKeyword (hin : ks ∈ bracketPhrases)
    (hrel : ∀ ph ∈ bracketPhrases, ph = ks ∨ ¬ (ph <+: ks ∨ ks <+: ph)) :
    readToken prev (cs ++ rest) = (.keyword, cs.length) := by
  rw [readToken_written h hks hprev hr hnext]
  simp only [phraseRules, List.findSome?_cons, bracketKeywordRule_eq,
    firstPhrase_written h hks bracketPhrases_upper hrel hr, if_pos hin]
  rfl

/-- A join phrase, as written, is read as one keyword. -/
theorem readToken_joinKeyword
    (hout : ∀ ph ∈ bracketPhrases, ¬ (ph <+: ks ∨ ks <+: ph)) (hin : ks ∈ joinPhrases)
    (hrel : ∀ ph ∈ joinPhrases, ph = ks ∨ ¬ (ph <+: ks ∨ ks <+: ph)) :
    readToken prev (cs ++ rest) = (.keyword, cs.length) := by
  have hnot : ks ∉ bracketPhrases := fun hm => hout ks hm (Or.inl (List.prefix_refl ks))
  rw [readToken_written h hks hprev hr hnext]
  simp only [phraseRules, List.findSome?_cons, bracketKeywordRule_eq, joinRule_eq,
    firstPhrase_written h hks bracketPhrases_upper (fun ph hph => Or.inr (hout ph hph)) hr,
    if_neg hnot, firstPhrase_written h hks joinPhrases_upper hrel hr, if_pos hin]
  rfl

/-- A keyword phrase of the phrase rule, as written, is read as one token of its group's
class. -/
theorem readToken_phraseKeyword {k : TokenKind}
    (hout : ∀ ph ∈ bracketPhrases ++ joinPhrases, ¬ (ph <+: ks ∨ ks <+: ph))
    (hrel : ∀ g ∈ phraseGroups, ∀ ph ∈ g.2, ph = ks ∨ ¬ (ph <+: ks ∨ ks <+: ph))
    (hfind : phraseGroups.findSome? (fun g => if ks ∈ g.2 then some g.1 else none) = some k) :
    readToken prev (cs ++ rest) = (k, cs.length) := by
  have hout1 : ∀ ph ∈ bracketPhrases, ¬ (ph <+: ks ∨ ks <+: ph) := fun ph hph =>
    hout ph (List.mem_append_left _ hph)
  have hout2 : ∀ ph ∈ joinPhrases, ¬ (ph <+: ks ∨ ks <+: ph) := fun ph hph =>
    hout ph (List.mem_append_right _ hph)
  have hnot1 : ks ∉ bracketPhrases := fun hm => hout1 ks hm (Or.inl (List.prefix_refl ks))
  have hnot2 : ks ∉ joinPhrases := fun hm => hout2 ks hm (Or.inl (List.prefix_refl ks))
  rw [readToken_written h hks hprev hr hnext]
  simp only [phraseRules, List.findSome?_cons, bracketKeywordRule_eq, joinRule_eq, phraseRule_eq,
    firstPhrase_written h hks bracketPhrases_upper (fun ph hph => Or.inr (hout1 ph hph)) hr,
    if_neg hnot1, firstPhrase_written h hks joinPhrases_upper (fun ph hph => Or.inr (hout2 ph hph))
      hr, if_neg hnot2, findSome_groups_written h hks hr phraseGroups phraseGroups_upper hrel,
    hfind]
  rfl

end written

/-- A keyword of one word that starts no phrase, as written, is read by its class in the word
tables, where no full stop comes before it and neither an opening bracket nor a full stop after
blanks comes after it. -/
theorem readToken_plainKeyword {k : String} {s : List Char} (hs : Spelled k s)
    (hk : IsUpperWord k) (hsp : ∀ x ∈ specialWords, FoldsTo x k.toList = false)
    {prev : Option Char} (hprev : prev ≠ some '.') {rest : List Char} (hr : stopsWord rest = true)
    (hnext : (rest.dropWhile isBlank).head? ≠ some '.') (hopen : rest.head? ≠ some '(') :
    readToken prev (s ++ rest) = (classifyUpper k, s.length) := by
  have hw := hs.isWord hk
  obtain ⟨c, t, hct⟩ := List.exists_cons_of_ne_nil hw.1
  have hc : c.isAlpha = true := hs.isAlpha hk c (hct ▸ List.mem_cons_self)
  have hhead : s.head hw.1 = c := by simp [hct]
  have hctx : nameContext prev rest = false := by
    simp [nameContext, hprev, hnext, hopen]
  rw [readToken_plain hw (by rw [hhead]; exact isDecimalDigit_of_isAlpha hc) hr
    (fun x hx => by rw [hs.foldsTo hk]; exact hsp x hx), hctx, Bool.and_false,
    hs.classifyWord hk]
  rfl

end QueryDiagram.Sql
