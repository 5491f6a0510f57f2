import QueryDiagram.Proofs.Query.Reading
import QueryDiagram.Proofs.Query.Output

/-!
How a select list is read, item by item.

As the tokens spell it, a select list is a run of items with a comma between each two and blank
tokens around each comma and full stop (`SelectList`). An item is the wildcard `*`, a column, a
table, a full stop and a column, or a call: a name, an opening bracket, tokens whose brackets
pair up (`Balanced`) and the closing bracket. Any item may carry an alias: blanks, `AS` and
blanks if written, and a name (`Alias`, as after a joined table).

The reader takes the list one item at a time (`selectItems_aliased`). The call skip counts
through the call's brackets whatever they hold (`callCount_balanced`), and passes an alias only
when it is written with `AS` (`callWithAliasCount_as`). Over a whole list up to `FROM` the reader
gives what each item gives, in order (`selectItems_selectList`, `columnsIn_selectList`): the
wildcard once, each qualified column under its table, each bare column under `_unknown`, and
nothing for a call. An alias is not passed over with its item: it is one more bare column,
unless it follows a call and is written with `AS` (`parse_reads_aliases_as_columns`).
-/

namespace QueryDiagram.Query

open Sql Text

-- ============================================================ the grammar

/-- Tokens whose brackets pair up. -/
inductive Balanced : List Token → Prop
  | nil : Balanced []
  | other {t : Token} {ts : List Token} (hopen : t.text ≠ "(") (hclose : t.text ≠ ")")
      (h : Balanced ts) : Balanced (t :: ts)
  | nest {o c : Token} {inner ts : List Token} (ho : o.text = "(") (hc : c.text = ")")
      (hinner : Balanced inner) (h : Balanced ts) : Balanced (o :: inner ++ c :: ts)

/-- An item of a select list. -/
inductive SelectItem
  /-- The wildcard `*`. -/
  | star
  /-- A column of no named table. -/
  | column (c : List Char) (ident : Ident c)
  /-- A table, a full stop and a column, with blanks around the full stop. -/
  | qualified (t : List Char) (before after : Blanks) (c : List Char) (identTable : Ident t)
      (identColumn : Ident c)
  /-- A call: a name, blanks, and the arguments between brackets. -/
  | call (f : List Char) (gap : Blanks) (args : List Token) (ident : Ident f)
      (balanced : Balanced args)

/-- An item of a select list with its alias, if it has one. -/
structure AliasedItem where
  item : SelectItem
  renamed : Option Alias

/-- A select list: blanks, the items with a comma between each two, blanks. -/
structure SelectList where
  lead : Blanks
  first : AliasedItem
  more : List (Separator × AliasedItem)
  trail : Blanks

def SelectItem.tokens : SelectItem → List Token
  | .star => [⟨.wildcard, "*"⟩]
  | .column c _ => [nameToken c]
  | .qualified t b a c _ _ =>
    nameToken t :: (blankTokens b.chars ++ ⟨.punctuation, "."⟩ :: (blankTokens a.chars ++ [nameToken c]))
  | .call f g args _ _ =>
    nameToken f :: (blankTokens g.chars ++ ⟨.punctuation, "("⟩ :: (args ++ [⟨.punctuation, ")"⟩]))

def AliasedItem.tokens (i : AliasedItem) : List Token :=
  i.item.tokens ++ (i.renamed.map Alias.tokens).getD []

/-- The items of a select list, in order. -/
def SelectList.items (l : SelectList) : List AliasedItem := l.first :: l.more.map (·.2)

def SelectList.tokens (l : SelectList) : List Token :=
  blankTokens l.lead.chars ++ l.first.tokens ++
    l.more.flatMap (fun si => si.1.tokens ++ si.2.tokens) ++ blankTokens l.trail.chars

-- ============================================================ what each item gives

/-- Whether an item is a call. -/
def SelectItem.isCall : SelectItem → Bool
  | .call .. => true
  | _ => false

/-- What an item adds to the selected columns: the wildcard once, a column under its table or
under `_unknown`, and nothing for a call. -/
def SelectItem.read : SelectItem → List (String × List String) → List (String × List String)
  | .star, acc => if (keysOf acc).contains "*" then acc else acc ++ [("*", ["*"])]
  | .column c _, acc => pushUnder "_unknown" (String.ofList c) acc
  | .qualified t _ _ c _ _, acc => pushUnder (String.ofList t) (String.ofList c) acc
  | .call .., acc => acc

/-- What an item and its alias add: the alias is one more column under `_unknown`, unless it
follows a call and is written with `AS`. -/
def AliasedItem.read (i : AliasedItem) (acc : List (String × List String)) :
    List (String × List String) :=
  match i.renamed with
  | some a =>
    if i.item.isCall && a.as.isSome then i.item.read acc
    else pushUnder "_unknown" (String.ofList a.name) (i.item.read acc)
  | none => i.item.read acc

/-- What a select list adds, item after item. -/
def SelectList.read (l : SelectList) (acc : List (String × List String)) :
    List (String × List String) :=
  l.items.foldl (fun acc i => i.read acc) acc

-- ============================================================ tokens the reader passes

/-- A comma or a blank token reads the same in upper case. -/
theorem upperText_of_isFiller {t : Token} (h : t.isFiller = true) : t.upperText = t.text := by
  simp only [Token.isFiller, Token.isBlankText, Bool.or_eq_true, List.isEmpty_iff, beq_iff_eq] at h
  rcases h with hb | hc
  · simp only [Token.upperText, upper, upperChars_blanks (trimChars_eq_nil_iff.1 hb),
      String.ofList_toList]
  · rw [Token.upperText, hc]
    decide

theorem isKeyword_from_of_isFiller {t : Token} (h : t.isFiller = true) :
    t.isKeyword "FROM" = false := by
  cases hk : t.isKeyword "FROM" with
  | false => rfl
  | true =>
    have htext : t.text = "FROM" := by
      simp only [Token.isKeyword, Bool.and_eq_true, beq_iff_eq] at hk
      rw [← upperText_of_isFiller h, hk.2]
    rw [Token.isFiller, Token.isBlankText, htext] at h
    exact absurd h (by decide)

theorem isFiller_of_mem_blankTokens {g : List Char} (hg : ∀ c ∈ g, isBlank c = true) :
    ∀ t ∈ blankTokens g, t.isFiller = true :=
  fun _ ht => (Token.Blank.of_mem hg ht).isFiller

/-- Blanks and commas change nothing. -/
theorem selectItems_fillers {A : List Token} (hA : ∀ t ∈ A, t.isFiller = true) (r : List Token)
    (acc : List (String × List String)) : selectItems (A ++ r) acc = selectItems r acc := by
  induction A with
  | nil => rfl
  | cons t A ih =>
    have ht := hA t List.mem_cons_self
    rw [List.cons_append, selectItems.eq_2, if_neg (by simp [isKeyword_from_of_isFiller ht]),
      if_pos ht]
    exact ih fun u hu => hA u (List.mem_cons_of_mem t hu)

theorem drop_fillerCount_append {A : List Token} (hA : ∀ t ∈ A, t.isFiller = true) {t : Token}
    (ht : t.isFiller = false) (r : List Token) :
    (A ++ t :: r).drop (fillerCount (A ++ t :: r)) = t :: r := by
  rw [fillerCount_append _ hA, fillerCount_cons _ ht, Nat.add_zero, List.drop_left]

theorem selectItems_drop_fillerCount (r : List Token) (acc : List (String × List String)) :
    selectItems (r.drop (fillerCount r)) acc = selectItems r acc := by
  induction r with
  | nil => rfl
  | cons t r ih =>
    cases ht : t.isFiller with
    | false => rw [fillerCount_cons _ ht, List.drop_zero]
    | true =>
      have hcount : fillerCount (t :: r) = fillerCount r + 1 := by simp [fillerCount, ht]
      rw [hcount, List.drop_succ_cons, ih, ← List.singleton_append,
        selectItems_fillers (by simpa using ht)]

/-- A token that is no `FROM`, no blank or comma, no wildcard and no name is passed over. -/
theorem selectItems_pass {t : Token} (hfrom : t.isKeyword "FROM" = false)
    (hfill : t.isFiller = false) (hstar : t.kind ≠ .wildcard ∧ t.text ≠ "*")
    (hname : t.isName = false) (r : List Token) (acc : List (String × List String)) :
    selectItems (t :: r) acc = selectItems r acc := by
  rw [selectItems.eq_2, if_neg (by simp [hfrom]), if_neg (by simp [hfill]),
    if_neg (by simp [hstar.1, hstar.2]), if_neg (by simp [hname])]

/-- The `AS` of an alias is passed over. -/
theorem selectItems_as (p : Phrase ["AS"]) (r : List Token) (acc : List (String × List String)) :
    selectItems (p.token .keyword :: r) acc = selectItems r acc := by
  have hk : IsUpperWord "AS" := by simp [IsUpperWord]
  refine selectItems_pass ?_ (p.isFiller_token hk _) ⟨by simp [Phrase.token], ?_⟩ rfl r acc
  · rw [p.isKeyword_token hk "FROM" (by simp [IsUpperWord])]
    decide
  · exact p.text_ne hk _ (by simp)

-- ============================================================ names

/-- The text of an identifier starts with a word character. -/
theorem Ident.text_ne {w : List Char} (hw : Ident w) {x : String}
    (hx : ∀ c ∈ x.toList.head?, isWordChar c = false) : (nameToken w).text ≠ x := by
  intro h
  have hwx : w = x.toList := by simpa [nameToken] using congrArg String.toList h
  obtain ⟨c, cs, rfl⟩ := List.exists_cons_of_ne_nil hw.word.1
  have hc := hx c (by simp [← hwx])
  rw [hw.word.2 c List.mem_cons_self] at hc
  cases hc

/-- After a name the reader looks past blanks and commas at the next token: an opening bracket
makes a call, a full stop a qualified column, anything else, or nothing, a bare column. -/
theorem selectItems_name {w : List Char} (hw : Ident w) (r : List Token)
    (acc : List (String × List String)) :
    selectItems (nameToken w :: r) acc =
      match r.drop (fillerCount r) with
      | u :: more =>
        if u.text == "(" then selectItems ((u :: more).drop (callWithAliasCount (u :: more))) acc
        else if u.text == "." then
          match more.drop (fillerCount more) with
          | v :: after =>
            selectItems after
              (if v.isName then pushUnder (String.ofList w) (trim v.text) acc else acc)
          | [] => acc
        else selectItems r (pushUnder "_unknown" (String.ofList w) acc)
      | [] => selectItems r (pushUnder "_unknown" (String.ofList w) acc) := by
  have hstar : (nameToken w).text ≠ "*" := Ident.text_ne hw (by simp; decide)
  have hname : (nameToken w).isName = true := rfl
  rw [selectItems.eq_2, if_neg (by simp [nameToken, Token.isKeyword]),
    if_neg (by simp [Ident.isFiller hw]), if_neg (by simpa [nameToken] using hstar), if_pos hname]
  dsimp only
  -- the reader names its tests on the next tokens; the statement does not
  split <;> rename_i h <;> simp only [h, nameToken, Ident.trim_ofList hw]
  congr 2
  split <;> rename_i h2 <;> simp only [h2]

/-- A name that neither a bracket nor a full stop follows, past blanks and commas, is a column of
no named table. -/
theorem selectItems_bare {w : List Char} (hw : Ident w) {r : List Token}
    (hr : ∀ u ∈ (r.drop (fillerCount r)).head?, u.text ≠ "(" ∧ u.text ≠ ".")
    (acc : List (String × List String)) :
    selectItems (nameToken w :: r) acc =
      selectItems r (pushUnder "_unknown" (String.ofList w) acc) := by
  rw [selectItems_name hw]
  split
  · rename_i u more h
    obtain ⟨hu1, hu2⟩ := hr u (by simp [h])
    simp [hu1, hu2]
  · rfl

/-- A table, a full stop and a column, blanks around the full stop, put the column under the
table. -/
theorem selectItems_qualified {t c : List Char} (ht : Ident t) (hc : Ident c) (b a : Blanks)
    (r : List Token) (acc : List (String × List String)) :
    selectItems (nameToken t :: (blankTokens b.chars ++ ⟨.punctuation, "."⟩ ::
      (blankTokens a.chars ++ nameToken c :: r))) acc =
      selectItems r (pushUnder (String.ofList t) (String.ofList c) acc) := by
  have hdot := drop_fillerCount_append (isFiller_of_mem_blankTokens b.blank)
    (t := ⟨.punctuation, "."⟩) (by decide) (blankTokens a.chars ++ nameToken c :: r)
  have hcol := drop_fillerCount_append (isFiller_of_mem_blankTokens a.blank) (Ident.isFiller hc) r
  have hopen : ((⟨.punctuation, "."⟩ : Token).text == "(") = false := by decide
  have hfull : ((⟨.punctuation, "."⟩ : Token).text == ".") = true := by decide
  rw [selectItems_name ht, hdot]
  dsimp only
  rw [if_neg (by simp only [hopen]; decide), if_pos hfull, hcol]
  simp [nameToken, Token.isName, Ident.trim_ofList hc]

/-- An alias is read as a column of no named table. -/
theorem selectItems_alias (a : Alias) {r : List Token}
    (hr : ∀ u ∈ (r.drop (fillerCount r)).head?, u.text ≠ "(" ∧ u.text ≠ ".")
    (acc : List (String × List String)) :
    selectItems (a.tokens ++ r) acc =
      selectItems r (pushUnder "_unknown" (String.ofList a.name) acc) := by
  obtain ⟨gap, as, name, ident, _⟩ := a
  simp only [Alias.tokens, List.append_assoc]
  rw [selectItems_fillers (isFiller_of_mem_blankTokens gap.blank)]
  cases as with
  | none => exact selectItems_bare ident hr acc
  | some pg =>
    obtain ⟨p, g⟩ := pg
    simp only [Option.map_some, Option.getD_some, List.cons_append]
    rw [selectItems_as, selectItems_fillers (isFiller_of_mem_blankTokens g.blank)]
    exact selectItems_bare ident hr acc

-- ============================================================ calls

/-- The count from a bracket already open runs through tokens whose brackets pair up. -/
theorem callCount_balanced {args : List Token} (h : Balanced args) {d : Int} (hd : 1 ≤ d)
    (rest : List Token) : callCount d (args ++ rest) = args.length + callCount d rest := by
  -- on the pairing of the brackets; inside a nested pair the depth is one more
  induction h generalizing d rest with
  | nil => simp
  | other hopen hclose _ ih =>
    simp only [List.cons_append, callCount, beq_iff_eq, hopen, hclose, if_false, ih hd,
      List.length_cons]
    omega
  | @nest o c inner ts ho hc _ _ ihInner ih =>
    have hd' : ¬ (d + 1 - 1 == 0) = true := by simp; omega
    have hopen : (o.text == "(") = true := by simp [ho]
    have hcopen : ¬ (c.text == "(") = true := by simp [hc]
    have hcclose : (c.text == ")") = true := by simp [hc]
    simp only [List.cons_append, List.append_assoc]
    rw [callCount, if_pos hopen, ihInner (show 1 ≤ d + 1 by omega), callCount, if_neg hcopen,
      if_pos hcclose, if_neg hd', add_sub_cancel_right, ih hd]
    simp only [List.length_cons, List.length_append]
    omega

/-- A call's count runs from its opening bracket through the one that closes it. -/
theorem callCount_call {args : List Token} (h : Balanced args) (rest : List Token) :
    callCount 0 (⟨.punctuation, "("⟩ :: args ++ ⟨.punctuation, ")"⟩ :: rest) = args.length + 2 := by
  have hopen : ((⟨.punctuation, "("⟩ : Token).text == "(") = true := by decide
  have hclose : ((⟨.punctuation, ")"⟩ : Token).text == "(") = false := by decide
  have hclose' : ((⟨.punctuation, ")"⟩ : Token).text == ")") = true := by decide
  rw [List.cons_append, callCount, if_pos hopen, zero_add, callCount_balanced h le_rfl, callCount,
    if_neg (by simp only [hclose]; decide), if_pos hclose', if_pos (by decide)]

theorem drop_length_succ {α : Type} (A : List α) (x : α) (rest : List α) :
    (A ++ x :: rest).drop (A.length + 1) = rest := by
  rw [← List.drop_drop, List.drop_left, List.drop_one, List.tail_cons]

theorem drop_call (args X : List Token) (k : Nat) :
    (⟨.punctuation, "("⟩ :: (args ++ ⟨.punctuation, ")"⟩ :: X)).drop (args.length + 2 + k) =
      X.drop k := by
  rw [show args.length + 2 + k = args.length + (k + 1) + 1 by omega, List.drop_succ_cons]
  simp [List.drop_append]

/-- With no `AS` after it, a call's skip ends at the first token after it that is neither blank
nor a comma. -/
theorem callWithAliasCount_plain {args : List Token} (hb : Balanced args) {X : List Token}
    (hX : ∀ u ∈ (X.drop (fillerCount X)).head?, u.upperText ≠ "AS") :
    callWithAliasCount (⟨.punctuation, "("⟩ :: (args ++ ⟨.punctuation, ")"⟩ :: X)) =
      args.length + 2 + fillerCount X := by
  have hc := callCount_call hb X
  rw [List.cons_append] at hc
  have hX' : (⟨.punctuation, "("⟩ :: (args ++ ⟨.punctuation, ")"⟩ :: X) : List Token).drop
      (args.length + 2) = X := by simp [List.drop_append]
  simp only [callWithAliasCount, hc, hX', drop_call]
  split
  · rename_i u more h
    have hu := hX u (by simp [h])
    simp [hu]
  · rfl

/-- After a call, an alias written with `AS` is passed over with the call. -/
theorem callWithAliasCount_as {args : List Token} (hb : Balanced args) (gap : Gap)
    (p : Phrase ["AS"]) (g : Gap) {a : List Char} (ha : Ident a) (r : List Token) :
    callWithAliasCount (⟨.punctuation, "("⟩ :: (args ++ ⟨.punctuation, ")"⟩ ::
      (blankTokens gap.chars ++ p.token .keyword :: (blankTokens g.chars ++ nameToken a :: r)))) =
      args.length + 2 + (blankTokens gap.chars).length + 1 + (blankTokens g.chars).length + 1 := by
  have hk : IsUpperWord "AS" := by simp [IsUpperWord]
  set X := blankTokens gap.chars ++ p.token .keyword :: (blankTokens g.chars ++ nameToken a :: r)
  have hc := callCount_call hb X
  rw [List.cons_append] at hc
  have hX' : (⟨.punctuation, "("⟩ :: (args ++ ⟨.punctuation, ")"⟩ :: X) : List Token).drop
      (args.length + 2) = X := by simp [List.drop_append]
  have hf : fillerCount X = (blankTokens gap.chars).length := by
    rw [fillerCount_append _ (isFiller_of_mem_blankTokens gap.blank),
      fillerCount_cons _ (p.isFiller_token hk _), Nat.add_zero]
  have hg : fillerCount (blankTokens g.chars ++ nameToken a :: r) = (blankTokens g.chars).length := by
    rw [fillerCount_append _ (isFiller_of_mem_blankTokens g.blank),
      fillerCount_cons _ (Ident.isFiller ha), Nat.add_zero]
  have hdrop : X.drop (blankTokens gap.chars).length =
      p.token .keyword :: (blankTokens g.chars ++ nameToken a :: r) := List.drop_left
  have hname : (blankTokens g.chars ++ nameToken a :: r).drop (blankTokens g.chars).length =
      nameToken a :: r := List.drop_left
  simp only [callWithAliasCount, hc, hX', drop_call, hdrop, p.upperText_single hk, hg, hname, hf]
  simp [nameToken, Token.isName]

/-- A name with an opening bracket after it, past blanks, is a call: the reader goes on where the
call's skip ends. -/
theorem selectItems_call {f : List Char} (hf : Ident f) (gap : Blanks) (more : List Token)
    (acc : List (String × List String)) :
    selectItems (nameToken f :: (blankTokens gap.chars ++ ⟨.punctuation, "("⟩ :: more)) acc =
      selectItems ((⟨.punctuation, "("⟩ :: more).drop
        (callWithAliasCount (⟨.punctuation, "("⟩ :: more))) acc := by
  have hopen := drop_fillerCount_append (isFiller_of_mem_blankTokens gap.blank)
    (t := ⟨.punctuation, "("⟩) (by decide) more
  rw [selectItems_name hf, hopen]
  dsimp only
  rw [if_pos (by decide)]

-- ============================================================ one item

/-- Tokens at which the reader goes on as at the start of an item: the first of them that is
neither blank nor a comma, if there is one, opens no call, is no full stop and is no `AS`. -/
def Resumes (r : List Token) : Prop :=
  ∀ u ∈ (r.drop (fillerCount r)).head?, u.text ≠ "(" ∧ u.text ≠ "." ∧ u.upperText ≠ "AS"

theorem resumes_of_head {A : List Token} (hA : ∀ t ∈ A, t.isFiller = true) {u : Token}
    (hu : u.isFiller = false) (hopen : u.text ≠ "(") (hdot : u.text ≠ ".")
    (has : u.upperText ≠ "AS") (r : List Token) : Resumes (A ++ u :: r) := by
  intro v hv
  rw [drop_fillerCount_append hA hu, List.head?_cons, Option.mem_some_iff] at hv
  subst hv
  exact ⟨hopen, hdot, has⟩

/-- Every item starts with a token that is neither blank nor a comma, opens no call, is no full
stop and is no `AS`. -/
theorem SelectItem.head (it : SelectItem) :
    ∃ u rest, it.tokens = u :: rest ∧ u.isFiller = false ∧ u.text ≠ "(" ∧ u.text ≠ "." ∧
      u.upperText ≠ "AS" := by
  have hname : ∀ {w : List Char}, Ident w → (nameToken w).isFiller = false ∧
      (nameToken w).text ≠ "(" ∧ (nameToken w).text ≠ "." ∧ (nameToken w).upperText ≠ "AS" :=
    fun hw => ⟨Ident.isFiller hw, Ident.text_ne hw (by simp; decide), Ident.text_ne_dot hw,
      Ident.upper_ne hw (by decide)⟩
  cases it with
  | star => exact ⟨_, [], rfl, by decide, by decide, by decide, by decide⟩
  | column c hc => exact ⟨_, [], rfl, hname hc⟩
  | qualified t _ _ _ ht _ => exact ⟨_, _, rfl, hname ht⟩
  | call f _ _ hf _ => exact ⟨_, _, rfl, hname hf⟩

/-- An alias starts, past blanks, with `AS` or its name: neither opens a call or is a full stop. -/
theorem Alias.next (a : Alias) (r : List Token) :
    ∀ u ∈ ((a.tokens ++ r).drop (fillerCount (a.tokens ++ r))).head?,
      u.text ≠ "(" ∧ u.text ≠ "." := by
  obtain ⟨gap, as, name, ident, _⟩ := a
  have hgap := isFiller_of_mem_blankTokens gap.blank
  cases as with
  | none =>
    simp only [Alias.tokens, Option.map_none, Option.getD_none, List.append_nil, List.append_assoc,
      List.singleton_append]
    rw [drop_fillerCount_append hgap (Ident.isFiller ident)]
    simpa using ⟨Ident.text_ne ident (by simp; decide), Ident.text_ne_dot ident⟩
  | some pg =>
    obtain ⟨p, g⟩ := pg
    have hk : IsUpperWord "AS" := by simp [IsUpperWord]
    simp only [Alias.tokens, Option.map_some, Option.getD_some, List.append_assoc, List.cons_append]
    rw [drop_fillerCount_append hgap (p.isFiller_token hk _)]
    simpa using ⟨p.text_ne hk _ (by simp), p.text_ne hk _ (by simp)⟩

/-- An item that is no call gives the wildcard, its column, or its table's column. -/
theorem selectItems_item (it : SelectItem) (hcall : it.isCall = false) {r : List Token}
    (hr : ∀ u ∈ (r.drop (fillerCount r)).head?, u.text ≠ "(" ∧ u.text ≠ ".")
    (acc : List (String × List String)) :
    selectItems (it.tokens ++ r) acc = selectItems r (it.read acc) := by
  cases it with
  | star =>
    rw [SelectItem.tokens, List.singleton_append, selectItems.eq_2, if_neg (by decide),
      if_neg (by decide), if_pos (by decide)]
    rfl
  | column c hc => exact selectItems_bare hc hr acc
  | qualified t b a c ht hc =>
    simp only [SelectItem.tokens, List.cons_append, List.append_assoc]
    exact selectItems_qualified ht hc b a r acc
  | call => cases hcall

/-- A call, with its alias if it has one, gives only an alias written without `AS`. -/
theorem selectItems_callItem {f : List Char} (hf : Ident f) (gap : Blanks) {args : List Token}
    (hb : Balanced args) (renamed : Option Alias) {r : List Token} (hr : Resumes r)
    (acc : List (String × List String)) :
    selectItems ((SelectItem.call f gap args hf hb).tokens ++ (renamed.map Alias.tokens).getD [] ++ r)
      acc = selectItems r (AliasedItem.read ⟨.call f gap args hf hb, renamed⟩ acc) := by
  have hlook : ∀ u ∈ (r.drop (fillerCount r)).head?, u.text ≠ "(" ∧ u.text ≠ "." :=
    fun u hu => ⟨(hr u hu).1, (hr u hu).2.1⟩
  simp only [SelectItem.tokens, List.cons_append, List.append_assoc]
  rw [selectItems_call hf gap]
  cases renamed with
  | none =>
    rw [callWithAliasCount_plain hb (fun u hu => (hr u (by simpa using hu)).2.2)]
    simpa [drop_call, AliasedItem.read, SelectItem.read] using selectItems_drop_fillerCount r acc
  | some a =>
    obtain ⟨gap', as, name, ident, _⟩ := a
    have hgap := isFiller_of_mem_blankTokens gap'.blank
    cases as with
    | none =>
      -- the alias is no `AS`: the skip ends at it, and it is read as a column
      simp only [Alias.tokens, Option.map_some, Option.map_none, Option.getD_some, Option.getD_none,
        List.append_nil, List.nil_append, List.append_assoc, List.singleton_append]
      have hX := drop_fillerCount_append hgap (Ident.isFiller ident) r
      have has : (nameToken name).upperText ≠ "AS" := Ident.upper_ne ident (by decide)
      rw [callWithAliasCount_plain hb (by rw [hX]; simpa using has),
        drop_call, hX, selectItems_bare ident hlook]
      rfl
    | some pg =>
      -- `AS` and the name after it are passed over with the call
      obtain ⟨p, g⟩ := pg
      simp only [Alias.tokens, Option.map_some, Option.getD_some, List.append_assoc,
        List.cons_append, List.nil_append]
      have hdrop : (blankTokens gap'.chars ++ p.token .keyword ::
          (blankTokens g.chars ++ nameToken name :: r)).drop
          ((blankTokens gap'.chars).length + 1 + ((blankTokens g.chars).length + 1)) = r := by
        rw [← List.drop_drop, drop_length_succ, drop_length_succ]
      rw [callWithAliasCount_as hb gap' p g ident r,
        show args.length + 2 + (blankTokens gap'.chars).length + 1 + (blankTokens g.chars).length + 1 =
          args.length + 2 + ((blankTokens gap'.chars).length + 1 + ((blankTokens g.chars).length + 1))
          by omega, drop_call, hdrop]
      rfl

/-- An item, with its alias if it has one, gives what `AliasedItem.read` says, when the reader
goes on after it as at a new item. -/
theorem selectItems_aliased (i : AliasedItem) {r : List Token} (hr : Resumes r)
    (acc : List (String × List String)) :
    selectItems (i.tokens ++ r) acc = selectItems r (i.read acc) := by
  obtain ⟨it, renamed⟩ := i
  have hlook : ∀ u ∈ (r.drop (fillerCount r)).head?, u.text ≠ "(" ∧ u.text ≠ "." :=
    fun u hu => ⟨(hr u hu).1, (hr u hu).2.1⟩
  cases hcall : it.isCall with
  | true =>
    cases it with
    | call f gap args hf hb => exact selectItems_callItem hf gap hb renamed hr acc
    | _ => cases hcall
  | false =>
    cases renamed with
    | none =>
      simpa [AliasedItem.tokens, AliasedItem.read] using selectItems_item it hcall hlook acc
    | some a =>
      rw [AliasedItem.tokens, Option.map_some, Option.getD_some, List.append_assoc,
        selectItems_item it hcall (a.next r), selectItems_alias a hlook]
      simp [AliasedItem.read, hcall]

-- ============================================================ the whole list

/-- The reader stops at `FROM`. -/
theorem selectItems_from {f : Token} (hf : f.isKeyword "FROM" = true) (rest : List Token)
    (acc : List (String × List String)) : selectItems (f :: rest) acc = acc := by
  rw [selectItems.eq_2, if_pos hf]

/-- After the last item, the reader meets `FROM` past blanks. -/
theorem resumes_from (trail : Blanks) {f : Token} (hf : f.isKeyword "FROM" = true)
    (rest : List Token) : Resumes (blankTokens trail.chars ++ f :: rest) := by
  have hkind : f.kind = .keyword ∧ f.upperText = "FROM" := by
    simpa [Token.isKeyword] using hf
  have hfill : f.isFiller = false := by
    cases h : f.isFiller with
    | false => rfl
    | true => rw [isKeyword_from_of_isFiller h] at hf; cases hf
  -- a bracket or a full stop is its own upper case, and neither reads `FROM`
  have htext : ∀ x : String, upper x = x → x ≠ "FROM" → f.text ≠ x := fun x hx hne h => by
    apply hne
    rw [← hx, ← h]
    exact hkind.2
  refine resumes_of_head (isFiller_of_mem_blankTokens trail.blank) hfill ?_ ?_ ?_ rest
  · exact htext "(" (by decide) (by decide)
  · exact htext "." (by decide) (by decide)
  · rw [hkind.2]
    decide

/-- After a comma, the reader meets the next item past blanks. -/
theorem resumes_separator (s : Separator) (i : AliasedItem) (rest : List Token) :
    Resumes (s.tokens ++ (i.tokens ++ rest)) := by
  obtain ⟨u, more, hu, hfill, hopen, hdot, has⟩ := i.item.head
  rw [AliasedItem.tokens, hu, List.cons_append, List.cons_append]
  exact resumes_of_head (fun t ht => (s.filler t ht).2) hfill hopen hdot has _

/-- The items of a list up to `FROM` give what each gives, in order. -/
theorem selectItems_items (i : AliasedItem) (more : List (Separator × AliasedItem))
    (trail : Blanks) {f : Token} (hf : f.isKeyword "FROM" = true) (rest : List Token)
    (acc : List (String × List String)) :
    selectItems (i.tokens ++ (more.flatMap (fun si => si.1.tokens ++ si.2.tokens) ++
      (blankTokens trail.chars ++ f :: rest))) acc =
      (i :: more.map (·.2)).foldl (fun acc i => i.read acc) acc := by
  -- one item at a time: each is read in full before the comma after it
  induction more generalizing i acc with
  | nil =>
    rw [List.flatMap_nil, List.nil_append, selectItems_aliased i (resumes_from trail hf rest),
      selectItems_fillers (isFiller_of_mem_blankTokens trail.blank), selectItems_from hf]
    rfl
  | cons sj more ih =>
    obtain ⟨s, j⟩ := sj
    rw [List.flatMap_cons, List.append_assoc, List.append_assoc,
      selectItems_aliased i (resumes_separator s j _),
      selectItems_fillers (fun t ht => (s.filler t ht).2), ih]
    rfl

/-- A select list up to `FROM` gives what its items give, in order. -/
theorem selectItems_selectList (l : SelectList) {f : Token} (hf : f.isKeyword "FROM" = true)
    (rest : List Token) (acc : List (String × List String)) :
    selectItems (l.tokens ++ f :: rest) acc = l.read acc := by
  simp only [SelectList.tokens, List.append_assoc]
  rw [selectItems_fillers (isFiller_of_mem_blankTokens l.lead.blank),
    selectItems_items l.first l.more l.trail hf rest acc]
  rfl

/-- A token that opens the select list: a keyword or statement word reading `SELECT`. -/
def opensSelect (t : Token) : Bool :=
  (t.kind == .keyword || t.kind == .statement) && t.upperText == "SELECT"

theorem afterSelect_cons (t : Token) (rest : List Token) :
    afterSelect (t :: rest) = if opensSelect t then rest else afterSelect rest := rfl

theorem afterSelect_append {pre : List Token} (hpre : ∀ t ∈ pre, opensSelect t = false)
    {s : Token} (hs : opensSelect s = true) (rest : List Token) :
    afterSelect (pre ++ s :: rest) = rest := by
  induction pre with
  | nil => rw [List.nil_append, afterSelect_cons, if_pos hs]
  | cons t pre ih =>
    rw [List.cons_append, afterSelect_cons, hpre t List.mem_cons_self, if_neg Bool.false_ne_true]
    exact ih fun u hu => hpre u (List.mem_cons_of_mem t hu)

/-- The selected columns of a statement whose select list has the items' shape, up to `FROM`:
the wildcard once, each qualified column under its table and each bare column under `_unknown`,
in the order of the items; a call gives nothing, and an alias is one more bare column unless it
follows a call and is written with `AS`. -/
theorem columnsIn_selectList {pre : List Token} (hpre : ∀ t ∈ pre, opensSelect t = false)
    {s : Token} (hs : opensSelect s = true) (l : SelectList) {f : Token}
    (hf : f.isKeyword "FROM" = true) (rest : List Token) :
    columnsIn (pre ++ s :: (l.tokens ++ f :: rest)) = l.read [] := by
  rw [columnsIn, afterSelect_append hpre hs, selectItems_selectList l hf]

/-- An alias after a column, written with `AS` or not, and an alias after a call written without
it, are read as columns of no named table. -/
theorem parse_reads_aliases_as_columns :
    ((parse "SELECT a AS b FROM t").map (·.columns)).toOption = some [("_unknown", ["a", "b"])] ∧
    ((parse "SELECT t.a AS b, COUNT(x) c FROM t").map (·.columns)).toOption =
      some [("t", ["a"]), ("_unknown", ["b", "c"])] := by
  refine ⟨?_, ?_⟩ <;> decide +kernel

end QueryDiagram.Query
